import BoundedText.Proofs.LeadingRun
import BoundedText.Proofs.Log.Session

namespace BoundedText

inductive Level.Named (number : Int32) : String → Prop where
  | reached {level : Level} (high : number ≤ level.number)
      (least : ∀ other : Level, number ≤ other.number → level.number ≤ other.number) : Named number level.name
  | beyond (high : ∀ level : Level, level.number < number) : Named number "UNDEFINED"

theorem Level.mem_all (level : Level) : level ∈ all := by
  cases level <;> decide

theorem Level.named_nameOf (number : Int32) : Named number (nameOf number) := by
  rw [nameOf, atLeast?]
  cases found : all.find? (number ≤ ·.number) with
  | some level =>
    obtain ⟨high, lower, higher, split, below⟩ := List.find?_eq_some_iff_append.mp found
    refine .reached (of_decide_eq_true high) fun other reached => ?_
    have ascending : all.Pairwise (·.number ≤ ·.number) := by decide
    have member := other.mem_all
    rw [split] at ascending member
    rcases List.mem_append.mp member with early | late
    · have unreached := below other early
      rw [decide_eq_true reached] at unreached
      cases unreached
    · rcases List.mem_cons.mp late with rfl | late
      · exact Int32.le_refl _
      · exact List.rel_of_pairwise_cons (List.pairwise_append.mp ascending).2.1 late
  | none =>
    refine .beyond fun level => ?_
    have unreached := List.find?_eq_none.mp found level level.mem_all
    exact Int32.not_le.mp fun reached => unreached (decide_eq_true reached)

theorem Location.exists_folder (location : Location) :
    ∃ folder, folder ++ location.fileName = location.path ∧ Ascii.slash ∉ location.fileName ∧
      ∀ byte ∈ folder.getLast?, byte = Ascii.slash := by
  obtain ⟨run, rest, split, plain, ending⟩ := LeadingRun.exists_split (· != Ascii.slash) location.path.reverse
  have name : location.fileName = run.reverse := by
    rw [fileName, ← split, (LeadingRun.split_append plain ending).1]
  refine ⟨rest.reverse, ?_, ?_, ?_⟩
  · rw [name, ← List.reverse_append, split, List.reverse_reverse]
  · rw [name, List.mem_reverse]
    intro member
    have other := plain _ member
    rw [bne_self_eq_false] at other
    cases other
  · intro byte last
    rw [List.getLast?_reverse] at last
    have stop := ending byte last
    rwa [bne_eq_false_iff_eq] at stop

example : (⟨Bytes.ofString "src/log/main.rs", 1, []⟩ : Location).fileName = Bytes.ofString "main.rs" := by
  decide +kernel

theorem Logger.toInt_clampToInt32 (value : UInt32) : (clampToInt32 value).toInt = min value.toNat 2147483647 := by
  rw [clampToInt32, Int32.toInt_ofNat_of_lt (by omega)]

theorem Line.ne_nil {template : Bytes} {entry : Entry} {line : Bytes} (written : Line template entry line) :
    line ≠ [] := by
  rintro rfl
  rcases written.ended with newline | long
  · cases newline
  · cases long

/-- What an entry holds of an event: the level and its name, the place in the program with the last part of its path,
    and a format with arguments. -/
structure Entry.Describes (entry : Entry) (level : Int32) (location : Location) (format : Bytes)
    (arguments : List Argument) : Prop where
  number : entry.levelNumber = level
  name : ∃ name, entry.levelName = Bytes.ofString name ∧ Level.Named level name
  path : entry.path = location.path
  file : ∃ folder, folder ++ entry.fileName = location.path ∧ Ascii.slash ∉ entry.fileName ∧
    ∀ byte ∈ folder.getLast?, byte = Ascii.slash
  function : entry.function = location.function
  line : entry.lineNumber.toInt = min location.line.toNat 2147483647
  format : entry.message = format
  arguments : entry.arguments = arguments

/-- Entries that record what a call says. A report has its parts up to their first NULs, as far as a line reaches, for
    the only argument. -/
inductive Call.Recorded : Call → Entry → Prop where
  | raise {occasion level location format arguments entry}
      (describes : entry.Describes level location format arguments) :
      Recorded (.raise occasion level location format arguments) entry
  | log {occasion report entry}
      (describes : entry.Describes report.severity.number
        ⟨report.file.getD (Bytes.ofString "<unknown>"), report.line.getD 0, report.modulePath.getD []⟩
        (Bytes.ofString "%s") [.text ((report.parts.flatMap Bytes.upToNul).take 1023)]) :
      Recorded (.log occasion report) entry

namespace Logger

variable (logger : Logger)

theorem describes_entry (occasion : Occasion) (level : Int32) (location : Location) (format : Bytes)
    (arguments : List Argument) :
    (logger.entry occasion level location format arguments).Describes level location format arguments where
  number := rfl
  name := ⟨_, rfl, Level.named_nameOf level⟩
  path := rfl
  file := location.exists_folder
  function := rfl
  line := toInt_clampToInt32 location.line
  format := rfl
  arguments := rfl

/-- Every line that a call adds to a sink is that of an entry which records the call. -/
theorem Effect.recorded {logger : Logger} {call : Call} {answer : Answer} {added : Bytes}
    (effect : logger.Effect call answer added) (line : added ≠ []) (event : call ≠ .flush) :
    ∃ entry, call.Recorded entry ∧ Line logger.options.template entry added := by
  cases effect with
  | raised reached written => exact ⟨_, .raise (logger.describes_entry ..), written⟩
  | logged reached written =>
    rw [messageOf_eq] at written
    exact ⟨_, .log (logger.describes_entry ..), written⟩
  | flushed => exact absurd rfl event
  | _ => exact absurd rfl line

theorem effect_recorded_report :
    let logger : Logger := ⟨LogOptions.standard, ⟨true, [], []⟩, 0⟩
    let file := Bytes.ofString "src/main.rs"
    let report : Report := ⟨.trace, [Bytes.ofString "disk ", [0x61, 0, 0x62]], some file, none, none⟩
    let occasion : Occasion := ⟨0, 0, 1, none, 1⟩
    ∃ entry line, (Call.log occasion report).Recorded entry ∧ Line logger.options.template entry line ∧
      entry.levelNumber = 5 ∧ entry.path = file ∧ entry.lineNumber.toInt = 0 ∧
      entry.message = Bytes.ofString "%s" ∧ entry.arguments = [.text (Bytes.ofString "disk a")] := by
  intro logger file report occasion
  have written := line_of_verdict (logger.verdict_plainEntry occasion 5 report.location (messageOf report))
  have effect : logger.Effect (.log occasion report) .logged _ := .logged (by decide) written
  obtain ⟨entry, recorded, line⟩ := effect.recorded written.ne_nil (by simp)
  cases recorded with
  | log describes =>
    have parts : (report.parts.flatMap Bytes.upToNul).take 1023 = Bytes.ofString "disk a" := by decide +kernel
    refine ⟨entry, _, .log describes, line, describes.number, describes.path, describes.line, describes.format, ?_⟩
    rw [describes.arguments, parts]

end Logger

end BoundedText
