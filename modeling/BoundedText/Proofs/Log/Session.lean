import BoundedText.Slice
import BoundedText.Proofs.Log.Logging

namespace BoundedText

namespace Template

theorem bytes_expandPieces {mode : RealMode} {entry : Entry} {pieces : List Piece}
    (success : (expandPieces mode entry pieces).verdict = .ok ()) :
    ∃ front, (expandPieces mode entry pieces).bytes = front ++ [Ascii.newline] := by
  induction pieces with
  | nil => exact ⟨[], rfl⟩
  | cons piece pieces ih =>
    rw [expandPieces] at success ⊢
    cases first : (piece.expand mode entry).verdict with
    | ok _ =>
      obtain ⟨written, verdict⟩ := Expansion.splits_andThen first (expandPieces mode entry pieces)
      obtain ⟨front, behind⟩ := ih (verdict.symm.trans success)
      exact ⟨_ ++ front, by rw [written, behind, List.append_assoc]⟩
    | error error =>
      rw [Expansion.andThen_of_error first, first] at success
      cases success

end Template

/-- What a template comes to for an entry in any 1024 bytes: a text that a NUL has room behind, ended by a newline
    unless there is no room for it. -/
structure Line (template : Bytes) (entry : Entry) (line : Bytes) : Prop where
  written : ∀ slice : Bytes, slice.length = 1024 → ∃ length,
    (Slice.writeEntry slice .placeholder template entry).result = .ok length ∧
      (Slice.writeEntry slice .placeholder template entry).slice.take length = line
  short : line.length ≤ 1023
  clean : 0 ∉ line
  ended : line.getLast? = some Ascii.newline ∨ line.length = 1023

def Unwritable (template : Bytes) (entry : Entry) (error : FormatError) : Prop :=
  ∀ slice : Bytes, slice.length = 1024 → (Slice.writeEntry slice .placeholder template entry).result = .error error

section Writing

variable {template : Bytes} {entry : Entry}

theorem Slice.writeEntry_eq (slice : Bytes) (mode : RealMode) :
    writeEntry slice mode template entry = ((Template.expand mode template entry).into (.openAt slice 0)).close :=
  congrArg Outcome.close (Buffer.writeEntry_eq _ mode template entry)

theorem unwritable_of_verdict {error : FormatError}
    (failure : (Template.expand .placeholder template entry).verdict = .error error) :
    Unwritable template entry error := by
  intro slice _
  rw [Slice.writeEntry_eq]
  exact Expansion.result_into_eq_error.mpr failure

theorem line_of_verdict (success : (Template.expand .placeholder template entry).verdict = .ok ()) :
    Line template entry ((Template.expand .placeholder template entry).bytes.take 1023) where
  written := by
    intro slice size
    rw [Slice.writeEntry_eq, Expansion.into_eq, success]
    have text := Buffer.text_append_openAt slice (Template.expand .placeholder template entry).bytes
    rw [size] at text
    exact ⟨_, rfl, text⟩
  short := List.length_take_le _ _
  clean := fun member => Expansion.zero_not_mem_bytes _ (List.mem_of_mem_take member)
  ended := by
    obtain ⟨front, written⟩ := Template.bytes_expandPieces success
    rw [Template.expand, written]
    by_cases fits : front.length < 1023
    · left
      have short : (front ++ [Ascii.newline]).length ≤ 1023 := by
        rw [List.length_append, List.length_singleton]
        omega
      rw [List.take_of_length_le short, List.getLast?_concat]
    · right
      rw [List.length_take, List.length_append, List.length_singleton]
      omega

end Writing

namespace Logger

/-- What a call is answered and what it leaves in a sink that accepts it. Below the level nothing is looked at. A
    format that fails leaves nothing. -/
inductive Effect (logger : Logger) : Call → Answer → Bytes → Prop where
  | raisedBelow {occasion level location format arguments} (below : level < logger.options.level) :
      Effect logger (.raise occasion level location format arguments) (.raised (.ok ())) []
  | refused {occasion level location format arguments error} (reached : logger.options.level ≤ level)
      (unwritable : Unwritable logger.options.template (logger.entry occasion level location format arguments) error) :
      Effect logger (.raise occasion level location format arguments) (.raised (.error error)) []
  | raised {occasion level location format arguments line} (reached : logger.options.level ≤ level)
      (written : Line logger.options.template (logger.entry occasion level location format arguments) line) :
      Effect logger (.raise occasion level location format arguments) (.raised (.ok ())) line
  | loggedBelow {occasion report} (below : report.severity.number < logger.options.level) :
      Effect logger (.log occasion report) .logged []
  | logged {occasion report line} (reached : logger.options.level ≤ report.severity.number)
      (written : Line logger.options.template
        (logger.entry occasion report.severity.number report.location (Bytes.ofString "%s") [.text (messageOf report)])
        line) :
      Effect logger (.log occasion report) .logged line
  | asked {severity} :
      Effect logger (.enabled severity) (.enabled (decide (logger.options.level ≤ severity.number))) []
  | flushed : Effect logger .flush .flushed logger.sink.flushMark

/-- What calls are answered and leave in a sink, each for itself and in their order. -/
inductive Session (logger : Logger) : List Call → List Answer → Bytes → Prop where
  | nil : Session logger [] [] []
  | cons {call calls answer answers added written} (effect : Effect logger call answer added)
      (session : Session logger calls answers written) :
      Session logger (call :: calls) (answer :: answers) (added ++ written)

def answerAll (logger : Logger) : List Call → Logger × List Answer
  | [] => (logger, [])
  | call :: calls =>
    let (next, answer) := logger.answer call
    let (final, answers) := next.answerAll calls
    (final, answer :: answers)

def holding (logger : Logger) (accepts : Bool) (written : Bytes) : Logger :=
  { logger with sink := ⟨accepts, logger.sink.flushMark, written⟩ }

theorem emit_holding (logger : Logger) (accepts : Bool) (written : Bytes) {entry : Entry}
    (success : (Template.expand .placeholder logger.options.template entry).verdict = .ok ()) :
    let line := (Template.expand .placeholder logger.options.template entry).bytes.take 1023
    (logger.holding accepts written).emit entry =
      (logger.holding accepts (if accepts then written ++ line else written), .ok ()) := by
  intro line
  rw [(logger.holding accepts written).emit_of_success success]
  cases accepts <;> rfl

/-- Whatever a sink holds, a call is answered alike and adds the same to it, or nothing if it accepts nothing. -/
theorem answer_effect (logger : Logger) (call : Call) :
    ∃ answer added, logger.Effect call answer added ∧ ∀ written,
      (logger.holding true written).answer call = (logger.holding true (written ++ added), answer) ∧
      ∃ left, (logger.holding false written).answer call = (logger.holding false left, answer) := by
  cases call with
  | raise occasion level location format arguments =>
    by_cases below : level < logger.options.level
    · refine ⟨_, _, .raisedBelow below, fun written => ?_⟩
      have silent (accepts : Bool) : (logger.holding accepts written).raise occasion level location format arguments =
          (logger.holding accepts written, .ok ()) := if_pos below
      simp only [answer, silent, List.append_nil]
      exact ⟨trivial, _, rfl⟩
    · have reached : logger.options.level ≤ level := Int32.not_lt.mp below
      have emitted (accepts : Bool) (written : Bytes) :
          (logger.holding accepts written).raise occasion level location format arguments =
            (logger.holding accepts written).emit (logger.entry occasion level location format arguments) :=
        if_neg below
      cases verdict : (Template.expand .placeholder logger.options.template
          (logger.entry occasion level location format arguments)).verdict with
      | error error =>
        refine ⟨_, _, .refused reached (unwritable_of_verdict verdict), fun written => ?_⟩
        have kept (accepts : Bool) : (logger.holding accepts written).emit
            (logger.entry occasion level location format arguments) = (logger.holding accepts written, .error error) :=
          emit_of_error _ verdict
        simp only [answer, emitted, kept, List.append_nil]
        exact ⟨trivial, _, rfl⟩
      | ok _ =>
        refine ⟨_, _, .raised reached (line_of_verdict verdict), fun written => ?_⟩
        have kept (accepts : Bool) := emit_holding logger accepts written verdict
        simp only [answer, emitted, kept]
        exact ⟨rfl, _, rfl⟩
  | log occasion report =>
    by_cases below : report.severity.number < logger.options.level
    · refine ⟨_, _, .loggedBelow below, fun written => ?_⟩
      have silent (accepts : Bool) : (logger.holding accepts written).log occasion report =
          logger.holding accepts written := if_neg fun enabled => (logger.enabled_iff _).mp enabled below
      simp only [answer, silent, List.append_nil]
      exact ⟨trivial, _, rfl⟩
    · have reached : logger.options.level ≤ report.severity.number := Int32.not_lt.mp below
      have verdict := logger.verdict_plainEntry occasion report.severity.number report.location (messageOf report)
      refine ⟨_, _, .logged reached (line_of_verdict verdict), fun written => ?_⟩
      have emitted (accepts : Bool) : (logger.holding accepts written).log occasion report =
          ((logger.holding accepts written).emit
            (logger.plainEntry occasion report.severity.number report.location (messageOf report))).1 :=
        if_pos ((logger.enabled_iff _).mpr below)
      have kept (accepts : Bool) := emit_holding logger accepts written verdict
      simp only [answer, emitted, kept]
      exact ⟨rfl, _, rfl⟩
  | enabled severity => exact ⟨_, _, .asked, fun written => ⟨by rw [List.append_nil]; rfl, written, rfl⟩⟩
  | flush => exact ⟨_, _, .flushed, fun written => ⟨rfl, _, rfl⟩⟩

theorem answerAll_effects (logger : Logger) (calls : List Call) :
    ∃ answers added, logger.Session calls answers added ∧ ∀ written,
      (logger.holding true written).answerAll calls = (logger.holding true (written ++ added), answers) ∧
      ∃ left, (logger.holding false written).answerAll calls = (logger.holding false left, answers) := by
  induction calls with
  | nil => exact ⟨[], [], .nil, fun written => ⟨by rw [List.append_nil]; rfl, written, rfl⟩⟩
  | cons call calls ih =>
    obtain ⟨answer, added, effect, answered⟩ := logger.answer_effect call
    obtain ⟨answers, behind, session, answeredAll⟩ := ih
    refine ⟨answer :: answers, added ++ behind, .cons effect session, fun written => ⟨?_, ?_⟩⟩
    · rw [answerAll, (answered written).1]
      simp only [(answeredAll (written ++ added)).1, List.append_assoc]
    · obtain ⟨between, left⟩ := (answered written).2
      obtain ⟨final, leftAll⟩ := (answeredAll between).2
      refine ⟨final, ?_⟩
      rw [answerAll, left]
      simp only [leftAll]

/-- Calls add to a sink what each of them leaves for itself, in the order in which they reach it, and never change
    the options. A sink that accepts nothing changes no answer. -/
theorem answerAll_adds_lines (options : LogOptions) (started : Float) (mark written : Bytes) (calls : List Call) :
    let accepting : Logger := ⟨options, ⟨true, mark, written⟩, started⟩
    let failing : Logger := ⟨options, ⟨false, mark, written⟩, started⟩
    ∃ answers added, accepting.Session calls answers added ∧
      accepting.answerAll calls = (⟨options, ⟨true, mark, written ++ added⟩, started⟩, answers) ∧
      (failing.answerAll calls).2 = answers ∧ (failing.answerAll calls).1.options = options := by
  intro accepting failing
  obtain ⟨answers, added, session, answered⟩ := accepting.answerAll_effects calls
  obtain ⟨accepted, left, failed⟩ := answered written
  have refused : failing.answerAll calls = (accepting.holding false left, answers) := failed
  refine ⟨answers, added, session, accepted, ?_, ?_⟩
  · rw [refused]
  · rw [refused]
    rfl

end Logger

end BoundedText
