import BoundedText.Log.Logger
import BoundedText.Proofs.Log.Line
import BoundedText.Proofs.Run

namespace BoundedText

theorem Bytes.take_append_congr {room : Nat} {left other right another : Bytes}
    (front : left.take room = other.take room) (behind : right.take room = another.take room) :
    (left ++ right).take room = (other ++ another).take room := by
  have lengths := congrArg List.length front
  rw [List.length_take, List.length_take] at lengths
  by_cases full : room ≤ left.length
  · have otherFull : room ≤ other.length := by omega
    rw [List.take_append_of_le_length full, List.take_append_of_le_length otherFull, front]
  · have shorter : left.length ≤ room := by omega
    have otherShorter : other.length ≤ room := by omega
    rw [List.take_of_length_le shorter, List.take_of_length_le otherShorter] at front
    subst front
    have rest := congrArg (List.take (room - left.length)) behind
    rw [List.take_take, List.take_take, Nat.min_eq_left (Nat.sub_le _ _)] at rest
    rw [List.take_append, List.take_append, rest]

namespace Expansion

/-- Two expansions that fill a room alike and end alike. -/
def Alike (room : Nat) (left right : Expansion) : Prop :=
  left.bytes.take room = right.bytes.take room ∧ left.verdict = right.verdict

theorem Alike.refl (room : Nat) (expansion : Expansion) : expansion.Alike room expansion := ⟨rfl, rfl⟩

theorem Alike.andThen {room : Nat} {first other second another : Expansion} (front : first.Alike room other)
    (behind : second.Alike room another) : (first.andThen second).Alike room (other.andThen another) := by
  cases ending : first.verdict with
  | ok _ =>
    obtain ⟨written, verdict⟩ := splits_andThen ending second
    obtain ⟨otherWritten, otherVerdict⟩ := splits_andThen (front.2.symm.trans ending) another
    refine ⟨?_, ?_⟩
    · rw [written, otherWritten]
      exact Bytes.take_append_congr front.1 behind.1
    · rw [verdict, otherVerdict, behind.2]
  | error error =>
    rw [andThen_of_error ending, andThen_of_error (front.2.symm.trans ending)]
    exact front

end Expansion

namespace Template

variable {room : Nat} {mode : RealMode} {entry other : Entry}

theorem expandPieces_alike (alike : ∀ key, (entry.expand mode key).Alike room (other.expand mode key))
    (pieces : List Piece) : (expandPieces mode entry pieces).Alike room (expandPieces mode other pieces) := by
  induction pieces with
  | nil => exact .refl _ _
  | cons piece pieces ih =>
    refine .andThen ?_ ih
    cases piece with
    | placeholder key suffix =>
      simp only [Piece.expand]
      cases Key.ofBytes? key with
      | none => exact .refl _ _
      | some known => exact alike known
    | _ => exact .refl _ _

end Template

theorem Format.expand_text (mode : RealMode) (bytes : Bytes) :
    (expand mode (Bytes.ofString "%s") [.text bytes]).Splits bytes.upToNul .finished := by
  let segments : List Segment := [.conversion { letter := .s }]
  have spelled : Segment.spell segments = (Bytes.ofString "%s").upToNul := by decide
  have fit : Segment.Fit segments [.text bytes] :=
    (Segment.fit_cons_of_some rfl _ _).mpr ⟨.text bytes, [], rfl, rfl, Segment.fit_nil _⟩
  have filled := expand_of_fit spelled fit mode
  have output : Segment.output mode segments [.text bytes] = (Layout.plain.place (.ofBytes bytes.upToNul)).toBytes :=
    List.append_nil _
  rw [output, Layout.toBytes_plain, Field.ofBytes, Body.toBytes_text_ofBytes, Bytes.upToNul_upToNul] at filled
  exact filled

namespace Logger

theorem text_append_blank (capacity : Nat) (source : Bytes) :
    ((blank capacity).append source).text = source.take (capacity - 1) := by
  rw [blank, Buffer.text_append_openAt, List.length_replicate]

/-- The parts of a message are kept as far as a line reaches. -/
theorem messageOf_eq (report : Report) :
    messageOf report = (report.parts.flatMap Bytes.upToNul).take (lineCapacity - 1) := by
  have parts : Text.toBytes (report.parts.map .bytes) = report.parts.flatMap Bytes.upToNul := List.flatMap_map ..
  rw [messageOf, Buffer.writeParts_eq, Buffer.write_eq, text_append_blank, parts]

theorem zero_not_mem_flatMap_upToNul (parts : List Bytes) : 0 ∉ parts.flatMap Bytes.upToNul := by
  intro member
  obtain ⟨part, _, inside⟩ := List.mem_flatMap.mp member
  exact part.zero_not_mem_upToNul inside

def plainEntry (logger : Logger) (occasion : Occasion) (level : Int32) (location : Location) (message : Bytes) :
    Entry :=
  logger.entry occasion level location (Bytes.ofString "%s") [.text message]

variable (logger : Logger) (occasion : Occasion) (level : Int32) (location : Location)

theorem plainEntry_alike {message : Bytes} (clean : 0 ∉ message) (room : Nat) (mode : RealMode) (key : Key) :
    ((logger.plainEntry occasion level location (message.take room)).expand mode key).Alike room
      ((logger.plainEntry occasion level location message).expand mode key) := by
  cases key with
  | message =>
    have cleanFront : 0 ∉ message.take room := fun member => clean (List.mem_of_mem_take member)
    obtain ⟨front, frontVerdict⟩ := Format.expand_text mode (message.take room)
    obtain ⟨whole, wholeVerdict⟩ := Format.expand_text mode message
    rw [Bytes.upToNul_of_not_mem cleanFront, Expansion.bytes_finished, List.append_nil] at front
    rw [Bytes.upToNul_of_not_mem clean, Expansion.bytes_finished, List.append_nil] at whole
    refine ⟨?_, frontVerdict.trans wholeVerdict.symm⟩
    show (Format.expand mode (Bytes.ofString "%s") [.text (message.take room)]).bytes.take room =
      (Format.expand mode (Bytes.ofString "%s") [.text message]).bytes.take room
    rw [front, whole, List.take_take, Nat.min_self]
  | _ => exact .refl room _

theorem line_eq (entry : Entry) :
    logger.line entry = (Template.expand .placeholder logger.options.template entry).into (blank lineCapacity) :=
  Buffer.writeEntry_eq _ _ _ _

theorem text_line (entry : Entry) :
    (logger.line entry).buffer.text =
      (Template.expand .placeholder logger.options.template entry).bytes.take (lineCapacity - 1) := by
  rw [line_eq, Expansion.into_eq, text_append_blank]

theorem emit_of_error {entry : Entry} {error : FormatError}
    (failure : (Template.expand .placeholder logger.options.template entry).verdict = .error error) :
    logger.emit entry = (logger, .error error) := by
  have answered : (logger.line entry).result = .error error := by
    rw [line_eq]
    exact Expansion.result_into_eq_error.mpr failure
  simp only [emit, answered]

theorem emit_of_success {entry : Entry}
    (success : (Template.expand .placeholder logger.options.template entry).verdict = .ok ()) :
    let line := (Template.expand .placeholder logger.options.template entry).bytes.take (lineCapacity - 1)
    logger.emit entry = ({ logger with sink := logger.sink.write line }, .ok ()) := by
  intro line
  obtain ⟨cursor, answered⟩ : ∃ cursor, (logger.line entry).result = .ok cursor := by
    rw [line_eq]
    exact Expansion.result_into_eq_ok.mpr success
  simp only [emit, answered, text_line, line]

theorem verdict_plainEntry (message : Bytes) :
    (Template.expand .placeholder logger.options.template
      (logger.plainEntry occasion level location message)).verdict = .ok () := by
  let entry := logger.plainEntry occasion level location message
  have filled : (Format.expand .placeholder entry.message entry.arguments).verdict = .ok () :=
    (Format.expand_text .placeholder message).2
  obtain ⟨written, spelled⟩ := Template.piecesOf_written logger.options.template.zero_not_mem_upToNul
  obtain ⟨_, success⟩ :=
    Template.expand_of_success written spelled fun piece _ => Template.succeed_of_message filled piece
  exact success

theorem emit_plainEntry (message : Bytes) :
    let line := (logger.line (logger.plainEntry occasion level location message)).buffer.text
    logger.emit (logger.plainEntry occasion level location message) =
      ({ logger with sink := logger.sink.write line }, .ok ()) := by
  intro line
  rw [show line = _ from text_line logger _]
  exact logger.emit_of_success (logger.verdict_plainEntry occasion level location message)

theorem text_line_take {message : Bytes} (clean : 0 ∉ message) :
    (logger.line (logger.plainEntry occasion level location (message.take (lineCapacity - 1)))).buffer.text =
      (logger.line (logger.plainEntry occasion level location message)).buffer.text := by
  have alike := Template.expandPieces_alike
    (plainEntry_alike logger occasion level location clean (lineCapacity - 1) .placeholder)
    (Template.pieces logger.options.template)
  rw [text_line, text_line]
  exact alike.1

theorem enabled_iff (severity : Severity) :
    logger.enabled severity = true ↔ ¬ severity.number < logger.options.level := by
  rw [Int32.not_lt]
  exact decide_eq_true_iff

/-- Logging a report is raising its whole message by a format that shows it as it is. It never fails, so a report
    that is not below the level is written once, as one line that only the room for the line has cut. -/
theorem log_eq_raise (report : Report) :
    let message := report.parts.flatMap Bytes.upToNul
    let location : Location :=
      ⟨report.file.getD (Bytes.ofString "<unknown>"), report.line.getD 0, report.modulePath.getD []⟩
    let level := report.severity.number
    let raised := logger.raise occasion level location (Bytes.ofString "%s") [.text message]
    let entry := logger.plainEntry occasion level location (messageOf report)
    let whole := logger.plainEntry occasion level location message
    let line := (Template.expand .placeholder logger.options.template whole).bytes.take (lineCapacity - 1)
    logger.log occasion report = raised.1 ∧ raised.2 = .ok () ∧
    (logger.emit entry).2 = .ok () ∧ (logger.line entry).buffer.text = line ∧
    logger.log occasion report =
      if logger.enabled report.severity then { logger with sink := logger.sink.write line } else logger := by
  intro message location level raised entry whole line
  have clean : 0 ∉ message := zero_not_mem_flatMap_upToNul report.parts
  have cut : (logger.line entry).buffer.text = (logger.line whole).buffer.text := by
    have same := text_line_take logger occasion level location clean
    rwa [← messageOf_eq report] at same
  have shown : (logger.line whole).buffer.text = line := text_line logger whole
  have emitted : logger.emit entry = ({ logger with sink := logger.sink.write line }, .ok ()) := by
    rw [emit_plainEntry, cut, shown]
  have emittedWhole : logger.emit whole = ({ logger with sink := logger.sink.write line }, .ok ()) := by
    rw [emit_plainEntry, shown]
  have logged : logger.log occasion report =
      if logger.enabled report.severity then (logger.emit entry).1 else logger := rfl
  have raisedEq : raised = if level < logger.options.level then (logger, .ok ()) else logger.emit whole := rfl
  by_cases below : level < logger.options.level
  · have disabled : ¬ logger.enabled report.severity = true := fun enabled => (logger.enabled_iff _).mp enabled below
    rw [if_pos below] at raisedEq
    rw [if_neg disabled] at logged
    rw [if_neg disabled, logged, raisedEq, emitted]
    exact ⟨rfl, rfl, rfl, cut.trans shown, rfl⟩
  · have enabled := (logger.enabled_iff _).mpr below
    rw [if_neg below, emittedWhole] at raisedEq
    rw [if_pos enabled, emitted] at logged
    rw [if_pos enabled, logged, raisedEq, emitted]
    exact ⟨rfl, rfl, rfl, cut.trans shown, rfl⟩

end Logger

end BoundedText
