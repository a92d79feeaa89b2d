import BoundedText.Proofs.Run
import BoundedText.Proofs.Utf8.Line
import BoundedText.Proofs.Utf8.Time

namespace BoundedText

/-- An operation that is given nothing but text: whole characters where it takes bytes, and only text for the
    conversions that it fills in. An entry fills in its message only where the template asks for it. -/
def Operation.Textual : Operation → Prop
  | .copy source none => source.IsUtf8
  | .copy source (some limit) => Bytes.IsUtf8 (source.upToNul.take limit)
  | .pushByte byte | .fill byte _ => byte < 0x80
  | .putNumeral radix _ => radix.glyphs.IsAscii
  | .writeParts parts => ∀ part ∈ parts, part.IsUtf8
  | .format _ text arguments => text.IsUtf8 ∧ Format.TakesText text arguments
  | .writeEntry _ template entry =>
    template.IsUtf8 ∧ entry.Textual ∧
      ((∃ piece ∈ Template.pieces template, piece.isMessage = true) →
        Format.TakesText entry.message entry.arguments)
  | .writeTime layout _ => layout.IsUtf8

theorem Operation.Textual.isUtf8_appended {operation : Operation} (textual : operation.Textual) :
    operation.appended.IsUtf8 := by
  cases operation with
  | copy source limit =>
    cases limit with
    | none => exact Text.isUtf8_ofBytes textual
    | some limit => exact Text.isUtf8_ofBytes textual
  | pushByte byte => exact Text.isUtf8_ofByte textual
  | fill byte count => exact .append (Span.isUtf8_run textual count) Bytes.isUtf8_nil
  | putNumeral radix value => exact Text.isUtf8_ofBytes (Radix.isAscii_numeral textual value).isUtf8
  | writeParts parts =>
    refine Text.isUtf8_toBytes fun span member => ?_
    obtain ⟨part, inside, rfl⟩ := List.mem_map.mp member
    exact Bytes.IsUtf8.upToNul (textual part inside)
  | format mode format arguments => exact Format.isUtf8_expand mode textual.1 textual.2
  | writeEntry mode template entry => exact Template.isUtf8_expand textual.1 textual.2.1 textual.2.2
  | writeTime layout time => exact TimeLayout.isUtf8_text textual time

namespace Buffer

theorem isFull_performAll {slice : Bytes} {operations : List Operation}
    (cut : slice.length - 1 ≤ (operations.flatMap Operation.appended).length) :
    ((openAt slice 0).performAll operations).isFull = true := by
  have left : ((openAt slice 0).performAll operations).remaining = 0 := by
    rw [performAll_eq, remaining_append, remaining_openAt, Nat.zero_min]
    omega
  rw [isFull, left]
  rfl

/-- Operations on text keep text in a buffer. Only its end can cut a character, so there is a part of one only at
    the end of a full buffer. -/
theorem run_keeps_characters (slice : Bytes) {operations : List Operation}
    (textual : ∀ operation ∈ operations, operation.Textual) :
    (∀ operation ∈ operations, operation.appended.IsUtf8) ∧
    ∀ count, let buffer := (openAt slice 0).performAll (operations.take count)
      ∃ characters tail, buffer.text = characters ++ tail ∧ characters.IsUtf8 ∧
        (tail = [] ∨ tail.IsCutChar ∧ tail.length ≤ 3 ∧ buffer.isFull = true) := by
  have each (operation : Operation) (member : operation ∈ operations) : operation.appended.IsUtf8 :=
    (textual operation member).isUtf8_appended
  refine ⟨each, fun count => ?_⟩
  intro buffer
  have whole : Bytes.IsUtf8 ((operations.take count).flatMap Operation.appended) :=
    Bytes.isUtf8_flatMap fun operation member => each operation (List.mem_of_mem_take member)
  have written : buffer.text = ((operations.take count).flatMap Operation.appended).take (slice.length - 1) :=
    (congrArg Buffer.text (performAll_eq _ _)).trans (text_append_openAt slice _)
  obtain ⟨characters, tail, split, full, cut⟩ := whole.take (slice.length - 1)
  refine ⟨characters, tail, written.trans split, full, cut.imp_right fun ⟨part, short⟩ => ?_⟩
  exact ⟨part, part.length_le, isFull_performAll (Nat.le_of_lt short)⟩

theorem run_keeps_characters_cut_and_failed :
    let format := Bytes.ofChars ['\u00e9', '%', 'c', '%', 's', '%', 'd']
    let accented := Bytes.ofChar '\u00e9'
    let arguments : List Argument := [.char '\u20ac', .text accented, .text accented]
    let operations : List Operation := [.format .digits format arguments]
    let buffer := (openAt (List.replicate 7 0) 0).performAll operations
    (∀ operation ∈ operations, operation.Textual) ∧
    buffer.text = [0xc3, 0xa9, 0xe2, 0x82, 0xac, 0xc3] ∧
    ∃ characters tail, buffer.text = characters ++ tail ∧ characters.IsUtf8 ∧
      (tail = [] ∨ tail.IsCutChar ∧ tail.length ≤ 3 ∧ buffer.isFull = true) := by
  intro format accented arguments operations buffer
  let front : List Segment :=
    [.literal accented (by decide), .conversion { letter := .c }, .conversion { letter := .s }]
  have spelled : Segment.spell (front ++ [.conversion { letter := .d }]) = format.upToNul := by decide
  have split : Segment.spell front ++ Ascii.percent :: [0x64] = format.upToNul := by decide
  have textual : ∀ operation ∈ operations, operation.Textual := by
    intro operation member
    rw [List.mem_singleton.mp member]
    refine ⟨⟨_, rfl⟩, fun pair taken => ?_⟩
    rw [Format.wanting_of_spell spelled] at taken
    have filled : pair ∈ [(Spelling.conversion { letter := .c }, Argument.char '\u20ac'),
        (Spelling.conversion { letter := .s }, Argument.text accented)] := taken
    simp only [List.mem_cons, List.not_mem_nil, or_false] at filled
    rcases filled with rfl | rfl
    · exact True.intro
    · exact fun _ => Bytes.isUtf8_ofChar _
  have fit : Segment.Fit front arguments :=
    (Segment.fit_cons_of_none rfl _ _).mpr ((Segment.fit_cons_of_some rfl _ _).mpr
      ⟨_, _, rfl, rfl, (Segment.fit_cons_of_some rfl _ _).mpr ⟨_, _, rfl, rfl, Segment.fit_nil _⟩⟩)
  have failed := format_of_refusal split fit rfl (openAt (List.replicate 7 0) 0) .digits
  have written : buffer.text = [0xc3, 0xa9, 0xe2, 0x82, 0xac, 0xc3] :=
    congrArg (fun outcome => outcome.buffer.text) failed
  exact ⟨textual, written, (run_keeps_characters (List.replicate 7 0) textual).2 1⟩

end Buffer

end BoundedText
