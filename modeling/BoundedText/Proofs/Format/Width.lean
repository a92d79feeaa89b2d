import BoundedText.Proofs.Format.Grammar
import BoundedText.Proofs.Format.Integer

namespace BoundedText

inductive Conversion.Takes : Letter → Argument → Prop where
  | integer {letter : Letter} {argument : Argument} {word : Word} (listed : letter ∈ Letter.integers)
      (asWord : argument.word? = some word) : Takes letter argument
  | character {argument : Argument} {word : Word} (asWord : argument.word? = some word) : Takes .c argument
  | text (bytes : Bytes) : Takes .s (.text bytes)
  | real {letter : Letter} (kind : letter.kind = .real) (number : Binary64) : Takes letter (.real number)

theorem Conversion.takes_of_word? {letter : Letter} (fits : letter.family? = some .integer) {argument : Argument}
    {word : Word} (asWord : argument.word? = some word) : Takes letter argument := by
  have cases : letter = .c ∨ letter ∈ Letter.integers := by
    cases letter <;> first | decide | cases fits
  rcases cases with rfl | listed
  · exact .character asWord
  · exact .integer listed asWord

theorem Conversion.takes_of_family? {letter : Letter} {argument : Argument}
    (fits : letter.family? = some argument.family) : Takes letter argument := by
  cases argument with
  | word word => exact takes_of_word? fits rfl
  | char char => exact takes_of_word? fits rfl
  | text bytes => cases letter <;> first | exact .text bytes | cases fits
  | real number => cases letter <;> first | exact .real rfl number | cases fits

namespace Spelling

def withoutWidth (spelling : Spelling) : Spelling :=
  { spelling with width := [], width_digits := by simp, width_start := by simp }

def sign (spelling : Spelling) (mode : RealMode) : Argument → Bytes
  | .real number =>
    match mode with
    | .placeholder => []
    | .digits => spelling.numberSign number.isNegative
  | argument => (argument.word?.map fun word => spelling.integerSign (spelling.integer word)).getD []

def mark (spelling : Spelling) (argument : Argument) : Bytes :=
  (argument.word?.map fun word => spelling.integerMark (spelling.integer word)).getD []

theorem sign_of_word? {spelling : Spelling} {argument : Argument} {word : Word} (asWord : argument.word? = some word)
    (mode : RealMode) : spelling.sign mode argument = spelling.integerSign (spelling.integer word) := by
  cases argument <;> cases asWord <;> rfl

theorem mark_of_word? {spelling : Spelling} {argument : Argument} {word : Word} (asWord : argument.word? = some word) :
    spelling.mark argument = spelling.integerMark (spelling.integer word) := by
  rw [mark, asWord]
  rfl

theorem front_of_unpadded? {spelling : Spelling} {argument : Argument}
    (fits : spelling.letter.family? = some argument.family) {mode : RealMode} {field : Field}
    (shown : spelling.conversion.unpadded? mode argument = some field) :
    field.sign.bytes = spelling.sign mode argument ∧ field.mark = spelling.mark argument := by
  have letter : spelling.conversion.letter = spelling.letter := rfl
  generalize spelled : spelling.letter = asked at *
  cases Conversion.takes_of_family? fits with
  | integer listed asWord =>
    subst spelled
    obtain ⟨sign, written, same⟩ := unpadded?_integer listed mode asWord
    obtain rfl : field = _ := Option.some.inj (shown.symm.trans same)
    exact ⟨written.trans (sign_of_word? asWord mode).symm, (mark_of_word? asWord).symm⟩
  | character asWord =>
    have noSign (value : Int) : spelling.integerSign value = [] := by rw [integerSign, spelled]; rfl
    have noMark (value : Int) : spelling.integerMark value = [] := by rw [integerMark, spelled]
    rw [sign_of_word? asWord, mark_of_word? asWord, noSign, noMark]
    simp only [Conversion.unpadded?, letter, Letter.kind] at shown
    cases argument <;> cases asWord <;> cases shown <;> exact ⟨rfl, rfl⟩
  | text bytes =>
    simp only [Conversion.unpadded?, letter, Letter.kind] at shown
    cases shown
    exact ⟨rfl, rfl⟩
  | real kind number =>
    simp only [Conversion.unpadded?, letter, kind] at shown
    cases shown
    cases mode with
    | placeholder => exact ⟨rfl, rfl⟩
    | digits => exact ⟨spelling.bytes_otherSign number.isNegative, rfl⟩

theorem filled_padding (spelling : Spelling) (mode : RealMode) (argument : Argument) (pad : Nat) (field : Field) :
    Layout.filled (spelling.conversion.padding mode argument) pad field =
      if .left ∈ spelling.flags then field.bytes ++ List.replicate pad Ascii.space
      else if .zero ∈ spelling.flags ∧ spelling.letter.fillsZeros mode argument = true then
        field.sign.bytes ++ (field.mark.upToNul ++ (List.replicate pad Ascii.zero ++ field.body.text.toBytes))
      else List.replicate pad Ascii.space ++ field.bytes := by
  have letter : spelling.conversion.letter = spelling.letter := rfl
  simp only [Conversion.padding, has_conversion, Bool.and_eq_true, letter]
  split
  · rfl
  · split <;> rfl

theorem getD_width (spelling : Spelling) :
    spelling.conversion.width.getD 0 = min (Radix.decimal.read spelling.width) maxCount := by
  rw [width_conversion]
  split
  · rename_i none
    rw [none]
    rfl
  · rfl

end Spelling

namespace Format

/-- A width fills the text of the conversion up and never cuts it. Spaces stand behind it under the left flag and
    before it otherwise, and zeros between what stands in front of the digits and the digits. -/
theorem expand_width {spelling : Spelling} {argument : Argument}
    (fits : spelling.letter.family? = some argument.family) (mode : RealMode) :
    let width := min (Radix.decimal.read spelling.width) maxCount
    let format := Ascii.percent :: spelling.bytes
    let plain := expand mode (Ascii.percent :: spelling.withoutWidth.bytes) [argument]
    let padded := expand mode format [argument]
    let pad := width - plain.bytes.length
    plain.verdict = .ok () ∧ padded.verdict = .ok () ∧ padded.bytes.length = max plain.bytes.length width ∧
    (∀ buffer : Buffer, (buffer.format mode format [argument]).buffer.text =
      buffer.text ++ padded.bytes.take buffer.remaining) ∧
    ∃ body, plain.bytes = spelling.sign mode argument ++ (spelling.mark argument ++ body) ∧
      padded.bytes =
        if .left ∈ spelling.flags then plain.bytes ++ List.replicate pad Ascii.space
        else if .zero ∈ spelling.flags ∧ spelling.letter.fillsZeros mode argument = true then
          spelling.sign mode argument ++ (spelling.mark argument ++ (List.replicate pad Ascii.zero ++ body))
        else List.replicate pad Ascii.space ++ plain.bytes := by
  intro width format plain padded pad
  obtain ⟨other, same, plainSuccess, plainShown⟩ :=
    expand_unpadded (show spelling.withoutWidth.width = [] from rfl) fits mode
  obtain ⟨paddedSuccess, paddedShown⟩ := expand_conversion spelling fits mode
  obtain ⟨field, unpadded, placed⟩ := Conversion.exists_unpadded? spelling.conversion fits mode
  obtain rfl : field = other := Option.some.inj (unpadded.symm.trans same)
  have plainBytes : plain.bytes = field.bytes := plainShown
  have measured := Conversion.measured_of_unpadded? unpadded
  obtain ⟨sign, mark⟩ := Spelling.front_of_unpadded? fits unpadded
  rw [Layout.toBytes_place_measured (by rw [Spelling.getD_width]; exact Nat.min_le_right _ _) measured,
    Spelling.getD_width, ← plainBytes] at placed
  have paddedBytes := paddedShown.trans placed
  refine ⟨plainSuccess, paddedSuccess, ?_, fun buffer => buffer.text_format mode format [argument],
    field.body.text.toBytes, ?_, ?_⟩
  · rw [show padded.bytes = _ from paddedBytes, Layout.length_filled, ← plainBytes]
    omega
  · rw [plainBytes, Field.bytes, sign, mark, Bytes.upToNul_of_not_mem (mark ▸ measured.mark)]
  · rw [show padded.bytes = _ from paddedBytes, Spelling.filled_padding, ← plainBytes, sign, mark,
      Bytes.upToNul_of_not_mem (mark ▸ measured.mark)]

theorem expand_width_largest_precision :
    let spelling : Spelling := {
      flags := [.plus, .zero], width := Bytes.ofString "30",
      precision := some (Bytes.ofString "18446744073709551615"), letter := .e,
      width_digits := List.all_eq_true.mp (by decide),
      precision_digits := fun _ same => Option.some.inj same ▸ List.all_eq_true.mp (by decide) }
    let half : Argument := .real ⟨0x3fe0000000000000⟩
    let format := Ascii.percent :: spelling.bytes
    let plain := expand .digits (Ascii.percent :: spelling.withoutWidth.bytes) [half]
    let padded := expand .digits format [half]
    let buffer := Buffer.openAt (List.replicate 6 0x2e) 1
    spelling.letter.family? = some half.family ∧ padded.verdict = .ok () ∧
      padded.bytes.length = max plain.bytes.length 30 ∧
      (buffer.format .digits format [half]).buffer.text = [0x2e] ++ padded.bytes.take 4 ∧
      ∃ body, plain.bytes = Ascii.plus :: body ∧
        padded.bytes = Ascii.plus :: (List.replicate (30 - plain.bytes.length) Ascii.zero ++ body) := by
  intro spelling half format plain padded buffer
  have fits : spelling.letter.family? = some half.family := rfl
  obtain ⟨-, success, length, written, body, plainBytes, paddedBytes⟩ := expand_width fits .digits
  have width : min (Radix.decimal.read spelling.width) maxCount = 30 := by decide
  have zeros : .zero ∈ spelling.flags ∧ spelling.letter.fillsZeros .digits half = true := by decide
  have right : .left ∉ spelling.flags := by decide
  rw [width] at length paddedBytes
  rw [if_neg right, if_pos zeros] at paddedBytes
  have sign : spelling.sign .digits half = [Ascii.plus] := by decide
  have mark : spelling.mark half = [] := rfl
  rw [sign, mark, List.nil_append, List.singleton_append] at plainBytes paddedBytes
  exact ⟨fits, success, length, written buffer, body, plainBytes, paddedBytes⟩

end Format

end BoundedText
