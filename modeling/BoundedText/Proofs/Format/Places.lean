import BoundedText.Proofs.Format.Grammar
import BoundedText.Proofs.Format.Integer
import BoundedText.Proofs.Number.Places

namespace BoundedText

namespace Letter

def fixed : List Letter := [f, F]

def scientific : List Letter := [e, E]

theorem kind_of_places {letter : Letter} (listed : letter ∈ fixed ∨ letter ∈ scientific) :
    letter.kind = .real ∧ letter.family? = some .real := by
  cases letter <;> simp [fixed, scientific] at listed <;> exact ⟨rfl, rfl⟩

end Letter

theorem Binary64.isNegative_of_content {number : Binary64} {magnitude : Magnitude}
    (finite : number.content = .finite magnitude) : number.isNegative = number.signBit := by
  rw [isNegative, finite]
  exact Bool.and_true _

namespace Spelling

variable {spelling : Spelling} {digits : Bytes}

theorem precision_of_some (given : spelling.precision = some digits) :
    spelling.conversion.precision = some (min (Radix.decimal.read digits) maxCount) := by
  rw [precision_conversion, given, Option.map_some]

theorem realStyle_fixed (listed : spelling.letter ∈ Letter.fixed) (given : spelling.precision = some digits) :
    spelling.conversion.realStyle = .fixed (min (Radix.decimal.read digits) maxCount) := by
  have letter : spelling.conversion.letter = spelling.letter := rfl
  rw [Conversion.realStyle, letter, precision_of_some given]
  cases asked : spelling.letter <;> simp [asked, Letter.fixed] at listed <;> rfl

theorem realStyle_scientific (listed : spelling.letter ∈ Letter.scientific) (given : spelling.precision = some digits) :
    spelling.conversion.realStyle = .exponent (min (Radix.decimal.read digits) maxCount) ∧
      (if spelling.letter.isUpper then 0x45 else 0x65) = spelling.letter.byte := by
  have letter : spelling.conversion.letter = spelling.letter := rfl
  rw [Conversion.realStyle, letter, precision_of_some given]
  cases asked : spelling.letter <;> simp [asked, Letter.scientific] at listed <;> exact ⟨rfl, by decide⟩

end Spelling

namespace Format

/-- A finite number is shown with its sign and as many decimal places as were asked for, correctly rounded. The places
    that are filled with zeros are those that full precision would compute. -/
theorem expand_places {spelling : Spelling}
    (listed : spelling.letter ∈ Letter.fixed ∨ spelling.letter ∈ Letter.scientific) (noWidth : spelling.width = [])
    {digits : Bytes} (given : spelling.precision = some digits) {number : Binary64} {magnitude : Magnitude}
    (finite : number.content = .finite magnitude) :
    let places := min (Radix.decimal.read digits) maxCount
    let format := Ascii.percent :: spelling.bytes
    let printed := expand .digits format [.real number]
    printed.verdict = .ok () ∧ (∀ buffer : Buffer, (buffer.format .digits format [.real number]).buffer.text =
      buffer.text ++ printed.bytes.take buffer.remaining) ∧
    ∃ text, printed.bytes = spelling.numberSign number.signBit ++ text ∧
      (spelling.letter ∈ Letter.fixed → IsFixedText magnitude.value places text ∧
        text = (Decimal.fixedPieces places magnitude).flatten) ∧
      (spelling.letter ∈ Letter.scientific → IsScientificText magnitude.value spelling.letter.byte places text ∧
        text = (Decimal.exponentPieces spelling.letter.byte places magnitude).flatten) := by
  intro places format printed
  obtain ⟨kind, family⟩ := Letter.kind_of_places listed
  have fits : spelling.letter.family? = some (Argument.real number).family := family
  obtain ⟨field, unpadded, success, shown⟩ := expand_unpadded noWidth fits .digits
  have letter : spelling.conversion.letter = spelling.letter := rfl
  simp only [Conversion.unpadded?, letter, kind, Option.some.injEq] at unpadded
  subst unpadded
  rw [Conversion.realField, Field.bytes, Spelling.bytes_otherSign, Binary64.isNegative_of_content finite,
    Binary64.toBytes_body finite, letter] at shown
  refine ⟨success, fun buffer => buffer.text_format .digits format _, _, shown, fun fixed => ?_, fun scientific => ?_⟩
  · rw [Spelling.realStyle_fixed fixed given]
    exact ⟨Decimal.isFixedText_fixedPieces places magnitude, rfl⟩
  · obtain ⟨style, mark⟩ := Spelling.realStyle_scientific scientific given
    rw [style, RealStyle.pieces, mark]
    exact ⟨Decimal.isScientificText_exponentPieces _ places magnitude, rfl⟩

theorem expand_places_least_subnormal :
    let spelling : Spelling := {
      precision := some (Bytes.ofString "70000"), letter := .E,
      precision_digits := fun _ same => Option.some.inj same ▸ List.all_eq_true.mp (by decide) }
    let number : Binary64 := ⟨0x8000000000000001⟩
    let format := Ascii.percent :: spelling.bytes
    let printed := expand .digits format [.real number]
    let buffer := Buffer.openAt (List.replicate 6 0x2e) 1
    spelling.letter ∈ Letter.scientific ∧ spelling.width = [] ∧ spelling.precision = some (Bytes.ofString "70000") ∧
      number.content = .finite ⟨1, -1074⟩ ∧ printed.verdict = .ok () ∧
      (buffer.format .digits format [.real number]).buffer.text = [0x2e] ++ printed.bytes.take 4 ∧
      ∃ text, printed.bytes = Ascii.minus :: text ∧ IsScientificText (Magnitude.value ⟨1, -1074⟩) 0x45 70000 text := by
  intro spelling number format printed buffer
  have listed : spelling.letter ∈ Letter.scientific := by decide
  have noWidth : spelling.width = [] := rfl
  have given : spelling.precision = some (Bytes.ofString "70000") := rfl
  have finite : number.content = .finite ⟨1, -1074⟩ := by decide
  obtain ⟨success, written, text, shown, -, rounded⟩ := expand_places (.inr listed) noWidth given finite
  have sign : spelling.numberSign number.signBit = [Ascii.minus] := by decide
  have places : min (Radix.decimal.read (Bytes.ofString "70000")) maxCount = 70000 := by decide
  rw [sign, List.singleton_append] at shown
  rw [places] at rounded
  exact ⟨listed, noWidth, given, finite, success, written buffer, text, shown, (rounded listed).1⟩

end Format

end BoundedText
