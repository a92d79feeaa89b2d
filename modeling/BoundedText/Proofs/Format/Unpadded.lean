import BoundedText.Proofs.Format.Verdict
import BoundedText.Proofs.Number.Pieces

namespace BoundedText

def Letter.fillsZeros (letter : Letter) (mode : RealMode) (argument : Argument) : Bool :=
  match letter.kind, argument with
  | .char, _ | .text, _ | .percent, _ => false
  | .real, .real number => mode == .digits && number.isFinite
  | .real, _ => false
  | _, _ => true

namespace Conversion

def realField (conversion : Conversion) (mode : RealMode) (number : Binary64) : Field :=
  match mode with
  | .placeholder => placeholderField
  | .digits =>
    ⟨.of number.isNegative conversion.otherSign, [], number.body conversion.realStyle conversion.letter.isUpper⟩

/-- What a conversion shows of its argument, apart from the width. -/
def unpadded? (conversion : Conversion) (mode : RealMode) (argument : Argument) : Option Field :=
  match conversion.letter.kind with
  | .signed => argument.word?.map conversion.signedField
  | .unsigned | .octal | .lowerHex | .upperHex => argument.word?.map conversion.unsignedField
  | .pointer => argument.word?.map pointerField
  | .char => charField? argument
  | .text => textField? argument
  | .real =>
    match argument with
    | .real number => some (conversion.realField mode number)
    | _ => none
  | .percent => none

def padding (conversion : Conversion) (mode : RealMode) (argument : Argument) : Padding :=
  if conversion.has .left then .after
  else if conversion.has .zero && conversion.letter.fillsZeros mode argument then .zeros
  else .before

theorem renderReal_eq {conversion : Conversion} (kind : conversion.letter.kind = .real) (mode : RealMode)
    (number : Binary64) : conversion.renderReal mode number =
      Layout.place ⟨conversion.width, conversion.padding mode (.real number)⟩ (conversion.realField mode number) := by
  cases mode with
  | placeholder => simp [renderReal, realField, wordLayout, padding, Letter.fillsZeros, kind]
  | digits =>
    by_cases left : conversion.has .left = true <;> by_cases zero : conversion.has .zero = true <;>
      by_cases finite : number.isFinite = true <;>
        simp [renderReal, realField, Layout.placeReal, numberLayout, Layout.withoutZeros, padding,
          Letter.fillsZeros, kind, left, zero, finite]

theorem render?_eq (conversion : Conversion) (mode : RealMode) (argument : Argument) :
    conversion.render? mode argument = (conversion.unpadded? mode argument).map
      (Layout.place ⟨conversion.width, conversion.padding mode argument⟩) := by
  cases kind : conversion.letter.kind with
  | real =>
    cases argument with
    | real number => simp [render?, unpadded?, kind, renderReal_eq kind]
    | _ => simp [render?, unpadded?, kind]
  | _ => simp [render?, unpadded?, padding, Letter.fillsZeros, kind, numberLayout, wordLayout, Function.comp_def]

theorem exists_unpadded? (conversion : Conversion) {argument : Argument}
    (fits : conversion.letter.family? = some argument.family) (mode : RealMode) :
    ∃ field, conversion.unpadded? mode argument = some field ∧ conversion.field mode argument =
      (Layout.place ⟨conversion.width, conversion.padding mode argument⟩ field).toBytes := by
  have rendered := conversion.isSome_render? mode argument
  rw [fits, beq_self_eq_true, render?_eq, Option.isSome_map, Option.isSome_iff_exists] at rendered
  obtain ⟨field, shown⟩ := rendered
  refine ⟨field, shown, ?_⟩
  rw [Conversion.field, render?_eq, shown]
  rfl

theorem measured_unsignedField {conversion : Conversion} (word : Word) :
    (conversion.unsignedField word).Measured := by
  have visible : 0 ∉ conversion.letter.kind.radix.glyphs := by
    cases conversion.letter.kind <;> decide
  have clean : 0 ∉ conversion.letter.kind.mark := by
    cases conversion.letter.kind <;> decide
  apply Field.measured_ofNat visible
  split
  · exact clean
  · exact List.not_mem_nil

theorem measured_realField (conversion : Conversion) (mode : RealMode) (number : Binary64) :
    (conversion.realField mode number).Measured := by
  cases mode with
  | placeholder => exact Field.measured_ofBytes (by decide)
  | digits => exact ⟨List.not_mem_nil, fun _ member => Binary64.zero_not_mem_of_mem_body member⟩

theorem measured_of_charField? {argument : Argument} {field : Field} (shown : charField? argument = some field) :
    field.Measured := by
  cases argument with
  | char char =>
    cases shown
    exact Field.measured_ofBytes (Bytes.zero_not_mem_upToNul _)
  | word word =>
    cases shown
    exact Field.measured_ofBytes (Bytes.zero_not_mem_upToNul _)
  | text bytes => cases shown
  | real number => cases shown

theorem measured_of_unpadded? {conversion : Conversion} {mode : RealMode} {argument : Argument} {field : Field}
    (shown : conversion.unpadded? mode argument = some field) : field.Measured := by
  cases kind : conversion.letter.kind with simp only [unpadded?, kind] at shown
  | signed =>
    obtain ⟨word, -, rfl⟩ := Option.map_eq_some_iff.mp shown
    exact Field.measured_ofInt _ _
  | unsigned | octal | lowerHex | upperHex =>
    obtain ⟨word, -, rfl⟩ := Option.map_eq_some_iff.mp shown
    exact measured_unsignedField word
  | pointer =>
    obtain ⟨word, -, rfl⟩ := Option.map_eq_some_iff.mp shown
    exact Field.measured_ofNat (by decide) (by decide) _
  | char => exact measured_of_charField? shown
  | text =>
    cases argument with
    | text bytes =>
      cases shown
      exact Field.measured_ofBytes (Bytes.zero_not_mem_upToNul _)
    | _ => cases shown
  | real =>
    cases argument with
    | real number =>
      cases shown
      exact measured_realField conversion mode number
    | _ => cases shown
  | percent => cases shown

end Conversion

theorem Format.expand_unpadded {spelling : Spelling} (noWidth : spelling.width = []) {argument : Argument}
    (fits : spelling.letter.family? = some argument.family) (mode : RealMode) :
    let printed := expand mode (Ascii.percent :: spelling.bytes) [argument]
    ∃ field, spelling.conversion.unpadded? mode argument = some field ∧ printed.verdict = .ok () ∧
      printed.bytes = field.bytes := by
  intro printed
  obtain ⟨success, shown⟩ := expand_conversion spelling fits mode
  obtain ⟨field, unpadded, placed⟩ := Conversion.exists_unpadded? spelling.conversion fits mode
  have unfilled : spelling.conversion.width = none := by
    rw [Spelling.conversion, noWidth]
    rfl
  rw [unfilled, Layout.toBytes_place_none] at placed
  exact ⟨field, unpadded, success, shown.trans placed⟩

end BoundedText
