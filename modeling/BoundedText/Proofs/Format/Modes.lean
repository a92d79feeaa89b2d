import BoundedText.Proofs.Format.Width

namespace BoundedText

namespace Letter

def reals : List Letter := [a, A, e, E, f, F, g, G]

theorem kind_eq_real_iff {letter : Letter} : letter.kind = .real ↔ letter ∈ reals := by
  cases letter <;> decide

theorem family?_eq_real_iff {letter : Letter} : letter.family? = some .real ↔ letter ∈ reals := by
  cases letter <;> decide

end Letter

def Spelling.placeholder (spelling : Spelling) : Bytes :=
  let word := Bytes.ofString "<float>"
  let pad := List.replicate (min (Radix.decimal.read spelling.width) maxCount - word.length) Ascii.space
  if .left ∈ spelling.flags then word ++ pad else pad ++ word

namespace Conversion

theorem field_of_not_real {conversion : Conversion} (other : conversion.letter ∉ Letter.reals) (mode : RealMode)
    (argument : Argument) : conversion.field mode argument = conversion.field .digits argument := by
  rw [field, field]
  cases kind : conversion.letter.kind with
  | real => exact absurd (Letter.kind_eq_real_iff.mp kind) other
  | _ => simp only [render?, kind]

theorem field_placeholder {spelling : Spelling} (real : spelling.letter ∈ Letter.reals) (number : Binary64) :
    spelling.conversion.field .placeholder (.real number) = spelling.placeholder := by
  have kind : spelling.conversion.letter.kind = .real := Letter.kind_eq_real_iff.mpr real
  have shown : spelling.conversion.field .placeholder (.real number) =
      (spelling.conversion.wordLayout.place placeholderField).toBytes := by
    simp only [field, render?, kind, renderReal, Option.getD_some]
  have width : spelling.conversion.wordLayout.width.getD 0 = min (Radix.decimal.read spelling.width) maxCount :=
    spelling.getD_width
  have measured : placeholderField.Measured := Field.measured_ofBytes (by decide)
  have word : placeholderField.bytes = Bytes.ofString "<float>" := by decide
  rw [shown, Layout.toBytes_place_measured (width ▸ Nat.min_le_right _ _) measured, width, word, Spelling.placeholder]
  by_cases left : Flag.left ∈ spelling.flags <;>
    simp only [wordLayout, Spelling.has_conversion, left, ↓reduceIte, Layout.filled, word]

end Conversion

namespace Segment

def texts (mode : RealMode) (segments : List Segment) (arguments : List Argument) : List Bytes :=
  segments.mapIdx fun position segment => segment.text mode arguments (wanting (segments.take position)).length

def withPlaceholder : Segment → Bytes → Bytes
  | literal _ _, text => text
  | conversion spelling, text => if spelling.letter ∈ Letter.reals then spelling.placeholder else text

theorem Fit.exists_argument {segments : List Segment} {arguments : List Argument} (fit : Fit segments arguments)
    {position : Nat} {segment : Segment} (place : segments[position]? = some segment) {conversion : Conversion}
    (wants : segment.wanting? = some conversion) :
    ∃ argument, arguments[(wanting (segments.take position)).length]? = some argument ∧
      conversion.letter.family? = some argument.family := by
  apply fit
  obtain ⟨inside, rfl⟩ := List.getElem?_eq_some_iff.mp place
  have split : segments = segments.take position ++ segments[position] :: segments.drop (position + 1) := by
    rw [List.getElem_cons_drop, List.take_append_drop]
  have wanted : wanting segments =
      wanting (segments.take position) ++ conversion :: wanting (segments.drop (position + 1)) := by
    rw [← wanting_cons_of_some wants]
    exact (congrArg wanting split).trans List.filterMap_append
  rw [wanted, List.getElem?_append_right (Nat.le_refl _), Nat.sub_self, List.getElem?_cons_zero]

theorem text_placeholder {segment : Segment} {arguments : List Argument} {taken : Nat}
    (served : ∀ conversion, segment.wanting? = some conversion →
      ∃ argument, arguments[taken]? = some argument ∧ conversion.letter.family? = some argument.family) :
    segment.text .placeholder arguments taken = segment.withPlaceholder (segment.text .digits arguments taken) := by
  cases segment with
  | literal run plain => rfl
  | conversion spelling =>
    by_cases percent : spelling.letter = .percent
    · have other : Letter.percent ∉ Letter.reals := by decide
      simp only [text, withPlaceholder, percent, other, ↓reduceIte]
    obtain ⟨argument, found, fits⟩ := served spelling.conversion (if_neg percent)
    simp only [text, withPlaceholder, percent, found, ↓reduceIte, Option.map_some, Option.getD_some]
    split
    · rename_i real
      have family := fits.symm.trans (Letter.family?_eq_real_iff.mpr real)
      cases argument with
      | real number => exact Conversion.field_placeholder real number
      | word | char | text => cases family
    · rename_i other
      exact Conversion.field_of_not_real other .placeholder argument

theorem texts_placeholder {segments : List Segment} {arguments : List Argument} (fit : Fit segments arguments) :
    texts .placeholder segments arguments =
      List.zipWith withPlaceholder segments (texts .digits segments arguments) := by
  apply List.ext_getElem
  · simp [texts]
  · intro position inside _
    simp only [texts, List.getElem_mapIdx, List.getElem_zipWith]
    apply text_placeholder
    intro conversion wants
    apply fit.exists_argument (List.getElem?_eq_getElem _) wants

end Segment

namespace Format

open Segment

theorem exists_texts (format : Bytes) (arguments : List Argument) :
    ∃ segments rest verdict, spell segments ++ rest = format.upToNul ∧ Fit segments arguments ∧
      (verdict = .ok () ∧ rest = [] ∨ ∃ fault behind,
        verdict = .error ⟨fault, (spell segments).length⟩ ∧ rest = Ascii.percent :: behind) ∧
      ∀ mode, (expand mode format arguments).bytes = (texts mode segments arguments).flatten ∧
        (expand mode format arguments).verdict = verdict := by
  obtain ⟨segments, rest, split, fit, ending⟩ := readable ⟨arguments, 0⟩ format.upToNul
  rcases ending with rfl | ⟨behind, fault, rfl, refused⟩
  · refine ⟨segments, [], .ok (), split, fit, .inl ⟨rfl, rfl⟩, fun mode => ?_⟩
    rw [List.append_nil] at split
    obtain ⟨written, success⟩ := expand_of_fit split fit mode
    rw [Expansion.bytes_finished, List.append_nil] at written
    exact ⟨written, success⟩
  · refine ⟨segments, _, _, split, fit, .inr ⟨fault, behind, rfl, rfl⟩, fun mode => ?_⟩
    obtain ⟨written, failure⟩ := expand_of_refusal split fit refused mode
    rw [Expansion.bytes_failed, List.append_nil] at written
    exact ⟨written, failure⟩

end Format

end BoundedText
