import BoundedText.Proofs.Field
import Mathlib.Data.Nat.Digits.Lemmas

namespace BoundedText

namespace DigitRun

variable {α : Type} (worth : α → Nat)

theorem foldl_min (cap start : Nat) (digits : List α) :
    digits.foldl (fun value digit => min (10 * value + worth digit) cap) (min start cap) =
      min (digits.foldl (fun value digit => 10 * value + worth digit) start) cap := by
  induction digits generalizing start with
  | nil => rfl
  | cons digit digits ih =>
    have step : min (10 * min start cap + worth digit) cap = min (10 * start + worth digit) cap := by omega
    rw [List.foldl_cons, List.foldl_cons, step, ih]

theorem foldl_eq_ofDigits (digits : List α) :
    digits.foldl (fun value digit => 10 * value + worth digit) 0 = Nat.ofDigits 10 (digits.reverse.map worth) := by
  rw [Nat.ofDigits_eq_foldr, List.foldr_map, List.foldr_reverse]
  congr 1
  funext value digit
  exact Nat.add_comm _ _

end DigitRun

namespace Radix

variable {radix : Radix}

def alphabet (radix : Radix) : Bytes := radix.glyphs.take radix.base

/-- The number that a text of such glyphs stands for, its first glyph being the most significant. -/
def read (radix : Radix) (text : Bytes) : Nat := Nat.ofDigits radix.base (text.reverse.map radix.alphabet.idxOf)

theorem length_alphabet (radix : Radix) : radix.alphabet.length = radix.base :=
  List.length_take_of_le radix.base_le_glyphs

theorem one_lt_base (radix : Radix) : 1 < radix.base := by
  have bounds := radix.base_bounds
  omega

theorem read_append (radix : Radix) (front behind : Bytes) :
    radix.read (front ++ behind) = radix.read front * radix.base ^ behind.length + radix.read behind := by
  rw [read, List.reverse_append, List.map_append, Nat.ofDigits_append, List.length_map, List.length_reverse,
    Nat.mul_comm, Nat.add_comm]
  rfl

theorem read_replicate {glyph : UInt8} (first : radix.alphabet.idxOf glyph = 0) (count : Nat) :
    radix.read (List.replicate count glyph) = 0 := by
  rw [read, List.reverse_replicate, List.map_replicate, first, Nat.ofDigits_replicate_zero]

theorem read_lt {text : Bytes} (spelled : ∀ byte ∈ text, byte ∈ radix.alphabet) :
    radix.read text < radix.base ^ text.length := by
  have bound := Nat.ofDigits_lt_base_pow_length (l := text.reverse.map radix.alphabet.idxOf) radix.one_lt_base
  rw [List.length_map, List.length_reverse] at bound
  apply bound
  intro digit member
  obtain ⟨byte, found, rfl⟩ := List.mem_map.mp member
  rw [← radix.length_alphabet]
  exact List.idxOf_lt_length_of_mem (spelled byte (List.mem_reverse.mp found))

theorem read_cut (front : Bytes) {behind : Bytes} (spelled : ∀ byte ∈ behind, byte ∈ radix.alphabet) :
    radix.read (front ++ behind) / radix.base ^ behind.length = radix.read front ∧
      radix.read (front ++ behind) % radix.base ^ behind.length = radix.read behind := by
  have positive : 0 < radix.base ^ behind.length := Nat.pow_pos (Nat.lt_of_succ_lt radix.one_lt_base)
  refine (Nat.div_mod_unique positive).mpr ⟨?_, read_lt spelled⟩
  rw [read_append, Nat.mul_comm, Nat.add_comm]

theorem digits_zero (radix : Radix) : radix.digits 0 = [0] :=
  digits_of_lt (Nat.lt_of_succ_lt radix.one_lt_base)

theorem digits_eq {value : Nat} (positive : 0 < value) :
    radix.digits value = (Nat.digits radix.base value).reverse := by
  induction value using Nat.strongRecOn with
  | ind value ih =>
    rw [Nat.digits_def' radix.one_lt_base positive, List.reverse_cons]
    by_cases single : value < radix.base
    · rw [digits_of_lt single, Nat.mod_eq_of_lt single, Nat.div_eq_of_lt single, Nat.digits_zero]
      rfl
    · have large := Nat.le_of_not_lt single
      have quotient : 0 < value / radix.base := Nat.div_pos large (Nat.lt_of_succ_lt radix.one_lt_base)
      rw [digits_of_le large, ih _ (Nat.div_lt_self positive radix.one_lt_base) quotient]

theorem ofDigits_digits (radix : Radix) (value : Nat) :
    Nat.ofDigits radix.base (radix.digits value).reverse = value := by
  rcases Nat.eq_zero_or_pos value with rfl | positive
  · rw [digits_zero, List.reverse_singleton, Nat.ofDigits_singleton]
  · rw [digits_eq positive, List.reverse_reverse, Nat.ofDigits_digits]

theorem lt_pow_length_digits (radix : Radix) (value : Nat) : value < radix.base ^ (radix.digits value).length := by
  rcases Nat.eq_zero_or_pos value with rfl | positive
  · exact Nat.pow_pos (Nat.lt_of_succ_lt radix.one_lt_base)
  · rw [digits_eq positive, List.length_reverse]
    exact Nat.lt_base_pow_length_digits radix.one_lt_base

theorem pow_length_digits_le {value : Nat} (positive : 0 < value) :
    radix.base ^ ((radix.digits value).length - 1) ≤ value := by
  have nonzero := Nat.ne_of_gt positive
  rw [digits_eq positive, List.length_reverse, Nat.length_digits _ _ radix.one_lt_base nonzero, Nat.add_sub_cancel]
  exact Nat.pow_log_le_self _ nonzero

theorem length_digits_pos (radix : Radix) (value : Nat) : 0 < (radix.digits value).length := by
  rcases Nat.lt_or_ge value radix.base with small | large
  · rw [digits_of_lt small]
    exact Nat.one_pos
  · rw [digits_of_le large, List.length_append]
    exact Nat.succ_pos _

theorem length_numeral (radix : Radix) (value : Nat) : (radix.numeral value).length = (radix.digits value).length :=
  List.length_map _

theorem getElem?_alphabet {digit : Nat} (small : digit < radix.base) :
    radix.alphabet[digit]? = some (radix.glyph digit) := by
  have listed := Nat.lt_of_lt_of_le small radix.base_le_glyphs
  rw [alphabet, List.getElem?_take_of_lt small, glyph, List.getD_eq_getElem?_getD, List.getElem?_eq_getElem listed,
    Option.getD_some]

theorem mem_alphabet_of_mem_numeral {value : Nat} {byte : UInt8} (member : byte ∈ radix.numeral value) :
    byte ∈ radix.alphabet := by
  obtain ⟨digit, found, rfl⟩ := List.mem_map.mp member
  exact List.mem_of_getElem? (getElem?_alphabet (lt_base_of_mem_digits found))

theorem idxOf_alphabet (distinct : radix.alphabet.Nodup) {digit : Nat} {glyph : UInt8}
    (place : radix.alphabet[digit]? = some glyph) : radix.alphabet.idxOf glyph = digit := by
  obtain ⟨listed, rfl⟩ := List.getElem?_eq_some_iff.mp place
  exact distinct.idxOf_getElem digit listed

theorem read_numeral (distinct : radix.alphabet.Nodup) (value : Nat) : radix.read (radix.numeral value) = value := by
  have back : (radix.digits value).map (radix.alphabet.idxOf ∘ radix.glyph) = (radix.digits value).map id := by
    apply List.map_congr_left
    intro digit member
    exact idxOf_alphabet distinct (getElem?_alphabet (lt_base_of_mem_digits member))
  rw [read, numeral, List.map_reverse, List.map_map, back, List.map_id, ofDigits_digits]

/-- Written with the glyphs of the radix, and with as few of them as the value can be written with. -/
structure IsNumeral (radix : Radix) (value : Nat) (text : Bytes) : Prop where
  spelled : ∀ byte ∈ text, byte ∈ radix.alphabet
  nonempty : text ≠ []
  reads : radix.read text = value
  shortest : ∀ other, other ≠ [] → (∀ byte ∈ other, byte ∈ radix.alphabet) → radix.read other = value →
    text.length ≤ other.length

theorem isNumeral_read {text : Bytes} (spelled : ∀ byte ∈ text, byte ∈ radix.alphabet)
    (least : text.length = 1 ∨ 1 < text.length ∧ radix.base ^ (text.length - 1) ≤ radix.read text) :
    radix.IsNumeral (radix.read text) text where
  spelled := spelled
  nonempty empty := by
    rw [empty] at least
    rcases least with single | long
    · cases single
    · cases long.1
  reads := rfl
  shortest other nonempty others same := by
    have positive := List.length_pos_iff.mpr nonempty
    rcases least with single | long
    · omega
    · have upper := read_lt others
      rw [same] at upper
      have shorter := (Nat.pow_lt_pow_iff_right radix.one_lt_base).mp (Nat.lt_of_le_of_lt long.2 upper)
      omega

theorem length_numeral_cases (radix : Radix) (value : Nat) :
    (radix.numeral value).length = 1 ∨
      1 < (radix.numeral value).length ∧ radix.base ^ ((radix.numeral value).length - 1) ≤ value := by
  rw [length_numeral]
  have nonempty := radix.length_digits_pos value
  by_cases single : (radix.digits value).length = 1
  · exact .inl single
  · refine .inr ⟨by omega, pow_length_digits_le ?_⟩
    apply Nat.pos_of_ne_zero
    rintro rfl
    exact single (by rw [digits_zero, List.length_singleton])

theorem isNumeral_numeral (distinct : radix.alphabet.Nodup) (value : Nat) :
    radix.IsNumeral value (radix.numeral value) := by
  have reads := read_numeral distinct value
  have least := radix.length_numeral_cases value
  have spelled : ∀ byte ∈ radix.numeral value, byte ∈ radix.alphabet := fun _ => mem_alphabet_of_mem_numeral
  have numeral := isNumeral_read spelled (by rwa [reads])
  rwa [reads] at numeral

theorem digits_mul_pow {value : Nat} (positive : 0 < value) (zeros : Nat) :
    radix.digits (value * radix.base ^ zeros) = radix.digits value ++ List.replicate zeros 0 := by
  have base := Nat.lt_of_succ_lt radix.one_lt_base
  induction zeros with
  | zero => rw [Nat.pow_zero, Nat.mul_one, List.replicate_zero, List.append_nil]
  | succ zeros ih =>
    have large : radix.base ≤ value * radix.base ^ zeros * radix.base :=
      Nat.le_mul_of_pos_left _ (Nat.mul_pos positive (Nat.pow_pos base))
    rw [Nat.pow_succ, ← Nat.mul_assoc, digits_of_le large, Nat.mul_div_cancel _ base, Nat.mul_mod_left, ih,
      List.append_assoc, List.replicate_succ']

theorem numeral_mul_pow {value : Nat} (positive : 0 < value) (zeros : Nat) :
    radix.numeral (value * radix.base ^ zeros) = radix.numeral value ++ List.replicate zeros (radix.glyph 0) := by
  rw [numeral, digits_mul_pow positive, List.map_append, List.map_replicate, numeral]

theorem nodup_decimal : decimal.alphabet.Nodup := by decide

end Radix

end BoundedText
