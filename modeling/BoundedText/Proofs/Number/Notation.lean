import BoundedText.Proofs.Number.Pieces
import BoundedText.Proofs.Number.Rounding

namespace BoundedText

/-- A number in so many decimal places, rounded to the nearest and to the even one of two that are equally near. -/
def IsFixedText (exact : ℚ) (places : Nat) (text : Bytes) : Prop :=
  ∃ units, NearestEven (exact * 10 ^ places) units ∧ Decimal.IsPointText units places text

/-- A number rounded to its leading digit and so many places behind it. What rounds up to the next power of ten is
    written with that power. -/
inductive RoundsScientific (exact : ℚ) (places : Nat) : Nat → Int → Prop where
  | zero (none : exact = 0) : RoundsScientific exact places 0 0
  | positive {leading exponent : Int} {rounded units : Nat} (least : 10 ^ leading ≤ exact)
      (less : exact < 10 ^ (leading + 1)) (nearest : NearestEven (exact / 10 ^ (leading - places)) rounded)
      (same : (units : ℚ) * 10 ^ (exponent - places) = rounded * 10 ^ (leading - places))
      (normal : 10 ^ places ≤ units) (single : units < 10 ^ (places + 1)) :
      RoundsScientific exact places units exponent

def IsPowerText (exponent : Int) (text : Bytes) : Prop :=
  ∃ numeral, Radix.decimal.IsNumeral exponent.natAbs numeral ∧
    text = if exponent < 0 then Ascii.minus :: numeral else numeral

def IsScientificText (exact : ℚ) (mark : UInt8) (places : Nat) (text : Bytes) : Prop :=
  ∃ (digit : UInt8) (fraction : Bytes) (exponent : Int) (power : Bytes),
    (∀ byte ∈ digit :: fraction, byte ∈ Radix.decimal.alphabet) ∧ fraction.length = places ∧
    RoundsScientific exact places (Radix.decimal.read (digit :: fraction)) exponent ∧ IsPowerText exponent power ∧
    text = digit :: ((if places = 0 then [] else Ascii.point :: fraction) ++ mark :: power)

theorem RoundsScientific.lt_pow {exact : ℚ} {places units : Nat} {exponent : Int}
    (rounds : RoundsScientific exact places units exponent) : units < 10 ^ (places + 1) := by
  cases rounds with
  | zero => exact Nat.pow_pos (by decide)
  | positive _ _ _ _ _ single => exact single

namespace Decimal

theorem isFixedText_fixedPieces (places : Nat) (magnitude : Magnitude) :
    IsFixedText magnitude.value places (fixedPieces places magnitude).flatten := by
  refine ⟨roundToExponent magnitude (-places), ?_, isPointText_pointPieces _ _⟩
  have nearest := nearestEven_roundToExponent magnitude (-places)
  rwa [zpow_neg, div_inv_eq_mul, zpow_natCast] at nearest

theorem IsPointText.exists_digit {units places : Nat} {text : Bytes} (point : IsPointText units places text)
    (single : units < 10 ^ (places + 1)) : ∃ (digit : UInt8) (fraction : Bytes),
      (∀ byte ∈ digit :: fraction, byte ∈ Radix.decimal.alphabet) ∧ fraction.length = places ∧
      Radix.decimal.read (digit :: fraction) = units ∧
      text = digit :: if places = 0 then [] else Ascii.point :: fraction := by
  obtain ⟨whole, fraction, numeral, length, spelled, behind, rfl⟩ := point
  have small : units / 10 ^ places < Radix.decimal.base := by
    apply Nat.div_lt_of_lt_mul
    rw [Nat.pow_succ] at single
    exact single
  have own := Radix.isNumeral_numeral Radix.nodup_decimal (units / 10 ^ places)
  have short := numeral.shortest _ own.nonempty own.spelled own.reads
  rw [Radix.length_numeral, Radix.digits_of_lt small, List.length_singleton] at short
  have nonempty := List.length_pos_iff.mpr numeral.nonempty
  obtain ⟨digit, rfl⟩ := List.length_eq_one_iff.mp (Nat.le_antisymm short nonempty)
  refine ⟨digit, fraction, ?_, length, ?_, rfl⟩
  · intro byte member
    rcases List.mem_cons.mp member with rfl | other
    · exact numeral.spelled _ List.mem_cons_self
    · exact spelled byte other
  · have value := Radix.read_append .decimal [digit] fraction
    rw [numeral.reads, behind, length] at value
    exact value.trans (Nat.div_add_mod' units (10 ^ places))

theorem isPowerText_exponentNumeral (exponent : Int) : IsPowerText exponent (exponentNumeral exponent) :=
  ⟨_, Radix.isNumeral_numeral Radix.nodup_decimal _, rfl⟩

variable {magnitude : Magnitude}

theorem scientific_of_isZero (places : Nat) (none : magnitude.isZero = true) :
    scientific places magnitude = (0, 0) := by
  rw [scientific, if_pos none]

theorem scientific_of_pos (places : Nat) (positive : 0 < magnitude.significand) :
    scientific places magnitude =
      let units := roundToExponent magnitude (leading magnitude - places)
      if units = 10 ^ (places + 1) then (10 ^ places, leading magnitude + 1) else (units, leading magnitude) := by
  have nonzero : ¬magnitude.isZero = true := by simpa [Magnitude.isZero] using positive.ne'
  rw [scientific, if_neg nonzero]
  rfl

theorem roundsScientific_scientific (places : Nat) (magnitude : Magnitude) :
    RoundsScientific magnitude.value places (scientific places magnitude).1 (scientific places magnitude).2 := by
  rcases Nat.eq_zero_or_pos magnitude.significand with none | positive
  · have zero : magnitude.isZero = true := beq_of_eq none
    rw [scientific_of_isZero places zero]
    apply RoundsScientific.zero
    rw [Magnitude.value, none, Nat.cast_zero, zero_mul]
  obtain ⟨least, less⟩ := leading_bounds positive
  have nearest := nearestEven_roundToExponent magnitude (leading magnitude - places)
  obtain ⟨lower, upper⟩ := scaled_bounds positive places
  have normal := nearest.le_of_le lower
  have bounded := nearest.le_of_lt upper
  rw [scientific_of_pos places positive]
  simp only
  split
  · rename_i carried
    refine .positive least less nearest ?_ (Nat.le_refl _) (Nat.pow_lt_pow_right (by decide) (Nat.lt_succ_self _))
    have ten : (10 : ℚ) ≠ 0 := by norm_num
    rw [carried]
    push_cast
    rw [add_sub_right_comm, zpow_add_one₀ ten, pow_succ]
    ring
  · rename_i uncarried
    exact .positive least less nearest rfl normal (Nat.lt_of_le_of_ne bounded uncarried)

theorem isScientificText_exponentPieces (mark : UInt8) (places : Nat) (magnitude : Magnitude) :
    IsScientificText magnitude.value mark places (exponentPieces mark places magnitude).flatten := by
  have rounds := roundsScientific_scientific places magnitude
  have point := isPointText_pointPieces (scientific places magnitude).1 places
  obtain ⟨digit, fraction, spelled, length, read, text⟩ := point.exists_digit rounds.lt_pow
  refine ⟨digit, fraction, (scientific places magnitude).2, _, spelled, length, ?_, isPowerText_exponentNumeral _, ?_⟩
  · rwa [read]
  · rw [flatten_exponentPieces, text, List.cons_append]

end Decimal

end BoundedText
