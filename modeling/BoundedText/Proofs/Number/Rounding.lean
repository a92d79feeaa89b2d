import BoundedText.Number.Rounding
import BoundedText.Proofs.Numeral
import Mathlib.Algebra.Order.Field.Power
import Mathlib.Data.Rat.Defs
import Mathlib.Tactic.FieldSimp
import Mathlib.Tactic.Linarith
import Mathlib.Tactic.NormNum
import Mathlib.Tactic.Positivity
import Mathlib.Tactic.Ring

namespace BoundedText

/-- The whole number nearest to an exact one, the even one of two that are equally near. -/
structure NearestEven (exact : ℚ) (units : Nat) : Prop where
  near : |exact - units| ≤ 1 / 2
  even : |exact - units| = 1 / 2 → units % 2 = 0

def Magnitude.value (magnitude : Magnitude) : ℚ := magnitude.significand * 2 ^ magnitude.exponent

theorem zpow_eq_div (base : ℚ) (exponent : Int) :
    base ^ exponent = base ^ exponent.toNat / base ^ (-exponent).toNat := by
  rcases Int.le_total 0 exponent with positive | negative
  · rw [Int.toNat_of_nonpos (Int.neg_nonpos_of_nonneg positive), pow_zero, div_one, ← zpow_natCast,
      Int.toNat_of_nonneg positive]
  · rw [Int.toNat_of_nonpos negative, pow_zero, one_div, ← zpow_natCast,
      Int.toNat_of_nonneg (Int.neg_nonneg_of_nonpos negative), zpow_neg, inv_inv]

namespace NearestEven

theorem eq_of_natCast {exact units : Nat} (nearest : NearestEven exact units) : units = exact := by
  obtain ⟨lower, upper⟩ := abs_le.mp nearest.near
  have below : exact < units + 1 := by
    have : (exact : ℚ) < units + 1 := by linarith
    exact_mod_cast this
  have above : units < exact + 1 := by
    have : (units : ℚ) < exact + 1 := by linarith
    exact_mod_cast this
  omega

theorem le_of_le {exact : ℚ} {bound units : Nat} (nearest : NearestEven exact units) (least : (bound : ℚ) ≤ exact) :
    bound ≤ units := by
  have upper := (abs_le.mp nearest.near).2
  have : (bound : ℚ) < units + 1 := by linarith
  exact Nat.lt_succ_iff.mp (by exact_mod_cast this)

theorem le_of_lt {exact : ℚ} {bound units : Nat} (nearest : NearestEven exact units) (less : exact < bound) :
    units ≤ bound := by
  have lower := (abs_le.mp nearest.near).1
  have : (units : ℚ) < bound + 1 := by linarith
  exact Nat.lt_succ_iff.mp (by exact_mod_cast this)

section Part

variable {whole : Nat} {part : ℚ}

theorem down (least : 0 ≤ part) (less : part < 1 / 2) : NearestEven (whole + part) whole := by
  have distance : |(whole : ℚ) + part - whole| = part := by
    rw [add_sub_cancel_left, abs_of_nonneg least]
  constructor
  · rw [distance]
    exact less.le
  · intro tie
    rw [distance] at tie
    exact absurd tie less.ne

theorem up (more : 1 / 2 < part) (most : part < 1) : NearestEven (whole + part) (whole + 1) := by
  have distance : |(whole : ℚ) + part - (whole + 1 : Nat)| = 1 - part := by
    push_cast
    rw [add_sub_add_left_eq_sub, abs_sub_comm, abs_of_pos (by linarith)]
  constructor
  · rw [distance]
    linarith
  · intro tie
    rw [distance] at tie
    linarith

theorem half_down (even : whole % 2 = 0) : NearestEven (whole + 1 / 2) whole :=
  ⟨by norm_num, fun _ => even⟩

theorem half_up (odd : whole % 2 ≠ 0) : NearestEven (whole + 1 / 2) (whole + 1) := by
  refine ⟨?_, fun _ => by omega⟩
  push_cast
  norm_num

end Part

end NearestEven

namespace Decimal

theorem nearestEven_roundQuotient (numerator : Nat) {denominator : Nat} (positive : 0 < denominator) :
    NearestEven (numerator / denominator) (roundQuotient numerator denominator) := by
  have scale : (0 : ℚ) < denominator := by exact_mod_cast positive
  have whole := Nat.div_add_mod numerator denominator
  have small := Nat.mod_lt numerator positive
  rw [roundQuotient]
  generalize numerator / denominator = quotient at *
  generalize numerator % denominator = remainder at *
  have split : (numerator : ℚ) / denominator = quotient + remainder / denominator := by
    rw [← whole]
    push_cast
    field_simp
  have least : (0 : ℚ) ≤ remainder / denominator := by positivity
  have most : (remainder : ℚ) / denominator < 1 := (div_lt_one scale).mpr (by exact_mod_cast small)
  rw [split]
  cases order : compare (2 * remainder) denominator with
  | lt =>
    have doubled : 2 * (remainder : ℚ) < denominator := by exact_mod_cast Nat.compare_eq_lt.mp order
    apply NearestEven.down least
    rw [div_lt_iff₀ scale]
    linarith
  | gt =>
    have doubled : (denominator : ℚ) < 2 * remainder := by exact_mod_cast Nat.compare_eq_gt.mp order
    refine NearestEven.up ?_ most
    rw [lt_div_iff₀ scale]
    linarith
  | eq =>
    have doubled : 2 * (remainder : ℚ) = denominator := by exact_mod_cast Nat.compare_eq_eq.mp order
    have half : (remainder : ℚ) / denominator = 1 / 2 := by
      rw [div_eq_iff scale.ne']
      linarith
    rw [half]
    simp only
    split
    · rename_i even
      exact .half_down even
    · rename_i odd
      exact .half_up odd

theorem numerator_div_denominator (magnitude : Magnitude) :
    (magnitude.numerator : ℚ) / magnitude.denominator = magnitude.value := by
  rw [Magnitude.value, zpow_eq_div, Magnitude.numerator, Magnitude.denominator, Nat.shiftLeft_eq, Nat.shiftLeft_eq]
  push_cast
  ring

theorem denominator_pos (magnitude : Magnitude) : 0 < magnitude.denominator := by
  rw [Magnitude.denominator, Nat.shiftLeft_eq]
  positivity

theorem tenTo_eq (power : Nat) : tenTo power = 10 ^ power := rfl

theorem nearestEven_roundToExponent (magnitude : Magnitude) (exponent : Int) :
    NearestEven (magnitude.value / 10 ^ exponent) (roundToExponent magnitude exponent) := by
  have positive : 0 < magnitude.denominator * tenTo exponent.toNat :=
    Nat.mul_pos (denominator_pos magnitude) (Nat.pow_pos (by decide))
  have rounded := nearestEven_roundQuotient (magnitude.numerator * tenTo (-exponent).toNat) positive
  have scaled : ((magnitude.numerator * tenTo (-exponent).toNat : Nat) : ℚ) /
      (magnitude.denominator * tenTo exponent.toNat : Nat) = magnitude.value / 10 ^ exponent := by
    rw [zpow_eq_div 10, ← numerator_div_denominator, tenTo_eq, tenTo_eq]
    push_cast
    field_simp
  rwa [scaled] at rounded

theorem roundToExponent_of_exact {magnitude : Magnitude} {exponent : Int} {units : Nat}
    (exact : magnitude.value / 10 ^ exponent = units) : roundToExponent magnitude exponent = units := by
  have rounded := nearestEven_roundToExponent magnitude exponent
  rw [exact] at rounded
  exact rounded.eq_of_natCast

theorem value_div_sub {magnitude : Magnitude} {exponent : Int} {units : Nat}
    (exact : magnitude.value / 10 ^ exponent = units) (zeros : Nat) :
    magnitude.value / 10 ^ (exponent - zeros) = (units * 10 ^ zeros : Nat) := by
  rw [zpow_sub₀ (by norm_num), zpow_natCast, div_div_eq_mul_div, mul_div_right_comm, exact]
  push_cast
  rfl

theorem pow_le_of_digitCount {value : Nat} (positive : 0 < value) : 10 ^ (digitCount value - 1) ≤ value :=
  Radix.pow_length_digits_le positive

theorem lt_pow_digitCount (value : Nat) : value < 10 ^ digitCount value :=
  Radix.lt_pow_length_digits .decimal value

theorem exists_digitCount (value : Nat) : ∃ count, digitCount value = count + 1 :=
  Nat.exists_eq_add_of_le' (Radix.length_digits_pos .decimal value)

theorem leadingExponent_bounds {numerator denominator : Nat} (positive : 0 < numerator) (scale : 0 < denominator) :
    (10 : ℚ) ^ leadingExponent numerator denominator ≤ numerator / denominator ∧
      (numerator : ℚ) / denominator < 10 ^ (leadingExponent numerator denominator + 1) := by
  have scaled : (0 : ℚ) < denominator := by exact_mod_cast scale
  rw [le_div_iff₀ scaled, div_lt_iff₀ scaled, leadingExponent]
  split
  · rename_i large
    have quotient : 0 < numerator / denominator := Nat.div_pos large scale
    obtain ⟨count, counted⟩ := exists_digitCount (numerator / denominator)
    have lower := (Nat.le_div_iff_mul_le scale).mp (pow_le_of_digitCount quotient)
    have upper := (Nat.div_lt_iff_lt_mul scale).mp (lt_pow_digitCount (numerator / denominator))
    rw [counted] at lower upper ⊢
    have leading : ((count + 1 : Nat) : Int) - 1 = count := by omega
    rw [sub_add_cancel, leading, zpow_natCast, zpow_natCast]
    exact ⟨by exact_mod_cast lower, by exact_mod_cast upper⟩
  · rename_i small
    have quotient : 0 < (denominator - 1) / numerator := Nat.div_pos (by omega) positive
    obtain ⟨count, counted⟩ := exists_digitCount ((denominator - 1) / numerator)
    have lower := (Nat.le_div_iff_mul_le positive).mp (pow_le_of_digitCount quotient)
    have upper := (Nat.div_lt_iff_lt_mul positive).mp (lt_pow_digitCount ((denominator - 1) / numerator))
    rw [counted] at lower upper ⊢
    have next : -((count + 1 : Nat) : Int) + 1 = -(count : Int) := by omega
    rw [next, zpow_neg, zpow_neg, zpow_natCast, zpow_natCast, inv_mul_le_iff₀ (by positivity),
      lt_inv_mul_iff₀ (by positivity)]
    have below : denominator ≤ 10 ^ (count + 1) * numerator := by omega
    have above : 10 ^ count * numerator < denominator := by
      rw [Nat.add_sub_cancel] at lower
      omega
    exact ⟨by exact_mod_cast below, by exact_mod_cast above⟩

def leading (magnitude : Magnitude) : Int := leadingExponent magnitude.numerator magnitude.denominator

theorem leading_bounds {magnitude : Magnitude} (positive : 0 < magnitude.significand) :
    (10 : ℚ) ^ leading magnitude ≤ magnitude.value ∧ magnitude.value < 10 ^ (leading magnitude + 1) := by
  have numerator : 0 < magnitude.numerator := by
    rw [Magnitude.numerator, Nat.shiftLeft_eq]
    positivity
  rw [← numerator_div_denominator]
  exact leadingExponent_bounds numerator (denominator_pos magnitude)

theorem scaled_bounds {magnitude : Magnitude} (positive : 0 < magnitude.significand) (places : Nat) :
    ((10 ^ places : Nat) : ℚ) ≤ magnitude.value / 10 ^ (leading magnitude - places) ∧
      magnitude.value / 10 ^ (leading magnitude - places) < (10 ^ (places + 1) : Nat) := by
  have ten : (10 : ℚ) ≠ 0 := by norm_num
  have first : (places : Int) + (leading magnitude - places) = leading magnitude := by omega
  have next : ((places + 1 : Nat) : Int) + (leading magnitude - places) = leading magnitude + 1 := by omega
  rw [le_div_iff₀ (by positivity), div_lt_iff₀ (by positivity), Nat.cast_pow, Nat.cast_pow, Nat.cast_ofNat,
    ← zpow_natCast, ← zpow_natCast, ← zpow_add₀ ten, ← zpow_add₀ ten, first, next]
  exact leading_bounds positive

end Decimal

end BoundedText
