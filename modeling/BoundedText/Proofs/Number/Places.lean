import BoundedText.Field.Number
import BoundedText.Proofs.Number.Notation

namespace BoundedText

structure Magnitude.InRange (magnitude : Magnitude) : Prop where
  significand : magnitude.significand < 2 ^ 53
  least : -1074 ≤ magnitude.exponent
  greatest : magnitude.exponent ≤ 971

theorem Binary64.exponentField_le (number : Binary64) : number.exponentField ≤ 2047 := by
  rw [exponentField, UInt64.toNat_and]
  exact Nat.and_le_right

theorem Binary64.fraction_lt (number : Binary64) : number.fraction < 2 ^ 52 := by
  rw [fraction, UInt64.toNat_and]
  exact Nat.lt_of_le_of_lt Nat.and_le_right (by decide)

theorem Binary64.inRange_of_content {number : Binary64} {magnitude : Magnitude}
    (finite : number.content = .finite magnitude) : magnitude.InRange := by
  have exponent := number.exponentField_le
  have fraction := number.fraction_lt
  simp only [content] at finite
  split at finite
  · split at finite <;> cases finite
  · split at finite <;> cases finite
    · constructor <;> simp only <;> omega
    · have leading : leadingBit = 2 ^ 52 := rfl
      constructor <;> simp only [leading] <;> omega

namespace Decimal

theorem exists_units (magnitude : Magnitude) (places : Nat) (fine : 0 ≤ magnitude.exponent + places) :
    ∃ units : Nat, magnitude.value / 10 ^ (-(places : Int)) = units := by
  obtain ⟨doublings, same⟩ := Int.eq_ofNat_of_zero_le fine
  refine ⟨magnitude.significand * 2 ^ doublings * 5 ^ places, ?_⟩
  have binary : magnitude.exponent = doublings - places := by omega
  rw [Magnitude.value, binary, zpow_sub₀ (by norm_num), zpow_neg, zpow_natCast, zpow_natCast, zpow_natCast]
  push_cast
  rw [div_inv_eq_mul, show (10 : ℚ) = 2 * 5 by norm_num, mul_pow]
  field_simp

theorem leading_lt {magnitude : Magnitude} (positive : 0 < magnitude.significand) {bound : Nat}
    (less : magnitude.value < 10 ^ bound) : leading magnitude < bound := by
  have lower := (leading_bounds positive).1.trans_lt less
  rw [← zpow_natCast] at lower
  exact (zpow_lt_zpow_iff_right₀ (by norm_num)).mp lower

theorem value_lt {magnitude : Magnitude} (inRange : magnitude.InRange) (bound : Nat)
    (small : magnitude.exponent ≤ bound) : magnitude.value < 2 ^ (53 + bound) := by
  have significand : (magnitude.significand : ℚ) < 2 ^ 53 := by exact_mod_cast inRange.significand
  have power : (2 : ℚ) ^ magnitude.exponent ≤ 2 ^ bound := by
    rw [← zpow_natCast]
    exact zpow_le_zpow_right₀ (by norm_num) small
  rw [Magnitude.value, pow_add]
  exact mul_lt_mul significand power (by positivity) (by positivity)

def Covered (places : Nat) (magnitude : Magnitude) : Prop :=
  0 < magnitude.significand → leading magnitude ≤ places ∧ 0 ≤ magnitude.exponent + (places - leading magnitude)

theorem covered_maxPlaces {magnitude : Magnitude} (inRange : magnitude.InRange) :
    Covered RealStyle.maxPlaces magnitude := by
  intro positive
  have cap : RealStyle.maxPlaces = 1100 := rfl
  have least := inRange.least
  rcases Int.le_total magnitude.exponent 0 with fractional | whole
  · have small : leading magnitude < (16 : Nat) :=
      leading_lt positive ((value_lt inRange 0 fractional).trans (by norm_num))
    omega
  · have powers : (2 : ℚ) ^ (53 + 971) < 10 ^ (53 + 971) := pow_lt_pow_left₀ (by norm_num) (by norm_num) (by norm_num)
    have small : leading magnitude < (53 + 971 : Nat) :=
      leading_lt positive ((value_lt inRange 971 inRange.greatest).trans powers)
    omega

theorem spliced_pointPieces (units : Nat) {places : Nat} (positive : 0 < places) (zeros : Nat) {power : Bytes}
    (marked : ∀ byte ∈ power.head?, Body.isExponentMark byte = true) :
    Body.spliced zeros ((pointPieces units places).flatten ++ power) =
      (pointPieces (units * 10 ^ zeros) (places + zeros)).flatten ++ power := by
  have noMark : (Ascii.point :: Radix.decimal.alphabet).all (!Body.isExponentMark ·) = true := by decide
  have plain : ∀ byte ∈ (pointPieces units places).flatten, Body.isExponentMark byte = false := by
    intro byte member
    have unmarked := List.all_eq_true.mp noMark byte (mem_of_mem_pointPieces member)
    rwa [Bool.not_eq_true'] at unmarked
  rw [Body.spliced_append zeros plain marked, flatten_pointPieces_mul units positive, List.append_assoc]

section Capped

variable {magnitude : Magnitude} {places : Nat}

theorem spliced_fixedPieces (positive : 0 < places) (fine : 0 ≤ magnitude.exponent + places) (zeros : Nat) :
    Body.spliced zeros (fixedPieces places magnitude).flatten = (fixedPieces (places + zeros) magnitude).flatten := by
  obtain ⟨units, exact⟩ := exists_units magnitude places fine
  have finer : -((places + zeros : Nat) : Int) = -(places : Int) - zeros := by omega
  have noPower : ∀ byte ∈ ([] : Bytes).head?, Body.isExponentMark byte = true := by simp
  have spliced := spliced_pointPieces units positive zeros noPower
  rw [List.append_nil, List.append_nil] at spliced
  rw [fixedPieces, fixedPieces, finer, roundToExponent_of_exact exact,
    roundToExponent_of_exact (value_div_sub exact zeros), spliced]

theorem scientific_of_exact (positive : 0 < magnitude.significand) {units : Nat}
    (exact : magnitude.value / 10 ^ (leading magnitude - places) = units) :
    scientific places magnitude = (units, leading magnitude) := by
  have upper := (scaled_bounds positive places).2
  rw [exact, Nat.cast_lt] at upper
  rw [scientific_of_pos places positive, roundToExponent_of_exact exact]
  exact if_neg (Nat.ne_of_lt upper)

theorem scientific_add (covered : Covered places magnitude) (zeros : Nat) :
    scientific (places + zeros) magnitude =
      ((scientific places magnitude).1 * 10 ^ zeros, (scientific places magnitude).2) := by
  rcases Nat.eq_zero_or_pos magnitude.significand with none | positive
  · have zero : magnitude.isZero = true := beq_of_eq none
    rw [scientific_of_isZero _ zero, scientific_of_isZero _ zero, Nat.zero_mul]
  · obtain ⟨small, whole⟩ := covered positive
    obtain ⟨behind, count⟩ := Int.eq_ofNat_of_zero_le (show 0 ≤ (places : Int) - leading magnitude by omega)
    obtain ⟨units, exact⟩ := exists_units magnitude behind (by omega)
    have coarse : magnitude.value / 10 ^ (leading magnitude - places) = units := by
      rw [show leading magnitude - places = -(behind : Int) by omega, exact]
    have finer : leading magnitude - (places + zeros : Nat) = leading magnitude - places - zeros := by omega
    rw [scientific_of_exact positive coarse,
      scientific_of_exact positive (by rw [finer]; exact value_div_sub coarse zeros)]

theorem spliced_exponentPieces (positive : 0 < places) (covered : Covered places magnitude) (zeros : Nat)
    {mark : UInt8} (marked : Body.isExponentMark mark = true) :
    Body.spliced zeros (exponentPieces mark places magnitude).flatten =
      (exponentPieces mark (places + zeros) magnitude).flatten := by
  rw [flatten_exponentPieces, flatten_exponentPieces, scientific_add covered, spliced_pointPieces _ positive]
  intro byte first
  rwa [← Option.some.inj (Option.mem_def.mp first)]

end Capped

end Decimal

/-- Places beyond the cap hold zeros, so to set zeros in there is to compute them. -/
theorem RealStyle.spliced_pieces {magnitude : Magnitude} (inRange : magnitude.InRange) (style : RealStyle)
    (upper : Bool) :
    Body.spliced style.excess (style.capped.pieces upper magnitude).flatten =
      (style.pieces upper magnitude).flatten := by
  have positive : 0 < maxPlaces := by decide
  cases style with
  | fixed places =>
    rcases Nat.le_total places maxPlaces with small | large
    · rw [capped, excess, Nat.min_eq_left small, Nat.sub_eq_zero_of_le small, Body.spliced_zero]
    · obtain ⟨zeros, rfl⟩ := Nat.exists_eq_add_of_le large
      have least := inRange.least
      have cap : maxPlaces = 1100 := rfl
      rw [capped, excess, Nat.min_eq_right large, Nat.add_sub_cancel_left]
      exact Decimal.spliced_fixedPieces positive (by omega) zeros
  | exponent places =>
    rcases Nat.le_total places maxPlaces with small | large
    · rw [capped, excess, Nat.min_eq_left small, Nat.sub_eq_zero_of_le small, Body.spliced_zero]
    · obtain ⟨zeros, rfl⟩ := Nat.exists_eq_add_of_le large
      rw [capped, excess, Nat.min_eq_right large, Nat.add_sub_cancel_left]
      apply Decimal.spliced_exponentPieces positive (Decimal.covered_maxPlaces inRange)
      cases upper <;> decide
  | shortest => exact Body.spliced_zero _

theorem Binary64.toBytes_body {number : Binary64} {magnitude : Magnitude} (finite : number.content = .finite magnitude)
    (style : RealStyle) (upper : Bool) :
    (number.body style upper).text.toBytes = (style.pieces upper magnitude).flatten := by
  have body : number.body style upper = ⟨style.capped.pieces upper magnitude, style.excess⟩ := by
    rw [Binary64.body, finite]
  have clean : ∀ piece ∈ (number.body style upper).pieces, 0 ∉ piece := fun _ => zero_not_mem_of_mem_body
  rw [body] at clean
  rw [body, Body.text, Body.toBytes_splice _ clean, RealStyle.spliced_pieces (inRange_of_content finite)]

end BoundedText
