import BoundedText.Proofs.Time.Checked
import BoundedText.Proofs.Time.Era

namespace BoundedText

open Calendar

def checkedLeap (year : Signed64) : Option Bool := do
  return (← (year % 4).value?) == 0 && ((← (year % 100).value?) != 0 || (← (year % 400).value?) == 0)

theorem checkedLeap_eq {year : Signed64} {value : Int} (same : year.Is value) :
    checkedLeap year = some (isLeapYear value) := by
  have rest {number : Nat} (bounds : 0 < number ∧ number ≤ 400) :
      (year % OfNat.ofNat number : Signed64).Is (value.tmod number) := by
    have positive : 0 < (number : Int) := by omega
    have first := Int.lt_tmod_of_pos value positive
    have last := Int.tmod_lt_of_pos value positive
    exact same.divide (Checked.ofInt_is (by omega)) (by omega) (by omega)
  have fourth : (year % 4).value? = some (value.tmod 4) := rest (by decide)
  have hundredth : (year % 100).value? = some (value.tmod 100) := rest (by decide)
  have last : (year % 400).value? = some (value.tmod 400) := rest (by decide)
  have zero (number : Int) : value.tmod number = 0 ↔ value % number = 0 := by
    rw [← Int.dvd_iff_tmod_eq_zero, ← Int.dvd_iff_emod_eq_zero]
  have same' (number : Int) : (value.tmod number == 0) = (value % number == 0) := by
    rw [Bool.eq_iff_iff, beq_iff_eq, beq_iff_eq, zero]
  simp only [checkedLeap, isLeapYear, fourth, hundredth, last, bne, ← same']
  rfl

namespace EraDay

open Checked

def checkedOfDays (days : Signed64) : Option EraDay := do
  let shifted := days + 719468
  let era := shifted.divEuclid 146097
  let dayOfEra := shifted - era * 146097
  let yearOfEra := (dayOfEra - dayOfEra / 1460 + dayOfEra / 36524 - dayOfEra / 146096) / 365
  let dayOfYear := dayOfEra - (365 * yearOfEra + yearOfEra / 4 - yearOfEra / 100)
  let monthOfYear := (5 * dayOfYear + 2) / 153
  return ⟨← era.value?, ← dayOfEra.value?, ← yearOfEra.value?, ← dayOfYear.value?, ← monthOfYear.value?⟩

theorem yearOfEra_bounds (days : Int) : 0 ≤ (ofDays days).yearOfEra ∧ (ofDays days).yearOfEra ≤ 400 := by
  have bounds := dayOfEra_bounds days
  have definition : (ofDays days).yearOfEra = ((ofDays days).dayOfEra - (ofDays days).dayOfEra / 1460 +
    (ofDays days).dayOfEra / 36524 - (ofDays days).dayOfEra / 146096) / 365 := rfl
  omega

theorem era_bounds {days : Int} (bounds : -10 ^ 15 ≤ days ∧ days ≤ 10 ^ 15) :
    -10 ^ 11 ≤ (ofDays days).era ∧ (ofDays days).era ≤ 10 ^ 11 := by
  simp only [ofDays]
  omega

theorem checkedOfDays_eq {days : Signed64} {value : Int} (same : days.Is value)
    (bounds : -10 ^ 15 ≤ value ∧ value ≤ 10 ^ 15) : checkedOfDays days = some (ofDays value) := by
  obtain ⟨march, first, last, leap⟩ := inYear_ofDays value
  have dayOfEraBounds := dayOfEra_bounds value
  have yearOfEraBounds := yearOfEra_bounds value
  have eraBounds := era_bounds bounds
  unfold checkedOfDays
  extract_lets shifted era dayOfEra yearOfEra dayOfYear monthOfYear
  have shiftedIs : shifted.Is (value + 719468) := same.add (number_is (by decide)) (by omega)
  have eraIs : era.Is (ofDays value).era := by
    apply shiftedIs.divide (number_is (by decide)) (by decide)
    omega
  have dayOfEraIs : dayOfEra.Is (ofDays value).dayOfEra := by
    have whole : (era * 146097).Is ((ofDays value).era * 146097) := eraIs.mul (number_is (by decide)) (by omega)
    apply shiftedIs.sub whole
    simp only [ofDays]
    omega
  have yearOfEraIs : yearOfEra.Is (ofDays value).yearOfEra := by
    have fourths : (dayOfEra / 1460).Is ((ofDays value).dayOfEra / 1460) :=
      dayOfEraIs.div (number_is (by decide)) dayOfEraBounds.1 (by decide) (by omega)
    have hundredths : (dayOfEra / 36524).Is ((ofDays value).dayOfEra / 36524) :=
      dayOfEraIs.div (number_is (by decide)) dayOfEraBounds.1 (by decide) (by omega)
    have eras : (dayOfEra / 146096).Is ((ofDays value).dayOfEra / 146096) :=
      dayOfEraIs.div (number_is (by decide)) dayOfEraBounds.1 (by decide) (by omega)
    have regular := ((dayOfEraIs.sub fourths (by omega)).add hundredths (by omega)).sub eras (by omega)
    exact regular.div (number_is (by decide)) (by omega) (by decide) (by omega)
  have dayOfYearIs : dayOfYear.Is (ofDays value).dayOfYear := by
    have common : (365 * yearOfEra).Is (365 * (ofDays value).yearOfEra) :=
      Is.mul (number_is (by decide)) yearOfEraIs (by omega)
    have fourth : (yearOfEra / 4).Is ((ofDays value).yearOfEra / 4) :=
      yearOfEraIs.div (number_is (by decide)) (by omega) (by decide) (by omega)
    have hundredth : (yearOfEra / 100).Is ((ofDays value).yearOfEra / 100) :=
      yearOfEraIs.div (number_is (by decide)) (by omega) (by decide) (by omega)
    exact dayOfEraIs.sub ((common.add fourth (by omega)).sub hundredth (by omega)) (by omega)
  have monthOfYearIs : monthOfYear.Is (ofDays value).monthOfYear := by
    have fives : (5 * dayOfYear + 2).Is (5 * (ofDays value).dayOfYear + 2) :=
      Is.add (Is.mul (number_is (by decide)) dayOfYearIs (by omega)) (number_is (by decide)) (by omega)
    exact fives.div (number_is (by decide)) (by omega) (by decide) (by omega)
  simp only [Is] at eraIs dayOfEraIs yearOfEraIs dayOfYearIs monthOfYearIs
  rw [eraIs, dayOfEraIs, yearOfEraIs, dayOfYearIs, monthOfYearIs]
  rfl

def checkedDay (date : EraDay) : Unsigned32 :=
  (ofInt date.dayOfYear - (153 * ofInt date.monthOfYear + 2) / 5 + 1 : Signed64).cast

def checkedMonth (date : EraDay) : Unsigned32 :=
  (if date.monthOfYear < 10 then ofInt date.monthOfYear + 3 else ofInt date.monthOfYear - 9 : Signed64).cast

def checkedYear (date : EraDay) : Signed64 :=
  ofInt date.yearOfEra + ofInt date.era * 400 + ofInt (if date.month ≤ 2 then 1 else 0)

def checkedDayOfYear (date : EraDay) : Option Unsigned32 := do
  let before ← daysBeforeMonth[(← (date.checkedMonth - 1).value?).toNat]?
  let leapDay := if 2 < (← date.checkedMonth.value?) ∧ (← checkedLeap date.checkedYear) then 1 else 0
  return ofInt before + date.checkedDay + ofInt leapDay

section Fields

variable (days : Int)

theorem checkedDay_is : (ofDays days).checkedDay.Is (ofDays days).day := by
  obtain ⟨march, first, last, leap⟩ := inYear_ofDays days
  have month : (ofDays days).monthOfYear = (5 * (ofDays days).dayOfYear + 2) / 153 := rfl
  generalize ofDays days = date at *
  have before : ((153 * ofInt date.monthOfYear + 2) / 5 : Signed64).Is ((153 * date.monthOfYear + 2) / 5) := by
    have days : (153 * ofInt date.monthOfYear : Signed64).Is (153 * date.monthOfYear) :=
      Is.mul (number_is (by decide)) (ofInt_is (by omega)) (by omega)
    exact (days.add (number_is (by decide)) (by omega)).div (number_is (by decide)) (by omega) (by decide) (by omega)
  have rest := (ofInt_is (by omega)).sub before (show -2 ^ 63 ≤ date.dayOfYear - _ ∧ _ by omega)
  exact (rest.add (number_is (by decide)) (by omega)).cast (by omega)

theorem checkedMonth_is : (ofDays days).checkedMonth.Is (ofDays days).month := by
  obtain ⟨march, first, last, leap⟩ := inYear_ofDays days
  have month : (ofDays days).monthOfYear = (5 * (ofDays days).dayOfYear + 2) / 153 := rfl
  simp only [checkedMonth, EraDay.month]
  split
  · exact ((ofInt_is (by omega)).add (number_is (by decide)) (by omega)).cast (by omega)
  · exact ((ofInt_is (by omega)).sub (number_is (by decide)) (by omega)).cast (by omega)

variable (bounds : -10 ^ 15 ≤ days ∧ days ≤ 10 ^ 15)
include bounds

theorem checkedYear_is : (ofDays days).checkedYear.Is (ofDays days).year := by
  have inEra := yearOfEra_bounds days
  have eras := era_bounds bounds
  generalize ofDays days = date at *
  have years : (ofInt date.era * 400 : Signed64).Is (date.era * 400) :=
    (ofInt_is (by omega)).mul (number_is (by decide)) (by omega)
  have march := (ofInt_is (by omega)).add years (show -2 ^ 63 ≤ date.yearOfEra + _ ∧ _ by omega)
  have late : 0 ≤ (if date.month ≤ 2 then 1 else 0 : Int) ∧ (if date.month ≤ 2 then 1 else 0 : Int) ≤ 1 := by
    split <;> decide
  exact march.add (ofInt_is (by omega)) (by omega)

theorem checkedDayOfYear_is : ∃ word, checkedDayOfYear (ofDays days) = some word ∧
    word.Is (daysToMonth (ofDays days).year (ofDays days).month.toNat + (ofDays days).day) := by
  have monthIs := checkedMonth_is days
  have dayIs := checkedDay_is days
  have leapIs := checkedLeap_eq (checkedYear_is days bounds)
  obtain ⟨⟨months, dayBounds⟩, same⟩ := date_ofDays days
  have short := daysInMonth_le (ofDays days).year (ofDays days).month.toNat
  have sum := daysToMonth_eq (ofDays days).year months.1 months.2
  generalize ofDays days = date at *
  obtain ⟨month, monthEq⟩ : ∃ month : Nat, date.month = month := ⟨date.month.toNat, by omega⟩
  simp only [monthEq, Int.toNat_natCast] at monthIs months short sum dayBounds ⊢
  have indexIs : (date.checkedMonth - 1).Is ((month : Int) - 1) := monthIs.sub (number_is (by decide)) (by omega)
  have entry : daysBeforeMonth[((month : Int) - 1).toNat]? = some (daysBeforeMonth.getD (month - 1) 0) ∧
      daysBeforeMonth.getD (month - 1) 0 ≤ 334 := by
    obtain ⟨first, last⟩ := months
    interval_cases month <;> decide
  have leapDay : (if 2 < (month : Int) ∧ isLeapYear date.year then 1 else 0) =
      (if 2 < month ∧ IsLeap date.year then 1 else 0 : Int) := by
    simp only [isLeapYear_iff, Nat.ofNat_lt_cast]
  generalize daysBeforeMonth.getD (month - 1) 0 = before at *
  refine ⟨ofInt before + date.checkedDay + ofInt (if 2 < month ∧ IsLeap date.year then 1 else 0), ?_, ?_⟩
  · simp only [Is] at indexIs monthIs
    simp only [checkedDayOfYear, bind, pure, indexIs, monthIs, leapIs, entry.1, Option.bind_some, leapDay]
  · have late : 0 ≤ (if 2 < month ∧ IsLeap date.year then 1 else 0 : Int) ∧
        (if 2 < month ∧ IsLeap date.year then 1 else 0 : Int) ≤ 1 := by split <;> decide
    have total : (daysToMonth date.year month + date.day : Int) =
        before + date.day + if 2 < month ∧ IsLeap date.year then 1 else 0 := by
      rw [sum]
      split <;> omega
    rw [total]
    exact ((ofInt_is (by omega)).add dayIs (by omega)).add (ofInt_is (by omega)) (by omega)

end Fields

end EraDay

end BoundedText
