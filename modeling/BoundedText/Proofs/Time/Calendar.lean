import Mathlib.Algebra.BigOperators.Intervals
import Mathlib.Algebra.Order.BigOperators.Group.Finset
import Mathlib.Data.Int.SuccPred
import Mathlib.Tactic.IntervalCases
import Mathlib.Tactic.Linarith
import BoundedText.Time.Civil

namespace BoundedText.Calendar

def IsLeap (year : Int) : Prop := 4 ∣ year ∧ (100 ∣ year → 400 ∣ year)

instance (year : Int) : Decidable (IsLeap year) := inferInstanceAs (Decidable (_ ∧ _))

def daysInMonth (year : Int) : Nat → Nat
  | 2 => if IsLeap year then 29 else 28
  | 4 | 6 | 9 | 11 => 30
  | _ => 31

theorem daysInMonth_le (year : Int) (month : Nat) : daysInMonth year month ≤ 31 := by
  unfold daysInMonth
  split
  · split <;> decide
  all_goals decide

def daysInYear (year : Int) : Nat := if IsLeap year then 366 else 365

def daysToYear (year : Int) : Int :=
  ∑ past ∈ Finset.range (year - 1970).toNat, (daysInYear (1970 + past) : Int) -
    ∑ coming ∈ Finset.range (1970 - year).toNat, (daysInYear (year + coming) : Int)

def daysToMonth (year : Int) (month : Nat) : Nat := ∑ past ∈ Finset.Ico 1 month, daysInMonth year past

def dayNumber (year : Int) (month day : Nat) : Int := daysToYear year + daysToMonth year month + (day - 1)

theorem isLeapYear_iff (year : Int) : isLeapYear year = true ↔ IsLeap year := by
  simp only [isLeapYear, IsLeap, Bool.and_eq_true, Bool.or_eq_true, beq_iff_eq, bne_iff_ne]
  omega

section Years

theorem daysToYear_succ (year : Int) : daysToYear (year + 1) = daysToYear year + daysInYear year := by
  simp only [daysToYear]
  by_cases later : 1970 ≤ year
  · rw [show (year + 1 - 1970).toNat = (year - 1970).toNat + 1 by omega, Finset.sum_range_succ,
      show (1970 - (year + 1)).toNat = 0 by omega, show (1970 - year).toNat = 0 by omega,
      show 1970 + ((year - 1970).toNat : Int) = year by omega]
    simp
  · rw [show (1970 - year).toNat = (1970 - (year + 1)).toNat + 1 by omega, Finset.sum_range_succ',
      show (year + 1 - 1970).toNat = 0 by omega, show (year - 1970).toNat = 0 by omega]
    simp [Int.add_assoc, Int.add_comm 1]

theorem leapDays_succ (year : Int) :
    year / 4 - year / 100 + year / 400 =
      (year - 1) / 4 - (year - 1) / 100 + (year - 1) / 400 + if IsLeap year then 1 else 0 := by
  have fourth : year / 4 = (year - 1) / 4 + if 4 ∣ year then 1 else 0 := by omega
  have hundredth : year / 100 = (year - 1) / 100 + if 100 ∣ year then 1 else 0 := by omega
  have last : year / 400 = (year - 1) / 400 + if 400 ∣ year then 1 else 0 := by omega
  have century : 400 ∣ year → 100 ∣ year := Int.dvd_trans (by decide)
  have leap : 100 ∣ year → 4 ∣ year := Int.dvd_trans (by decide)
  rw [fourth, hundredth, last]
  simp only [IsLeap]
  grind

theorem daysToYear_eq (year : Int) :
    daysToYear year = 365 * (year - 1970) + (year - 1) / 4 - (year - 1) / 100 + (year - 1) / 400 - 477 := by
  have step (year : Int) : daysToYear (year + 1) = daysToYear year + 365 + if IsLeap year then 1 else 0 := by
    rw [daysToYear_succ, daysInYear]
    split <;> omega
  induction year using Int.inductionOn' (b := 1970) with
  | zero => simp [daysToYear]
  | succ year _ ih =>
    have leap := leapDays_succ year
    have next := step year
    rw [Int.add_sub_cancel]
    linarith
  | pred year _ ih =>
    have leap := leapDays_succ (year - 1)
    have next := step (year - 1)
    rw [Int.sub_add_cancel] at next
    linarith

theorem daysToYear_le {year later : Int} (order : year ≤ later) : daysToYear year ≤ daysToYear later := by
  induction later, order using Int.leInduction with
  | base => exact Int.le_refl _
  | succ later _ ih =>
    rw [daysToYear_succ]
    omega

end Years

section Months

variable (year : Int)

theorem daysToMonth_succ {month : Nat} (positive : 1 ≤ month) :
    daysToMonth year (month + 1) = daysToMonth year month + daysInMonth year month :=
  Finset.sum_Ico_succ_top positive _

theorem daysToMonth_mono : Monotone (daysToMonth year) := fun _ _ sooner =>
  Finset.sum_le_sum_of_subset (Finset.Ico_subset_Ico_right sooner)

theorem daysToMonth_eq {month : Nat} (positive : 1 ≤ month) (bound : month ≤ 12) :
    daysToMonth year month = daysBeforeMonth.getD (month - 1) 0 + if 2 < month ∧ IsLeap year then 1 else 0 := by
  by_cases leap : IsLeap year
  all_goals
    interval_cases month <;> simp [daysToMonth, Finset.sum_Ico_succ_top, daysInMonth, daysBeforeMonth, leap]

theorem daysToMonth_thirteen : daysToMonth year 13 = daysInYear year := by
  by_cases leap : IsLeap year <;>
    simp [daysToMonth, Finset.sum_Ico_succ_top, daysInMonth, daysInYear, leap]

end Months

def IsDate (year : Int) (month day : Nat) : Prop :=
  (1 ≤ month ∧ month ≤ 12) ∧ 1 ≤ day ∧ day ≤ daysInMonth year month

instance (year : Int) (month day : Nat) : Decidable (IsDate year month day) :=
  inferInstanceAs (Decidable (_ ∧ _ ∧ _))

namespace IsDate

variable {year : Int} {month day : Nat}

theorem daysToMonth_add_le (valid : IsDate year month day) :
    daysToMonth year month + day ≤ daysToMonth year (month + 1) := by
  rw [daysToMonth_succ year valid.1.1]
  exact Nat.add_le_add_left valid.2.2 _

theorem daysToMonth_add_le_daysInYear (valid : IsDate year month day) :
    daysToMonth year month + day ≤ daysInYear year := by
  rw [← daysToMonth_thirteen]
  exact valid.daysToMonth_add_le.trans (daysToMonth_mono year (Nat.succ_le_succ valid.1.2))

theorem dayNumber_bounds (valid : IsDate year month day) :
    daysToYear year ≤ dayNumber year month day ∧ dayNumber year month day < daysToYear (year + 1) := by
  have within := valid.daysToMonth_add_le_daysInYear
  have first := valid.2.1
  rw [daysToYear_succ, dayNumber]
  omega

theorem eq_of_dayNumber_eq {year' : Int} {month' day' : Nat} (valid : IsDate year month day)
    (valid' : IsDate year' month' day') (same : dayNumber year month day = dayNumber year' month' day') :
    year = year' ∧ month = month' ∧ day = day' := by
  have bounds := valid.dayNumber_bounds
  have bounds' := valid'.dayNumber_bounds
  have years : year = year' := by
    rcases Int.lt_trichotomy year year' with sooner | same | later
    · have after := daysToYear_le (show year + 1 ≤ year' by omega)
      omega
    · exact same
    · have after := daysToYear_le (show year' + 1 ≤ year by omega)
      omega
  subst years
  have sum : daysToMonth year month + day = daysToMonth year month' + day' := by
    simp only [dayNumber] at same
    omega
  have fits := valid.daysToMonth_add_le
  have fits' := valid'.daysToMonth_add_le
  have first := valid.2.1
  have first' := valid'.2.1
  have months : month = month' := by
    apply le_antisymm
    · exact Nat.lt_add_one_iff.mp ((daysToMonth_mono year).reflect_lt (by omega))
    · exact Nat.lt_add_one_iff.mp ((daysToMonth_mono year).reflect_lt (by omega))
  subst months
  exact ⟨rfl, rfl, by omega⟩

end IsDate

/-- What a calendar and a clock show. -/
structure Reading where
  year : Int
  month : Nat
  day : Nat
  hour : Nat
  minute : Nat
  second : Nat
deriving DecidableEq, Repr

namespace Reading

def Valid (reading : Reading) : Prop :=
  IsDate reading.year reading.month reading.day ∧ reading.hour < 24 ∧ reading.minute < 60 ∧ reading.second < 60

instance (reading : Reading) : Decidable reading.Valid := inferInstanceAs (Decidable (_ ∧ _ ∧ _ ∧ _))

def seconds (reading : Reading) : Int :=
  86400 * dayNumber reading.year reading.month reading.day + 3600 * reading.hour + 60 * reading.minute + reading.second

theorem eq_of_seconds_eq {reading other : Reading} (valid : reading.Valid) (valid' : other.Valid)
    (same : reading.seconds = other.seconds) : reading = other := by
  obtain ⟨date, hours, minutes, seconds⟩ := valid
  obtain ⟨date', hours', minutes', seconds'⟩ := valid'
  simp only [Reading.seconds] at same
  have days : dayNumber reading.year reading.month reading.day = dayNumber other.year other.month other.day := by omega
  have hour : reading.hour = other.hour := by omega
  have minute : reading.minute = other.minute := by omega
  have second : reading.second = other.second := by omega
  obtain ⟨year, month, day⟩ := date.eq_of_dayNumber_eq date' days
  cases reading
  cases other
  simp only at *
  subst year month day hour minute second
  rfl

end Reading

end BoundedText.Calendar
