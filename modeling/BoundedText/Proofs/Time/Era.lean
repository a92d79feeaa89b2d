import Mathlib.Tactic.IntervalCases
import BoundedText.Proofs.Time.Calendar

namespace BoundedText

open Calendar

namespace EraDay

/-- The centuries, the fours of years and the years that a day of an era follows. The last day of every
    fourth year has no new year to begin, and the last day of an era no new century. -/
structure Follows (dayOfEra century four year rest : Int) : Prop where
  days : dayOfEra = 36524 * century + 1461 * four + 365 * year + rest
  centuries : 0 ≤ century ∧ century ≤ 3
  fours : 0 ≤ four ∧ four ≤ 24
  years : 0 ≤ year ∧ year ≤ 3
  rests : 0 ≤ rest ∧ rest ≤ 365
  leap : rest = 365 → year = 3 ∧ (four = 24 → century = 3)

theorem exists_follows {dayOfEra : Int} (nonneg : 0 ≤ dayOfEra) (bound : dayOfEra ≤ 146096) :
    ∃ century four year rest : Int, Follows dayOfEra century four year rest := by
  obtain ⟨century, centuries, first, last, ending⟩ : ∃ century : Int, (0 ≤ century ∧ century ≤ 3) ∧
      0 ≤ dayOfEra - 36524 * century ∧ dayOfEra - 36524 * century ≤ 36524 ∧
      (dayOfEra - 36524 * century = 36524 → century = 3) := by
    by_cases leap : dayOfEra = 146096
    · exact ⟨3, by omega⟩
    · exact ⟨dayOfEra / 36524, by omega⟩
  generalize ofCentury : dayOfEra - 36524 * century = day at first last ending
  obtain ⟨four, fours, first', last'⟩ : ∃ four : Int, (0 ≤ four ∧ four ≤ 24) ∧
      0 ≤ day - 1461 * four ∧ day - 1461 * four ≤ 1460 := ⟨day / 1461, by omega⟩
  generalize ofFour : day - 1461 * four = day' at first' last'
  obtain ⟨year, years, first'', last'', leap⟩ : ∃ year : Int, (0 ≤ year ∧ year ≤ 3) ∧
      0 ≤ day' - 365 * year ∧ day' - 365 * year ≤ 365 ∧ (day' - 365 * year = 365 → year = 3) := by
    by_cases leap : day' = 1460
    · exact ⟨3, by omega⟩
    · exact ⟨day' / 365, by omega⟩
  exact ⟨century, four, year, day' - 365 * year, by omega, centuries, fours, years, ⟨first'', last''⟩, by omega⟩

namespace Follows

variable {dayOfEra century four year rest : Int}

theorem century_eq (follows : Follows dayOfEra century four year rest) :
    dayOfEra / 36524 - dayOfEra / 146096 = century := by
  obtain ⟨days, centuries, fours, years, rests, leap⟩ := follows
  generalize within : 1461 * four + 365 * year + rest = day
  have days' : dayOfEra = 36524 * century + day := by omega
  have bounds : 0 ≤ day ∧ day ≤ 36524 ∧ (day = 36524 → century = 3) := by omega
  clear days fours years rests leap within
  by_cases last : dayOfEra = 146096 <;> omega

/-- What is taken off for the leap days before a day leaves it in its year. -/
theorem yearOfEra_eq (follows : Follows dayOfEra century four year rest) :
    (dayOfEra - dayOfEra / 1460 + dayOfEra / 36524 - dayOfEra / 146096) / 365 = 100 * century + 4 * four + year := by
  have byCentury := follows.century_eq
  obtain ⟨days, centuries, fours, years, rests, leap⟩ := follows
  generalize within : 24 * century + four + 365 * year + rest = day
  have byFour : dayOfEra / 1460 = 25 * century + four + day / 1460 := by omega
  have leaps : 0 ≤ rest - day / 1460 ∧ rest - day / 1460 ≤ 364 := by
    have bounds : 0 ≤ day ∧ day < 2920 := by omega
    have late : 1460 ≤ day → 0 < rest := by omega
    have last : rest = 365 → 1460 ≤ day := by omega
    omega
  have days' : dayOfEra - dayOfEra / 1460 + dayOfEra / 36524 - dayOfEra / 146096 =
      365 * (100 * century + 4 * four + year) + (rest - day / 1460) := by omega
  rw [days', Int.mul_add_ediv_left _ _ (by decide), Int.ediv_eq_zero_of_lt leaps.1 (by omega), Int.add_zero]

end Follows

end EraDay

section March

/-- The lengths of the months from March on are those of 153 days spread over five months. -/
theorem daysInMonth_of_march (year : Int) {month : Nat} (bound : month < 10) :
    (daysInMonth year (month + 3) : Int) = (153 * (month + 1) + 2) / 5 - (153 * month + 2) / 5 := by
  interval_cases month <;> rfl

theorem daysToMonth_of_march (year : Int) {month : Nat} (bound : month < 10) :
    (daysToMonth year (month + 3) : Int) = daysToMonth year 3 + (153 * month + 2) / 5 := by
  induction month with
  | zero => rfl
  | succ month ih =>
    have next := daysToMonth_succ year (show 1 ≤ month + 3 by omega)
    have length := daysInMonth_of_march year (show month < 10 by omega)
    have before := ih (by omega)
    rw [show month + 1 + 3 = month + 3 + 1 by omega, next]
    omega

theorem dayNumber_march (year : Int) :
    dayNumber year 3 1 = 365 * year + year / 4 - year / 100 + year / 400 - 719468 := by
  have leap := leapDays_succ year
  have february : (daysToMonth year 3 : Int) = 59 + if IsLeap year then 1 else 0 := by
    rw [daysToMonth_eq year (by decide) (by decide)]
    simp [daysBeforeMonth]
  rw [dayNumber, daysToYear_eq, february]
  omega

theorem dayNumber_january (year : Int) : dayNumber (year + 1) 1 1 = dayNumber year 3 1 + 306 := by
  by_cases leap : IsLeap year <;>
    simp [dayNumber, daysToYear_succ, daysInYear, daysToMonth, Finset.sum_Ico_succ_top, daysInMonth, leap] <;> omega

theorem dayNumber_february (year : Int) : dayNumber (year + 1) 2 1 = dayNumber year 3 1 + 337 := by
  have january : daysToMonth (year + 1) 2 = daysToMonth (year + 1) 1 + 31 := daysToMonth_succ (year + 1) (le_refl 1)
  have first := dayNumber_january year
  simp only [dayNumber] at first ⊢
  omega

end March

namespace EraDay

/-- The day of a year that begins in March, which ends in a leap day if it has 366 days. -/
structure InYear (date : EraDay) (days : Int) : Prop where
  march : dayNumber (date.yearOfEra + date.era * 400) 3 1 + date.dayOfYear = days
  dayOfYear_nonneg : 0 ≤ date.dayOfYear
  dayOfYear_le : date.dayOfYear ≤ 365
  leap : date.dayOfYear = 365 → IsLeap (date.yearOfEra + date.era * 400 + 1)

theorem dayOfEra_bounds (days : Int) : 0 ≤ (ofDays days).dayOfEra ∧ (ofDays days).dayOfEra ≤ 146096 := by
  simp only [ofDays]
  omega

theorem inYear_ofDays (days : Int) : (ofDays days).InYear days := by
  obtain ⟨first, last⟩ := dayOfEra_bounds days
  obtain ⟨century, four, year, rest, follows⟩ := exists_follows first last
  have yearOfEra : (ofDays days).yearOfEra = 100 * century + 4 * four + year := follows.yearOfEra_eq
  obtain ⟨ofEra, centuries, fours, years, rests, leap⟩ := follows
  have fourth : (ofDays days).yearOfEra / 4 = 25 * century + four := by omega
  have hundredth : (ofDays days).yearOfEra / 100 = century := by omega
  have dayOfYear : (ofDays days).dayOfYear = rest := by
    have definition : (ofDays days).dayOfYear = (ofDays days).dayOfEra -
      (365 * (ofDays days).yearOfEra + (ofDays days).yearOfEra / 4 - (ofDays days).yearOfEra / 100) := rfl
    omega
  have eras : days + 719468 = (ofDays days).era * 146097 + (ofDays days).dayOfEra := by
    have definition : (ofDays days).dayOfEra = days + 719468 - (ofDays days).era * 146097 := rfl
    omega
  constructor
  case march =>
    have fourth' : ((ofDays days).yearOfEra + (ofDays days).era * 400) / 4 =
      25 * century + four + 100 * (ofDays days).era := by omega
    have hundredth' : ((ofDays days).yearOfEra + (ofDays days).era * 400) / 100 =
      century + 4 * (ofDays days).era := by omega
    have era : ((ofDays days).yearOfEra + (ofDays days).era * 400) / 400 = (ofDays days).era := by omega
    rw [dayNumber_march, fourth', hundredth', era]
    omega
  case dayOfYear_nonneg => omega
  case dayOfYear_le => omega
  case leap =>
    rw [dayOfYear, yearOfEra]
    intro ending
    have ends := leap ending
    simp only [IsLeap]
    omega

theorem InYear.date {date : EraDay} {days : Int} (inYear : date.InYear days)
    (month : date.monthOfYear = (5 * date.dayOfYear + 2) / 153) :
    IsDate date.year date.month.toNat date.day.toNat ∧ dayNumber date.year date.month.toNat date.day.toNat = days := by
  obtain ⟨era, dayOfEra, yearOfEra, dayOfYear, monthOfYear⟩ := date
  obtain ⟨march, nonneg, bound, leap⟩ := inYear
  simp only [EraDay.year, EraDay.month, EraDay.day, IsDate] at *
  generalize yearOfEra + era * 400 = year at *
  have positive : 0 ≤ dayOfYear - (153 * monthOfYear + 2) / 5 + 1 := by omega
  obtain ⟨day, ofMonth⟩ := Int.eq_ofNat_of_zero_le positive
  rw [ofMonth, Int.toNat_natCast]
  have cases : (0 ≤ monthOfYear ∧ monthOfYear < 10) ∨ monthOfYear = 10 ∨ monthOfYear = 11 := by omega
  rcases cases with ⟨first, last⟩ | rfl | rfl
  · obtain ⟨month', rfl⟩ := Int.eq_ofNat_of_zero_le first
    have length := daysInMonth_of_march year (show month' < 10 by omega)
    have before := daysToMonth_of_march year (show month' < 10 by omega)
    have within : dayOfYear < (153 * (month' + 1) + 2) / 5 := by omega
    rw [if_pos (by omega), if_neg (by omega), Int.add_zero, show ((month' : Int) + 3).toNat = month' + 3 by omega]
    simp only [dayNumber] at march ⊢
    omega
  · have january := dayNumber_january year
    have length : daysInMonth (year + 1) 1 = 31 := rfl
    rw [if_neg (by decide), if_pos (by decide), show ((10 : Int) - 9).toNat = 1 from rfl]
    simp only [dayNumber] at march january ⊢
    omega
  · have february := dayNumber_february year
    have length : daysInMonth (year + 1) 2 = if IsLeap (year + 1) then 29 else 28 := rfl
    have last : day ≤ daysInMonth (year + 1) 2 := by
      rw [length]
      split <;> rename_i common
      · omega
      · have notLast : dayOfYear ≠ 365 := fun ending => common (leap ending)
        omega
    rw [if_neg (by decide), if_pos (by decide), show ((11 : Int) - 9).toNat = 2 from rfl]
    simp only [dayNumber] at march february ⊢
    omega

theorem date_ofDays (days : Int) :
    IsDate (ofDays days).year (ofDays days).month.toNat (ofDays days).day.toNat ∧
      dayNumber (ofDays days).year (ofDays days).month.toNat (ofDays days).day.toNat = days :=
  (inYear_ofDays days).date rfl

end EraDay

end BoundedText
