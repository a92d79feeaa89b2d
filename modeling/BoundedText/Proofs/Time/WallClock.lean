import BoundedText.Proofs.Time.CheckedDate

namespace BoundedText

open Calendar

namespace CivilTime

open Checked

/-- `ofUnix` in words of 64 and 32 bits, which gives nothing if a result overflows, a cast loses a number or
    an index is past the table. The count of local seconds stays at the ends of 64 bits instead. -/
def checkedOfUnix (unix : Int64) (offset : Int32) : Option CivilTime := do
  let seconds : Signed64 := ofInt (localSeconds unix offset)
  let days := seconds.divEuclid 86400
  let secondOfDay : Unsigned32 := (seconds.remEuclid 86400).cast
  let weekday : Unsigned32 := ((days + 4).remEuclid 7).cast
  let date ← EraDay.checkedOfDays days
  let dayOfYear ← date.checkedDayOfYear
  return {
    year := ← date.checkedYear.value?
    month := (← date.checkedMonth.value?).toNat
    day := (← date.checkedDay.value?).toNat
    hour := (← (secondOfDay / 3600).value?).toNat
    minute := (← (secondOfDay / 60 % 60).value?).toNat
    second := (← (secondOfDay % 60).value?).toNat
    weekday := (← weekday.value?).toNat
    dayOfYear := (← dayOfYear.value?).toNat
    unix
    offset }

theorem localSeconds_eq (unix : Int64) (offset : Int32) :
    localSeconds unix offset = max (-2 ^ 63) (min (2 ^ 63 - 1) (unix.toInt + offset.toInt)) := rfl

theorem dayOfYear_ofUnix (unix : Int64) (offset : Int32) : (ofUnix unix offset).dayOfYear =
    daysToMonth (ofUnix unix offset).year (ofUnix unix offset).month + (ofUnix unix offset).day := by
  obtain ⟨⟨first, last⟩, days⟩ := (EraDay.date_ofDays (localSeconds unix offset / 86400)).1
  simp only [ofUnix, daysToMonth_eq _ first last, ← isLeapYear_iff, Bool.and_eq_true, decide_eq_true_eq]
  omega

theorem checkedOfUnix_eq (unix : Int64) (offset : Int32) : checkedOfUnix unix offset = some (ofUnix unix offset) := by
  have bounds : -2 ^ 63 ≤ localSeconds unix offset ∧ localSeconds unix offset ≤ 2 ^ 63 - 1 := by
    rw [localSeconds_eq]
    omega
  have dayOfYear := dayOfYear_ofUnix unix offset
  unfold checkedOfUnix
  extract_lets seconds days secondOfDay weekday
  have secondsIs : seconds.Is (localSeconds unix offset) := ofInt_is bounds
  simp only [ofUnix] at dayOfYear ⊢
  generalize localSeconds unix offset = value at *
  have daysIs : days.Is (value / 86400) := by
    apply secondsIs.divide (number_is (by decide)) (by decide)
    omega
  have secondOfDayIs : secondOfDay.Is (value % 86400) := by
    have rest : (seconds.remEuclid 86400).Is (value % 86400) :=
      secondsIs.divide (number_is (by decide)) (by decide) (by omega)
    exact rest.cast (by omega)
  have weekdayIs : weekday.Is ((value / 86400 + 4) % 7) := by
    have rest : ((days + 4).remEuclid 7).Is ((value / 86400 + 4) % 7) :=
      (daysIs.add (number_is (by decide)) (by omega)).divide (number_is (by decide)) (by decide) (by omega)
    exact rest.cast (by omega)
  have hourIs : (secondOfDay / 3600).Is (value % 86400 / 3600) :=
    secondOfDayIs.div (number_is (by decide)) (by omega) (by decide) (by omega)
  have minutesIs : (secondOfDay / 60).Is (value % 86400 / 60) :=
    secondOfDayIs.div (number_is (by decide)) (by omega) (by decide) (by omega)
  have minuteIs : (secondOfDay / 60 % 60).Is (value % 86400 / 60 % 60) :=
    minutesIs.mod (number_is (by decide)) (by omega) (by decide) (by omega)
  have secondIs : (secondOfDay % 60).Is (value % 86400 % 60) :=
    secondOfDayIs.mod (number_is (by decide)) (by omega) (by decide) (by omega)
  have yearIs := EraDay.checkedYear_is (value / 86400) (by omega)
  have monthIs := EraDay.checkedMonth_is (value / 86400)
  have dayIs := EraDay.checkedDay_is (value / 86400)
  obtain ⟨dayOfYear', computed, dayOfYearIs⟩ := EraDay.checkedDayOfYear_is (value / 86400) (by omega)
  simp only [Is] at weekdayIs hourIs minuteIs secondIs yearIs monthIs dayIs dayOfYearIs
  rw [EraDay.checkedOfDays_eq daysIs (by omega)]
  simp only [bind, pure, Option.bind_some, weekdayIs, hourIs, minuteIs, secondIs, yearIs, monthIs, dayIs, computed,
    dayOfYearIs]
  have positive := (EraDay.date_ofDays (value / 86400)).1.2.1
  rw [dayOfYear]
  congr 2 <;> omega

def reading (time : CivilTime) : Reading := ⟨time.year, time.month, time.day, time.hour, time.minute, time.second⟩

theorem reading_ofUnix (unix : Int64) (offset : Int32) :
    (ofUnix unix offset).reading.Valid ∧ (ofUnix unix offset).reading.seconds = localSeconds unix offset := by
  obtain ⟨date, days⟩ := EraDay.date_ofDays (localSeconds unix offset / 86400)
  simp only [Reading.Valid, Reading.seconds, reading, ofUnix, days]
  exact ⟨⟨date, by omega⟩, by omega⟩

/-- The fields come out of 64-bit and 32-bit words without overflow, and are the one reading of a wall
    clock at the local count of seconds. -/
theorem ofUnix_wallClock (unix : Int64) (offset : Int32) :
    checkedOfUnix unix offset = some (ofUnix unix offset) ∧
    (∀ reading : Reading,
      reading.Valid ∧ reading.seconds = max (-2 ^ 63) (min (2 ^ 63 - 1) (unix.toInt + offset.toInt)) ↔
        reading = (ofUnix unix offset).reading) ∧
    (let time := ofUnix unix offset
     let days := dayNumber time.year time.month time.day
     time.dayOfYear = days - dayNumber time.year 1 1 + 1 ∧ time.weekday = (days + 4) % 7 ∧
      time.unix = unix ∧ time.offset = offset) := by
  obtain ⟨valid, seconds⟩ := reading_ofUnix unix offset
  rw [← localSeconds_eq]
  refine ⟨checkedOfUnix_eq unix offset, fun reading => ?_, ?_⟩
  · constructor
    · rintro ⟨valid', seconds'⟩
      exact Reading.eq_of_seconds_eq valid' valid (seconds'.trans seconds.symm)
    · rintro rfl
      exact ⟨valid, seconds⟩
  · have days := (EraDay.date_ofDays (localSeconds unix offset / 86400)).2
    have january : daysToMonth (ofUnix unix offset).year 1 = 0 := rfl
    refine ⟨?_, ?_, rfl, rfl⟩
    · rw [dayOfYear_ofUnix]
      simp only [dayNumber]
      omega
    · simp only [ofUnix, days]
      omega

end CivilTime

end BoundedText
