import BoundedText.Proofs.Layout
import BoundedText.Proofs.Numeral
import BoundedText.Proofs.Time.WallClock
import BoundedText.Time.Directive

namespace BoundedText

namespace Directive

def IsSigned (value : Int) (text : Bytes) : Prop :=
  ∃ digits, Radix.decimal.IsNumeral value.natAbs digits ∧
    text = (if value < 0 then [Ascii.minus] else []) ++ digits

def IsPadded (fill : UInt8) (width value : Nat) (text : Bytes) : Prop :=
  ∃ digits, Radix.decimal.IsNumeral value digits ∧ text = List.replicate (width - digits.length) fill ++ digits

/-- What a directive may show of a moment. -/
def Shows (time : CivilTime) (text : Bytes) : Directive → Prop
  | .year => IsSigned time.year text
  | .yearOfCentury => ∃ short < 100, (100 : Int) ∣ time.year - (short : Nat) ∧ IsPadded Ascii.zero 2 short text
  | .month => IsPadded Ascii.zero 2 time.month text
  | .day => IsPadded Ascii.zero 2 time.day text
  | .spacedDay => IsPadded Ascii.space 2 time.day text
  | .dayOfYear => IsPadded Ascii.zero 3 time.dayOfYear text ∧ text.length = 3
  | .hour => IsPadded Ascii.zero 2 time.hour text
  | .hourOfHalf => ∃ hour, (1 ≤ hour ∧ hour ≤ 12) ∧ hour % 12 = time.hour % 12 ∧ IsPadded Ascii.zero 2 hour text
  | .minute => IsPadded Ascii.zero 2 time.minute text
  | .second => IsPadded Ascii.zero 2 time.second text
  | .half => text = Bytes.ofString (if time.hour < 12 then "AM" else "PM")
  | .shortWeekday => ∃ name, CivilTime.weekdayNames[time.weekday]? = some name ∧ text = (Bytes.ofString name).take 3
  | .weekday => ∃ name, CivilTime.weekdayNames[time.weekday]? = some name ∧ text = Bytes.ofString name
  | .shortMonthName => ∃ index name, time.month = index + 1 ∧ CivilTime.monthNames[index]? = some name ∧
      text = (Bytes.ofString name).take 3
  | .monthName => ∃ index name, time.month = index + 1 ∧ CivilTime.monthNames[index]? = some name ∧
      text = Bytes.ofString name
  | .date => ∃ year month day, IsSigned time.year year ∧ IsPadded Ascii.zero 2 time.month month ∧
      IsPadded Ascii.zero 2 time.day day ∧ text = year ++ Ascii.minus :: (month ++ Ascii.minus :: day)
  | .clock => ∃ hour minute second, IsPadded Ascii.zero 2 time.hour hour ∧ IsPadded Ascii.zero 2 time.minute minute ∧
      IsPadded Ascii.zero 2 time.second second ∧ text = hour ++ Ascii.colon :: (minute ++ Ascii.colon :: second)
  | .unix => IsSigned time.unix.toInt text
  | .offset => ∃ hours minutes, IsPadded Ascii.zero 2 (time.offset.toInt.natAbs / 3600) hours ∧
      IsPadded Ascii.zero 2 (time.offset.toInt.natAbs % 3600 / 60) minutes ∧
      text = (if time.offset.toInt < 0 then Ascii.minus else Ascii.plus) :: (hours ++ minutes)
  | .percent => text = [Ascii.percent]

end Directive

namespace CivilTime

open Directive

section Numbers

theorem isNumeral_decimal (value : Nat) : Radix.decimal.IsNumeral value (Radix.decimal.numeral value) :=
  Radix.isNumeral_numeral Radix.nodup_decimal value

theorem isSigned_signedNumber (value : Int) : IsSigned value (signedNumber value).toBytes :=
  ⟨_, isNumeral_decimal _, Layout.toBytes_plain_ofInt value⟩

theorem isPadded_zeros {width : Nat} (bounded : width ≤ maxCount) (value : Nat) :
    IsPadded Ascii.zero width value (number (.zeroPadded width) value).toBytes :=
  ⟨_, isNumeral_decimal value, Layout.toBytes_zeroPadded_decimal bounded value⟩

theorem isPadded_spaces {width : Nat} (bounded : width ≤ maxCount) (value : Nat) :
    IsPadded Ascii.space width value (number (.spacePadded width) value).toBytes :=
  ⟨_, isNumeral_decimal value, Layout.toBytes_spacePadded_decimal bounded value⟩

theorem isPadded_twoDigits (value : Nat) : IsPadded Ascii.zero 2 value (twoDigits value).toBytes :=
  isPadded_zeros (by decide) value

end Numbers

structure InRange (time : CivilTime) : Prop where
  year : -2 ^ 63 ≤ time.year ∧ time.year ≤ 2 ^ 63 - 1
  month : 1 ≤ time.month ∧ time.month ≤ 12
  hour : time.hour < 24
  weekday : time.weekday < 7
  dayOfYear : time.dayOfYear ≤ 366

theorem inRange_ofUnix (unix : Int64) (offset : Int32) : (ofUnix unix offset).InRange := by
  obtain ⟨date, hour, -, -⟩ := (reading_ofUnix unix offset).1
  have seconds := localSeconds_eq unix offset
  constructor
  · have inEra := EraDay.yearOfEra_bounds (localSeconds unix offset / 86400)
    have eras := EraDay.era_bounds (show -10 ^ 15 ≤ localSeconds unix offset / 86400 ∧ _ ≤ _ by omega)
    simp only [ofUnix, EraDay.year]
    split <;> omega
  · exact date.1
  · exact hour
  · simp only [ofUnix]
    omega
  · rw [dayOfYear_ofUnix]
    apply date.daysToMonth_add_le_daysInYear.trans
    rw [Calendar.daysInYear]
    split <;> decide

theorem length_dayOfYear {time : CivilTime} (ranges : time.InRange) :
    (time.text .dayOfYear).toBytes.length = 3 := by
  have short : (Radix.decimal.numeral time.dayOfYear).length ≤ 3 := by
    rcases Radix.decimal.length_numeral_cases time.dayOfYear with single | ⟨-, large⟩
    · omega
    · refine Nat.le_of_not_lt fun long => ?_
      have thousand : 10 ^ 3 ≤ 10 ^ ((Radix.decimal.numeral time.dayOfYear).length - 1) :=
        Nat.pow_le_pow_right (by decide) (by omega)
      have year := ranges.dayOfYear
      change 10 ^ _ ≤ _ at large
      omega
  have placed : (time.text .dayOfYear).toBytes = _ := Layout.toBytes_zeroPadded_decimal (by decide) time.dayOfYear
  rw [placed, List.length_append, List.length_replicate]
  omega

section Names

variable {names : List String} {index : Nat} (inside : index < names.length)

include inside

theorem getElem?_getD : names[index]? = some (names.getD index "") := by
  rw [List.getD_eq_getElem?_getD, List.getElem?_eq_getElem inside, Option.getD_some]

theorem toBytes_name (clean : ∀ name ∈ names, 0 ∉ Bytes.ofString name) :
    (Text.ofBytes (Bytes.ofString (names.getD index ""))).toBytes = Bytes.ofString (names.getD index "") := by
  rw [Text.toBytes_ofBytes, Bytes.upToNul_of_not_mem (clean _ (List.mem_of_getElem? (getElem?_getD inside)))]

theorem toBytes_shortName (clean : ∀ name ∈ names, 0 ∉ Bytes.ofString name) (length : Nat) :
    (Text.ofBytes ((Bytes.ofString (names.getD index "")).take length)).toBytes =
      (Bytes.ofString (names.getD index "")).take length := by
  rw [Text.toBytes_ofBytes]
  apply Bytes.upToNul_of_not_mem
  exact fun member => clean _ (List.mem_of_getElem? (getElem?_getD inside)) (List.mem_of_mem_take member)

end Names

theorem zero_not_mem_weekdayNames : ∀ name ∈ weekdayNames, 0 ∉ Bytes.ofString name := by decide

theorem zero_not_mem_monthNames : ∀ name ∈ monthNames, 0 ∉ Bytes.ofString name := by decide

theorem InRange.weekdayIndex {time : CivilTime} (ranges : time.InRange) : time.weekday < weekdayNames.length :=
  ranges.weekday

theorem InRange.monthIndex {time : CivilTime} (ranges : time.InRange) :
    time.month = time.month - 1 + 1 ∧ time.month - 1 < monthNames.length := by
  have month := ranges.month
  have twelve : monthNames.length = 12 := rfl
  omega

theorem shows_text {time : CivilTime} (ranges : time.InRange) (directive : Directive) :
    directive.Shows time (time.text directive).toBytes := by
  cases directive with
  | year | unix => exact isSigned_signedNumber _
  | month | day | hour | minute | second => exact isPadded_twoDigits _
  | yearOfCentury =>
    refine ⟨(time.year % 100).toNat, by omega, by omega, isPadded_twoDigits _⟩
  | spacedDay => exact isPadded_spaces (by decide) _
  | dayOfYear => exact ⟨isPadded_zeros (by decide) _, length_dayOfYear ranges⟩
  | hourOfHalf => exact ⟨(time.hour + 11) % 12 + 1, by omega, by omega, isPadded_twoDigits _⟩
  | half =>
    simp only [Shows, text]
    split <;> decide
  | shortWeekday =>
    have inside := ranges.weekdayIndex
    exact ⟨_, getElem?_getD inside, toBytes_shortName inside zero_not_mem_weekdayNames 3⟩
  | weekday =>
    have inside := ranges.weekdayIndex
    exact ⟨_, getElem?_getD inside, toBytes_name inside zero_not_mem_weekdayNames⟩
  | shortMonthName =>
    obtain ⟨month, inside⟩ := ranges.monthIndex
    exact ⟨_, _, month, getElem?_getD inside, toBytes_shortName inside zero_not_mem_monthNames 3⟩
  | monthName =>
    obtain ⟨month, inside⟩ := ranges.monthIndex
    exact ⟨_, _, month, getElem?_getD inside, toBytes_name inside zero_not_mem_monthNames⟩
  | date =>
    refine ⟨_, _, _, isSigned_signedNumber _, isPadded_twoDigits _, isPadded_twoDigits _, ?_⟩
    simp only [text, Text.toBytes_append, Text.toBytes_ofByte (show Ascii.minus ≠ 0 by decide), List.append_assoc]
    rfl
  | clock =>
    refine ⟨_, _, _, isPadded_twoDigits _, isPadded_twoDigits _, isPadded_twoDigits _, ?_⟩
    simp only [text, Text.toBytes_append, Text.toBytes_ofByte (show Ascii.colon ≠ 0 by decide), List.append_assoc]
    rfl
  | offset =>
    have hours : time.offsetMinutes / 60 = time.offset.toInt.natAbs / 3600 := by
      rw [offsetMinutes]
      omega
    have minutes : time.offsetMinutes % 60 = time.offset.toInt.natAbs % 3600 / 60 := by
      rw [offsetMinutes]
      omega
    refine ⟨_, _, isPadded_twoDigits _, isPadded_twoDigits _, ?_⟩
    have visible : (if time.offset.toInt < 0 then Ascii.minus else Ascii.plus) ≠ 0 := by split <;> decide
    simp only [text, Text.toBytes_append, Text.toBytes_ofByte visible, hours, minutes, List.append_assoc]
    rfl
  | percent => rfl

end CivilTime

end BoundedText
