import BoundedText.Field.Number
import BoundedText.Time.Civil

namespace BoundedText

inductive Directive where
  | year
  | yearOfCentury
  | month
  | day
  | spacedDay
  | dayOfYear
  | hour
  | hourOfHalf
  | minute
  | second
  | half
  | shortWeekday
  | weekday
  | shortMonthName
  | monthName
  | date
  | clock
  | unix
  | offset
  | percent
deriving DecidableEq, Repr

namespace Directive

def all : List Directive :=
  [year, yearOfCentury, month, day, spacedDay, dayOfYear, hour, hourOfHalf, minute, second, half, shortWeekday,
    weekday, shortMonthName, monthName, date, clock, unix, offset, percent]

def char : Directive → Char
  | year => 'Y'
  | yearOfCentury => 'y'
  | month => 'm'
  | day => 'd'
  | spacedDay => 'e'
  | dayOfYear => 'j'
  | hour => 'H'
  | hourOfHalf => 'I'
  | minute => 'M'
  | second => 'S'
  | half => 'p'
  | shortWeekday => 'a'
  | weekday => 'A'
  | shortMonthName => 'b'
  | monthName => 'B'
  | date => 'F'
  | clock => 'T'
  | unix => 's'
  | offset => 'z'
  | percent => '%'

def byte (directive : Directive) : UInt8 := directive.char.toUInt8

def ofByte? (byte : UInt8) : Option Directive := all.find? (·.byte == byte)

theorem ofByte?_byte (directive : Directive) : ofByte? directive.byte = some directive := by
  cases directive <;> decide

end Directive

namespace CivilTime

def weekdayNames : List String :=
  ["Sunday", "Monday", "Tuesday", "Wednesday", "Thursday", "Friday", "Saturday"]

def monthNames : List String :=
  ["January", "February", "March", "April", "May", "June", "July", "August", "September", "October", "November",
    "December"]

def weekdayName (time : CivilTime) : Bytes := Bytes.ofString (weekdayNames.getD time.weekday "")

def monthName (time : CivilTime) : Bytes := Bytes.ofString (monthNames.getD (time.month - 1) "")

def number (layout : Layout) (value : Nat) : Text := layout.place (.ofNat .decimal [] value)

def twoDigits (value : Nat) : Text := number (.zeroPadded 2) value

def signedNumber (value : Int) : Text := Layout.plain.place (.ofInt value .none)

def offsetMinutes (time : CivilTime) : Nat := time.offset.toInt.natAbs / 60

def text (time : CivilTime) : Directive → Text
  | .year => signedNumber time.year
  | .yearOfCentury => twoDigits (time.year % 100).toNat
  | .month => twoDigits time.month
  | .day => twoDigits time.day
  | .spacedDay => number (.spacePadded 2) time.day
  | .dayOfYear => number (.zeroPadded 3) time.dayOfYear
  | .hour => twoDigits time.hour
  | .hourOfHalf => twoDigits ((time.hour + 11) % 12 + 1)
  | .minute => twoDigits time.minute
  | .second => twoDigits time.second
  | .half => .ofString (if time.hour < 12 then "AM" else "PM")
  | .shortWeekday => .ofBytes (time.weekdayName.take 3)
  | .weekday => .ofBytes time.weekdayName
  | .shortMonthName => .ofBytes (time.monthName.take 3)
  | .monthName => .ofBytes time.monthName
  | .date =>
    signedNumber time.year ++ .ofByte Ascii.minus ++ twoDigits time.month ++ .ofByte Ascii.minus ++ twoDigits time.day
  | .clock =>
    twoDigits time.hour ++ .ofByte Ascii.colon ++ twoDigits time.minute ++ .ofByte Ascii.colon ++
      twoDigits time.second
  | .unix => signedNumber time.unix.toInt
  | .offset =>
    .ofByte (if time.offset.toInt < 0 then Ascii.minus else Ascii.plus) ++ twoDigits (time.offsetMinutes / 60) ++
      twoDigits (time.offsetMinutes % 60)
  | .percent => .ofByte Ascii.percent

end CivilTime

end BoundedText
