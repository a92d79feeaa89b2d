namespace BoundedText

/-- A day in the calendar of years that begin in March, so that a leap day is the last of its year.
    Eras are the periods of 400 years after which the calendar repeats. -/
structure EraDay where
  era : Int
  dayOfEra : Int
  yearOfEra : Int
  dayOfYear : Int
  monthOfYear : Int
deriving DecidableEq, Repr

namespace EraDay

/-- The day so many days after 1970-01-01. The first era begins 719468 days before that. -/
def ofDays (days : Int) : EraDay :=
  let shifted := days + 719468
  let era := shifted / 146097
  let dayOfEra := shifted - era * 146097
  -- A fourth year, a century and an era each end in a day that belongs to no new year.
  let yearOfEra := (dayOfEra - dayOfEra / 1460 + dayOfEra / 36524 - dayOfEra / 146096) / 365
  let dayOfYear := dayOfEra - (365 * yearOfEra + yearOfEra / 4 - yearOfEra / 100)
  -- From March on, every five months have 153 days.
  ⟨era, dayOfEra, yearOfEra, dayOfYear, (5 * dayOfYear + 2) / 153⟩

def day (date : EraDay) : Int := date.dayOfYear - (153 * date.monthOfYear + 2) / 5 + 1

def month (date : EraDay) : Int := if date.monthOfYear < 10 then date.monthOfYear + 3 else date.monthOfYear - 9

def year (date : EraDay) : Int := date.yearOfEra + date.era * 400 + if date.month ≤ 2 then 1 else 0

end EraDay

def isLeapYear (year : Int) : Bool := year % 4 == 0 && (year % 100 != 0 || year % 400 == 0)

def daysBeforeMonth : List Nat := [0, 31, 59, 90, 120, 151, 181, 212, 243, 273, 304, 334]

/-- A moment as clocks and calendars show it some seconds east of Greenwich. Weekdays count from
    Sunday as 0, all other fields as they are written. -/
structure CivilTime where
  year : Int
  month : Nat
  day : Nat
  hour : Nat
  minute : Nat
  second : Nat
  weekday : Nat
  dayOfYear : Nat
  unix : Int64
  offset : Int32
deriving DecidableEq, Repr

namespace CivilTime

/-- The seconds a local clock has counted since 1970-01-01. A count past the ends of 64 bits stays
    at the end. -/
def localSeconds (unix : Int64) (offset : Int32) : Int :=
  max Int64.minValue.toInt (min Int64.maxValue.toInt (unix.toInt + offset.toInt))

def ofUnix (unix : Int64) (offset : Int32) : CivilTime :=
  let seconds := localSeconds unix offset
  let days := seconds / 86400
  let secondOfDay := (seconds % 86400).toNat
  let date := EraDay.ofDays days
  let month := date.month.toNat
  let day := date.day.toNat
  let leapDay := if 2 < month && isLeapYear date.year then 1 else 0
  { year := date.year
    month
    day
    hour := secondOfDay / 3600
    minute := secondOfDay / 60 % 60
    second := secondOfDay % 60
    weekday := ((days + 4) % 7).toNat
    dayOfYear := daysBeforeMonth.getD (month - 1) 0 + day + leapDay
    unix
    offset }

end CivilTime

end BoundedText
