/-!
# The calendar

Dates of the Gregorian calendar, extended to all years, with the day of the week, the week of the
ISO year and the count of days.  A `DateTime` is a wall-clock time on such a date and holds its own
validity.  A second with a billion nanoseconds or more is a leap second.  Where a time is given by
its parts it has to be the last of its minute, but a time that is shifted or changed in one part
keeps its leap second wherever it then stands.
-/

namespace ClusterSchema.Date

/-- Whether a year has a 29th of February. -/
def isLeapYear (year : Int) : Bool :=
  year % 4 == 0 && (year % 100 != 0 || year % 400 == 0)

/-- How many days a month has. -/
def daysInMonth (year : Int) (month : Nat) : Nat :=
  if month = 2 then (if isLeapYear year then 29 else 28)
  else if month = 4 ∨ month = 6 ∨ month = 9 ∨ month = 11 then 30
  else 31

/-- How many days a year has. -/
def daysInYear (year : Int) : Nat := if isLeapYear year then 366 else 365

/-- How many days of the year come before a month. -/
def daysBeforeMonth (year : Int) (month : Nat) : Nat :=
  (List.range (month - 1)).foldl (fun days earlier => days + daysInMonth year (earlier + 1)) 0

/-- How many days come between the start of the year 1 and the start of a year. -/
def daysBeforeYear (year : Int) : Int :=
  let past := year - 1
  365 * past + past / 4 - past / 100 + past / 400

/-- The days between the start of the year 1 and the first of January 1970. -/
def epochDay : Int := daysBeforeYear 1970

/-- What makes the parts of a wall-clock time one that exists.  The years are those that two hundred
sixty-two thousand years on either side of the year 0 allow. -/
def IsDateTime (year : Int) (month day hour minute second nanosecond : Nat) : Prop :=
  (-262143 ≤ year ∧ year ≤ 262142) ∧ (1 ≤ month ∧ month ≤ 12)
    ∧ (1 ≤ day ∧ day ≤ daysInMonth year month) ∧ hour < 24 ∧ minute < 60 ∧ second < 60
    ∧ nanosecond < 2000000000

instance (year : Int) (month day hour minute second nanosecond : Nat) :
    Decidable (IsDateTime year month day hour minute second nanosecond) := by
  unfold IsDateTime; infer_instance

/-- A wall-clock time on a date, without a time zone. -/
structure DateTime where
  year : Int
  month : Nat
  day : Nat
  hour : Nat
  minute : Nat
  second : Nat
  /-- From a billion on, the second is a leap second. -/
  nanosecond : Nat
  valid : IsDateTime year month day hour minute second nanosecond

namespace DateTime

/-- A leap second, if it is one, is the last of its minute. -/
def LeapEndsMinute (t : DateTime) : Prop := 1000000000 ≤ t.nanosecond → t.second = 59

instance (t : DateTime) : Decidable t.LeapEndsMinute := by
  unfold LeapEndsMinute; infer_instance

/-- The wall-clock time with the given parts, if it exists and is no leap second within a minute. -/
def of? (year : Int) (month day hour minute second nanosecond : Nat) : Option DateTime :=
  if valid : IsDateTime year month day hour minute second nanosecond then
    let t : DateTime := { year, month, day, hour, minute, second, nanosecond, valid }
    if t.LeapEndsMinute then some t else none
  else none

/-- The day of the year, from 1. -/
def ordinal (t : DateTime) : Nat := daysBeforeMonth t.year t.month + t.day

/-- The days since the start of the year 1. -/
def dayNumber (t : DateTime) : Int := daysBeforeYear t.year + (t.ordinal : Int) - 1

/-- The day of the week, from 0 for Monday. -/
def weekday (t : DateTime) : Nat := (t.dayNumber % 7).toNat

/-- The number of the Thursday of the week, whose year the week belongs to. -/
def thursday (t : DateTime) : Int := (t.ordinal : Int) + 3 - (t.weekday : Int)

/-- The year that the week belongs to. -/
def isoYear (t : DateTime) : Int :=
  if t.thursday < 1 then t.year - 1
  else if (daysInYear t.year : Int) < t.thursday then t.year + 1
  else t.year

/-- The number of the week in its year. -/
def isoWeek (t : DateTime) : Nat :=
  let day :=
    if t.thursday < 1 then t.thursday + daysInYear (t.year - 1)
    else if (daysInYear t.year : Int) < t.thursday then t.thursday - daysInYear t.year
    else t.thursday
  ((day - 1) / 7).toNat + 1

/-- The second as clocks show it; a leap second at the end of a minute is the second 60. -/
def shownSecond (t : DateTime) : Nat :=
  t.second + t.nanosecond / 1000000000

/-- The nanoseconds within the second. -/
def fraction (t : DateTime) : Nat := t.nanosecond % 1000000000

/-- The hour on a clock face of twelve hours. -/
def clockHour (t : DateTime) : Nat := if t.hour % 12 = 0 then 12 else t.hour % 12

/-- The seconds since the start of 1970 on a clock that shows this time; a leap second counts as the
second before it. -/
def wallSeconds (t : DateTime) : Int :=
  (t.dayNumber - epochDay) * 86400 + ((t.hour * 3600 + t.minute * 60 + t.second : Nat) : Int)

end DateTime

/-- A time zone as a value carries it. -/
inductive Zone where
  /-- Coordinated universal time. -/
  | utc
  /-- A fixed number of seconds east of it. -/
  | east (seconds : Int)
  /-- A zone with a name of its own, by the seconds that it is east at the time. -/
  | named (name : String) (seconds : Int)
deriving DecidableEq, Repr

namespace Zone

/-- The seconds east of coordinated universal time. -/
def seconds : Zone → Int
  | utc => 0
  | east seconds | named _ seconds => seconds

end Zone

end ClusterSchema.Date
