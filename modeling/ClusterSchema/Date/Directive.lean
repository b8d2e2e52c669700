import ClusterSchema.Date.Calendar
import ClusterSchema.Text.Numeral

/-!
# Directives

The parts of a time that a pattern can ask for, and the text each stands for.  Years outside 0 to
9999 carry a sign and at least four digits.  A directive about the zone has a text only for a time
that carries one.
-/

namespace ClusterSchema.Date

open Text

/-- What a pattern can ask for. -/
inductive Directive where
  | day
  | dayUnpadded
  | weekdayShort
  | weekdayName
  | weekdayFromMonday
  | weekdayFromSunday
  | isoWeek
  | month
  | monthUnpadded
  | monthShort
  | monthName
  | isoYear
  | year
  | yearOfCentury
  | hour
  | hourUnpadded
  | clockHour
  | clockHourUnpadded
  | minute
  | second
  | halfUpper
  | halfLower
  | microseconds
  | milliseconds
  | zoneName
  | offset
  | offsetColon
  | unixSeconds
deriving DecidableEq, Repr

/-- The names of the days of the week, from Monday. -/
def weekdayNames : List String :=
  ["Monday", "Tuesday", "Wednesday", "Thursday", "Friday", "Saturday", "Sunday"]

/-- The names of the months, from January. -/
def monthNames : List String :=
  ["January", "February", "March", "April", "May", "June", "July", "August", "September",
   "October", "November", "December"]

/-- The name at a position of a list of names. -/
def nameAt (names : List String) (position : Nat) : List Char :=
  (names[position]?.getD "").toList

/-- A year: four digits from 0 to 9999, and a sign with at least four digits outside. -/
def yearText (year : Int) : List Char :=
  if 0 ≤ year ∧ year ≤ 9999 then Numeral.padded 4 year.natAbs
  else (if year < 0 then '-' else '+') :: Numeral.padded 4 year.natAbs

/-- A sign for seconds east. -/
def offsetSign (seconds : Int) : Char := if seconds < 0 then '-' else '+'

/-- An offset in hours and minutes with `between` between them, rounded to the nearest minute and
away from zero at half a minute. -/
def offsetText (between : List Char) (seconds : Int) : List Char :=
  let minutes := (seconds.natAbs + 30) / 60
  offsetSign seconds :: Numeral.padded 2 (minutes / 60) ++ between
    ++ Numeral.padded 2 (minutes % 60)

/-- The name of a zone; a fixed offset is named by its hours, minutes and, if any, seconds. -/
def zoneText : Zone → List Char
  | .utc => "UTC".toList
  | .named name _ => name.toList
  | .east seconds =>
    let n := seconds.natAbs
    offsetSign seconds :: Numeral.padded 2 (n / 3600) ++ ':' :: Numeral.padded 2 (n / 60 % 60)
      ++ (if n % 60 = 0 then [] else ':' :: Numeral.padded 2 (n % 60))

namespace Directive

/-- Whether a directive is about the zone. -/
def needsZone : Directive → Bool
  | zoneName | offset | offsetColon | unixSeconds => true
  | _ => false

/-- The text of a directive that is not about the zone. -/
def civilText (t : DateTime) : Directive → List Char
  | day => Numeral.padded 2 t.day
  | dayUnpadded => Numeral.write t.day
  | weekdayShort => (nameAt weekdayNames t.weekday).take 3
  | weekdayName => nameAt weekdayNames t.weekday
  | weekdayFromMonday => Numeral.write (t.weekday + 1)
  | weekdayFromSunday => Numeral.write ((t.weekday + 1) % 7)
  | isoWeek => Numeral.padded 2 t.isoWeek
  | month => Numeral.padded 2 t.month
  | monthUnpadded => Numeral.write t.month
  | monthShort => (nameAt monthNames (t.month - 1)).take 3
  | monthName => nameAt monthNames (t.month - 1)
  | isoYear => yearText t.isoYear
  | year => yearText t.year
  | yearOfCentury => Numeral.padded 2 (t.year % 100).toNat
  | hour => Numeral.padded 2 t.hour
  | hourUnpadded => Numeral.write t.hour
  | clockHour => Numeral.padded 2 t.clockHour
  | clockHourUnpadded => Numeral.write t.clockHour
  | minute => Numeral.padded 2 t.minute
  | second => Numeral.padded 2 t.shownSecond
  | halfUpper => if t.hour < 12 then ['A', 'M'] else ['P', 'M']
  | halfLower => if t.hour < 12 then ['a', 'm'] else ['p', 'm']
  | microseconds => Numeral.padded 6 (t.fraction / 1000)
  | milliseconds => Numeral.padded 3 (t.fraction / 1000000)
  | zoneName | offset | offsetColon | unixSeconds => []

/-- The text of a directive about the zone. -/
def zonedText (t : DateTime) (zone : Zone) : Directive → List Char
  | zoneName => zoneText zone
  | offset => offsetText [] zone.seconds
  | offsetColon => offsetText [':'] zone.seconds
  | unixSeconds => Numeral.writeInt (t.wallSeconds - zone.seconds)
  | _ => []

/-- The text of a directive, if the time carries what it is about. -/
def text? (t : DateTime) (zone : Option Zone) (directive : Directive) : Option (List Char) :=
  if directive.needsZone then zone.map fun zone => directive.zonedText t zone
  else some (directive.civilText t)

end Directive

end ClusterSchema.Date
