import ClusterSchema.Date.Pattern

/-!
# Date formats

A date format is a text in which letters stand for parts of a time (`Y-m-d H:i:s`), a backslash
makes the next character literal, and everything else is literal anyway.  A format is turned into a
pattern, and the pattern gives the text of a time.  A letter without a meaning is an error, and so
is a letter about the zone for a time that has none; the first error is looked for over the whole
format before the second.
-/

namespace ClusterSchema.Date

/-- Why a format gives no text. -/
inductive FormatError where
  /-- A letter has no meaning. -/
  | unknownLetter (format : String) (letter : Char)
  /-- A letter is about the zone, and the time has none. -/
  | needsZone (format : String) (letter : Char)
  /-- The pattern of the format has no text. -/
  | noText (format : String)
deriving DecidableEq, Repr

namespace FormatError

/-- The error in words. -/
def message : FormatError → String
  | unknownLetter format letter =>
    "date format `" ++ format ++ "` uses unsupported letter `" ++ letter.toString ++ "`"
  | needsZone format letter =>
    "date format `" ++ format ++ "` uses `" ++ letter.toString
      ++ "`, which needs a value with a timezone"
  | noText format => "date format `" ++ format ++ "` could not render the value"

/-- The letter that an error is about. -/
def letter? : FormatError → Option Char
  | unknownLetter _ letter | needsZone _ letter => some letter
  | noText _ => none

end FormatError

/-- One unit of a format. -/
inductive FormatUnit where
  | literal (c : Char)
  | letter (c : Char)
deriving DecidableEq, Repr

/-- The units of a format.  A backslash at the very end stands for nothing. -/
def units : List Char → List FormatUnit
  | [] => []
  | ['\\'] => []
  | '\\' :: c :: rest => .literal c :: units rest
  | c :: rest => (if c.isAlpha then .letter c else .literal c) :: units rest

/-- The pieces that a letter stands for, if it is not about the zone. -/
def civilPieces? (c : Char) : Option (List Piece) :=
  match c with
  | 'd' => some [.directive .day]
  | 'j' => some [.directive .dayUnpadded]
  | 'D' => some [.directive .weekdayShort]
  | 'l' => some [.directive .weekdayName]
  | 'N' => some [.directive .weekdayFromMonday]
  | 'w' => some [.directive .weekdayFromSunday]
  | 'W' => some [.directive .isoWeek]
  | 'm' => some [.directive .month]
  | 'n' => some [.directive .monthUnpadded]
  | 'M' => some [.directive .monthShort]
  | 'F' => some [.directive .monthName]
  | 'o' => some [.directive .isoYear]
  | 'Y' => some [.directive .year]
  | 'y' => some [.directive .yearOfCentury]
  | 'H' => some [.directive .hour]
  | 'G' => some [.directive .hourUnpadded]
  | 'h' => some [.directive .clockHour]
  | 'g' => some [.directive .clockHourUnpadded]
  | 'i' => some [.directive .minute]
  | 's' => some [.directive .second]
  | 'A' => some [.directive .halfUpper]
  | 'a' => some [.directive .halfLower]
  | 'u' => some [.directive .microseconds]
  | 'v' => some [.directive .milliseconds]
  | _ => none

/-- The pieces that a letter stands for, if it is about the zone. -/
def zonedPieces? (c : Char) : Option (List Piece) :=
  match c with
  | 'e' | 'T' => some [.directive .zoneName]
  | 'O' => some [.directive .offset]
  | 'P' => some [.directive .offsetColon]
  | 'c' =>
    some [.directive .year, .literal '-', .directive .month, .literal '-', .directive .day,
      .literal 'T', .directive .hour, .literal ':', .directive .minute, .literal ':',
      .directive .second, .directive .offsetColon]
  | 'r' =>
    some [.directive .weekdayShort, .literal ',', .literal ' ', .directive .day, .literal ' ',
      .directive .monthShort, .literal ' ', .directive .year, .literal ' ', .directive .hour,
      .literal ':', .directive .minute, .literal ':', .directive .second, .literal ' ',
      .directive .offset]
  | 'U' => some [.directive .unixSeconds]
  | _ => none

/-- The pieces that a letter stands for. -/
def pieces? (c : Char) : Option (List Piece) :=
  match civilPieces? c with
  | some pieces => some pieces
  | none => zonedPieces? c

/-- A date format. -/
structure DateFormat where
  text : String
deriving DecidableEq, Repr

/-- The format of dates where nothing else is said. -/
def defaultFormatText : String := "Y-m-d H:i:s"

instance : Inhabited DateFormat := ⟨⟨defaultFormatText⟩⟩

namespace DateFormat

/-- The format of dates where nothing else is said. -/
def standard : DateFormat := ⟨defaultFormatText⟩

/-- The units of a format. -/
def units (format : DateFormat) : List FormatUnit := Date.units format.text.toList

/-- The pattern that units stand for, put together from spelled pieces. -/
def spelled (format : DateFormat) : List FormatUnit → Except FormatError (List Char)
  | [] => .ok []
  | .literal c :: rest => (spelled format rest).map ((Piece.literal c).spelling ++ ·)
  | .letter c :: rest =>
    match pieces? c with
    | none => .error (.unknownLetter format.text c)
    | some pieces => (spelled format rest).map (pieces.flatMap Piece.spelling ++ ·)

/-- The pattern of a format. -/
def pattern (format : DateFormat) : Except FormatError String :=
  (format.spelled format.units).map String.ofList

/-- The first letter about the zone. -/
def zoneLetter? : List FormatUnit → Option Char
  | [] => none
  | .literal _ :: rest => zoneLetter? rest
  | .letter c :: rest => if (zonedPieces? c).isSome then some c else zoneLetter? rest

/-- The text that a pattern has for a time. -/
def patternText (format : DateFormat) (pattern : List Char) (t : DateTime) (zone : Option Zone) :
    Except FormatError String :=
  match Pattern.text? pattern t zone with
  | some text => .ok text
  | none => .error (.noText format.text)

/-- The text of a time without a zone. -/
def format (format : DateFormat) (t : DateTime) : Except FormatError String := do
  let pattern ← format.spelled format.units
  match zoneLetter? format.units with
  | some letter => .error (.needsZone format.text letter)
  | none => format.patternText pattern t none

/-- The text of a time in a zone. -/
def formatZoned (format : DateFormat) (t : DateTime) (zone : Zone) : Except FormatError String := do
  let pattern ← format.spelled format.units
  format.patternText pattern t (some zone)

end DateFormat

end ClusterSchema.Date
