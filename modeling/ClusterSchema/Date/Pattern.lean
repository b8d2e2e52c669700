import ClusterSchema.Date.Directive

/-!
# Patterns

A pattern is a text in which a percent sign starts a directive and two percent signs are one.
`Piece.spelling` writes a piece of a pattern, and `Pattern.read?` takes a pattern apart again, one
directive after the other, without knowing how it was put together.
-/

namespace ClusterSchema.Date

namespace Directive

/-- How a pattern spells a directive, after the percent sign. -/
def letters : Directive → List Char
  | day => ['d']
  | dayUnpadded => ['-', 'd']
  | weekdayShort => ['a']
  | weekdayName => ['A']
  | weekdayFromMonday => ['u']
  | weekdayFromSunday => ['w']
  | isoWeek => ['V']
  | month => ['m']
  | monthUnpadded => ['-', 'm']
  | monthShort => ['b']
  | monthName => ['B']
  | isoYear => ['G']
  | year => ['Y']
  | yearOfCentury => ['y']
  | hour => ['H']
  | hourUnpadded => ['-', 'H']
  | clockHour => ['I']
  | clockHourUnpadded => ['-', 'I']
  | minute => ['M']
  | second => ['S']
  | halfUpper => ['p']
  | halfLower => ['P']
  | microseconds => ['6', 'f']
  | milliseconds => ['3', 'f']
  | zoneName => ['Z']
  | offset => ['z']
  | offsetColon => [':', 'z']
  | unixSeconds => ['s']

end Directive

/-- A piece of a pattern. -/
inductive Piece where
  | literal (c : Char)
  | directive (directive : Directive)
deriving DecidableEq, Repr

namespace Piece

/-- How a pattern spells a piece. -/
def spelling : Piece → List Char
  | literal c => if c = '%' then ['%', '%'] else [c]
  | directive d => '%' :: d.letters

/-- The text of a piece for a time, if the time carries what the piece is about. -/
def text? (t : DateTime) (zone : Option Zone) : Piece → Option (List Char)
  | literal c => some [c]
  | directive d => d.text? t zone

/-- The texts of pieces one after the other. -/
def texts? (t : DateTime) (zone : Option Zone) : List Piece → Option (List Char)
  | [] => some []
  | piece :: rest => do
    let first ← piece.text? t zone
    let others ← texts? t zone rest
    return first ++ others

end Piece

namespace Pattern

/-- The directive that one letter spells. -/
def ofLetter? (c : Char) : Option Directive :=
  match c with
  | 'd' => some .day
  | 'a' => some .weekdayShort
  | 'A' => some .weekdayName
  | 'u' => some .weekdayFromMonday
  | 'w' => some .weekdayFromSunday
  | 'V' => some .isoWeek
  | 'm' => some .month
  | 'b' => some .monthShort
  | 'B' => some .monthName
  | 'G' => some .isoYear
  | 'Y' => some .year
  | 'y' => some .yearOfCentury
  | 'H' => some .hour
  | 'I' => some .clockHour
  | 'M' => some .minute
  | 'S' => some .second
  | 'p' => some .halfUpper
  | 'P' => some .halfLower
  | 'Z' => some .zoneName
  | 'z' => some .offset
  | 's' => some .unixSeconds
  | _ => none

/-- The directive whose padding a minus sign removes. -/
def ofUnpadded? (c : Char) : Option Directive :=
  match c with
  | 'd' => some .dayUnpadded
  | 'm' => some .monthUnpadded
  | 'H' => some .hourUnpadded
  | 'I' => some .clockHourUnpadded
  | _ => none

/-- The piece after a percent sign, and the rest of the pattern. -/
def directive? : List Char → Option (Piece × List Char)
  | '%' :: rest => some (.literal '%', rest)
  | '-' :: c :: rest => (ofUnpadded? c).map fun d => (.directive d, rest)
  | ':' :: 'z' :: rest => some (.directive .offsetColon, rest)
  | '6' :: 'f' :: rest => some (.directive .microseconds, rest)
  | '3' :: 'f' :: rest => some (.directive .milliseconds, rest)
  | c :: rest => (ofLetter? c).map fun d => (.directive d, rest)
  | [] => none

/-- The pieces of a pattern of at most `fuel` characters, if it has no unknown directive. -/
def pieces? : (fuel : Nat) → List Char → Option (List Piece)
  | _, [] => some []
  | 0, _ => none
  | fuel + 1, c :: rest =>
    if c = '%' then do
      let (piece, rest) ← directive? rest
      let others ← pieces? fuel rest
      return piece :: others
    else (pieces? fuel rest).map (.literal c :: ·)

/-- The pieces of a pattern, if it has no unknown directive. -/
def read? (pattern : List Char) : Option (List Piece) := pieces? pattern.length pattern

/-- The text that a pattern has for a time. -/
def text? (pattern : List Char) (t : DateTime) (zone : Option Zone) : Option String := do
  let pieces ← read? pattern
  let chars ← Piece.texts? t zone pieces
  return String.ofList chars

end Pattern

end ClusterSchema.Date
