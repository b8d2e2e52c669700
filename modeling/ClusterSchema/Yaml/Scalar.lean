import ClusterSchema.Document
import ClusterSchema.Document.Json
import ClusterSchema.Yaml.Token.Scalar

/-!
# The types of plain scalars

A plain scalar is null, a boolean, a number or else a text, by the way it is written.  Integers come
in decimal, hexadecimal, octal and binary; decimal digits with a leading zero are a text.  An
integer that fits no 64 bits but 128 is no value at all, and a number beyond those is a double.
-/

namespace ClusterSchema.Yaml

/-- Whether a plain scalar is null. -/
def isNull (text : String) : Bool :=
  text == "" || text == "~" || text == "null" || text == "Null" || text == "NULL"

/-- The boolean that a plain scalar writes. -/
def bool? (text : String) : Option Bool :=
  if text == "true" || text == "True" || text == "TRUE" then some true
  else if text == "false" || text == "False" || text == "FALSE" then some false
  else none

/-- The value of a digit in a base of at most sixteen. -/
def digitIn? (base : Nat) (c : Char) : Option Nat :=
  (hexValue? c).filter (· < base)

/-- The number that digits in a base continue, given the number read so far. -/
def continuedIn? (base soFar : Nat) : List Char → Option Nat
  | [] => some soFar
  | c :: rest => (digitIn? base c).bind fun digit => continuedIn? base (base * soFar + digit) rest

/-- The number that one or more digits in a base write. -/
def digitsIn? (base : Nat) : List Char → Option Nat
  | [] => none
  | text => continuedIn? base 0 text

/-- Whether decimal digits are a text because they start with a needless zero. -/
def hasLeadingZero : List Char → Bool
  | '0' :: rest => !rest.isEmpty && rest.all Char.isDigit
  | _ => false

/-- The number that an unsigned numeral in any of the bases writes. -/
def magnitude? (text : List Char) : Option Nat :=
  let inBase :=
    match text with
    | '0' :: 'x' :: digits => digitsIn? 16 digits
    | '0' :: 'o' :: digits => digitsIn? 8 digits
    | '0' :: 'b' :: digits => digitsIn? 2 digits
    | _ => none
  match inBase with
  | some n => some n
  | none => if hasLeadingZero text then none else digitsIn? 10 text

/-- The integer that a plain scalar writes. -/
def int? (text : List Char) : Option Int :=
  match text with
  | '+' :: rest => (magnitude? rest).map fun n => (n : Int)
  | '-' :: rest => (magnitude? rest).map fun n => -(n : Int)
  | _ => (magnitude? text).map fun n => (n : Int)

/-- Whether an integer fits 128 bits, with a sign if it is negative and without otherwise. -/
def fitsDoubleWord (n : Int) : Bool :=
  decide (-170141183460469231731687303715884105728 ≤ n
    ∧ n < 340282366920938463463374607431768211456)

/-- The double that digits with a point and an exponent write.  Digits may be missing on one side
of the point. -/
def decimal? (negative : Bool) (text : List Char) : Option Decimal.Binary64 := do
  let whole := text.takeWhile Char.isDigit
  let (fraction, rest) :=
    match text.dropWhile Char.isDigit with
    | '.' :: rest => (rest.takeWhile Char.isDigit, rest.dropWhile Char.isDigit)
    | rest => ([], rest)
  let digits := whole ++ fraction
  if digits.isEmpty then none
  else
    let (exponent, rest) ← Json.exponentPart? rest
    if rest.isEmpty then
      Decimal.Binary64.ofDecimal? negative (Json.digitsValue digits)
        (exponent.getD 0 - (fraction.length : Int))
    else none

/-- The double that a plain scalar writes. -/
def double? (text : List Char) : Option Decimal.Double :=
  let word := String.ofList text
  if [".inf", ".Inf", ".INF", "+.inf", "+.Inf", "+.INF"].contains word then some (.infinite false)
  else if ["-.inf", "-.Inf", "-.INF"].contains word then some (.infinite true)
  else if [".nan", ".NaN", ".NAN"].contains word then some .nan
  else
    match text with
    | '+' :: rest => (decimal? false rest).map .finite
    | '-' :: rest => (decimal? true rest).map .finite
    | _ => (decimal? false text).map .finite

/-- A plain scalar that is no integer of at most 128 bits: a double or else a text. -/
def doubleOrText (text : String) : Document :=
  match double? text.toList with
  | some value => .float value
  | none => .text text

/-- The digits of a numeral, without a sign. -/
def unsigned : List Char → List Char
  | '+' :: rest => rest
  | '-' :: rest => rest
  | text => text

/-- The document of a plain scalar, or none if it is an integer that fits 128 but not 64 bits. -/
def document? (text : String) : Option Document :=
  if isNull text then some .null
  else
    match bool? text, int? text.toList with
    | some value, _ => some (.bool value)
    | none, some n =>
      if Json.fitsWord n then some (.int n)
      else if fitsDoubleWord n then none
      else some (doubleOrText text)
    | none, none =>
      if hasLeadingZero (unsigned text.toList) then some (.text text) else some (doubleOrText text)

end ClusterSchema.Yaml
