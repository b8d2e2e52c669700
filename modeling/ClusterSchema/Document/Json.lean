import ClusterSchema.Decimal.Scaled
import ClusterSchema.Document
import ClusterSchema.NameMap
import ClusterSchema.Text.Numeral

/-!
# Documents in JSON

`Json.read?` takes a JSON text to its document.  The entries of an object come in byte order of
their keys, whatever order the text has, and a key that is repeated keeps its last value.  A number
without point and exponent that fits 64 bits is an integer.  Every other number is a double: of its
digits those count that fit 64 bits together, and they are scaled by a power of ten.
-/

namespace ClusterSchema.Json

/-- Drops the blanks that JSON allows between tokens. -/
def skipBlanks (text : List Char) : List Char :=
  text.dropWhile fun c => c == ' ' || c == '\n' || c == '\t' || c == '\r'

/-- The value of a hexadecimal digit. -/
def hexDigit? (c : Char) : Option Nat :=
  if '0' ≤ c ∧ c ≤ '9' then some (c.toNat - '0'.toNat)
  else if 'a' ≤ c ∧ c ≤ 'f' then some (c.toNat - 'a'.toNat + 10)
  else if 'A' ≤ c ∧ c ≤ 'F' then some (c.toNat - 'A'.toNat + 10)
  else none

/-- The number that four hexadecimal digits write, and the text after them. -/
def hexFour? : List Char → Option (Nat × List Char)
  | a :: b :: c :: d :: rest => do
    let a ← hexDigit? a
    let b ← hexDigit? b
    let c ← hexDigit? c
    let d ← hexDigit? d
    return (((a * 16 + b) * 16 + c) * 16 + d, rest)
  | _ => none

/-- The character of an escape whose letter is `c`, apart from `u`. -/
def simpleEscape? (c : Char) : Option Char :=
  if c == 'n' then some '\n'
  else if c == 't' then some '\t'
  else if c == 'r' then some '\r'
  else if c == 'b' then some '\x08'
  else if c == 'f' then some '\x0c'
  else if c == '/' || c == '\\' || c == '\x22' then some c
  else none

/-- The character of a `\u` escape, after its `u`; a pair of surrogates is one character. -/
def unicodeEscape? (text : List Char) : Option (Char × List Char) := do
  let (high, rest) ← hexFour? text
  if 0xD800 ≤ high ∧ high < 0xDC00 then
    match rest with
    | '\\' :: 'u' :: rest => do
      let (low, rest) ← hexFour? rest
      if 0xDC00 ≤ low ∧ low < 0xE000 then
        return (Char.ofNat (0x10000 + (high - 0xD800) * 0x400 + (low - 0xDC00)), rest)
      else none
    | _ => none
  else if 0xDC00 ≤ high ∧ high < 0xE000 then none
  else return (Char.ofNat high, rest)

/-- The text of a string after its opening quote, and what follows its closing quote.  The
characters read so far come last first. -/
def stringBody : (fuel : Nat) → (read : List Char) → List Char → Option (String × List Char)
  | 0, _, _ => none
  | _ + 1, _, [] => none
  | fuel + 1, read, c :: rest =>
    if c == '\x22' then some (String.ofList read.reverse, rest)
    else if c == '\\' then
      match rest with
      | [] => none
      | 'u' :: rest => do
        let (c, rest) ← unicodeEscape? rest
        stringBody fuel (c :: read) rest
      | c :: rest => do
        let c ← simpleEscape? c
        stringBody fuel (c :: read) rest
    else if c.toNat < 0x20 then none
    else stringBody fuel (c :: read) rest

/-- The value of a run of digits. -/
def digitsValue (digits : List Char) : Nat :=
  (Text.Numeral.continued? 0 digits).getD 0

/-- The exponent part of a number, if there is one. -/
def exponentPart? (text : List Char) : Option (Option Int × List Char) :=
  match text with
  | c :: rest =>
    if c == 'e' || c == 'E' then
      let (negative, rest) :=
        match rest with
        | '-' :: rest => (true, rest)
        | '+' :: rest => (false, rest)
        | _ => (false, rest)
      let digits := rest.takeWhile Char.isDigit
      let value : Int := digitsValue digits
      if digits.isEmpty then none
      else some (some (if negative then -value else value), rest.dropWhile Char.isDigit)
    else some (none, text)
  | [] => some (none, [])

/-- The fraction part of a number, if there is one. -/
def fractionPart? : List Char → Option (Option (List Char) × List Char)
  | '.' :: rest =>
    let digits := rest.takeWhile Char.isDigit
    if digits.isEmpty then none else some (some digits, rest.dropWhile Char.isDigit)
  | text => some (none, text)

/-- Whether an integer fits 64 bits, with a sign if it is negative and without otherwise. -/
def fitsWord (n : Int) : Bool := decide (-9223372036854775808 ≤ n ∧ n < 18446744073709551616)

/-- The number that the leading digits write, as many of them as fit 64 bits behind the number read
so far, and the digits that are left. -/
def wordDigits (soFar : Nat) : List Char → Nat × List Char
  | [] => (soFar, [])
  | c :: rest =>
    let next := 10 * soFar + digitsValue [c]
    if next < Text.Numeral.limit64 then wordDigits next rest else (soFar, c :: rest)

/-- The double that a number with these digits before and after the point stands for.  Digits that
do not fit count with their place before the point, and not at all after it. -/
def double? (negative : Bool) (whole fraction : List Char) (exponent : Int) :
    Option Decimal.Binary64 :=
  let (value, beyond) := wordDigits 0 whole
  let (value, left) := wordDigits value fraction
  let places : Int := (fraction.length : Int) - left.length
  Decimal.Binary64.ofScaled? negative value (exponent + beyond.length - places)

/-- A number after its sign. -/
def number? (negative : Bool) (text : List Char) : Option (Document × List Char) := do
  let whole := text.takeWhile Char.isDigit
  if whole.isEmpty || (whole.head? == some '0' && 1 < whole.length) then none
  else
    let (fraction, rest) ← fractionPart? (text.dropWhile Char.isDigit)
    let (exponent, rest) ← exponentPart? rest
    let value : Int := digitsValue whole
    let value := if negative then -value else value
    if fraction.isNone && exponent.isNone && fitsWord value && !(negative && value == 0) then
      return (.int value, rest)
    else
      let number ← double? negative whole (fraction.getD []) (exponent.getD 0)
      return (.float (.finite number), rest)

/-- What follows `word`, if the text starts with it. -/
def afterWord? (word : List Char) (text : List Char) : Option (List Char) :=
  if word.isPrefixOf text then some (text.drop word.length) else none

mutual

/-- The value at the start of a text, and what follows it. -/
def value? : (fuel : Nat) → List Char → Option (Document × List Char)
  | 0, _ => none
  | fuel + 1, text =>
    match skipBlanks text with
    | [] => none
    | c :: rest =>
      if c == '\x22' then do
        let (s, rest) ← stringBody (rest.length + 1) [] rest
        return (.text s, rest)
      else if c == '[' then
        match skipBlanks rest with
        | ']' :: rest => some (.list [], rest)
        | rest => do
          let (items, rest) ← items? fuel rest
          return (.list items, rest)
      else if c == '\x7b' then
        match skipBlanks rest with
        | '\x7d' :: rest => some (.object [], rest)
        | rest => do
          let (entries, rest) ← entries? fuel rest
          return (.object (NameMap.ofList entries).entries, rest)
      else if c == '-' then number? true rest
      else if c.isDigit then number? false (c :: rest)
      else if c == 'n' then (afterWord? "ull".toList rest).map fun rest => (.null, rest)
      else if c == 't' then (afterWord? "rue".toList rest).map fun rest => (.bool true, rest)
      else if c == 'f' then (afterWord? "alse".toList rest).map fun rest => (.bool false, rest)
      else none

/-- The items of a list up to its closing bracket. -/
def items? : (fuel : Nat) → List Char → Option (List Document × List Char)
  | 0, _ => none
  | fuel + 1, text => do
    let (item, rest) ← value? fuel text
    match skipBlanks rest with
    | ',' :: rest => do
      let (items, rest) ← items? fuel rest
      return (item :: items, rest)
    | ']' :: rest => some ([item], rest)
    | _ => none

/-- The entries of an object up to its closing brace. -/
def entries? : (fuel : Nat) → List Char → Option (List (String × Document) × List Char)
  | 0, _ => none
  | fuel + 1, text => do
    match skipBlanks text with
    | '\x22' :: rest => do
      let (key, rest) ← stringBody (rest.length + 1) [] rest
      match skipBlanks rest with
      | ':' :: rest => do
        let (value, rest) ← value? fuel rest
        match skipBlanks rest with
        | ',' :: rest => do
          let (entries, rest) ← entries? fuel rest
          return ((key, value) :: entries, rest)
        | '\x7d' :: rest => some ([(key, value)], rest)
        | _ => none
      | _ => none
    | _ => none

end

/-- The document that a JSON text writes. -/
def read? (text : String) : Option Document := do
  let chars := text.toList
  let (document, rest) ← value? (chars.length + 1) chars
  if (skipBlanks rest).isEmpty then some document else none

end ClusterSchema.Json
