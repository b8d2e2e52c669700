/-!
# Decimal numerals

Reading and writing natural numbers in decimal.  A numeral is one or more ASCII digits; `read?`
also takes a plus sign in front and refuses numbers from a limit on.
-/

namespace ClusterSchema.Text.Numeral

/-- The value of an ASCII digit. -/
def digitValue? (c : Char) : Option Nat :=
  if '0' ≤ c ∧ c ≤ '9' then some (c.toNat - '0'.toNat) else none

/-- The number that digits continue, given the number read so far. -/
def continued? (soFar : Nat) : List Char → Option Nat
  | [] => some soFar
  | c :: rest => (digitValue? c).bind fun digit => continued? (10 * soFar + digit) rest

/-- The number that a non-empty run of digits writes. -/
def digits? : List Char → Option Nat
  | [] => none
  | text => continued? 0 text

/-- The least number that does not fit 16 bits. -/
def limit16 : Nat := 65536

/-- The least number that does not fit 64 bits. -/
def limit64 : Nat := 18446744073709551616

/-- The number below `limit` that a numeral with an optional plus sign writes. -/
def read? (limit : Nat) (text : List Char) : Option Nat :=
  let digits :=
    match text with
    | '+' :: rest => rest
    | _ => text
  (digits? digits).filter (· < limit)

/-- A number in decimal. -/
def write (n : Nat) : List Char := Nat.toDigits 10 n

/-- A number in decimal, filled up with zeros to at least `width` digits. -/
def padded (width n : Nat) : List Char :=
  List.replicate (width - (write n).length) '0' ++ write n

/-- An integer in decimal, with a minus sign if it is negative. -/
def writeInt (n : Int) : List Char :=
  if n < 0 then '-' :: write n.natAbs else write n.natAbs

end ClusterSchema.Text.Numeral
