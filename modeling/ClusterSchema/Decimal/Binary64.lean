/-!
# Double-precision numbers

A finite double is `significand * 2 ^ exponent` with a sign, where the significand has at most 53
bits and the exponent is at least `-1074`.  `ofRatio?` takes the double nearest to a fraction, ties
to the even significand, and `shortest` gives back the fewest decimal digits that only this double
is nearest to.  All arithmetic is exact.
-/

namespace ClusterSchema.Decimal

/-- A finite double-precision number. -/
structure Binary64 where
  negative : Bool
  significand : Nat
  exponent : Int
deriving DecidableEq, Repr

/-- The smallest exponent of a double. -/
def minExponent : Int := -1074

/-- The least number that needs more than 53 bits. -/
def significandLimit : Nat := 9007199254740992

/-- The largest exponent of a double. -/
def maxExponent : Int := 971

/-- `numerator / denominator * 2 ^ -exponent` as a fraction again. -/
def scaled (numerator denominator : Nat) (exponent : Int) : Nat × Nat :=
  if exponent < 0 then (numerator <<< exponent.natAbs, denominator)
  else (numerator, denominator <<< exponent.natAbs)

/-- The quotient rounded to the nearest natural number, ties to the even one. -/
def roundToEven (numerator denominator : Nat) : Nat :=
  let quotient := numerator / denominator
  let twiceRest := 2 * (numerator % denominator)
  if twiceRest < denominator then quotient
  else if denominator < twiceRest then quotient + 1
  else if quotient % 2 = 0 then quotient else quotient + 1

namespace Binary64

/-- The exponent at which a positive fraction has a significand of 53 bits, or the smallest one. -/
def exponentFor (numerator denominator : Nat) : Int :=
  let guess : Int := (numerator.log2 : Int) - (denominator.log2 : Int) - 53
  let (n, d) := scaled numerator denominator guess
  let exponent := if n / d < significandLimit then guess else guess + 1
  max exponent minExponent

/-- The double nearest to a fraction, or nothing if the fraction is beyond all doubles. -/
def ofRatio? (negative : Bool) (numerator denominator : Nat) : Option Binary64 :=
  if numerator = 0 then some ⟨negative, 0, minExponent⟩
  else
    let exponent := exponentFor numerator denominator
    let (n, d) := scaled numerator denominator exponent
    let rounded := roundToEven n d
    let (significand, exponent) :=
      if rounded = significandLimit then (significandLimit / 2, exponent + 1)
      else (rounded, exponent)
    if maxExponent < exponent then none else some ⟨negative, significand, exponent⟩

/-- The double nearest to `digits * 10 ^ power`, or nothing if that is beyond all doubles.  Powers
far outside the range of doubles are settled without computing them. -/
def ofDecimal? (negative : Bool) (digits : Nat) (power : Int) : Option Binary64 :=
  let magnitude : Int := (digits.log2 : Int) / 4 + power
  if digits = 0 then ofRatio? negative 0 1
  else if 400 < magnitude then none
  else if (digits.log2 : Int) / 3 + 1 + power < -400 then ofRatio? negative 0 1
  else if power < 0 then ofRatio? negative digits (Nat.pow 10 power.natAbs)
  else ofRatio? negative (digits * Nat.pow 10 power.natAbs) 1

/-- The number without its sign, as a fraction. -/
def ratio (x : Binary64) : Nat × Nat :=
  if x.exponent < 0 then (x.significand, 1 <<< x.exponent.natAbs)
  else (x.significand <<< x.exponent.natAbs, 1)

/-- Whether the double nearest to `digits * 10 ^ power` is `x`, signs apart. -/
def reads (x : Binary64) (digits : Nat) (power : Int) : Bool :=
  match ofDecimal? x.negative digits power with
  | some y => decide (y.significand = x.significand ∧ y.exponent = x.exponent)
  | none => false

/-- The number of decimal digits before the point of a positive fraction; zero or less counts the
zeros after the point. -/
def decimalPlaces (numerator denominator : Nat) : Int :=
  if denominator ≤ numerator then (Nat.toDigits 10 (numerator / denominator)).length
  else 1 - ((Nat.toDigits 10 ((denominator - 1) / numerator)).length : Int)

/-- The value on the grid of multiples of `10 ^ power` below `x`, counted in grid steps, and whether
the one above is nearer or, at the same distance, even. -/
def onGrid (x : Binary64) (power : Int) : Nat × Bool :=
  let (n, d) := x.ratio
  let grid := Nat.pow 10 power.natAbs
  let (n, d) := if power < 0 then (n * grid, d) else (n, d * grid)
  let below := n / d
  let twiceRest := 2 * (n % d)
  (below, decide (d < twiceRest ∨ d = twiceRest ∧ below % 2 = 1))

/-- The first of the grids from `count` digits on that holds a value read as `x`, with the nearer
of the two neighbours when both are. -/
def searchDigits (x : Binary64) (places : Int) : (more count : Nat) → Nat × Int
  | 0, count => ((x.onGrid (places - count)).1, places - count)
  | more + 1, count =>
    let power := places - count
    let (below, upper) := x.onGrid power
    let first := if upper then below + 1 else below
    let second := if upper then below else below + 1
    if x.reads first power then (first, power)
    else if x.reads second power then (second, power)
    else searchDigits x places more (count + 1)

/-- Digits and a power of ten: the fewest digits that read back as `x`.  Rounding up to a power of
ten leaves a zero behind the one, which goes into the power. -/
def shortest (x : Binary64) : Nat × Int :=
  if x.significand = 0 then (0, 0)
  else
    let (n, d) := x.ratio
    let (digits, power) := searchDigits x (decimalPlaces n d) 17 1
    if digits % 10 = 0 then (digits / 10, power + 1) else (digits, power)

/-- Digits without exponent, with a point and at least one digit on either side of it. -/
def positional (digits : Nat) (power : Int) : String :=
  let text := Nat.toDigits 10 digits
  if 0 ≤ power then
    String.ofList (if digits = 0 then ['0'] else text ++ List.replicate power.natAbs '0') ++ ".0"
  else
    let after := power.natAbs
    let padded := List.replicate (after + 1 - text.length) '0' ++ text
    let fraction := (padded.drop (padded.length - after)).reverse.dropWhile (· == '0')
    String.ofList (padded.take (padded.length - after)) ++ "."
      ++ (if fraction.isEmpty then "0" else String.ofList fraction.reverse)

/-- Digits with a point behind the first one, if more follow, and a power of ten with its sign. -/
def scientific (digits : Nat) (power : Int) : String :=
  let text := Nat.toDigits 10 digits
  let mantissa :=
    match text with
    | first :: next :: rest => first :: '.' :: next :: rest
    | _ => text
  let sign := if power < 0 then '-' else '+'
  String.ofList (mantissa ++ 'e' :: sign :: Nat.toDigits 10 power.natAbs)

/-- The least power of ten of a leading digit that is written without an exponent. -/
def leastPositional : Int := -5

/-- The greatest power of ten of a leading digit that is written without an exponent. -/
def greatestPositional : Int := 15

/-- The shortest decimal text that reads back as `x`.  Numbers from `10 ^ -5` and below `10 ^ 16`
are written without an exponent, as is zero. -/
def text (x : Binary64) : String :=
  let (digits, power) := x.shortest
  let leading := power + (Nat.toDigits 10 digits).length - 1
  (if x.negative then "-" else "") ++
    if leastPositional ≤ leading ∧ leading ≤ greatestPositional then positional digits power
    else scientific digits leading

end Binary64

/-- A double-precision value: a finite number or one of the values beyond. -/
inductive Double where
  | finite (value : Binary64)
  | infinite (negative : Bool)
  | nan
deriving DecidableEq, Repr

/-- A double in words: digits for a number, a name for the values beyond. -/
def Double.text : Double → String
  | finite value => value.text
  | infinite false => "inf"
  | infinite true => "-inf"
  | nan => "NaN"

end ClusterSchema.Decimal
