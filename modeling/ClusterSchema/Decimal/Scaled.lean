import ClusterSchema.Decimal.Binary64

/-!
# Decimals read in two roundings

`Binary64.ofScaled?` reads `digits * 10 ^ power` by arithmetic on doubles: the double nearest to the
digits is multiplied or divided by the double nearest to the power of ten.  With at most fifteen
digits and a power within twenty-two, both are exact and the result is the double that
`Binary64.ofDecimal?` finds with a single rounding; beyond that it may be a neighbour of it.
-/

namespace ClusterSchema.Decimal

/-- The greatest exponent of a power of ten that a double can hold. -/
def greatestTenPower : Nat := 308

namespace Binary64

/-- The product rounded to the nearest double, or nothing if it is beyond all doubles. -/
def times? (x y : Binary64) : Option Binary64 :=
  let (n, d) := x.ratio
  let (n', d') := y.ratio
  ofRatio? (x.negative != y.negative) (n * n') (d * d')

/-- The quotient by a number other than zero, rounded to the nearest double, or nothing if it is
beyond all doubles. -/
def over? (x y : Binary64) : Option Binary64 :=
  let (n, d) := x.ratio
  let (n', d') := y.ratio
  ofRatio? (x.negative != y.negative) (n * d') (d * n')

/-- The double nearest to a power of ten. -/
def tenTo? (power : Nat) : Option Binary64 := ofRatio? false (Nat.pow 10 power) 1

/-- `x` divided by a power of ten.  A power that no double holds is divided off in portions, each
with a rounding of its own, until it is used up or nothing is left of the number. -/
def overTenTo? (x : Binary64) (power : Nat) : Option Binary64 :=
  if x.significand = 0 then some x
  else if _ : power ≤ greatestTenPower then (tenTo? power).bind x.over?
  else ((tenTo? greatestTenPower).bind x.over?).bind fun rest =>
    rest.overTenTo? (power - greatestTenPower)
termination_by power
decreasing_by simp only [greatestTenPower] at *; omega

/-- `x` multiplied by a power of ten, or nothing if that is beyond all doubles. -/
def timesTenTo? (x : Binary64) (power : Nat) : Option Binary64 :=
  if x.significand = 0 then some x
  else if greatestTenPower < power then none
  else (tenTo? power).bind x.times?

/-- The double for `digits * 10 ^ power`, rounded once for the digits and again for the result. -/
def ofScaled? (negative : Bool) (digits : Nat) (power : Int) : Option Binary64 := do
  let x ← ofRatio? negative digits 1
  if power < 0 then x.overTenTo? power.natAbs else x.timesTenTo? power.natAbs

end Binary64

end ClusterSchema.Decimal
