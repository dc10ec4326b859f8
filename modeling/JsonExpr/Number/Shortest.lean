/-!
The shortest decimal that reads back as a given binary number. Of the decimals that round to
`mantissa * 2 ^ exponent`, `shortest` takes one with the fewest digits and, of those, the nearest.
-/

namespace JsonExpr.Shortest

/-- The decimal `digits * 10 ^ exponent`. -/
structure Decimal where
  digits : Nat
  exponent : Int
  deriving DecidableEq

/-- A positive value with the interval of reals that round to it, over one denominator. The ends
belong to the interval if it is closed. -/
structure Neighbourhood where
  low : Nat
  value : Nat
  high : Nat
  den : Nat
  closed : Bool

/-- The interval reaches half-way to the neighbours. Below a power of two the neighbour is twice
as near, except where the exponent is the least one. -/
def neighbourhood (mantissa : Nat) (exponent : Int) : Neighbourhood :=
  let below := if mantissa = 1 <<< 52 ∧ -1074 < exponent then 1 else 2
  let quarter := exponent - 2
  let (num, den) := if 0 ≤ quarter then (1 <<< quarter.toNat, 1) else (1, 1 <<< (-quarter).toNat)
  { low := (4 * mantissa - below) * num
    value := 4 * mantissa * num
    high := (4 * mantissa + 2) * num
    den := den
    closed := mantissa % 2 = 0 }

/-- Measures the neighbourhood in units of `10 ^ place`. -/
def Neighbourhood.inUnits (n : Neighbourhood) (place : Int) : Neighbourhood :=
  if 0 ≤ place then { n with den := n.den * Nat.pow 10 place.toNat }
  else
    let factor := Nat.pow 10 (-place).toNat
    { n with low := n.low * factor, value := n.value * factor, high := n.high * factor }

/-- The nearer of the two neighbouring naturals that lies in the interval, if any does. A value
half-way between two of them goes to the even one. -/
def Neighbourhood.nearest? (n : Neighbourhood) : Option Nat :=
  let lower := n.value / n.den
  let upper := lower + 1
  let twice := 2 * (n.value % n.den)
  let lowerFits := if n.closed then n.low ≤ lower * n.den else n.low < lower * n.den
  let upperFits := if n.closed then upper * n.den ≤ n.high else upper * n.den < n.high
  let lowerNearer := twice < n.den ∨ (twice = n.den ∧ lower % 2 = 0)
  if lowerFits ∧ (¬ upperFits ∨ lowerNearer) then some lower
  else if upperFits then some upper
  else none

/-- The number of decimal digits before the point, counted below one by negative numbers: the
value lies in `[10 ^ (k - 1), 10 ^ k)`. No binary64 number is below `10 ^ (-400)`. -/
def Neighbourhood.magnitude (n : Neighbourhood) : Int :=
  ((n.value * Nat.pow 10 400 / n.den).repr.length : Int) - 400

/-- Seventeen digits always suffice. -/
def shortest (mantissa : Nat) (exponent : Int) : Decimal :=
  let n := neighbourhood mantissa exponent
  let found := (List.range 17).findSome? fun i =>
    let place := n.magnitude - ((i : Nat) + 1 : Int)
    (n.inUnits place).nearest?.map fun digits => Decimal.mk digits place
  found.getD ⟨0, 0⟩

end JsonExpr.Shortest
