/-!
The exact content of binary64 floating-point numbers: `decode` reads the bits of a number as
`mantissa * 2 ^ exponent`, and `ofRatio` is the nearest number to a quotient of naturals.
-/

namespace JsonExpr.Binary64

/-- A floating-point number taken apart. A finite one is `± mantissa * 2 ^ exponent`, where the
mantissa is below `2 ^ 53` and the exponent is at least `-1074`. -/
inductive Parts where
  | finite (negative : Bool) (mantissa : Nat) (exponent : Int)
  | infinite (negative : Bool)
  | nan
  deriving DecidableEq

/-- The sign bit is the highest, then come eleven exponent bits and 52 fraction bits. -/
def decode (x : Float) : Parts :=
  let bits := x.toBits.toNat
  let negative := decide (1 <<< 63 ≤ bits)
  let biased : Nat := (bits >>> 52) % (1 <<< 11)
  let fraction : Nat := bits % (1 <<< 52)
  if biased = 2047 then
    if fraction = 0 then .infinite negative else .nan
  else if biased = 0 then .finite negative fraction (-1074)
  else .finite negative (fraction + 1 <<< 52) ((biased : Int) - 1075)

/-- The quotient `num / (den * 2 ^ exponent)` as numerator and denominator. -/
def scaled (num den : Nat) (exponent : Int) : Nat × Nat :=
  if 0 ≤ exponent then (num, den <<< exponent.toNat)
  else (num <<< (-exponent).toNat, den)

/-- `num / den` to the nearest natural; a half goes to the even neighbour. -/
def roundHalfEven (num den : Nat) : Nat :=
  let quotient := num / den
  let twice := 2 * (num % den)
  if den < twice ∨ (twice = den ∧ quotient % 2 = 1) then quotient + 1 else quotient

/-- The exponent at which the mantissa of `num / den` has 53 bits, or `-1074` where there are
fewer. -/
def mantissaExponent (num den : Nat) : Int :=
  let guess : Int := (Nat.log2 num : Int) - Nat.log2 den - 52
  let (n, d) := scaled num den guess
  let exponent := if n / d < 1 <<< 52 then guess - 1 else guess
  if exponent < -1074 then -1074 else exponent

/-- The number nearest to `num / den`, ties to even, or nothing if that is beyond the largest
finite one. Adding the mantissa to the shifted exponent lets a carry out of the mantissa reach
the exponent. -/
def ofRatio (num den : Nat) : Option Float :=
  if num = 0 then some 0 else
    let exponent := mantissaExponent num den
    let (n, d) := scaled num den exponent
    let bits := ((exponent + 1074).toNat <<< 52) + roundHalfEven n d
    if bits < 2047 <<< 52 then some (Float.ofBits bits.toUInt64) else none

end JsonExpr.Binary64
