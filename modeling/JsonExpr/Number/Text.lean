import JsonExpr.Number.Basic
import JsonExpr.Number.Shortest

/-!
The decimal text of numbers. Finite floating-point numbers are written with the shortest digits
that read back, positionally where the number is of moderate size.
-/

namespace JsonExpr

/-- How the digits of a floating-point number are laid out, and how the numbers without digits
are spelled. -/
structure FloatFormat where
  /-- The least power of ten of a leading digit that is still written positionally. -/
  leastPositional : Int
  /-- The least power of ten of a leading digit that is written with an exponent. -/
  leastScientific : Int
  /-- The least number of exponent digits. -/
  exponentWidth : Nat
  infinity : String
  nan : String

namespace FloatFormat

/-- Positional from `0.0001` up to sixteen digits before the point. -/
def plain : FloatFormat where
  leastPositional := -4
  leastScientific := 16
  exponentWidth := 2
  infinity := "inf"
  nan := "nan"

/-- The same layout with the spellings used inside JSON text. -/
def inJson : FloatFormat :=
  { plain with infinity := "Infinity", nan := "NaN" }

def zeros (n : Nat) : List Char :=
  List.replicate n '0'

/-- The digits with a point after the first `point` of them, padded so that there is a digit on
either side. -/
def positional (digits : List Char) (point : Int) : List Char :=
  if point ≤ 0 then
    '0' :: '.' :: (zeros (-point).toNat ++ digits)
  else
    let whole := point.toNat
    let rest := digits.drop whole
    let fraction := if rest.isEmpty then ['0'] else rest
    digits.take whole ++ zeros (whole - digits.length) ++ '.' :: fraction

def scientific (format : FloatFormat) (digits : List Char) (power : Int) : List Char :=
  let exponent := power.natAbs.repr.toList
  let fraction := digits.drop 1
  digits.take 1 ++ (if fraction.isEmpty then [] else '.' :: fraction) ++
    'e' :: (if power < 0 then '-' else '+') ::
      (zeros (format.exponentWidth - exponent.length) ++ exponent)

/-- The digits of a decimal without the zeros at its end. -/
def significant (digits : Nat) : List Char :=
  (digits.repr.toList.reverse.dropWhile (· == '0')).reverse

def finite (format : FloatFormat) (mantissa : Nat) (exponent : Int) : List Char :=
  if mantissa = 0 then positional ['0'] 1
  else
    let decimal := Shortest.shortest mantissa exponent
    let power := (decimal.digits.repr.length : Int) + decimal.exponent - 1
    let digits := significant decimal.digits
    if format.leastPositional ≤ power ∧ power < format.leastScientific then
      positional digits (power + 1)
    else scientific format digits power

def text (format : FloatFormat) (x : Float) : String :=
  match Binary64.decode x with
  | .finite negative mantissa exponent =>
      let magnitude := String.ofList (format.finite mantissa exponent)
      if negative then "-" ++ magnitude else magnitude
  | .infinite negative => if negative then "-" ++ format.infinity else format.infinity
  | .nan => format.nan

end FloatFormat

namespace Number

/-- An integer with more digits than this has no text. -/
def digitLimit : Nat := 4300

def hasText : Number → Bool
  | .int n => n.natAbs < Nat.pow 10 digitLimit
  | .float _ => true

def text (format : FloatFormat) : Number → String
  | .int n => toString n
  | .float x => format.text x

end Number

end JsonExpr
