import JsonExpr.Number.Binary64

/-!
Numbers of the language. Integers are unbounded and stay apart from floating-point numbers, so
`1` and `1.0` are different numbers with one exact value.
-/

namespace JsonExpr

inductive Number where
  | int (value : Int)
  | float (value : Float)
  deriving DecidableEq

/-- The exact value of a number. -/
inductive Exact where
  | finite (value : Rat)
  | infinite (negative : Bool)
  | nan

namespace Exact

def ofParts : Binary64.Parts → Exact
  | .finite negative mantissa exponent =>
      let (num, den) := if 0 ≤ exponent then (mantissa <<< exponent.toNat, 1)
        else (mantissa, 1 <<< (-exponent).toNat)
      .finite (mkRat (if negative then -(num : Int) else num) den)
  | .infinite negative => .infinite negative
  | .nan => .nan

/-- Nothing equals NaN, NaN included. -/
def equal : Exact → Exact → Bool
  | .finite a, .finite b => decide (a = b)
  | .infinite a, .infinite b => a == b
  | _, _ => false

/-- NaN is neither below nor above anything. -/
def less : Exact → Exact → Bool
  | .finite a, .finite b => a.blt b
  | .infinite true, .finite _ => true
  | .finite _, .infinite false => true
  | .infinite true, .infinite false => true
  | _, _ => false

/-- The value as an integer, if it is one. -/
def toInt? : Exact → Option Int
  | .finite a => if a.den = 1 then some a.num else none
  | _ => none

end Exact

namespace Number

def exact : Number → Exact
  | .int n => .finite (Rat.ofInt n)
  | .float x => .ofParts (Binary64.decode x)

/-- Integers and floating-point numbers are compared by exact value, with no conversion. -/
def equal (a b : Number) : Bool :=
  a.exact.equal b.exact

def less (a b : Number) : Bool :=
  a.exact.less b.exact

end Number

end JsonExpr
