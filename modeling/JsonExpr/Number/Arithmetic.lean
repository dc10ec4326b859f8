import JsonExpr.Number.Basic

/-!
Arithmetic on numbers. Two integers are added, subtracted and multiplied exactly. As soon as one
operand is a floating-point number the other is converted to the nearest one and the operation is
that of binary64. Division always gives a floating-point number.
-/

namespace JsonExpr.Number

/-- Why an operation on numbers has no result. -/
inductive Fault where
  | conversion
  | quotient
  deriving DecidableEq

/-- The nearest floating-point number to an integer. -/
def ofInt (n : Int) : Except Fault Float :=
  match Binary64.ofRatio n.natAbs 1 with
  | some x => .ok (if n < 0 then -x else x)
  | none => .error .conversion

def toFloat : Number → Except Fault Float
  | .int n => ofInt n
  | .float x => .ok x

/-- An operation given by its exact form on integers and its form on floating-point numbers. -/
def combine (exactly : Int → Int → Int) (inBinary : Float → Float → Float) :
    Number → Number → Except Fault Number
  | .int a, .int b => .ok (.int (exactly a b))
  | a, b => do return .float (inBinary (← a.toFloat) (← b.toFloat))

def add : Number → Number → Except Fault Number :=
  combine (· + ·) (· + ·)

def subtract : Number → Number → Except Fault Number :=
  combine (· - ·) (· - ·)

def multiply : Number → Number → Except Fault Number :=
  combine (· * ·) (· * ·)

def isZero (a : Number) : Bool :=
  a.equal (.int 0)

/-- Division by a number other than zero. The quotient of two integers is rounded once. -/
def divide : Number → Number → Except Fault Number
  | .int a, .int b =>
      match Binary64.ofRatio a.natAbs b.natAbs with
      | some x => .ok (.float (if decide (a < 0) != decide (b < 0) then -x else x))
      | none => .error .quotient
  | a, b => do return .float ((← a.toFloat) / (← b.toFloat))

end JsonExpr.Number
