/-!
How many characters a part of a regular expression can match.
-/

namespace JsonExpr.Schema.Pattern

/-- The least and the greatest number of characters. There is no greatest where the number is not
bounded. -/
structure Width where
  low : Nat
  high : Option Nat
  deriving DecidableEq

namespace Width

def zero : Width := ⟨0, some 0⟩

def one : Width := ⟨1, some 1⟩

/-- One part after the other. -/
def append (first second : Width) : Width :=
  { low := first.low + second.low
    high := do return (← first.high) + (← second.high) }

/-- Either of two parts. -/
def either (first second : Width) : Width :=
  { low := if first.low ≤ second.low then first.low else second.low
    high := do
      let a ← first.high
      let b ← second.high
      return if a ≤ b then b else a }

/-- The greatest number of characters when a part is repeated up to `most` times. -/
def greatest : (high most : Option Nat) → Option Nat
  | some 0, _ => some 0
  | _, some 0 => some 0
  | some high, some most => some (high * most)
  | _, _ => none

/-- A part repeated from `least` up to `most` times. -/
def repeated (least : Nat) (most : Option Nat) (width : Width) : Width :=
  { low := width.low * least, high := greatest width.high most }

/-- The greatest number of characters that can be looked back over. -/
def lookback : Nat := 4294967295

/-- Whether the number of characters is always the same and can be looked back over. -/
def isFixed (width : Width) : Bool :=
  width.low ≤ lookback && width.high == some width.low

end Width

end JsonExpr.Schema.Pattern
