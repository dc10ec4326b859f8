import JsonExpr.Schema.Pattern.Scan
import JsonExpr.Text.CharacterName

/-!
Escapes and bracket expressions.
-/

namespace JsonExpr.Schema.Pattern

/-- A part of a sequence. Places in the text and what has been repeated cannot be repeated. -/
inductive Item where
  | place
  | repeated (width : Width)
  | plain (width : Width)

def Item.width : Item → Width
  | .place => .zero
  | .repeated width => width
  | .plain width => width

def Item.unit : Item := .plain .one

def isOctal (c : Char) : Bool :=
  '0' ≤ c && c ≤ '7'

/-- The greatest character that three octal digits may stand for. -/
def octalLimit : Nat := 0xff

/-- Numbers from here on are too large to be looked at as characters. -/
def codeLimit : Nat := 1 <<< 31

namespace Scan

/-- The character given by exactly `count` hexadecimal digits. -/
def hexCode (count : Nat) : Scan Nat := do
  let digits ← takeUpTo count Text.isHexDigit
  if digits.length < count then malformed
  let code := Text.numeralValue 16 digits
  if codeLimit ≤ code then refuse .codeTooLarge
  if 0x10ffff < code then malformed
  return code

/-- The character with a name in braces. -/
def namedCode : Scan Nat := do
  expect '\x7b'
  match Text.characterNamed? (← textUntil '\x7d') with
  | some code => return code
  | none => malformed

/-- The character given by an octal digit and up to two more. -/
def octalCode (first : Char) : Scan Nat := do
  let code := Text.numeralValue 8 (first :: (← takeUpTo 2 isOctal))
  if octalLimit < code then malformed
  return code

/-- The character that an escape in brackets stands for, if it stands for a single one. -/
def bracketEscape (c : Char) : Scan (Option Nat) := do
  match c with
  | 'a' => return some 0x7
  | 'b' => return some 0x8
  | 't' => return some 0x9
  | 'n' => return some 0xa
  | 'v' => return some 0xb
  | 'f' => return some 0xc
  | 'r' => return some 0xd
  | 'x' => return some (← hexCode 2)
  | 'u' => return some (← hexCode 4)
  | 'U' => return some (← hexCode 8)
  | 'N' => return some (← namedCode)
  | c =>
      if ['d', 'D', 's', 'S', 'w', 'W'].contains c then return none
      else if isOctal c then return some (← octalCode c)
      else if c.isAlphanum then malformed
      else return some c.toNat

def bracketMember : Token → Scan (Option Nat)
  | .plain c => return some c.toNat
  | .escaped c => bracketEscape c
  | .dangling => malformed

/-- The rest of a bracket expression. A closing bracket is a member where it is the `first`. -/
def bracket : (fuel : Nat) → (first : Bool) → Scan Unit
  | 0, _ => malformed
  | fuel + 1, first => do
      match ← next with
      | none => malformed
      | some token =>
          if token = .plain ']' && ! first then return
          let low ← bracketMember token
          unless ← accept '-' do return ← bracket fuel false
          match ← next with
          | none => malformed
          | some (.plain ']') => return
          | some token =>
              match low, ← bracketMember token with
              | some low, some high => if high < low then malformed else bracket fuel false
              | _, _ => malformed

/-- The width of a group that is referred to. The group is closed, and in a look behind it stands
in front of that. -/
def reference (group : Nat) : Scan Width := do
  let state ← get
  if state.lookBehind.any (· < group) then malformed
  match state.groups[group - 1]? with
  | some (some width) => return width
  | _ => malformed

/-- What follows a digit after a backslash: three octal digits are a character, and other digits
are the number of a group. -/
def numbered (first : Char) : Scan Item := do
  match ← takeUpTo 1 Char.isDigit with
  | [] => return .plain (← reference (Text.numeralValue 10 [first]))
  | second :: _ =>
      if isOctal first && isOctal second then
        match ← takeUpTo 1 isOctal with
        | third :: _ =>
            if octalLimit < Text.numeralValue 8 [first, second, third] then malformed
            return .unit
        | [] => return .plain (← reference (Text.numeralValue 10 [first, second]))
      else return .plain (← reference (Text.numeralValue 10 [first, second]))

/-- An escape outside of brackets. -/
def escape (c : Char) : Scan Item := do
  if ['A', 'b', 'B', 'Z'].contains c then return .place
  else if c = '0' then
    let _ ← takeUpTo 2 isOctal
    return .unit
  else if c.isDigit then numbered c
  else
    let _ ← bracketEscape c
    return .unit

end Scan

end JsonExpr.Schema.Pattern
