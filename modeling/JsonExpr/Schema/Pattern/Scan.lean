import JsonExpr.Schema.Pattern.Width

/-!
Reading a regular expression token by token. A token is a character, or a backslash with the
character after it. The state of the reader holds the tokens that are left and what is known of
the groups so far.
-/

namespace JsonExpr.Schema.Pattern

/-- Why a text that keeps to the grammar so far is refused. -/
inductive Refusal where
  /-- A number of repetitions is out of range. -/
  | repetitionTooLarge
  /-- A number of repetitions has too many digits. -/
  | countTooLong (digits : Nat)
  /-- The number of a character is out of range by far. -/
  | codeTooLarge
  /-- Both character sets are asked for. -/
  | flagsIncompatible
  /-- Groups nest too deep. -/
  | tooDeep
  deriving DecidableEq

inductive Flaw where
  | malformed
  | refused (why : Refusal)
  deriving DecidableEq

inductive Token where
  | plain (c : Char)
  | escaped (c : Char)
  /-- A backslash at the end. -/
  | dangling
  deriving DecidableEq

namespace Token

def ofText : List Char → List Token
  | [] => []
  | ['\\'] => [.dangling]
  | '\\' :: c :: rest => .escaped c :: ofText rest
  | c :: rest => .plain c :: ofText rest

/-- The text of a token. -/
def text : Token → List Char
  | .plain c => [c]
  | .escaped c => ['\\', c]
  | .dangling => ['\\']

def satisfies (accepts : Char → Bool) : Token → Bool
  | .plain c => accepts c
  | _ => false

end Token

structure State where
  rest : List Token
  /-- The width of each group from the first on, once the group is closed. -/
  groups : Array (Option Width) := #[]
  /-- The numbers of the groups that have names. -/
  names : List (String × Nat) := []
  /-- In a look behind, the number of groups opened before it. -/
  lookBehind : Option Nat := none
  /-- The numbers that conditions refer to. -/
  conditions : List Nat := []
  verbose : Bool := false
  ascii : Bool := false
  unicode : Bool := false
  /-- Whether repetitions are ruled out. -/
  template : Bool := false
  repeats : Bool := false
  /-- Whether every look behind goes back by a fixed width. -/
  fixed : Bool := true

/-- Every reader fails as soon as it comes to a backslash at the end. -/
abbrev Scan := StateT State (Except Flaw)

namespace Scan

def malformed {α : Type} : Scan α :=
  throw .malformed

def refuse {α : Type} (why : Refusal) : Scan α :=
  throw (.refused why)

/-- Goes on with the given tokens. -/
def moveTo (rest : List Token) : Scan Unit := do
  if rest.head? = some .dangling then malformed
  modify fun state => { state with rest }

def peek : Scan (Option Token) := do
  return (← get).rest.head?

/-- The next token, which is passed over. -/
def next : Scan (Option Token) := do
  match (← get).rest with
  | [] => return none
  | token :: rest =>
      moveTo rest
      return some token

/-- Passes over a character if it comes next. -/
def accept (c : Char) : Scan Bool := do
  match (← get).rest with
  | token :: rest =>
      if token = .plain c then
        moveTo rest
        return true
      else return false
  | [] => return false

def expect (c : Char) : Scan Unit := do
  unless ← accept c do malformed

/-- Passes over tokens at the front and gives their text. -/
def take (taken : List Token) : Scan (List Char) := do
  unless taken.isEmpty do moveTo ((← get).rest.drop taken.length)
  return taken.flatMap Token.text

/-- The characters at the front that are accepted. -/
def takeAll (accepts : Char → Bool) : Scan (List Char) := do
  take ((← get).rest.takeWhile (Token.satisfies accepts))

/-- The characters at the front that are accepted, at most `count` of them. -/
def takeUpTo (count : Nat) (accepts : Char → Bool) : Scan (List Char) := do
  take (((← get).rest.take count).takeWhile (Token.satisfies accepts))

/-- The text in front of a closing character, which is passed over. It is not empty. -/
def textUntil (close : Char) : Scan (List Char) := do
  let rest := (← get).rest
  let name := rest.takeWhile (· ≠ .plain close)
  match rest.drop name.length with
  | [] => malformed
  | _ :: rest =>
      if name.isEmpty then malformed
      moveTo rest
      return name.flatMap Token.text

/-- Passes over everything up to and including a closing character, and says whether there is
one. -/
def skipPast (close : Char) : Scan Bool := do
  match (← get).rest.dropWhile (· ≠ .plain close) with
  | [] =>
      modify fun state => { state with rest := [] }
      return false
  | _ :: rest =>
      moveTo rest
      return true

end Scan

end JsonExpr.Schema.Pattern
