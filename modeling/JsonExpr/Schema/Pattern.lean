import JsonExpr.Schema.Pattern.Escape
import JsonExpr.Text.Identifier
import JsonExpr.Text.Numeral

/-!
Well-formed regular expressions: alternatives of sequences of parts, where groups contain
alternatives again. Reading a text gives its width, and the flaw that rules it out if there is one.
-/

namespace JsonExpr.Schema.Pattern

/-- How many digits the number of a repetition may have. -/
def digitLimit : Nat := 4300

/-- The numbers of repetitions are below this one. -/
def repetitionLimit : Nat := 4294967295

/-- The numbers of groups are below this one. -/
def groupLimit : Nat := 1073741823

/-- How deep groups may nest. -/
def nestingLimit : Nat := 450

/-- What an opening parenthesis begins. -/
inductive Opening where
  | capture (name : Option String)
  /-- A group that is not counted, with the change that it makes to the layout. -/
  | grouping (verbose : Option Bool)
  | look (behind : Bool)
  | conditional
  | reference (width : Width)
  | comment
  /-- Flags for the whole expression. -/
  | flags

namespace Scan

def isFlag (c : Char) : Bool :=
  ['i', 'm', 's', 'x', 'a', 't', 'u'].contains c

/-- Flags that choose a character set, and so exclude each other. -/
def isCharset (c : Char) : Bool :=
  c == 'a' || c == 'u'

def setFlags (flags : List Char) : Scan Unit :=
  modify fun state =>
    { state with
      verbose := state.verbose || flags.contains 'x'
      ascii := state.ascii || flags.contains 'a'
      unicode := state.unicode || flags.contains 'u'
      template := state.template || flags.contains 't' }

/-- The flags of a group, from the token after those that are switched on. -/
def groupFlags (on : List Char) (token : Option Token) : Scan Opening := do
  if on.contains 't' then malformed
  match token with
  | some (.plain ':') => return .grouping (if on.contains 'x' then some true else none)
  | some (.plain '-') =>
      let off ← takeAll isFlag
      expect ':'
      if off.isEmpty || off.contains 't' || off.any isCharset || off.any on.contains then malformed
      return .grouping
        (if off.contains 'x' then some false else if on.contains 'x' then some true else none)
  | _ => malformed

/-- Flags that begin with a given token. -/
def flagged (first : Token) : Scan Opening := do
  match first with
  | .plain '-' => groupFlags [] (some first)
  | .plain c =>
      if ! isFlag c then malformed
      let on := c :: (← takeAll isFlag)
      if on.contains 'a' && on.contains 'u' then malformed
      if ← accept ')' then
        setFlags on
        return .flags
      else groupFlags on (← next)
  | _ => malformed

/-- The number of the group with a name. -/
def groupNamed (name : List Char) : Scan Nat := do
  match (← get).names.lookup (String.ofList name) with
  | some group => return group
  | none => malformed

def groupName (close : Char) : Scan (List Char) := do
  let name ← textUntil close
  if Text.isIdentifier name then return name else malformed

/-- The group with a number in a condition, which may be opened later. -/
def groupNumbered (text : List Char) : Scan Nat := do
  match Text.integer digitLimit text with
  | .error _ => malformed
  | .ok number =>
      if number < 1 || (groupLimit : Int) ≤ number then malformed
      modify fun state => { state with conditions := number.toNat :: state.conditions }
      return number.toNat

/-- Reads which group a condition is about. In a look behind it has to be one in front of that. -/
def condition : Scan Unit := do
  let name ← textUntil ')'
  let group ← if Text.isIdentifier name then groupNamed name else groupNumbered name
  if (← get).lookBehind.isSome then
    let _ ← reference group

/-- What follows an opening parenthesis. -/
def opening : Scan Opening := do
  unless ← accept '?' do return .capture none
  match ← next with
  | some (.plain 'P') =>
      if ← accept '<' then return .capture (some (String.ofList (← groupName '>')))
      else if ← accept '=' then
        let group ← groupNamed (← groupName ')')
        return .reference (← reference group)
      else malformed
  | some (.plain ':') => return .grouping none
  | some (.plain '>') => return .grouping none
  | some (.plain '#') => if ← skipPast ')' then return .comment else malformed
  | some (.plain '=') => return .look false
  | some (.plain '!') => return .look false
  | some (.plain '<') =>
      if ← accept '=' then return .look true
      else if ← accept '!' then return .look true
      else malformed
  | some (.plain '(') =>
      condition
      return .conditional
  | some token => flagged token
  | none => malformed

/-- A number of repetitions. -/
def count (digits : List Char) : Scan Nat := do
  if digitLimit < digits.length then refuse (.countTooLong digits.length)
  let value := Text.numeralValue 10 digits
  if repetitionLimit ≤ value then refuse .repetitionTooLarge
  return value

/-- The bounds of a counted repetition, whose opening brace has been read. Where the braces hold
something else the brace stands for itself. -/
def bounds : Scan (Option (Nat × Option Nat)) := do
  let start := (← get).rest
  let low ← takeAll Char.isDigit
  let hasHigh ← accept ','
  let high ← if hasHigh then takeAll Char.isDigit else pure low
  let closed ← accept '\x7d'
  if ! closed || (low.isEmpty && ! hasHigh) then
    moveTo start
    return none
  let least ← if low.isEmpty then pure 0 else count low
  if high.isEmpty then return some (least, none)
  let most ← count high
  if most < least then malformed
  return some (least, some most)

/-- The bounds of the repetition that a character begins, if it begins one. -/
def repetition (c : Char) : Scan (Option (Nat × Option Nat)) := do
  match c with
  | '?' => return some (0, some 1)
  | '*' => return some (0, none)
  | '+' => return some (1, none)
  | '\x7b' => bounds
  | _ => return none

/-- The part that a repetition makes of the part in front of it. -/
def repeated (least : Nat) (most : Option Nat) : Option Item → Scan Item
  | some (.plain width) => do
      unless ← accept '?' do
        let _ ← accept '+'
      modify fun state => { state with repeats := true }
      return .repeated (width.repeated least most)
  | _ => malformed

def openGroup (name : Option String) : Scan Nat := do
  let state ← get
  let group := state.groups.size + 1
  let names ← match name with
    | none => pure state.names
    | some name =>
        if (state.names.lookup name).isSome then malformed
        else pure ((name, group) :: state.names)
  set { state with groups := state.groups.push none, names }
  return group

def closeGroup (group : Nat) (width : Width) : Scan Unit :=
  modify fun state => { state with groups := state.groups.setIfInBounds (group - 1) (some width) }

/-- Reads the inside of a look behind, in which only groups in front of it may be referred to. -/
def lookingBehind (inside : Scan Width) : Scan Width := do
  let outer := (← get).lookBehind
  modify fun state =>
    { state with lookBehind := state.lookBehind.or (some state.groups.size) }
  let width ← inside
  modify fun state =>
    { state with lookBehind := outer, fixed := state.fixed && width.isFixed }
  return width

/-- Blanks between the parts of an expression with free layout. -/
def isLayout (c : Char) : Bool :=
  [' ', '\t', '\n', '\r', '\x0b', '\x0c'].contains c

/-- Where a sequence stands. -/
structure Place where
  verbose : Bool
  depth : Nat
  /-- Whether flags for the whole expression may stand here. -/
  first : Bool

mutual

/-- Alternatives up to the end of a group. Each call passes over a token within three calls, and so
the fuel is not used up. -/
def alternatives : (fuel : Nat) → Place → Scan Width
  | 0, _ => malformed
  | fuel + 1, place => do
      if nestingLimit < place.depth then refuse .tooDeep
      let width ← sequence fuel place .zero none
      if ← accept '|' then
        let verbose ← if place.depth = 0 then pure (← get).verbose else pure place.verbose
        return width.either (← alternatives fuel { place with verbose, first := false })
      else return width

/-- The rest of a sequence, after parts that are `done` and a `last` one that may be repeated. -/
def sequence : (fuel : Nat) → Place → (done : Width) → (last : Option Item) → Scan Width
  | 0, _, _, _ => malformed
  | fuel + 1, place, done, last => do
      let before := match last with
        | some item => done.append item.width
        | none => done
      match ← peek with
      | none => return before
      | some token =>
          if token = .plain '|' || token = .plain ')' then return before
          let _ ← next
          match token with
          | .dangling => malformed
          | .escaped c => sequence fuel place before (some (← escape c))
          | .plain c =>
              if place.verbose && isLayout c then sequence fuel place done last
              else if place.verbose && c = '#' then
                let _ ← skipPast '\n'
                sequence fuel place done last
              else if c = '[' then
                let _ ← accept '^'
                bracket fuel true
                sequence fuel place before (some .unit)
              else if c = '^' || c = '$' then sequence fuel place before (some .place)
              else if c = '(' then
                match ← opening with
                | .comment => sequence fuel place done last
                | .flags =>
                    if ! place.first || last.isSome then malformed
                    sequence fuel { place with verbose := (← get).verbose } done last
                | .reference width => sequence fuel place before (some (.plain width))
                | .capture name =>
                    let group ← openGroup name
                    let width ← inside fuel place none
                    closeGroup group width
                    sequence fuel place before (some (.plain width))
                | .grouping verbose =>
                    let width ← inside fuel place verbose
                    sequence fuel place before (some (.plain width))
                | .look behind =>
                    let _ ← if behind then lookingBehind (inside fuel place none)
                      else inside fuel place none
                    sequence fuel place before (some (.plain .zero))
                | .conditional =>
                    let inner := { place with depth := place.depth + 1, first := false }
                    if nestingLimit < inner.depth then refuse .tooDeep
                    let yes ← sequence fuel inner .zero none
                    let no ← if ← accept '|' then sequence fuel inner .zero none else pure .zero
                    expect ')'
                    sequence fuel place before (some (.plain (yes.either no)))
              else
                match ← repetition c with
                | some (least, most) =>
                    let item ← repeated least most last
                    sequence fuel place done (some item)
                | none => sequence fuel place before (some .unit)

/-- The inside of a group and its closing parenthesis. -/
def inside : (fuel : Nat) → Place → (verbose : Option Bool) → Scan Width
  | 0, _, _ => malformed
  | fuel + 1, place, verbose => do
      let width ← alternatives fuel
        { verbose := verbose.getD place.verbose, depth := place.depth + 1, first := false }
      expect ')'
      return width

end

end Scan

/-- Reads a whole text. -/
def check (text : String) : Except Flaw Unit := do
  let tokens := Token.ofText text.toList
  if tokens.head? = some .dangling then throw .malformed
  let place : Scan.Place := { verbose := false, depth := 0, first := true }
  let (_, state) ← (Scan.alternatives (3 * tokens.length + 3) place).run { rest := tokens }
  if tokens.contains .dangling then throw .malformed
  if state.ascii && state.unicode then throw (.refused .flagsIncompatible)
  if ! state.rest.isEmpty then throw .malformed
  if state.conditions.any (state.groups.size < ·) then throw .malformed
  if ! state.fixed || (state.template && state.repeats) then throw .malformed

end JsonExpr.Schema.Pattern
