import JsonExpr.Json.Basic
import JsonExpr.Number.Text
import JsonExpr.Text.Numeral
import JsonExpr.Text.Printable

/-!
The texts of a JSON value: `quoted` shows it in messages, `text` is what the language itself
makes of it when it joins or prints values, and `description` names its kind.
-/

namespace JsonExpr

namespace Text

/-- Single quotes are used unless the text has a single quote and no double quote. -/
def quoteFor (text : List Char) : Char :=
  if text.contains '\x27' && ! text.contains '"' then '"' else '\x27'

/-- A character in quotes; one that does not show itself is written as an escape. -/
def quotedChar (quote c : Char) : List Char :=
  if c = quote ∨ c = '\\' then ['\\', c]
  else if c = '\n' then ['\\', 'n']
  else if c = '\r' then ['\\', 'r']
  else if c = '\t' then ['\\', 't']
  else if isPrintable c then [c]
  else if c.toNat ≤ 0xff then '\\' :: 'x' :: hexadecimal 2 c.toNat
  else if c.toNat ≤ 0xffff then '\\' :: 'u' :: hexadecimal 4 c.toNat
  else '\\' :: 'U' :: hexadecimal 8 c.toNat

def quoted (text : String) : String :=
  let quote := quoteFor text.toList
  String.ofList (quote :: (text.toList.flatMap (quotedChar quote) ++ [quote]))

def escapedUnit (unit : Nat) : List Char :=
  '\\' :: 'u' :: hexadecimal 4 unit

/-- A character of a JSON string literal in ASCII. One beyond the basic plane is written as the two
halves of its surrogate pair. -/
def escapedChar (c : Char) : List Char :=
  if c = '"' ∨ c = '\\' then ['\\', c]
  else if c = '\n' then ['\\', 'n']
  else if c = '\r' then ['\\', 'r']
  else if c = '\t' then ['\\', 't']
  else if c = '\x08' then ['\\', 'b']
  else if c = '\x0c' then ['\\', 'f']
  else if 0x20 ≤ c.toNat ∧ c.toNat ≤ 0x7e then [c]
  else if c.toNat < 0x10000 then escapedUnit c.toNat
  else
    let rest := c.toNat - 0x10000
    escapedUnit (0xd800 + rest / 0x400) ++ escapedUnit (0xdc00 + rest % 0x400)

def escaped (text : String) : String :=
  String.ofList ('"' :: (text.toList.flatMap escapedChar ++ ['"']))

end Text

namespace Scalar

/-- The scalar as messages show it. -/
def quoted : Scalar → String
  | .null => "None"
  | .bool true => "True"
  | .bool false => "False"
  | .num n => n.text .plain
  | .str s => Text.quoted s

/-- The scalar as it stands inside JSON text. -/
def compact : Scalar → String
  | .null => "null"
  | .bool true => "true"
  | .bool false => "false"
  | .num n => n.text .inJson
  | .str s => Text.escaped s

/-- The scalar standing alone: strings are left bare, and a floating-point number that is an
integer is written as one. -/
def bare : Scalar → String
  | .null => "null"
  | .bool true => "true"
  | .bool false => "false"
  | .num (.float x) =>
      match (Number.float x).exact.toInt? with
      | some n => toString n
      | none => FloatFormat.plain.text x
  | .num n => n.text .plain
  | .str s => s

def hasText : Scalar → Bool
  | .num n => n.hasText
  | _ => true

end Scalar

namespace Json

mutual

def quoted : Json → String
  | .scalar s => s.quoted
  | .arr items => "[" ++ ", ".intercalate (quotedItems items) ++ "]"
  | .obj members => "\x7b" ++ ", ".intercalate (quotedMembers members) ++ "\x7d"

def quotedItems : List Json → List String
  | [] => []
  | item :: rest => quoted item :: quotedItems rest

def quotedMembers : List (String × Json) → List String
  | [] => []
  | (name, value) :: rest => (Text.quoted name ++ ": " ++ quoted value) :: quotedMembers rest

end

mutual

/-- JSON text in ASCII without blanks. -/
def compact : Json → String
  | .scalar s => s.compact
  | .arr items => "[" ++ ",".intercalate (compactItems items) ++ "]"
  | .obj members => "\x7b" ++ ",".intercalate (compactMembers members) ++ "\x7d"

def compactItems : List Json → List String
  | [] => []
  | item :: rest => compact item :: compactItems rest

def compactMembers : List (String × Json) → List String
  | [] => []
  | (name, value) :: rest => (Text.escaped name ++ ":" ++ compact value) :: compactMembers rest

end

mutual

/-- Whether no integer in the value has too many digits to be written. -/
def hasText : Json → Bool
  | .scalar s => s.hasText
  | .arr items => itemsHaveText items
  | .obj members => membersHaveText members

def itemsHaveText : List Json → Bool
  | [] => true
  | item :: rest => hasText item && itemsHaveText rest

def membersHaveText : List (String × Json) → Bool
  | [] => true
  | (_, value) :: rest => hasText value && membersHaveText rest

end

/-- Scalars bare, arrays and objects as JSON text. -/
def text : Json → String
  | .scalar s => s.bare
  | value => value.compact

/-- The kind of a value, with the size of an array and the sorted names of an object. -/
def description : Json → String
  | null => "null"
  | bool _ => "boolean"
  | num _ => "number"
  | str _ => "string"
  | .arr items => s!"array of length {items.length}"
  | .obj members =>
      let names := (members.map Prod.fst).mergeSort fun a b => decide (a ≤ b)
      "object with keys [" ++ ", ".intercalate (names.map Text.quoted) ++ "]"

/-- The short name of a value's type. -/
def typeName : Json → String
  | null => "NoneType"
  | bool _ => "bool"
  | num (.int _) => "int"
  | num (.float _) => "float"
  | str _ => "str"
  | .arr _ => "list"
  | .obj _ => "dict"

end Json

end JsonExpr
