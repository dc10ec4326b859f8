import JsonExpr.Expr.Basic
import JsonExpr.Violation

/-!
Reading JSON values as expressions. A scalar is a literal; any other expression is an object with
one member, whose key is either reserved for a form of its own or the target of an invocation. A
reserved key never falls back to an invocation.
-/

namespace JsonExpr

/-- The forms that have a key of their own. -/
inductive Reserved where
  | ref
  | binding
  | sequence
  | conditional
  | function
  | macroDef
  | imports
  deriving DecidableEq

namespace Reserved

def key : Reserved → String
  | .ref => "ref"
  | .binding => "let"
  | .sequence => "do"
  | .conditional => "if"
  | .function => "function"
  | .macroDef => "macro"
  | .imports => "import"

def all : List Reserved :=
  [.ref, .binding, .sequence, .conditional, .function, .macroDef, .imports]

def ofKey? (key : String) : Option Reserved :=
  all.find? fun form => form.key = key

/-- What the value of the key has to be, as the reason to refuse anything else. -/
def expectation : Reserved → Reason
  | .ref => .notString "VarReference name"
  | .binding => .expectsObject .letBinding
  | .sequence => .notArray "DoDef body"
  | .conditional => .expectsObject .ifDef
  | .function => .expectsObject .functionDef
  | .macroDef => .expectsObject .macroDef
  | .imports => .expectsObject .importDef

end Reserved

/-- A parameter is a bare name or a single-entry object from its name to the name of its type. -/
def Param.ofJson : Json → Except Violation Param
  | .str name => .ok { name }
  | .obj [(name, .str typeName)] => .ok { name, type? := some typeName }
  | value => refuse .notParam value

namespace Expr

/-- The name and the parameters of a function or macro definition. -/
def signatureOf (shape : Shape) (members : Bindings Json) :
    Except Violation (String × List Param) := do
  shape.check members
  let name ← shape.member "name" members (Json.asString s!"{shape.name} name")
  let params ← shape.member "params" members fun value => do
    Json.eachItem Param.ofJson 0 (← value.asArray "params")
  return (name, params)

def importsOf (members : Bindings Json) : Except Violation Expr := do
  Shape.importDef.check members
  let symbols ← Shape.importDef.member "symbols" members (Json.asArray "Import symbols")
  let source ← Shape.importDef.member "module" members (Json.asString "Import module")
  let names ← located "symbols" (Json.eachItem (Json.asString "Import symbol") 0 symbols)
  return .imports source names

mutual

def ofJson : Json → Except Violation Expr
  | .scalar value => .ok (.literal value)
  | .arr items => refuse .notExpression (.arr items)
  | .obj [(key, body)] =>
      match Reserved.ofKey? key with
      | some form => located key (ofBody form body)
      | none =>
          match body with
          | .arr args => (located key (ofItems 0 args)).map (Expr.call key)
          | .obj fields => .ok (.record key fields)
          | .scalar value => refuse .notExpression (.obj [(key, .scalar value)])
  | .obj members => refuse .notExpression (.obj members)

/-- Reads the value of a reserved key. -/
def ofBody (form : Reserved) : Json → Except Violation Expr
  | .scalar value =>
      match form, value with
      | .ref, .str name => .ok (.ref name)
      | form, value => refuse form.expectation (.scalar value)
  | .arr items =>
      match form with
      | .sequence => (ofItems 0 items).map Expr.sequence
      | form => refuse form.expectation (.arr items)
  | .obj members =>
      match form with
      | .binding => do
          Shape.letBinding.check members
          let name ← Shape.letBinding.member "name" members (Json.asString "LetBinding name")
          let value ← Shape.letBinding.require "value" members (ofMember? "value" members)
          return .binding name value
      | .conditional => do
          Shape.ifDef.check members
          let whenTrue ← (ofMember? "true" members).mapM id
          let whenFalse ← (ofMember? "false" members).mapM id
          let condition ← Shape.ifDef.require "condition" members (ofMember? "condition" members)
          return .conditional condition whenTrue whenFalse
      | .function => do
          let (name, params) ← signatureOf .functionDef members
          let body ← Shape.functionDef.require "body" members (ofMember? "body" members)
          return .function name params body
      | .macroDef => do
          let (name, params) ← signatureOf .macroDef members
          let body ← Shape.macroDef.require "body" members (ofMember? "body" members)
          return .macroDef name params body
      | .imports => importsOf members
      | form => refuse form.expectation (.obj members)

/-- Reads the items of an array, each at its index. -/
def ofItems (index : Nat) : List Json → Except Violation (List Expr)
  | [] => .ok []
  | item :: rest => do
      let first ← located (toString index) (ofJson item)
      return first :: (← ofItems (index + 1) rest)

/-- Reads the member of the given name, if there is one. -/
def ofMember? (key : String) : List (String × Json) → Option (Except Violation Expr)
  | [] => none
  | (name, value) :: rest =>
      if name = key then some (located key (ofJson value)) else ofMember? key rest

end

end Expr

end JsonExpr
