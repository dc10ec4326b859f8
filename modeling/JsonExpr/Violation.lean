import JsonExpr.Json.Text

/-!
Violations of the grammar. A violation says where in the value being read it was found, why the
value there is refused, and shows that value.
-/

namespace JsonExpr

/-! JSON pointers. A path is a sequence of tokens, each written after a slash, in which a tilde and
a slash are themselves escaped. -/

namespace Pointer

def escapeChar (c : Char) : List Char :=
  if c = '~' then ['~', '0']
  else if c = '/' then ['~', '1']
  else [c]

def escape (token : String) : String :=
  String.ofList (token.toList.flatMap escapeChar)

/-- The path one token further in. -/
def push (path token : String) : String :=
  path ++ "/" ++ escape token

def extend (path : String) (tokens : List String) : String :=
  tokens.foldl push path

end Pointer

/-- The objects of the grammar whose members are fixed. -/
inductive Shape where
  | letBinding
  | ifDef
  | functionDef
  | macroDef
  | importDef
  | moduleDef
  | program
  deriving DecidableEq

namespace Shape

def name : Shape → String
  | .letBinding => "LetBinding"
  | .ifDef => "IfDef"
  | .functionDef => "FunctionDef"
  | .macroDef => "MacroDef"
  | .importDef => "Import"
  | .moduleDef => "Module"
  | .program => "Program"

def required : Shape → List String
  | .letBinding => ["name", "value"]
  | .ifDef => ["condition"]
  | .functionDef => ["name", "params", "body"]
  | .macroDef => ["name", "params", "body"]
  | .importDef => ["module", "symbols"]
  | .moduleDef => ["exports"]
  | .program => ["jexl_version", "name", "program"]

def optional : Shape → List String
  | .ifDef => ["true", "false"]
  | .moduleDef => ["types"]
  | _ => []

end Shape

/-- Why a value is refused. -/
inductive Reason where
  | expectsObject (shape : Shape)
  | missingProperty (shape : Shape) (key : String)
  | unknownProperty (shape : Shape) (key : String)
  | notString (role : String)
  | notArray (role : String)
  | notObject (role : String)
  | notParam
  | notExpression
  | notSchema (typeName : String)
  | unsupportedVersion (supported : String)
  | unknownArgument (target key : String)
  | missingArgument (target name : String)
  /-- A reason in the words of an embedding application. -/
  | stated (text : String)
  deriving DecidableEq

namespace Reason

def shapesOfExpressions : List String :=
  ["Literal", "VarReference", "LetBinding", "DoDef", "IfDef", "FunctionDef", "MacroDef", "Import",
    "FunctionCall", "SpecialForm"]

/-- The reason in words, for the value that it refuses. -/
def text (value : Json) : Reason → String
  | .expectsObject shape => s!"{shape.name} expects an object, found {value.description}"
  | .missingProperty shape key => s!"{shape.name} is missing required property '{key}'"
  | .unknownProperty shape key => s!"{shape.name} does not accept property '{key}'"
  | .notString role => s!"{role} must be a string, found {value.description}"
  | .notArray role => s!"{role} must be an array, found {value.description}"
  | .notObject role => s!"{role} must be an object, found {value.description}"
  | .notParam =>
      "Param must be a name or a single-entry mapping of name to type name, found " ++
        value.description
  | .notExpression =>
      "expected one of \x7b" ++ ", ".intercalate shapesOfExpressions ++ "\x7d, found " ++
        value.description
  | .notSchema typeName =>
      s!"type '{typeName}' must be a JSON Schema object, found {value.description}"
  | .unsupportedVersion supported =>
      s!"unsupported jexl_version {value.quoted}, expected {Text.quoted supported}"
  | .unknownArgument target key => s!"macro '{target}' has no parameter '{key}'"
  | .missingArgument target name => s!"macro '{target}' is missing argument '{name}'"
  | .stated text => text

end Reason

/-- A refusal at the place that `location` leads to from the value being read. -/
structure Violation where
  location : List String
  reason : Reason
  value : Json

namespace Violation

/-- The same violation seen from one token further out. -/
def within (token : String) (v : Violation) : Violation :=
  { v with location := token :: v.location }

/-- The path of the violation when the value being read stands at `base`. -/
def path (base : String) (v : Violation) : String :=
  Pointer.extend base v.location

end Violation

/-- A part of a value being read, with violations placed under the token of that part. -/
def located {α : Type} (token : String) (part : Except Violation α) : Except Violation α :=
  part.mapError (Violation.within token)

def refuse {α : Type} (reason : Reason) (value : Json) : Except Violation α :=
  .error ⟨[], reason, value⟩

namespace Json

def asString (role : String) : Json → Except Violation String
  | str s => .ok s
  | value => refuse (.notString role) value

def asArray (role : String) : Json → Except Violation (List Json)
  | .arr items => .ok items
  | value => refuse (.notArray role) value

def asObject (role : String) : Json → Except Violation (Bindings Json)
  | .obj members => .ok members
  | value => refuse (.notObject role) value

/-- Reads each item of an array at its index. -/
def eachItem {α : Type} (read : Json → Except Violation α) (index : Nat) :
    List Json → Except Violation (List α)
  | [] => .ok []
  | item :: rest => do
      let first ← located (toString index) (read item)
      return first :: (← eachItem read (index + 1) rest)

end Json

namespace Shape

/-- Every required member is there and no other member than the allowed ones. -/
def check (shape : Shape) (members : Bindings Json) : Except Violation Unit :=
  match shape.required.find? fun key => ! members.has key with
  | some key => refuse (.missingProperty shape key) (.obj members)
  | none =>
      match members.names.find? fun key => ! (shape.required ++ shape.optional).contains key with
      | some key => .error ⟨[key], .unknownProperty shape key, .obj members⟩
      | none => .ok ()

/-- What reading a required member gave, where the member may be absent. -/
def require {α : Type} (shape : Shape) (key : String) (members : Bindings Json) :
    Option (Except Violation α) → Except Violation α
  | some part => part
  | none => refuse (.missingProperty shape key) (.obj members)

/-- Reads a required member. -/
def member {α : Type} (shape : Shape) (key : String) (members : Bindings Json)
    (read : Json → Except Violation α) : Except Violation α :=
  shape.require key members ((members.get? key).map fun value => located key (read value))

end Shape

end JsonExpr
