import JsonExpr.Error
import JsonExpr.Expr.Reader

/-!
Program documents: a body of expressions with the types that it declares and the modules that it
may import.
-/

namespace JsonExpr

structure Module where
  exports : List Expr
  types : Bindings Json := []

structure Program where
  name : String
  body : List Expr
  types : Bindings Json := []
  modules : Bindings Module := []

/-- The one version of the grammar that is read. -/
def supportedVersion : String := "v0.1"

/-- Declared types are named objects. -/
def typesOf (value : Json) : Except Violation (Bindings Json) := do
  let types ← value.asObject "types"
  match types.find? fun entry => ! entry.2.isObject with
  | some (name, document) => located name (refuse (.notSchema name) document)
  | none => return types

/-- The declared types of a program or a module, which may be absent. -/
def typesMember (members : Bindings Json) : Except Violation (Bindings Json) :=
  match members.get? "types" with
  | some value => located "types" (typesOf value)
  | none => .ok []

namespace Module

def ofJson : Json → Except Violation Module
  | .obj members => do
      Shape.moduleDef.check members
      let exports ← Shape.moduleDef.member "exports" members (Json.asArray "Module exports")
      let types ← typesMember members
      let exports ← located "exports" (Expr.ofItems 0 exports)
      return { exports, types }
  | value => refuse (.expectsObject .moduleDef) value

/-- Reads each module of a program under its name. -/
def eachOfJson : List (String × Json) → Except Violation (Bindings Module)
  | [] => .ok []
  | (name, value) :: rest => do
      let first ← located name (ofJson value)
      return (name, first) :: (← eachOfJson rest)

end Module

namespace Program

def modulesMember (members : Bindings Json) : Except Violation (Bindings Module) :=
  match members.get? "modules" with
  | some value => located "modules" do Module.eachOfJson (← value.asObject "modules")
  | none => .ok []

/-- The required members are there; members that the grammar does not know are ignored. -/
def requireKeys (members : Bindings Json) : Except Violation Unit :=
  match Shape.program.required.find? fun key => ! members.has key with
  | some key => .error ⟨[key], .missingProperty .program key, .obj members⟩
  | none => .ok ()

def checkVersion : Json → Except Violation Unit
  | .str version =>
      if version = supportedVersion then .ok ()
      else refuse (.unsupportedVersion supportedVersion) (.str version)
  | value => refuse (.unsupportedVersion supportedVersion) value

def ofJson : Json → Except Violation Program
  | .obj members => do
      requireKeys members
      Shape.program.member "jexl_version" members checkVersion
      let name ← Shape.program.member "name" members (Json.asString "Program name")
      let body ← Shape.program.member "program" members (Json.asArray "Program body")
      let types ← typesMember members
      let modules ← modulesMember members
      let body ← located "program" (Expr.ofItems 0 body)
      return { name, body, types, modules }
  | value => refuse (.notObject "Program") value

/-- What is wrong with a document as a program. Reading stops at the first violation, so there is at
most one. -/
def violations (document : Json) : List Violation :=
  match ofJson document with
  | .ok _ => []
  | .error violation => [violation]

def isProgram (document : Json) : Bool :=
  (violations document).isEmpty

end Program

end JsonExpr
