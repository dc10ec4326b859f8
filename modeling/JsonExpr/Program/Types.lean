import JsonExpr.Program
import JsonExpr.Schema.Draft

/-!
Checks of the types that a program declares. Each is a schema document, and the checks take what
is wrong with a document, if anything, as a function. That function may itself fail.
-/

namespace JsonExpr

/-- What is wrong with a document, if anything. -/
abbrev TypeCheck := Json → Except Error (Option String)

/-- The check against the schema language. -/
def TypeCheck.schema : TypeCheck := fun document =>
  (Schema.schemaError document).mapError Error.ofFailure

/-- A declared type that is no schema. The module is absent where the program itself declares it. -/
structure InvalidType where
  source : Option String
  name : String
  reason : String

def InvalidType.toError (invalid : InvalidType) : Error :=
  .invalidType invalid.name invalid.source invalid.reason

namespace Program

/-- Every declared type: those of the program, then those of each module in order. -/
def declaredTypes (program : Program) : List (Option String × String × Json) :=
  program.types.map (fun (name, document) => (none, name, document)) ++
    program.modules.flatMap fun (source, declared) =>
      declared.types.map fun (name, document) => (some source, name, document)

/-- Every declared type that is no schema. -/
def invalidTypes (faultOf : TypeCheck) (program : Program) : Except Error (List InvalidType) :=
  program.declaredTypes.filterMapM fun (source, name, document) => do
    return (← faultOf document).map fun reason => { source, name, reason }

/-- The first of some declared types that is no schema. Those after it are not looked at. -/
def firstInvalid? (faultOf : TypeCheck) :
    List (Option String × String × Json) → Except Error (Option InvalidType)
  | [] => .ok none
  | (source, name, document) :: rest => do
      match ← faultOf document with
      | some reason => return some { source, name, reason }
      | none => firstInvalid? faultOf rest

def invalidType? (faultOf : TypeCheck) (program : Program) : Except Error (Option InvalidType) :=
  firstInvalid? faultOf program.declaredTypes

def typesValid (faultOf : TypeCheck) (program : Program) : Except Error Bool := do
  return (← program.invalidType? faultOf).isNone

end Program

namespace Json

/-- Null, false, zero, and what has no characters, items or members count as empty. -/
def isEmptyValue : Json → Bool
  | .null => true
  | .bool b => ! b
  | .num n => n.equal (.int 0)
  | .str s => s.isEmpty
  | .arr items => items.isEmpty
  | .obj members => members.isEmpty

/-- The members of the object under a key. An absent or empty value has none. -/
def entriesAt (members : Bindings Json) (key : String) : Except Error (Bindings Json) :=
  match members.get? key with
  | none => .ok []
  | some (.obj entries) => .ok entries
  | some value => if value.isEmptyValue then .ok [] else .error (.notMapping value.typeName)

/-- Whether every document is valid, up to the first that is not. -/
def allValid (faultOf : TypeCheck) : List (String × Json) → Except Error Bool
  | [] => .ok true
  | (_, document) :: rest => do
      if (← faultOf document).isNone then allValid faultOf rest else return false

/-- Whether the types of each module are valid, up to the first that are not. -/
def moduleTypesValid (faultOf : TypeCheck) : List (String × Json) → Except Error Bool
  | [] => .ok true
  | (_, .obj members) :: rest => do
      if ← allValid faultOf (← entriesAt members "types") then moduleTypesValid faultOf rest
      else return false
  | _ :: rest => moduleTypesValid faultOf rest

/-- The check of a document that was not read as a program. -/
def typesValid (faultOf : TypeCheck) : Json → Except Error Bool
  | .obj members => do
      if ← allValid faultOf (← entriesAt members "types") then
        moduleTypesValid faultOf (← entriesAt members "modules")
      else return false
  | _ => .ok false

end Json

end JsonExpr
