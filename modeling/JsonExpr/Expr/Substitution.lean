import JsonExpr.Expr.Writer

/-!
Substitution of expressions for variables. An expression that is put in place of a variable is not
substituted into again, and there is no renaming. Inside the fields of a record-style invocation
the reference is found in its JSON form and replaced by the JSON form of the expression.
-/

namespace JsonExpr

namespace Json

/-- The expression bound to the variable that the object refers to, if it is a bound reference. -/
def boundRef? (bound : Bindings Expr) : List (String × Json) → Option Expr
  | [("ref", .str name)] => bound.get? name
  | _ => none

mutual

def substitute (bound : Bindings Expr) : Json → Json
  | .scalar value => .scalar value
  | .arr items => .arr (substituteItems bound items)
  | .obj members =>
      match boundRef? bound members with
      | some e => e.toJson
      | none => .obj (substituteMembers bound members)

def substituteItems (bound : Bindings Expr) : List Json → List Json
  | [] => []
  | item :: rest => substitute bound item :: substituteItems bound rest

def substituteMembers (bound : Bindings Expr) : List (String × Json) → List (String × Json)
  | [] => []
  | (name, value) :: rest => (name, substitute bound value) :: substituteMembers bound rest

end

end Json

namespace Expr

mutual

def substitute (bound : Bindings Expr) : Expr → Expr
  | .literal value => .literal value
  | .ref name => (bound.get? name).getD (.ref name)
  | .binding name value => .binding name (substitute bound value)
  | .sequence body => .sequence (substituteItems bound body)
  | .conditional condition whenTrue whenFalse =>
      .conditional (substitute bound condition) (substituteBranch bound whenTrue)
        (substituteBranch bound whenFalse)
  | .function name params body => .function name params (substitute bound body)
  | .macroDef name params body => .macroDef name params (substitute bound body)
  | .imports source symbols => .imports source symbols
  | .call target args => .call target (substituteItems bound args)
  | .record target fields => .record target (Json.substituteMembers bound fields)

def substituteItems (bound : Bindings Expr) : List Expr → List Expr
  | [] => []
  | e :: rest => substitute bound e :: substituteItems bound rest

def substituteBranch (bound : Bindings Expr) : Option Expr → Option Expr
  | none => none
  | some e => some (substitute bound e)

end

end Expr

end JsonExpr
