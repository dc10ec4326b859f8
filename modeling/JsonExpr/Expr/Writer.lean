import JsonExpr.Expr.Basic

/-!
Writing expressions as the JSON values that they are read from.
-/

namespace JsonExpr

def Param.toJson (param : Param) : Json :=
  match param.type? with
  | none => .str param.name
  | some typeName => .obj [(param.name, .str typeName)]

namespace Expr

def definitionToJson (key name : String) (params : List Param) (body : Json) : Json :=
  .obj [(key, .obj
    [("name", .str name), ("params", .arr (params.map Param.toJson)), ("body", body)])]

mutual

def toJson : Expr → Json
  | .literal value => .scalar value
  | .ref name => .obj [("ref", .str name)]
  | .binding name value => .obj [("let", .obj [("name", .str name), ("value", toJson value)])]
  | .sequence body => .obj [("do", .arr (itemsToJson body))]
  | .conditional condition whenTrue whenFalse =>
      .obj [("if", .obj (("condition", toJson condition) ::
        (branchToJson "true" whenTrue ++ branchToJson "false" whenFalse)))]
  | .function name params body => definitionToJson "function" name params (toJson body)
  | .macroDef name params body => definitionToJson "macro" name params (toJson body)
  | .imports source symbols =>
      .obj [("import", .obj [("module", .str source), ("symbols", .arr (symbols.map Json.str))])]
  | .call target args => .obj [(target, .arr (itemsToJson args))]
  | .record target fields => .obj [(target, .obj fields)]

def itemsToJson : List Expr → List Json
  | [] => []
  | e :: rest => toJson e :: itemsToJson rest

/-- A branch that is absent is not written. -/
def branchToJson (key : String) : Option Expr → List (String × Json)
  | none => []
  | some e => [(key, toJson e)]

end

end Expr

end JsonExpr
