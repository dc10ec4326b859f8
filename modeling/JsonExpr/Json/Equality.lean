import JsonExpr.Json.Basic

/-!
Structural equality of JSON values. Numbers are equal when their exact values are, booleans never
equal numbers, and the order of the members of an object does not matter.
-/

namespace JsonExpr

def Scalar.equal : Scalar → Scalar → Bool
  | .null, .null => true
  | .bool a, .bool b => a == b
  | .num a, .num b => a.equal b
  | .str a, .str b => a == b
  | _, _ => false

namespace Json

def sameNames (a b : List (String × Json)) : Bool :=
  (a.all fun entry => Bindings.has b entry.1) && (b.all fun entry => Bindings.has a entry.1)

mutual

def equal : Json → Json → Bool
  | .scalar a, .scalar b => a.equal b
  | .arr as, .arr bs => itemsEqual as bs
  | .obj as, .obj bs => sameNames as bs && membersEqual bs as
  | _, _ => false

def itemsEqual : List Json → List Json → Bool
  | [], [] => true
  | a :: as, b :: bs => equal a b && itemsEqual as bs
  | _, _ => false

/-- Whether each member of the second object equals the one of that name in the first. -/
def membersEqual (others : List (String × Json)) : List (String × Json) → Bool
  | [] => true
  | (name, value) :: rest =>
      (match Bindings.get? others name with
        | some other => equal value other
        | none => false) && membersEqual others rest

end

end Json

end JsonExpr
