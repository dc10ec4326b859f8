import JsonExpr.Bindings
import JsonExpr.Number.Basic

/-!
JSON values, which are both the programs and the data of the language. Objects keep the order of
their members.
-/

namespace JsonExpr

inductive Scalar where
  | null
  | bool (value : Bool)
  | num (value : Number)
  | str (value : String)
  deriving DecidableEq

inductive Json where
  | scalar (value : Scalar)
  | arr (items : List Json)
  | obj (members : List (String × Json))

namespace Json

@[match_pattern]
abbrev null : Json := .scalar .null

@[match_pattern]
abbrev bool (value : Bool) : Json := .scalar (.bool value)

@[match_pattern]
abbrev num (value : Number) : Json := .scalar (.num value)

@[match_pattern]
abbrev str (value : String) : Json := .scalar (.str value)

instance : Inhabited Json := ⟨null⟩

/-- Only `false` and `null` count as false. -/
def truthy : Json → Bool
  | null => false
  | bool false => false
  | _ => true

def isObject : Json → Bool
  | .obj _ => true
  | _ => false

mutual

/-- Whether arrays and objects nest at most `limit` deep. -/
def fitsWithin (limit : Nat) : Json → Bool
  | .scalar _ => true
  | .arr items =>
      match limit with
      | 0 => false
      | limit + 1 => itemsFitWithin limit items
  | .obj members =>
      match limit with
      | 0 => false
      | limit + 1 => membersFitWithin limit members

def itemsFitWithin (limit : Nat) : List Json → Bool
  | [] => true
  | item :: rest => fitsWithin limit item && itemsFitWithin limit rest

def membersFitWithin (limit : Nat) : List (String × Json) → Bool
  | [] => true
  | (_, value) :: rest => fitsWithin limit value && membersFitWithin limit rest

end

end Json

end JsonExpr
