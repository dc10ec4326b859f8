/-!
Names bound to values in the order in which they were first bound. Binding a name again replaces
its value and keeps its place.
-/

namespace JsonExpr

abbrev Bindings (α : Type) := List (String × α)

namespace Bindings

variable {α β : Type}

def get? (bindings : Bindings α) (name : String) : Option α :=
  List.lookup name bindings

def has (bindings : Bindings α) (name : String) : Bool :=
  (bindings.get? name).isSome

def names (bindings : Bindings α) : List String :=
  bindings.map Prod.fst

def set : Bindings α → String → α → Bindings α
  | [], name, value => [(name, value)]
  | (bound, old) :: rest, name, value =>
      if bound = name then (bound, value) :: rest else (bound, old) :: set rest name value

/-- Binds each name of the second list in turn. -/
def update (bindings : Bindings α) (more : Bindings α) : Bindings α :=
  more.foldl (fun bound (name, value) => bound.set name value) bindings

def ofList (pairs : List (String × α)) : Bindings α :=
  update [] pairs

def mapValues (f : α → β) (bindings : Bindings α) : Bindings β :=
  bindings.map fun (name, value) => (name, f value)

end Bindings

end JsonExpr
