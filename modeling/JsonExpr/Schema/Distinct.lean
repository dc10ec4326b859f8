import JsonExpr.Json.Equality

/-!
Lists without repetitions. Items that have an order are put in order first, and then neighbours are
compared; other items are compared in pairs.
-/

namespace JsonExpr.Schema

mutual

/-- The value with numbers in place of booleans. -/
def numeric : Json → Json
  | .bool b => .num (.int (if b then 1 else 0))
  | .arr items => .arr (numericItems items)
  | .obj members => .obj (numericMembers members)
  | value => value

def numericItems : List Json → List Json
  | [] => []
  | item :: rest => numeric item :: numericItems rest

def numericMembers : List (String × Json) → List (String × Json)
  | [] => []
  | (name, member) :: rest => (name, numeric member) :: numericMembers rest

end

mutual

/-- Whether one value comes before another, if they have an order. -/
def before? : Json → Json → Option Bool
  | .num a, .num b => some (a.less b)
  | .str a, .str b => some (a < b)
  | .arr a, .arr b => itemsBefore? a b
  | _, _ => none

/-- Arrays are compared by the first items that differ. -/
def itemsBefore? : List Json → List Json → Option Bool
  | [], rest => some (! rest.isEmpty)
  | _ :: _, [] => some false
  | a :: as, b :: bs => if a.equal b then itemsBefore? as bs else before? a b

end

/-- Whether one item comes before another. Booleans have an order only inside of arrays. -/
def itemBefore? : Json → Json → Option Bool
  | .bool _, _ => none
  | _, .bool _ => none
  | a, b => before? (numeric a) (numeric b)

/-- Inserts an item behind those that do not come after it. -/
def insert? (item : Json) : List Json → Option (List Json)
  | [] => some [item]
  | other :: rest => do
      if ← itemBefore? item other then return item :: other :: rest
      else return other :: (← insert? item rest)

/-- The items in order. -/
def sorted? (items : List Json) : Option (List Json) :=
  items.foldlM (fun done item => insert? item done) []

def neighboursDiffer : List Json → Bool
  | a :: b :: rest => ! a.equal b && neighboursDiffer (b :: rest)
  | _ => true

def pairsDiffer : List Json → Bool
  | [] => true
  | a :: rest => ! rest.any a.equal && pairsDiffer rest

/-- Whether no two items are equal. -/
def allDistinct (items : List Json) : Bool :=
  match sorted? items with
  | some items => neighboursDiffer items
  | none => pairsDiffer items

end JsonExpr.Schema
