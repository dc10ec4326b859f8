import JsonExpr.Error
import JsonExpr.Json.Equality

/-!
The functions that every program starts with: those of the language, and those that the embedding
application adds to them or puts in their place. Their arguments are values, and they see nothing
of the scope they are called from.
-/

namespace JsonExpr

inductive Builtin where
  | add
  | subtract
  | multiply
  | divide
  | less
  | greater
  | equals
  | not
  | print
  | concat
  | list
  | tuple
  | object
  /-- A function of the embedding application, by what it gives back and what it prints. -/
  | host (value : List Json → Except Error Json) (printed : List Json → String)

namespace Builtin

/-- What a builtin gives back, with the text that it prints. -/
structure Outcome where
  value : Json
  printed : String

def expectArity (name : String) (args : List Json) (arity : Nat) : Except Error Unit :=
  if args.length = arity then .ok () else .error (.arity name arity args.length)

/-- Exactly two numbers; anything else is shown in the refusal. -/
def twoNumbers (name : String) : List Json → Except Error (Number × Number)
  | [.num a, .num b] => .ok (a, b)
  | [a, b] => do .error (.mismatch (.notNumbers name (← a.checkedText) (← b.checkedText)))
  | args => .error (.arity name 2 args.length)

def arithmetic (name : String) (operation : Number → Number → Except Number.Fault Number)
    (args : List Json) : Except Error Json := do
  let (a, b) ← twoNumbers name args
  return .num (← (operation a b).mapError Error.arithmetic)

def quotient (args : List Json) : Except Error Json := do
  let (a, b) ← twoNumbers "divide" args
  if b.isZero then .error (.mismatch .divideByZero)
  return .num (← (a.divide b).mapError Error.arithmetic)

def comparison (name : String) (holds : Number → Number → Bool) (args : List Json) :
    Except Error Json := do
  let (a, b) ← twoNumbers name args
  return .bool (holds a b)

def texts (args : List Json) : Except Error (List String) :=
  args.mapM Json.checkedText

/-- Adds one `[name, value]` pair to an object; a later pair of the same name wins. -/
def addPair (members : Bindings Json) : Json → Except Error (Bindings Json)
  | .arr [.str name, value] => .ok (members.set name value)
  | pair => do .error (.mismatch (.notPair (← pair.checkedText)))

def value : Builtin → List Json → Except Error Json
  | .add, args => arithmetic "add" Number.add args
  | .subtract, args => arithmetic "subtract" Number.subtract args
  | .multiply, args => arithmetic "multiply" Number.multiply args
  | .divide, args => quotient args
  | .less, args => comparison "less" Number.less args
  | .greater, args => comparison "greater" (fun a b => b.less a) args
  | .equals, args =>
      match args with
      | [a, b] => .ok (.bool (a.equal b))
      | args => .error (.arity "equals" 2 args.length)
  | .not, args =>
      match args with
      | [a] => .ok (.bool (! a.truthy))
      | args => .error (.arity "not" 1 args.length)
  | .print, args => do
      let _ ← texts args
      return .null
  | .concat, args => do return .str (String.join (← texts args))
  | .list, args => .ok (.arr args)
  | .tuple, args => do
      expectArity "tuple" args 2
      return .arr args
  | .object, args => do return .obj (← args.foldlM addPair [])
  | .host value _, args => value args

/-- Printing shows the texts with spaces between them on a line of their own. -/
def printed : Builtin → List Json → String
  | .print, args => " ".intercalate (args.map Json.text) ++ "\n"
  | .host _ printed, args => printed args
  | _, _ => ""

def apply (builtin : Builtin) (args : List Json) : Except Error Outcome := do
  return { value := ← builtin.value args, printed := builtin.printed args }

/-- The builtins by name, in the order in which they are listed. -/
def standard : Bindings Builtin :=
  [("add", .add), ("subtract", .subtract), ("multiply", .multiply), ("divide", .divide),
    ("less", .less), ("greater", .greater), ("equals", .equals), ("not", .not), ("print", .print),
    ("concat", .concat), ("list", .list), ("tuple", .tuple), ("object", .object)]

/-- The standard builtins with others beside or in place of them. -/
def registry (extra : Bindings Builtin) : Bindings Builtin :=
  standard.update extra

end Builtin

end JsonExpr
