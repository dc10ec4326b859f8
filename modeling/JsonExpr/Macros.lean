import JsonExpr.Error
import JsonExpr.Expr.Reader
import JsonExpr.Expr.Substitution

/-!
Macros and their expansion. A macro is invoked by position or by parameter name. Expansion puts
the unevaluated arguments into the body in place of the parameters and goes on with the result,
until no invocation of a macro is left or the limit on nested expansions is reached.
-/

namespace JsonExpr

/-- Binds each parameter of `name` to its argument, of which there have to be as many. Functions and
macros bind alike: where a parameter name occurs more than once, the argument at its last place
counts. -/
def bindArguments {α : Type} (name : String) (params : List Param) (args : List α) :
    Except Error (Bindings α) :=
  if args.length = params.length then .ok (.ofList ((paramNames params).zip args))
  else .error (.arity name params.length args.length)

structure Macro where
  params : List Param
  body : Expr

/-- The macros that are known, by name, with the limit on nested expansions. -/
structure Macros where
  table : Bindings Macro := []
  maxDepth : Int

/-- The name that an expression invokes, as a function or as a macro. -/
def Expr.target? : Expr → Option String
  | .call target _ => some target
  | .record target _ => some target
  | _ => none

def Expr.isMacroDef : Expr → Bool
  | .macroDef .. => true
  | _ => false

namespace Macros

def names (macros : Macros) : List String :=
  macros.table.names

def define (macros : Macros) (name : String) (definition : Macro) : Macros :=
  { macros with table := macros.table.set name definition }

/-- Takes in an expression if it is a macro definition. -/
def learn (macros : Macros) : Expr → Macros
  | .macroDef name params body => macros.define name { params, body }
  | _ => macros

/-- Takes in every macro definition of a list and keeps the other expressions. -/
def collect (macros : Macros) (exprs : List Expr) : Macros × List Expr :=
  (exprs.foldl learn macros, exprs.filter fun e => ! e.isMacroDef)

/-- The macro that an expression invokes, if it invokes one. -/
def invoked? (macros : Macros) (e : Expr) : Option (String × Macro) := do
  let target ← e.target?
  let definition ← macros.table.get? target
  return (target, definition)

/-- The argument for one parameter of a record-style invocation. -/
def fieldArgument (target : String) (fields : Bindings Json) (name : String) :
    Except Violation Expr :=
  match fields.get? name with
  | some value => located name (Expr.ofJson value)
  | none => refuse (.missingArgument target name) (.obj fields)

/-- The arguments of a record-style invocation. Its fields have to be the parameters, and they are
read as expressions only now. -/
def fieldArguments (target : String) (params : List Param) (fields : Bindings Json) :
    Except Violation (Bindings Expr) := do
  let names := paramNames params
  match fields.find? fun field => ! names.contains field.1 with
  | some (key, value) => located key (refuse (.unknownArgument target key) value)
  | none =>
      match names.find? fun name => ! fields.has name with
      | some name => refuse (.missingArgument target name) (.obj fields)
      | none => return .ofList (names.zip (← names.mapM (fieldArgument target fields)))

/-- Each parameter of the invoked macro with its unevaluated argument. The place of a violation is
counted from the invocation. -/
def arguments (target : String) (definition : Macro) : Expr → Except Error (Bindings Expr)
  | .call _ args => bindArguments target definition.params args
  | .record _ fields =>
      (located target (fieldArguments target definition.params fields)).mapError
        (Error.ofViolation "")
  | _ => .ok []

/-- Expands an expression once if it invokes a macro. -/
def expandOnce (macros : Macros) (e : Expr) : Except Error Expr :=
  match macros.invoked? e with
  | some (target, definition) => do
      return definition.body.substitute (← arguments target definition e)
  | none => .ok e

/-- Eliminates every invocation of a known macro. The `stack` bounds the nesting of this function
itself and is used up on the way into a subexpression and into an expansion. -/
def expand (macros : Macros) : (stack : Nat) → (depth : Int) → Expr → Except Error Expr
  | 0, _, _ => .error .stackExhausted
  | stack + 1, depth, e =>
      if macros.maxDepth < depth then
        .error (.depthExceeded (some macros.maxDepth) "macro expansion")
      else
        match macros.invoked? e with
        | some _ => do expand macros stack (depth + 1) (← macros.expandOnce e)
        | none => e.mapChildrenM (expand macros stack depth)

def expandAll (macros : Macros) (stack : Nat) (exprs : List Expr) : Except Error (List Expr) :=
  exprs.mapM (macros.expand stack 0)

end Macros

end JsonExpr
