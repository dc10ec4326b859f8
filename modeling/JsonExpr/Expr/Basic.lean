import JsonExpr.Json.Basic

/-!
Expression trees. A record-style invocation keeps its fields as JSON, because they are read as
expressions only when a macro of that name is expanded.
-/

namespace JsonExpr

/-- A formal parameter; the name of its type is kept and never checked. -/
structure Param where
  name : String
  type? : Option String := none
  deriving DecidableEq

def paramNames (params : List Param) : List String :=
  params.map Param.name

inductive Expr where
  /-- A scalar standing for itself. -/
  | literal (value : Scalar)
  /-- The value of a variable. -/
  | ref (name : String)
  /-- Binds a variable in the current frame. -/
  | binding (name : String) (value : Expr)
  /-- Evaluates in order and gives the last value. -/
  | sequence (body : List Expr)
  | conditional (condition : Expr) (whenTrue whenFalse : Option Expr)
  /-- Defines a function in the current frame. -/
  | function (name : String) (params : List Param) (body : Expr)
  | macroDef (name : String) (params : List Param) (body : Expr)
  /-- Binds exports of a module in the current frame. -/
  | imports (source : String) (symbols : List String)
  | call (target : String) (args : List Expr)
  /-- An invocation with named arguments, which only macros accept. -/
  | record (target : String) (fields : List (String × Json))

namespace Expr

instance : Inhabited Expr := ⟨.literal .null⟩

/-- Rebuilds an expression with each direct subexpression replaced, in the order in which they
are written. The fields of a record-style invocation are not subexpressions. -/
def mapChildrenM {m : Type → Type} [Monad m] (f : Expr → m Expr) : Expr → m Expr
  | .binding name value => do return .binding name (← f value)
  | .sequence body => do return .sequence (← body.mapM f)
  | .conditional condition whenTrue whenFalse => do
      let condition ← f condition
      let whenTrue ← whenTrue.mapM f
      let whenFalse ← whenFalse.mapM f
      return .conditional condition whenTrue whenFalse
  | .function name params body => do return .function name params (← f body)
  | .macroDef name params body => do return .macroDef name params (← f body)
  | .call target args => do return .call target (← args.mapM f)
  | e => pure e

def mapChildren (f : Expr → Expr) (e : Expr) : Expr :=
  Id.run (e.mapChildrenM fun child => pure (f child))

end Expr

end JsonExpr
