import JsonExpr.Macros
import JsonExpr.Store

/-!
Evaluation of expressions in a frame. The store outlives an error, so what was bound and printed
before it stays. `step` says what one expression does in terms of the evaluation of others, and
`evaluate` ties the knot with a stack that bounds the nesting.
-/

namespace JsonExpr

abbrev Eval := EStateM Error Store

/-- How expressions are evaluated within the one at hand. -/
abbrev Evaluator := Expr → FrameId → Eval Json

namespace Eval

def ofExcept {α : Type} : Except Error α → Eval α
  | .ok value => pure value
  | .error e => throw e

/-- Runs `body` and then changes the store, whether `body` succeeds or fails. -/
def ensuring {α : Type} (body : Eval α) (after : Store → Store) : Eval α := fun store =>
  match body store with
  | .ok value store => .ok value (after store)
  | .error e store => .error e (after store)

def var (frame : FrameId) (name : String) : Eval Json := do
  match (← get).var? frame name with
  | some value => return value
  | none => throw (.unbound .variable name)

def function (frame : FrameId) (name : String) : Eval Function := do
  match (← get).function? frame name with
  | some function => return function
  | none => throw (.unbound .function name)

/-- Adds a frame and gives its address. -/
def newFrame (frame : Store → Frame) : Eval FrameId :=
  modifyGet fun store => (store.frames.size, store.addFrame (frame store))

/-- A frame inside that of the definition, in which each parameter is bound to its argument. -/
def callFrame (closure : Closure) (args : List Json) (depth : Int) : Eval FrameId := do
  let vars ← ofExcept (bindArguments closure.name closure.params args)
  newFrame fun store => store.innerFrame closure.frame depth vars

/-- The frame of a call: inside the frame of the definition, one call deeper than the caller. -/
def enter (closure : Closure) (args : List Json) (caller : FrameId) : Eval FrameId := do
  let store ← get
  let depth := store.depth caller + 1
  match store.maxCallDepth caller with
  | some limit => if limit < depth then throw (.depthExceeded (some limit) "call")
  | none => pure ()
  callFrame closure args depth

def applyClosure (self : Evaluator) (closure : Closure) (args : List Json) (caller : FrameId) :
    Eval Json := do
  self closure.body (← enter closure args caller)

def applyBuiltin (builtin : Builtin) (args : List Json) : Eval Json := do
  let outcome ← ofExcept (builtin.apply args)
  modify fun store => { store with output := store.output ++ outcome.printed }
  return outcome.value

def apply (self : Evaluator) (function : Function) (args : List Json) (caller : FrameId) :
    Eval Json :=
  match function with
  | .builtin builtin => applyBuiltin builtin args
  | .user closure => applyClosure self closure args caller
  | .value value => throw (.misuse (.notFunction value))

/-- The frame for the bindings of a module. Around it stands a root frame with the builtins, so
that it holds nothing but what the module binds. -/
def moduleFrame (id : RealmId) (realm : Realm) (maxCallDepth : Option Int) : Eval FrameId := do
  let base ← newFrame fun _ => Store.rootFrame id realm.builtins maxCallDepth
  newFrame fun store => store.innerFrame base 0 []

/-- The macros of a module, and its other exports after expansion. -/
def moduleExports (stack : Nat) (settings : Settings) (declared : Module) :
    Except Error (Macros × List Expr) := do
  let maxDepth ← settings.maxExpansionDepth
  let (macros, rest) := Macros.collect { maxDepth } declared.exports
  return (macros, ← macros.expandAll stack rest)

def startLoading (name : String) (realm : Realm) : Realm :=
  { realm with loading := name :: realm.loading }

def stopLoading (name : String) (realm : Realm) : Realm :=
  { realm with loading := realm.loading.filter (· ≠ name) }

/-- Evaluates a declared module that is neither loaded nor being loaded. -/
def loadDeclared (self : Evaluator) (stack : Nat) (id : RealmId) (realm : Realm)
    (maxCallDepth : Option Int) (name : String) (declared : Module) : Eval LoadedModule := do
  let (macros, exports) ← ofExcept (moduleExports stack realm.settings declared)
  let frame ← moduleFrame id realm maxCallDepth
  modify fun store => store.modifyRealm id (startLoading name)
  ensuring (exports.forM fun e => do let _ ← self e frame)
    fun store => store.modifyRealm id (stopLoading name)
  let loaded := { frame, macros := macros.names }
  modify fun store => store.modifyRealm id fun r => { r with loaded := r.loaded.set name loaded }
  return loaded

/-- A module is evaluated when it is first imported and looked up ever after. -/
def loadModule (self : Evaluator) (stack : Nat) (importer : FrameId) (name : String) :
    Eval LoadedModule := do
  let store ← get
  let some id := store.realmOf? importer | throw (.importFailure (.unknownModule name))
  let some realm := store.realms[id]? | throw (.importFailure (.unknownModule name))
  match realm.loaded.get? name with
  | some loaded => return loaded
  | none =>
      match realm.modules.get? name with
      | none => throw (.importFailure (.unknownModule name))
      | some declared =>
          if realm.loading.contains name then throw (.misuse (.circularImport name))
          loadDeclared self stack id realm (store.maxCallDepth (store.root importer)) name declared

/-- Binds one export of a module in a frame: a function of that name, or else a variable. -/
def bindExport (source : String) (loaded : LoadedModule) (target : FrameId) (symbol : String) :
    Eval Unit := do
  let some frame := (← get).frames[loaded.frame]?
    | throw (.importFailure (.unknownSymbol source symbol))
  match frame.functions.get? symbol, frame.vars.get? symbol with
  | some function, _ => modify fun store => store.setFunction target symbol function
  | none, some value => modify fun store => store.setVar target symbol value
  | none, none =>
      if loaded.macros.contains symbol then throw (.misuse (.importedMacro symbol source))
      else throw (.importFailure (.unknownSymbol source symbol))

/-- What one expression does, given how the expressions within it are evaluated. The arguments of
a call are evaluated before its target is looked up. -/
def step (self : Evaluator) (stack : Nat) : Evaluator
  | .literal value, _ => return .scalar value
  | .ref name, frame => var frame name
  | .binding name value, frame => do
      let value ← self value frame
      modify fun store => store.setVar frame name value
      return value
  | .sequence body, frame => body.foldlM (fun _ e => self e frame) .null
  | .conditional condition whenTrue whenFalse, frame => do
      match if (← self condition frame).truthy then whenTrue else whenFalse with
      | some branch => self branch frame
      | none => return .null
  | .function name params body, frame => do
      modify fun store => store.setFunction frame name (.user { name, params, body, frame })
      return .null
  | .macroDef name _ _, _ => throw (.macroNotExpanded name)
  | .imports source symbols, frame => do
      let loaded ← loadModule self stack frame source
      symbols.forM (bindExport source loaded frame)
      return .null
  | .call target args, frame => do
      let values ← args.mapM fun arg => self arg frame
      apply self (← function frame target) values frame
  | .record target _, _ => throw (.misuse (.notMacro target))

/-- The stack for a computation that is given no other. -/
def defaultStack : Nat := 1000

/-- Evaluates an expression in a frame, nesting at most `stack` deep. -/
def evaluate : (stack : Nat) → Evaluator
  | 0 => fun _ _ => throw .stackExhausted
  | stack + 1 => step (evaluate stack) stack

end Eval

/-- What an embedding application may hand over in place of an expression: a tree, or a value that
was never read. Only trees can be written or evaluated. -/
inductive Term where
  | tree (e : Expr)
  | unread (value : Json)

namespace Term

def toJson : Term → Except Error Json
  | .tree e => .ok e.toJson
  | .unread value => .error (.notExpressionNode value)

def evaluate (stack : Nat) (term : Term) (frame : FrameId) : Eval Json :=
  match term with
  | .tree e => Eval.evaluate stack e frame
  | .unread value => throw (.misuse (.notEvaluable value))

end Term

end JsonExpr
