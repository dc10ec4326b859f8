import JsonExpr.Evaluation
import JsonExpr.Program.Types

/-!
The interpreter. It runs whole programs and evaluates single expressions after them; the frames and
macros of the last program stay in the session. Exhaustion of the stack is reported as too much
nesting.
-/

namespace JsonExpr

/-- What an interpreter is set up with. -/
structure Interpreter where
  builtins : Bindings Builtin := Builtin.standard
  settings : Settings := {}
  maxCallDepth : Int
  /-- The limit on nested expansions, if it was given and is not left to the settings. -/
  maxExpansionDepth : Option Int := none
  /-- What is wrong with the document of a declared type, if anything. -/
  faultOf : TypeCheck := TypeCheck.schema
  /-- How deep reading, expansion and evaluation may nest. -/
  stack : Nat := Eval.defaultStack

/-- What stays between the steps of an interpreter. -/
structure Session where
  store : Store
  root : FrameId
  macros : Macros

namespace Session

/-- The variables of the root frame. -/
def vars (session : Session) : Bindings Json :=
  match session.store.frames[session.root]? with
  | some frame => frame.vars
  | none => []

/-- The functions that the program has bound in the root frame. -/
def functions (session : Session) : Bindings Closure :=
  match session.store.frames[session.root]? with
  | some frame => frame.functions.filterMap fun (name, function) =>
      match function with
      | .user closure => some (name, closure)
      | _ => none
  | none => []

def realm (session : Session) : Realm :=
  ((session.store.realmOf? session.root).bind fun id => session.store.realms[id]?).getD {}

end Session

/-- The outcome of a step, with the text that it printed. -/
structure Reply (α : Type) where
  outcome : Except Error α
  output : String := ""
  session : Session

def Reply.map {α β : Type} (f : α → β) (reply : Reply α) : Reply β :=
  { outcome := reply.outcome.map f, output := reply.output, session := reply.session }

/-- Reports exhaustion of the stack as too much nesting of what was going on. -/
def Error.whenExhausted (what : String) : Error → Error
  | .stackExhausted => .depthExceeded none what
  | e => e

namespace Interpreter

def expansionLimit (interpreter : Interpreter) : Except Error Int :=
  match interpreter.maxExpansionDepth with
  | some limit => .ok limit
  | none => interpreter.settings.maxExpansionDepth

/-- A store with nothing but the root frame of a program. -/
def freshStore (interpreter : Interpreter) (modules : Bindings Module) : Store :=
  let realm : Realm :=
    { builtins := interpreter.builtins, settings := interpreter.settings, modules }
  let root := Store.rootFrame 0 interpreter.builtins (some interpreter.maxCallDepth)
  { frames := #[root], realms := #[realm] }

/-- Sets up an interpreter. A limit that is not given comes from the settings. -/
def create (builtins : Bindings Builtin) (settings : Settings)
    (callLimit maxExpansionDepth : Option Int) : Except Error (Interpreter × Session) := do
  let maxCallDepth ← match callLimit with
    | some limit => .ok limit
    | none => settings.maxCallDepth
  let interpreter : Interpreter := { builtins, settings, maxCallDepth, maxExpansionDepth }
  let macros : Macros := { maxDepth := ← interpreter.expansionLimit }
  return (interpreter, { store := interpreter.freshStore [], root := 0, macros })

/-- Works on a document that does not nest too deep. -/
def onDocument {α : Type} (interpreter : Interpreter) (document : Json) (work : Except Error α) :
    Except Error α :=
  if document.fitsWithin interpreter.stack then work.mapError (Error.whenExhausted "nesting")
  else .error (.depthExceeded none "nesting")

def readExpr (document : Json) : Except Error Expr :=
  (Expr.ofJson document).mapError (Error.ofViolation "")

def readProgram (document : Json) : Except Error Program :=
  (Program.ofJson document).mapError (Error.ofViolation "")

/-- Reads a program and checks its declared types. -/
def load (interpreter : Interpreter) (document : Json) : Except Error Program :=
  interpreter.onDocument document do
    let program ← readProgram document
    match ← program.invalidType? interpreter.faultOf with
    | none => return program
    | some invalid => .error invalid.toError

/-- Evaluates in the root frame of a session and collects what is printed. -/
def evaluating {α : Type} (session : Session) (work : Eval α) : Reply α :=
  match work { session.store with output := "" } with
  | .ok value store =>
      { outcome := .ok value, output := store.output,
        session := { session with store := { store with output := "" } } }
  | .error e store =>
      { outcome := .error (e.whenExhausted "call"), output := store.output,
        session := { session with store := { store with output := "" } } }

/-- Runs a program in a fresh root frame and gives the value of each expression of its body. The
whole body is expanded before any of it is evaluated. -/
def run (interpreter : Interpreter) (session : Session) (document : Json) : Reply (List Json) :=
  match interpreter.load document with
  | .error e => { outcome := .error e, session }
  | .ok program =>
      let session := { session with store := interpreter.freshStore program.modules, root := 0 }
      match interpreter.expansionLimit with
      | .error e => { outcome := .error e, session }
      | .ok maxDepth =>
          let (macros, rest) := Macros.collect { maxDepth } program.body
          let session := { session with macros }
          match macros.expandAll interpreter.stack rest with
          | .error e => { outcome := .error (e.whenExhausted "nesting"), session }
          | .ok body =>
              evaluating session (body.mapM fun e => Eval.evaluate interpreter.stack e session.root)

/-- Evaluates one expression in the root frame. A macro definition is kept and gives null. -/
def eval (interpreter : Interpreter) (session : Session) (document : Json) : Reply Json :=
  match interpreter.onDocument document (readExpr document) with
  | .error e => { outcome := .error e, session }
  | .ok e =>
      if e.isMacroDef then
        { outcome := .ok .null, session := { session with macros := session.macros.learn e } }
      else
        match session.macros.expand interpreter.stack 0 e with
        | .error e => { outcome := .error (e.whenExhausted "nesting"), session }
        | .ok e => evaluating session (Eval.evaluate interpreter.stack e session.root)

/-- The JSON form of an expression after expansion. -/
def macroexpand (interpreter : Interpreter) (session : Session) (document : Json) :
    Except Error Json :=
  interpreter.onDocument document do
    let e ← readExpr document
    return (← session.macros.expand interpreter.stack 0 e).toJson

end Interpreter

/-- What can be asked of an interpreter. -/
inductive Request where
  | run (document : Json)
  | eval (document : Json)
  | load (document : Json)
  | macroexpand (document : Json)

inductive Answer where
  | values (values : List Json)
  | value (value : Json)
  | program (program : Program)

namespace Interpreter

/-- One step of a session. Loading and expanding leave the session as it is. -/
def perform (interpreter : Interpreter) (session : Session) : Request → Reply Answer
  | .run document => (interpreter.run session document).map .values
  | .eval document => (interpreter.eval session document).map .value
  | .load document => { outcome := (interpreter.load document).map .program, session }
  | .macroexpand document =>
      { outcome := (interpreter.macroexpand session document).map .value, session }

/-- The session after a sequence of steps, whether they succeed or fail. -/
def after (interpreter : Interpreter) (session : Session) (requests : List Request) : Session :=
  requests.foldl (fun session request => (interpreter.perform session request).session) session

end Interpreter

end JsonExpr
