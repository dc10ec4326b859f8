import JsonExpr.Builtin
import JsonExpr.Program
import JsonExpr.Settings

/-!
The store of frames. A frame holds the variables and the functions of one scope, in two separate
namespaces, and leads outwards to the frame around it or, at the root, to its realm. Frames and
realms are addressed by the order of their creation, so a frame is always younger than the one
around it.
-/

namespace JsonExpr

abbrev FrameId := Nat

abbrev RealmId := Nat

/-- A function of the program with the frame that it was defined in. -/
structure Closure where
  name : String
  params : List Param
  body : Expr
  frame : FrameId

/-- `<function name(a, b)>`, the way a function is shown. -/
def Closure.text (closure : Closure) : String :=
  "<function " ++ closure.name ++ "(" ++ ", ".intercalate (paramNames closure.params) ++ ")>"

/-- What the name of a function can stand for. -/
inductive Function where
  | builtin (builtin : Builtin)
  | user (closure : Closure)
  /-- A plain value, which cannot be applied. -/
  | value (value : Json)

inductive Link where
  | inside (outer : FrameId)
  | root (realm : RealmId)

structure Frame where
  vars : Bindings Json := []
  functions : Bindings Function := []
  link : Link
  /-- The number of calls that the frame is nested in. -/
  depth : Int := 0
  maxCallDepth : Option Int := none

/-- A module that has been evaluated: the frame of its bindings and the names of its macros. -/
structure LoadedModule where
  frame : FrameId
  macros : List String

/-- What all frames of one program share. -/
structure Realm where
  builtins : Bindings Builtin := []
  settings : Settings := {}
  modules : Bindings Module := []
  loaded : Bindings LoadedModule := []
  loading : List String := []

structure Store where
  frames : Array Frame := #[]
  realms : Array Realm := #[]
  /-- The text printed so far. -/
  output : String := ""

namespace Store

/-- The frames seen from a frame, itself first and its root last. -/
def chain (store : Store) (id : FrameId) : List FrameId :=
  match store.frames[id]? with
  | none => []
  | some frame =>
      match frame.link with
      | .root _ => [id]
      | .inside outer => if outer < id then id :: chain store outer else [id]
termination_by id

def var? (store : Store) (id : FrameId) (name : String) : Option Json :=
  (store.chain id).findSome? fun i => store.frames[i]?.bind fun frame => frame.vars.get? name

def function? (store : Store) (id : FrameId) (name : String) : Option Function :=
  (store.chain id).findSome? fun i => store.frames[i]?.bind fun frame => frame.functions.get? name

def hasVar (store : Store) (id : FrameId) (name : String) : Bool :=
  (store.chain id).any fun i => store.frames[i]?.any fun frame => frame.vars.has name

def hasFunction (store : Store) (id : FrameId) (name : String) : Bool :=
  (store.chain id).any fun i => store.frames[i]?.any fun frame => frame.functions.has name

def root (store : Store) (id : FrameId) : FrameId :=
  (store.chain id).getLast?.getD id

def realmOf? (store : Store) (id : FrameId) : Option RealmId :=
  match store.frames[store.root id]? with
  | some { link := .root realm, .. } => some realm
  | _ => none

def maxCallDepth (store : Store) (id : FrameId) : Option Int :=
  store.frames[id]?.bind Frame.maxCallDepth

def depth (store : Store) (id : FrameId) : Int :=
  match store.frames[id]? with
  | some frame => frame.depth
  | none => 0

def setVar (store : Store) (id : FrameId) (name : String) (value : Json) : Store :=
  { store with
    frames := store.frames.modify id fun frame =>
      { frame with vars := frame.vars.set name value } }

def setFunction (store : Store) (id : FrameId) (name : String) (function : Function) : Store :=
  { store with
    frames := store.frames.modify id fun frame =>
      { frame with functions := frame.functions.set name function } }

def setFunctions (store : Store) (id : FrameId) (functions : Bindings Function) : Store :=
  { store with
    frames := store.frames.modify id fun frame =>
      { frame with functions := frame.functions.update functions } }

def modifyRealm (store : Store) (id : RealmId) (f : Realm → Realm) : Store :=
  { store with realms := store.realms.modify id f }

/-- Adds a frame; its address is the number of frames there were. -/
def addFrame (store : Store) (frame : Frame) : Store :=
  { store with frames := store.frames.push frame }

def addRealm (store : Store) (realm : Realm) : Store :=
  { store with realms := store.realms.push realm }

/-- A root frame with the builtins of its realm. -/
def rootFrame (realm : RealmId) (builtins : Bindings Builtin) (maxCallDepth : Option Int) : Frame :=
  { functions := .ofList (builtins.mapValues .builtin), link := .root realm, maxCallDepth }

/-- A frame around which stands `outer`, whose limit it shares. -/
def innerFrame (store : Store) (outer : FrameId) (depth : Int) (vars : Bindings Json) : Frame :=
  { vars, link := .inside outer, depth, maxCallDepth := store.maxCallDepth outer }

/-- Adds an empty root frame with a realm of its own. -/
def addRoot (store : Store) (depth : Int) (maxCallDepth : Option Int) : Store :=
  (store.addRealm {}).addFrame { link := .root store.realms.size, depth, maxCallDepth }

/-- Adds an empty frame inside another, at the depth of that one if no depth is given. -/
def addChild (store : Store) (outer : FrameId) (depth : Option Int) : Store :=
  store.addFrame (store.innerFrame outer (depth.getD (store.depth outer)) [])

/-- Gives the frame the builtins, and its realm as the builtins of later modules. -/
def register (store : Store) (id : FrameId) (builtins : Bindings Builtin) : Store :=
  let store := store.setFunctions id (builtins.mapValues .builtin)
  match store.realmOf? id with
  | some realm => store.modifyRealm realm fun r => { r with builtins }
  | none => store

/-- Declares a module for the whole realm of a frame. -/
def declare (store : Store) (id : FrameId) (name : String) (declared : Module) : Store :=
  match store.realmOf? id with
  | some realm => store.modifyRealm realm fun r => { r with modules := r.modules.set name declared }
  | none => store

def module? (store : Store) (id : FrameId) (name : String) : Option Module := do
  let realm ← store.realms[← store.realmOf? id]?
  realm.modules.get? name

end Store

namespace Frame

def hasOuter (frame : Frame) : Bool :=
  match frame.link with
  | .inside _ => true
  | .root _ => false

def varText (entry : String × Json) : Except Error String :=
  if entry.2.hasText then .ok (entry.1 ++ ": " ++ entry.2.quoted) else .error .integerTooLong

/-- The bindings of one frame: each variable with its value, then the names of the functions. -/
def text (frame : Frame) : Except Error String := do
  let vars ← frame.vars.mapM varText
  let functions := frame.functions.names.map fun name => name ++ "()"
  return "\x7b" ++ ", ".intercalate (vars ++ functions) ++ "\x7d"

end Frame

namespace Store

def frameText (store : Store) (id : FrameId) : Except Error String :=
  match store.frames[id]? with
  | some frame => do return (← frame.text) ++ (if frame.hasOuter then " -> ..." else "")
  | none => .ok ""

def chainText (store : Store) (id : FrameId) : Except Error String := do
  let texts ← ((store.chain id).filterMap fun i => store.frames[i]?).mapM Frame.text
  return "<Environment chain: " ++ " -> ".intercalate texts ++ ">"

end Store

end JsonExpr
