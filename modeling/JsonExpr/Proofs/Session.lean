import JsonExpr.Proofs.Moment
import JsonExpr.Proofs.Reading

/-!
What holds throughout a session. The store of a session is that of the latest program, and what
happens to it is evaluation: of the program, of single expressions after it, and of the calls and
the modules that they come to. So a property that a fresh store has and that evaluation keeps holds
between any two requests and at every moment of a request.
-/

namespace JsonExpr.Interpreter

/-- The modules that a request declares, if it runs a program whose document is accepted. -/
def declares? (interpreter : Interpreter) : Request → Option (Bindings Module)
  | .run document => (interpreter.load document).toOption.map Program.modules
  | _ => none

theorem declares?_of_ok {interpreter : Interpreter} {document : Json} {program : Program}
    (h : interpreter.load document = .ok program) :
    interpreter.declares? (.run document) = some program.modules := by
  rw [declares?, h]
  rfl

theorem declares?_of_error {interpreter : Interpreter} {document : Json} {e : Error}
    (h : interpreter.load document = .error e) : interpreter.declares? (.run document) = none := by
  rw [declares?, h]
  rfl

/-- The modules that the latest program declares. -/
def declared (interpreter : Interpreter) (requests : List Request) : Bindings Module :=
  requests.foldl (fun modules request => (interpreter.declares? request).getD modules) []

theorem session_evaluating {α : Type} (session : Session) (work : Eval α) :
    (evaluating session work).session =
      { session with store :=
        { Eval.finalStore work { session.store with output := "" } with output := "" } } := by
  rw [evaluating, Eval.finalStore]
  cases work { session.store with output := "" } <;> rfl

section Run

/-! What a run comes to, by how far it gets: the document may be refused, the limit on expansions
may not be known, the expansion of the program may fail, and only then is anything evaluated. -/

variable {interpreter : Interpreter} {document : Json} {program : Program} {e : Error}
  {maxDepth : Int} {macros : Macros} {rest body : List Expr}

theorem run_of_load_error (h : interpreter.load document = .error e) (session : Session) :
    interpreter.run session document = { outcome := .error e, session } := by
  simp only [run, h]

theorem run_of_limit_error (hload : interpreter.load document = .ok program)
    (hlimit : interpreter.expansionLimit = .error e) (session : Session) :
    interpreter.run session document =
      { outcome := .error e,
        session :=
          { session with store := interpreter.freshStore program.modules, root := 0 } } := by
  simp only [run, hload, hlimit]

theorem run_of_expand_error (hload : interpreter.load document = .ok program)
    (hlimit : interpreter.expansionLimit = .ok maxDepth)
    (hcollect : Macros.collect { maxDepth } program.body = (macros, rest))
    (hexpand : macros.expandAll interpreter.stack rest = .error e) (session : Session) :
    interpreter.run session document =
      { outcome := .error (e.whenExhausted "nesting"),
        session := { store := interpreter.freshStore program.modules, root := 0, macros } } := by
  simp only [run, hload, hlimit, hcollect, hexpand]

theorem run_of_expand (hload : interpreter.load document = .ok program)
    (hlimit : interpreter.expansionLimit = .ok maxDepth)
    (hcollect : Macros.collect { maxDepth } program.body = (macros, rest))
    (hexpand : macros.expandAll interpreter.stack rest = .ok body) (session : Session) :
    interpreter.run session document =
      evaluating { store := interpreter.freshStore program.modules, root := 0, macros }
        (body.mapM fun e => Eval.evaluate interpreter.stack e 0) := by
  simp only [run, hload, hlimit, hcollect, hexpand]

end Run

section Eval

variable {interpreter : Interpreter} {document : Json} {e : Expr}

theorem onDocument_eq_ok_iff {α : Type} {work : Except Error α} {result : α} :
    interpreter.onDocument document work = .ok result ↔
      document.fitsWithin interpreter.stack = true ∧ work = .ok result := by
  unfold onDocument
  split
  · rename_i hfits
    rw [mapError_eq_ok_iff]
    exact (and_iff_right hfits).symm
  · rename_i hfits
    simp [hfits]

theorem readExpr_eq_ok_iff : readExpr document = .ok e ↔ Expr.ofJson document = .ok e :=
  mapError_eq_ok_iff

theorem load_eq_ok_iff {document : Json} {program : Program} :
    interpreter.load document = .ok program ↔
      document.fitsWithin interpreter.stack = true ∧ Program.ofJson document = .ok program ∧
        program.invalidType? interpreter.faultOf = .ok none := by
  rw [load, onDocument_eq_ok_iff, bind_eq_ok_iff]
  refine and_congr_right fun _ => ?_
  simp only [readProgram, mapError_eq_ok_iff, bind_eq_ok_iff]
  constructor
  · rintro ⟨read, hread, invalid, hinvalid, h⟩
    cases invalid with
    | some invalid => cases h
    | none =>
        cases h
        exact ⟨hread, hinvalid⟩
  · rintro ⟨hread, hinvalid⟩
    exact ⟨program, hread, none, hinvalid, rfl⟩

theorem eval_of_macroDef (hfits : document.fitsWithin interpreter.stack = true)
    (hread : Expr.ofJson document = .ok e) (hdefinition : e.isMacroDef = true) (session : Session) :
    interpreter.eval session document =
      { outcome := .ok .null, session := { session with macros := session.macros.learn e } } := by
  have hdocument := onDocument_eq_ok_iff.mpr ⟨hfits, readExpr_eq_ok_iff.mpr hread⟩
  simp only [eval, hdocument, if_pos hdefinition]

theorem eval_of_expand {session : Session} {expanded : Expr}
    (hfits : document.fitsWithin interpreter.stack = true)
    (hread : Expr.ofJson document = .ok e) (hdefinition : e.isMacroDef = false)
    (hexpand : session.macros.expand interpreter.stack 0 e = .ok expanded) :
    interpreter.eval session document =
      evaluating session (Eval.evaluate interpreter.stack expanded session.root) := by
  have hdocument := onDocument_eq_ok_iff.mpr ⟨hfits, readExpr_eq_ok_iff.mpr hread⟩
  simp only [eval, hdocument, hdefinition, Bool.false_eq_true, if_false, hexpand]

end Eval

/-- The stores of the interpreter, each with the modules that the latest program declares: between
two requests and at every moment of a request. -/
inductive Reachable (interpreter : Interpreter) : Bindings Module → Store → Prop
  | rest (macros : Macros) (requests : List Request) :
      Reachable interpreter (interpreter.declared requests)
        (interpreter.after (interpreter.initial macros) requests).store
  | moment {macros requests request pending left task} :
      interpreter.Moment (interpreter.after (interpreter.initial macros) requests) request pending
        left task →
      Reachable interpreter (interpreter.declared (requests ++ [request])) task.store

/-- A property of stores in which evaluation goes on in a frame, given the declared modules and the
calls and loads that are pending, that holds at first and is kept by all that can happen. -/
structure Invariant (interpreter : Interpreter)
    (holds : Bindings Module → List Pending → Store → FrameId → Prop) : Prop where
  fresh : ∀ modules, holds modules [] (interpreter.freshStore modules) 0
  output : ∀ {modules pending store env} (text : String),
    holds modules pending store env → holds modules pending { store with output := text } env
  effect : ∀ {modules pending store env may after},
    holds modules pending store env → Effect env may store after →
    holds modules pending after env
  enter : ∀ {modules pending store env target closure args callee entered},
    holds modules pending store env → store.function? env target = some (.user closure) →
    Eval.enter closure args env store = .ok callee entered →
    holds modules (.call closure :: pending) entered callee
  opening : ∀ {modules pending store env stack source} {opening : Opening},
    holds modules pending store env → store.findModule stack env source = .ok (.inr opening) →
    holds modules (.load source :: pending) opening.store opening.frame

namespace Invariant

variable {interpreter : Interpreter}
  {holds : Bindings Module → List Pending → Store → FrameId → Prop} {modules : Bindings Module}

theorem and {also : Bindings Module → List Pending → Store → FrameId → Prop}
    (h : interpreter.Invariant holds) (halso : interpreter.Invariant also) :
    interpreter.Invariant fun modules pending store env =>
      holds modules pending store env ∧ also modules pending store env where
  fresh modules := ⟨h.fresh modules, halso.fresh modules⟩
  output text hboth := ⟨h.output text hboth.1, halso.output text hboth.2⟩
  effect hboth heffect := ⟨h.effect hboth.1 heffect, halso.effect hboth.2 heffect⟩
  enter hboth hfunction henter :=
    ⟨h.enter hboth.1 hfunction henter, halso.enter hboth.2 hfunction henter⟩
  opening hboth hopen := ⟨h.opening hboth.1 hopen, halso.opening hboth.2 hopen⟩

theorem begins (h : interpreter.Invariant holds) {left : Nat} {task sub : Task}
    {pending opened : List Pending} (htask : holds modules pending task.store task.frame)
    (hbegins : Eval.Begins (Eval.evaluate left) left task opened sub) :
    holds modules (opened ++ pending) sub.store sub.frame := by
  have hself := Eval.evaluate_effect left
  cases hbegins with
  | value => exact htask
  | item hcomes => exact h.effect htask (Eval.effect_comes hself hcomes)
  | condition => exact htask
  | @branch condition _ _ frame store _ _ _ hcondition _ =>
      have heffect := hself condition frame store
      rw [Eval.finalStore_of_ok hcondition] at heffect
      exact h.effect htask heffect
  | argument hcomes => exact h.effect htask (Eval.effect_comes hself hcomes)
  | body happlies henter =>
      have hready := h.effect htask (Eval.effect_applies hself happlies)
      obtain ⟨_, hfunction⟩ := happlies
      exact h.enter hready hfunction henter
  | exported hopen hcomes =>
      exact h.effect (h.opening htask hopen) (Eval.effect_comes hself hcomes)

theorem during (h : interpreter.Invariant holds) {stack left : Nat} {start task : Task}
    {pending : List Pending} (hstart : holds modules [] start.store start.frame)
    (hduring : Eval.During stack start pending left task) :
    holds modules pending task.store task.frame := by
  induction hduring with
  | start => exact hstart
  | next _ hbegins ih => exact h.begins ih hbegins

/-- The session has the property in its root frame. -/
def AtRoot (holds : Bindings Module → Store → FrameId → Prop) (modules : Bindings Module)
    (session : Session) : Prop :=
  session.root = 0 ∧ holds modules session.store 0

theorem evaluating {α : Type} (h : interpreter.Invariant holds) {session : Session}
    (hsession : AtRoot (holds · []) modules session) {work : Eval α} {may : Namespace → List String}
    (hwork : ∀ store, Effect 0 may store (Eval.finalStore work store)) :
    AtRoot (holds · []) modules (Interpreter.evaluating session work).session := by
  rw [session_evaluating]
  exact ⟨hsession.1, h.output "" (h.effect (h.output "" hsession.2) (hwork _))⟩

theorem run (h : interpreter.Invariant holds) {session : Session}
    (hsession : AtRoot (holds · []) modules session) (document : Json) :
    AtRoot (holds · []) ((interpreter.declares? (.run document)).getD modules)
      (interpreter.run session document).session := by
  unfold Interpreter.run
  cases hload : interpreter.load document with
  | error e =>
      rw [declares?_of_error hload]
      exact hsession
  | ok program =>
      rw [declares?_of_ok hload, Option.getD_some]
      have hfresh (macros : Macros) : AtRoot (holds · []) program.modules
          { store := interpreter.freshStore program.modules, root := 0, macros } :=
        ⟨rfl, h.fresh program.modules⟩
      dsimp only
      split
      · exact hfresh _
      · split
        · exact hfresh _
        · rename_i body _
          exact h.evaluating (hfresh _)
            (Eval.effect_mapM (Eval.evaluate_effect interpreter.stack) body)

theorem eval (h : interpreter.Invariant holds) {session : Session}
    (hsession : AtRoot (holds · []) modules session) (document : Json) :
    AtRoot (holds · []) modules (interpreter.eval session document).session := by
  unfold Interpreter.eval
  split
  · exact hsession
  · split
    · exact hsession
    · split
      · exact hsession
      · rename_i expanded _
        rw [hsession.1]
        exact h.evaluating hsession (Eval.evaluate_effect interpreter.stack expanded 0)

theorem perform (h : interpreter.Invariant holds) {session : Session}
    (hsession : AtRoot (holds · []) modules session) (request : Request) :
    AtRoot (holds · []) ((interpreter.declares? request).getD modules)
      (interpreter.perform session request).session := by
  cases request with
  | run document => exact h.run hsession document
  | eval document => exact h.eval hsession document
  | load document => exact hsession
  | macroexpand document => exact hsession

theorem after (h : interpreter.Invariant holds) (macros : Macros) (requests : List Request) :
    AtRoot (holds · []) (interpreter.declared requests)
      (interpreter.after (interpreter.initial macros) requests) := by
  have hrequests (modules : Bindings Module) (session : Session)
      (hsession : AtRoot (holds · []) modules session) :
      AtRoot (holds · []) (requests.foldl
          (fun modules request => (interpreter.declares? request).getD modules) modules)
        (interpreter.after session requests) := by
    induction requests generalizing modules session with
    | nil => exact hsession
    | cons request rest ih => exact ih _ _ (h.perform hsession request)
  exact hrequests [] _ ⟨rfl, h.fresh []⟩

theorem starts (h : interpreter.Invariant holds) {session : Session}
    (hsession : AtRoot (holds · []) modules session) {request : Request} {start : Task}
    (hstarts : interpreter.Starts session request start) :
    holds ((interpreter.declares? request).getD modules) [] start.store start.frame := by
  cases hstarts with
  | run hload _ _ _ hcomes =>
      have heffect := Eval.effect_comes (Eval.evaluate_effect _) hcomes
      rw [declares?_of_ok hload]
      exact h.effect (h.fresh _) heffect
  | eval _ _ _ =>
      rw [hsession.1]
      exact h.output "" hsession.2

theorem moment (h : interpreter.Invariant holds) {macros : Macros} {requests : List Request}
    {request : Request} {pending : List Pending} {left : Nat} {task : Task}
    (hmoment : interpreter.Moment (interpreter.after (interpreter.initial macros) requests) request
      pending left task) :
    holds (interpreter.declared (requests ++ [request])) pending task.store task.frame := by
  obtain ⟨start, hstarts, hduring⟩ := hmoment
  have hstart := h.starts (h.after macros requests) hstarts
  rw [declared, List.foldl_append]
  exact h.during hstart hduring

theorem reachable (h : interpreter.Invariant holds) {store : Store}
    (hreachable : interpreter.Reachable modules store) :
    ∃ pending env, holds modules pending store env := by
  cases hreachable with
  | rest macros requests => exact ⟨[], 0, (h.after macros requests).2⟩
  | moment hmoment => exact ⟨_, _, h.moment hmoment⟩

end Invariant

end JsonExpr.Interpreter
