import JsonExpr.Interpreter
import JsonExpr.Proofs.Effect

/-!
The moments of an evaluation. Whenever the evaluation of an expression begins within that of
another there is a moment, and with it goes the stack of the calls and the loads of modules that
are pending then. `step_congr` says that `Begins` misses none: what a step does is determined by
the evaluations that it begins.
-/

namespace JsonExpr

/-- An expression about to be evaluated, with the frame and the store. -/
structure Task where
  expr : Expr
  frame : FrameId
  store : Store

/-- What has been entered and not yet left. -/
inductive Pending where
  | call (closure : Closure)
  | load (source : String)

namespace Eval

/-- The outcome of a task. -/
def outcome (self : Evaluator) (task : Task) : EStateM.Result Error Store Json :=
  self task.expr task.frame task.store

/-- Evaluating the expressions in order comes to one of them in the given store. -/
inductive Comes (self : Evaluator) (frame : FrameId) : List Expr → Store → Expr → Store → Prop
  | here {e rest store} : Comes self frame (e :: rest) store e store
  | later {first rest store value middle e reached} :
      self first frame store = .ok value middle → Comes self frame rest middle e reached →
      Comes self frame (first :: rest) store e reached

/-- A call that has its arguments and its function and is about to be entered. -/
inductive Applies (self : Evaluator) : Task → Closure → List Json → Store → Prop
  | intro {target args frame store values ready closure} :
      (args.mapM fun arg => self arg frame) store = .ok values ready →
      ready.function? frame target = some (.user closure) →
      Applies self ⟨.call target args, frame, store⟩ closure values ready

/-- The evaluation of a task begins that of another, and what it enters for that. -/
inductive Begins (self : Evaluator) (stack : Nat) : Task → List Pending → Task → Prop
  | value {name value frame store} :
      Begins self stack ⟨.binding name value, frame, store⟩ [] ⟨value, frame, store⟩
  | item {body frame store e reached} : Comes self frame body store e reached →
      Begins self stack ⟨.sequence body, frame, store⟩ [] ⟨e, frame, reached⟩
  | condition {condition whenTrue whenFalse frame store} :
      Begins self stack ⟨.conditional condition whenTrue whenFalse, frame, store⟩ []
        ⟨condition, frame, store⟩
  | branch {condition whenTrue whenFalse frame store value middle e} :
      self condition frame store = .ok value middle →
      (if value.truthy then whenTrue else whenFalse) = some e →
      Begins self stack ⟨.conditional condition whenTrue whenFalse, frame, store⟩ []
        ⟨e, frame, middle⟩
  | argument {target args frame store e reached} : Comes self frame args store e reached →
      Begins self stack ⟨.call target args, frame, store⟩ [] ⟨e, frame, reached⟩
  | body {task closure values ready callee entered} : Applies self task closure values ready →
      enter closure values task.frame ready = .ok callee entered →
      Begins self stack task [.call closure] ⟨closure.body, callee, entered⟩
  | exported {source symbols frame store e reached} {opening : Opening} :
      store.findModule stack frame source = .ok (.inr opening) →
      Comes self opening.frame opening.exports opening.store e reached →
      Begins self stack ⟨.imports source symbols, frame, store⟩ [.load source]
        ⟨e, opening.frame, reached⟩

/-- The moments of the evaluation of a task: what is pending, innermost first, how much of the stack
is left, and the task that begins. -/
inductive During (stack : Nat) (task : Task) : List Pending → Nat → Task → Prop
  | start : During stack task [] stack task
  | next {pending left middle opened sub} : During stack task pending (left + 1) middle →
      Begins (evaluate left) left middle opened sub →
      During stack task (opened ++ pending) left sub

section Congruence

variable {self other : Evaluator} {frame : FrameId} {stack : Nat}

theorem mapM_congr_of_comes {exprs : List Expr} {store : Store}
    (h : ∀ e reached, Comes self frame exprs store e reached →
      other e frame reached = self e frame reached) :
    (exprs.mapM fun e => other e frame) store = (exprs.mapM fun e => self e frame) store := by
  induction exprs generalizing store with
  | nil => rfl
  | cons first rest ih =>
      simp only [List.mapM_cons, bind_apply, h first store .here]
      cases hfirst : self first frame store with
      | error e middle => rfl
      | ok value middle =>
          simp only [ih fun e reached hcomes => h e reached (.later hfirst hcomes)]

theorem runAll_congr_of_comes {exprs : List Expr} {store : Store}
    (h : ∀ e reached, Comes self frame exprs store e reached →
      other e frame reached = self e frame reached) :
    runAll other frame exprs store = runAll self frame exprs store := by
  induction exprs generalizing store with
  | nil => rfl
  | cons first rest ih =>
      rw [runAll_cons_apply, runAll_cons_apply, h first store .here]
      cases hfirst : self first frame store with
      | error e middle => rfl
      | ok value middle => exact ih fun e reached hcomes => h e reached (.later hfirst hcomes)

theorem foldlM_congr_of_comes {exprs : List Expr} {store : Store} (initial : Json)
    (h : ∀ e reached, Comes self frame exprs store e reached →
      other e frame reached = self e frame reached) :
    exprs.foldlM (fun _ e => other e frame) initial store =
      exprs.foldlM (fun _ e => self e frame) initial store := by
  induction exprs generalizing store initial with
  | nil => rfl
  | cons first rest ih =>
      simp only [List.foldlM_cons, bind_apply, h first store .here]
      cases hfirst : self first frame store with
      | error e middle => rfl
      | ok value middle => exact ih value fun e reached hcomes => h e reached (.later hfirst hcomes)

theorem step_congr {task : Task}
    (h : ∀ opened sub, Begins self stack task opened sub → outcome other sub = outcome self sub) :
    outcome (step other stack) task = outcome (step self stack) task := by
  obtain ⟨e, frame, store⟩ := task
  simp only [outcome] at h ⊢
  cases e with
  | literal | ref | function | macroDef | record => rfl
  | binding name value =>
      have hvalue := h _ _ .value
      simp only [step, bind_apply, hvalue]
  | sequence body =>
      exact foldlM_congr_of_comes _ fun e reached hcomes => h _ _ (.item hcomes)
  | conditional condition whenTrue whenFalse =>
      have hcondition := h _ _ .condition
      simp only [step, bind_apply, hcondition]
      cases hvalue : self condition frame store with
      | error e middle => rfl
      | ok value middle =>
          simp only
          cases hbranch : if value.truthy then whenTrue else whenFalse with
          | none => rfl
          | some e => exact h _ _ (.branch hvalue hbranch)
  | imports source symbols =>
      have hload : loadModule other stack frame source store =
          loadModule self stack frame source store := by
        rw [loadModule_apply, loadModule_apply]
        cases hfind : store.findModule stack frame source with
        | error e => rfl
        | ok found =>
            cases found with
            | inl loaded => rfl
            | inr opening =>
                have hexports := runAll_congr_of_comes fun e reached hcomes =>
                  h _ _ (.exported hfind hcomes)
                simp only [Opening.evaluate, hexports]
      simp only [step, bind_apply, hload]
  | call target args =>
      have hargs := mapM_congr_of_comes fun e reached hcomes => h _ _ (.argument hcomes)
      simp only [step, bind_apply, hargs]
      cases hvalues : (args.mapM fun arg => self arg frame) store with
      | error e ready => rfl
      | ok values ready =>
          simp only [function_apply]
          cases hfunction : ready.function? frame target with
          | none => rfl
          | some function =>
              cases function with
              | builtin | value => rfl
              | user closure =>
                  simp only [apply, applyClosure, bind_apply]
                  cases henter : enter closure values frame ready with
                  | error e final => rfl
                  | ok callee entered => exact h _ _ (.body ⟨hvalues, hfunction⟩ henter)

end Congruence

section Effects

variable {self : Evaluator} {task : Task}

theorem effect_comes (hself : HasEffects self) {frame : FrameId} {exprs : List Expr}
    {store reached : Store} {e : Expr} (h : Comes self frame exprs store e reached) :
    Effect frame (Expr.bindsOfItems exprs) store reached := by
  induction h with
  | here => exact .none
  | @later first rest store value middle e reached hfirst _ ih =>
      have heffect := hself first frame store
      rw [finalStore_of_ok hfirst] at heffect
      refine .next (heffect.mono (Expr.binds_subset_bindsOfItems List.mem_cons_self)) ?_
      refine ih.mono fun space name hname => ?_
      rw [Expr.bindsOfItems, List.mem_append]
      exact .inr hname

theorem effect_applies (hself : HasEffects self) {closure : Closure} {values : List Json}
    {ready : Store} (h : Applies self task closure values ready) :
    Effect task.frame task.expr.binds task.store ready := by
  obtain @⟨target, args, frame, store, _, _, _, hvalues, _⟩ := h
  have heffect : Effect frame (Expr.bindsOfItems args) store
      (finalStore (args.mapM fun arg => self arg frame) store) :=
    effect_mapM hself args store
  rwa [finalStore_of_ok hvalues] at heffect

end Effects

end Eval

namespace Interpreter

/-- The session of an interpreter that has done nothing yet. -/
def initial (interpreter : Interpreter) (macros : Macros) : Session :=
  { store := interpreter.freshStore [], root := 0, macros }

/-- The tasks that a request comes to: the expressions of a program in order, or the one expression
to be evaluated, after reading and expansion. -/
inductive Starts (interpreter : Interpreter) (session : Session) : Request → Task → Prop
  | run {document program maxDepth macros rest body e reached} :
      interpreter.load document = .ok program → interpreter.expansionLimit = .ok maxDepth →
      Macros.collect { maxDepth } program.body = (macros, rest) →
      macros.expandAll interpreter.stack rest = .ok body →
      Eval.Comes (Eval.evaluate interpreter.stack) 0 body (interpreter.freshStore program.modules)
        e reached →
      Starts interpreter session (.run document) ⟨e, 0, reached⟩
  | eval {document e expanded} :
      interpreter.onDocument document (readExpr document) = .ok e → e.isMacroDef = false →
      session.macros.expand interpreter.stack 0 e = .ok expanded →
      Starts interpreter session (.eval document)
        ⟨expanded, session.root, { session.store with output := "" }⟩

/-- A moment of a request: what is pending, how much of the stack is left, and the task that
begins. -/
def Moment (interpreter : Interpreter) (session : Session) (request : Request)
    (pending : List Pending) (left : Nat) (task : Task) : Prop :=
  ∃ start, interpreter.Starts session request start ∧
    Eval.During interpreter.stack start pending left task

end Interpreter

end JsonExpr
