import JsonExpr.Proofs.Evaluation
import Mathlib.Data.List.Basic

/-!
Two runs side by side. The stores may differ in what the evaluation does not look at, as long as a
relation between them is kept by every operation of the evaluator; then whole evaluations end alike.
The frames that an evaluation may come to are called live, and have the same addresses in both runs.
-/

namespace JsonExpr

/-- Two outcomes correspond: they are the same good value or the same error, in related stores.
Where the first run fails with an error that is excused, nothing is said about the second. -/
inductive Corresponds {α : Type} (excused : Error → Prop) (relates : Store → Store → Prop)
    (good : α → Prop) : EStateM.Result Error Store α → EStateM.Result Error Store α → Prop
  | ok {value store other} : good value → relates store other →
      Corresponds excused relates good (.ok value store) (.ok value other)
  | error {e store other} : relates store other →
      Corresponds excused relates good (.error e store) (.error e other)
  | excused {e store outcome} : excused e →
      Corresponds excused relates good (.error e store) outcome

/-- Openings of the same module, which are evaluated alike and end in related stores. -/
structure Opening.Matches (relates : Store → Store → Prop) (live : FrameId → Prop)
    (opening other : Opening) : Prop where
  loaded_eq : other.loaded = opening.loaded
  exports_eq : other.exports = opening.exports
  live : live opening.frame
  store : relates opening.store other.store
  close : ∀ {final ended}, relates final ended → relates (opening.close final) (other.close ended)
  finish : ∀ {final ended}, relates final ended →
    relates (opening.finish final) (other.finish ended)

/-- Imports that begin alike. -/
inductive Found (excused : Error → Prop) (relates : Store → Store → Prop) (live : FrameId → Prop) :
    Except Error (LoadedModule ⊕ Opening) → Except Error (LoadedModule ⊕ Opening) → Prop
  | error {e} : Found excused relates live (.error e) (.error e)
  | excused {e found} : excused e → Found excused relates live (.error e) found
  | loaded {loaded} : live loaded.frame →
      Found excused relates live (.ok (.inl loaded)) (.ok (.inl loaded))
  | opened {opening other} : opening.Matches relates live other →
      Found excused relates live (.ok (.inr opening)) (.ok (.inr other))

/-- Where two stores have the same realms, an import comes upon the same module, and begins alike if
that is live or is opened alike. -/
theorem Found.of_realms_eq {excused : Error → Prop} {relates : Store → Store → Prop}
    {live : FrameId → Prop} {store other : Store} {env : FrameId} {source : String} {stack : Nat}
    (hid : other.realmOf? env = store.realmOf? env) (hrealms : other.realms = store.realms)
    (hlimit : other.maxCallDepth (other.root env) = store.maxCallDepth (store.root env))
    (hloaded : ∀ id realm loaded, store.realmOf? env = some id → store.realms[id]? = some realm →
      realm.loaded.get? source = some loaded → live loaded.frame)
    (hopen : ∀ id realm macros exports, store.realmOf? env = some id →
      let limit := store.maxCallDepth (store.root env)
      (store.openModule id realm limit source macros exports).Matches relates live
        (other.openModule id realm limit source macros exports)) :
    Found excused relates live (store.findModule stack env source)
      (other.findModule stack env source) := by
  rw [Store.findModule, Store.findModule, hid, hrealms, hlimit]
  cases hfound : store.realmOf? env with
  | none => exact .error
  | some id =>
      cases hrealm : store.realms[id]? with
      | none =>
          simp only [hrealm]
          exact .error
      | some realm =>
          simp only [hrealm]
          cases hget : realm.loaded.get? source with
          | some loaded => exact .loaded (hloaded id realm loaded hfound hrealm hget)
          | none =>
              cases realm.modules.get? source with
              | none => exact .error
              | some declared =>
                  simp only
                  split
                  · exact .error
                  · cases Eval.moduleExports stack realm.settings declared with
                    | error e => exact .error
                    | ok exported => exact .opened (hopen id realm _ _ hfound)

/-- The relation between stores is kept by the operations of the evaluator, as long as they are done
in live frames. -/
structure Simulation (excused : Error → Prop) (relates : Store → Store → Prop)
    (live : FrameId → Prop) : Prop where
  chain_eq : ∀ {store other env}, relates store other → live env →
    other.chain env = store.chain env
  chain_live : ∀ {store other env}, relates store other → live env → ∀ i ∈ store.chain env, live i
  vars_eq : ∀ {store other i}, relates store other → live i →
    other.frames[i]?.map Frame.vars = store.frames[i]?.map Frame.vars
  functions_eq : ∀ {store other i}, relates store other → live i →
    other.frames[i]?.map Frame.functions = store.frames[i]?.map Frame.functions
  closure_live : ∀ {store other i frame name closure}, relates store other → live i →
    store.frames[i]? = some frame → frame.functions.get? name = some (.user closure) →
    live closure.frame
  setVar : ∀ {store other env} (name value), relates store other → live env →
    relates (store.setVar env name value) (other.setVar env name value)
  setFunction : ∀ {store other env function} (name), relates store other → live env →
    (∀ closure, function = .user closure → live closure.frame) →
    relates (store.setFunction env name function) (other.setFunction env name function)
  print : ∀ {store other} (text), relates store other →
    relates { store with output := store.output ++ text }
      { other with output := other.output ++ text }
  enter : ∀ {store other env closure} (args), relates store other → live env →
    live closure.frame →
    Corresponds excused relates live (Eval.enter closure args env store)
      (Eval.enter closure args env other)
  find : ∀ {store other env} (stack source), relates store other → live env →
    Found excused relates live (store.findModule stack env source)
      (other.findModule stack env source)

namespace Corresponds

variable {α β : Type} {excused : Error → Prop} {relates : Store → Store → Prop} {good : α → Prop}
  {fine : β → Prop} {store other : Store}

theorem bind {work again : Eval α} {next onward : α → Eval β}
    (hwork : Corresponds excused relates good (work store) (again other))
    (hnext : ∀ value middle between, good value → relates middle between →
      Corresponds excused relates fine (next value middle) (onward value between)) :
    Corresponds excused relates fine ((work >>= next) store) ((again >>= onward) other) := by
  rw [Eval.bind_apply, Eval.bind_apply]
  revert hwork
  generalize work store = first, again other = second
  intro hwork
  cases hwork with
  | ok hgood hrelates => exact hnext _ _ _ hgood hrelates
  | error hrelates => exact .error hrelates
  | excused h => exact .excused h

section Lists

variable {item : Type} {items : List item} {f : item → Eval α}

theorem mapM (h : ∀ x ∈ items, ∀ store other, relates store other →
      Corresponds excused relates good (f x store) (f x other)) (hrelates : relates store other) :
    Corresponds excused relates (fun _ => True) (items.mapM f store) (items.mapM f other) := by
  induction items generalizing store other with
  | nil => exact .ok trivial hrelates
  | cons first rest ih =>
      rw [List.mapM_cons]
      refine bind (h first List.mem_cons_self store other hrelates) ?_
      intro _ middle between _ hmiddle
      refine bind (ih (fun x hx => h x (List.mem_cons_of_mem _ hx)) hmiddle) ?_
      exact fun _ _ _ _ hfinal => .ok trivial hfinal

theorem foldlM (h : ∀ x ∈ items, ∀ store other, relates store other →
      Corresponds excused relates (fun _ => True) (f x store) (f x other))
    (hrelates : relates store other) (initial : α) :
    Corresponds excused relates (fun _ => True) (items.foldlM (fun _ x => f x) initial store)
      (items.foldlM (fun _ x => f x) initial other) := by
  induction items generalizing store other initial with
  | nil => exact .ok trivial hrelates
  | cons first rest ih =>
      rw [List.foldlM_cons]
      refine bind (h first List.mem_cons_self store other hrelates) fun value _ _ _ hmiddle => ?_
      exact ih (fun x hx => h x (List.mem_cons_of_mem _ hx)) hmiddle value

theorem forM {f : item → Eval Unit} (h : ∀ x ∈ items, ∀ store other, relates store other →
      Corresponds excused relates (fun _ => True) (f x store) (f x other))
    (hrelates : relates store other) :
    Corresponds excused relates (fun _ => True) (items.forM f store) (items.forM f other) := by
  induction items generalizing store other with
  | nil => exact .ok trivial hrelates
  | cons first rest ih =>
      refine bind (h first List.mem_cons_self store other hrelates) fun _ _ _ _ hmiddle => ?_
      exact ih (fun x hx => h x (List.mem_cons_of_mem _ hx)) hmiddle

end Lists

end Corresponds

/-- In related stores the evaluator ends alike in every live frame. -/
def EndsAlike (excused : Error → Prop) (relates : Store → Store → Prop) (live : FrameId → Prop)
    (self : Evaluator) : Prop :=
  ∀ e env store other, live env → relates store other →
    Corresponds excused relates (fun _ => True) (self e env store) (self e env other)

namespace Simulation

variable {excused : Error → Prop} {relates : Store → Store → Prop} {live : FrameId → Prop}
  {store other : Store} {env : FrameId}

theorem lookup_eq {γ : Type} (h : Simulation excused relates live) (hrelates : relates store other)
    (henv : live env) (name : String) {field : Frame → Bindings γ}
    (hfield : ∀ i, live i → other.frames[i]?.map field = store.frames[i]?.map field) :
    (other.chain env).findSome? (fun i => other.frames[i]?.bind fun frame =>
        (field frame).get? name) =
      (store.chain env).findSome? fun i => store.frames[i]?.bind fun frame =>
        (field frame).get? name := by
  rw [h.chain_eq hrelates henv, ← List.head?_filterMap, ← List.head?_filterMap]
  refine congrArg List.head? (List.filterMap_congr fun i hi => ?_)
  have hmap := congrArg (fun found => found.bind fun bound : Bindings γ => bound.get? name)
    (hfield i (h.chain_live hrelates henv i hi))
  simpa only [Option.bind_map, Function.comp_def] using hmap

theorem var (h : Simulation excused relates live) (hrelates : relates store other)
    (henv : live env) (name : String) :
    Corresponds excused relates (fun _ => True) (Eval.var env name store)
      (Eval.var env name other) := by
  have heq : other.var? env name = store.var? env name :=
    h.lookup_eq hrelates henv name fun _ => h.vars_eq hrelates
  rw [Eval.var_apply, Eval.var_apply, heq]
  cases store.var? env name with
  | some value => exact .ok trivial hrelates
  | none => exact .error hrelates

theorem function (h : Simulation excused relates live) (hrelates : relates store other)
    (henv : live env) (name : String) :
    Corresponds excused relates (fun found => ∀ closure, found = .user closure → live closure.frame)
      (Eval.function env name store) (Eval.function env name other) := by
  have heq : other.function? env name = store.function? env name :=
    h.lookup_eq hrelates henv name fun _ => h.functions_eq hrelates
  rw [Eval.function_apply, Eval.function_apply, heq]
  cases hfunction : store.function? env name with
  | none => exact .error hrelates
  | some function =>
      refine .ok ?_ hrelates
      rintro closure rfl
      obtain ⟨i, hi, hbind⟩ := List.exists_of_findSome?_eq_some hfunction
      obtain ⟨frame, hframe, hget⟩ := Option.bind_eq_some_iff.mp hbind
      exact h.closure_live hrelates (h.chain_live hrelates henv i hi) hframe hget

theorem bindExport (h : Simulation excused relates live) {loaded : LoadedModule}
    (hloaded : live loaded.frame) (henv : live env) (source symbol : String)
    (hrelates : relates store other) :
    Corresponds excused relates (fun _ => True) (Eval.bindExport source loaded env symbol store)
      (Eval.bindExport source loaded env symbol other) := by
  have hvars := h.vars_eq hrelates hloaded
  have hfunctions := h.functions_eq hrelates hloaded
  rw [Eval.bindExport_apply, Eval.bindExport_apply]
  cases hframe : store.frames[loaded.frame]? with
  | none =>
      rw [hframe, Option.map_none, Option.map_eq_none_iff] at hvars
      rw [hvars]
      exact .error hrelates
  | some frame =>
      rw [hframe, Option.map_some] at hvars hfunctions
      obtain ⟨found, hfound, hsame⟩ := Option.map_eq_some_iff.mp hvars
      rw [hfound, Option.map_some, Option.some_inj] at hfunctions
      simp only [hfound, hsame, hfunctions]
      cases hfunction : frame.functions.get? symbol with
      | some function =>
          refine .ok trivial (h.setFunction symbol hrelates henv ?_)
          rintro closure rfl
          exact h.closure_live hrelates hloaded hframe hfunction
      | none =>
          cases frame.vars.get? symbol with
          | some value => exact .ok trivial (h.setVar symbol value hrelates henv)
          | none =>
              simp only
              split
              · exact .error hrelates
              · exact .error hrelates

section Step

variable {self : Evaluator}

theorem runAll (hself : EndsAlike excused relates live self) (henv : live env)
    (exprs : List Expr) (hrelates : relates store other) :
    Corresponds excused relates (fun _ => True) (Eval.runAll self env exprs store)
      (Eval.runAll self env exprs other) := by
  refine .forM (fun e _ store other hrelates => ?_) hrelates
  exact .bind (hself e env store other henv hrelates) fun _ _ _ _ hmiddle => .ok trivial hmiddle

theorem loadModule (h : Simulation excused relates live)
    (hself : EndsAlike excused relates live self) (henv : live env) (stack : Nat) (source : String)
    (hrelates : relates store other) :
    Corresponds excused relates (fun loaded => live loaded.frame)
      (Eval.loadModule self stack env source store)
      (Eval.loadModule self stack env source other) := by
  rw [Eval.loadModule_apply, Eval.loadModule_apply]
  have hfind := h.find stack source hrelates henv
  revert hfind
  generalize store.findModule stack env source = found, other.findModule stack env source = again
  intro hfind
  cases hfind with
  | error => exact .error hrelates
  | excused hexcused => exact .excused hexcused
  | loaded hlive => exact .ok hlive hrelates
  | @opened opening opened hmatches =>
      have hframe : opened.frame = opening.frame :=
        congrArg LoadedModule.frame hmatches.loaded_eq
      have hrun := runAll hself hmatches.live opening.exports hmatches.store
      simp only [Opening.evaluate, hframe, hmatches.exports_eq, hmatches.loaded_eq]
      revert hrun
      generalize Eval.runAll self opening.frame opening.exports opening.store = first,
        Eval.runAll self opening.frame opening.exports opened.store = second
      intro hrun
      cases hrun with
      | ok _ hfinal => exact .ok hmatches.live (hmatches.finish hfinal)
      | error hfinal => exact .error (hmatches.close hfinal)
      | excused hexcused => exact .excused hexcused

theorem apply (h : Simulation excused relates live) (hself : EndsAlike excused relates live self)
    (henv : live env) {function : Function}
    (hfunction : ∀ closure, function = .user closure → live closure.frame) (args : List Json)
    (hrelates : relates store other) :
    Corresponds excused relates (fun _ => True) (Eval.apply self function args env store)
      (Eval.apply self function args env other) := by
  cases function with
  | builtin builtin =>
      simp only [Eval.apply, Eval.applyBuiltin_apply]
      cases builtin.apply args with
      | ok outcome => exact .ok trivial (h.print outcome.printed hrelates)
      | error e => exact .error hrelates
  | user closure =>
      refine .bind (h.enter args hrelates henv (hfunction closure rfl)) ?_
      exact fun callee entered again => hself closure.body callee entered again
  | value value => exact .error hrelates

theorem step (h : Simulation excused relates live) (hself : EndsAlike excused relates live self)
    (stack : Nat) : EndsAlike excused relates live (Eval.step self stack) := by
  intro e env store other henv hrelates
  cases e with
  | literal value => exact .ok trivial hrelates
  | ref name => exact h.var hrelates henv name
  | binding name value =>
      refine .bind (hself value env store other henv hrelates) fun json _ _ _ hmiddle => ?_
      exact .ok trivial (h.setVar name json hmiddle henv)
  | sequence body =>
      exact .foldlM (fun e _ store other => hself e env store other henv) hrelates .null
  | conditional condition whenTrue whenFalse =>
      refine .bind (hself condition env store other henv hrelates) fun value _ _ _ hmiddle => ?_
      cases if value.truthy then whenTrue else whenFalse with
      | some branch => exact hself branch env _ _ henv hmiddle
      | none => exact .ok trivial hmiddle
  | function name params body =>
      refine .ok trivial (h.setFunction name hrelates henv ?_)
      rintro closure ⟨⟩
      exact henv
  | macroDef name params body => exact .error hrelates
  | imports source symbols =>
      refine .bind (h.loadModule hself henv stack source hrelates)
        fun loaded _ _ hloaded hmiddle => ?_
      refine .bind (.forM (fun symbol _ _ _ hrelates => ?_) hmiddle) fun _ _ _ _ hfinal => ?_
      · exact h.bindExport hloaded henv source symbol hrelates
      · exact .ok trivial hfinal
  | call target args =>
      refine .bind (.mapM (fun arg _ store other => hself arg env store other henv) hrelates)
        fun values _ _ _ hready => ?_
      refine .bind (h.function hready henv target) fun function _ _ hfunction hfound => ?_
      exact h.apply hself henv hfunction values hfound
  | record target fields => exact .error hrelates

end Step

theorem evaluate (h : Simulation excused relates live) (stack : Nat) :
    EndsAlike excused relates live (Eval.evaluate stack) := by
  induction stack with
  | zero =>
      intro e env store other _ hrelates
      exact .error hrelates
  | succ stack ih => exact h.step ih stack

theorem evaluateAll (h : Simulation excused relates live) (stack : Nat) (exprs : List Expr)
    (env : FrameId) (henv : live env) (hrelates : relates store other) :
    Corresponds excused relates (fun _ => True)
      ((exprs.mapM fun e => Eval.evaluate stack e env) store)
      ((exprs.mapM fun e => Eval.evaluate stack e env) other) :=
  .mapM (fun e _ store other => h.evaluate stack e env store other henv) hrelates

end Simulation

end JsonExpr
