import JsonExpr.Proofs.CallDepth
import JsonExpr.Proofs.Loading

namespace JsonExpr

/-- The modules whose loads are pending, innermost first. -/
def Pending.sources : List Pending → List String
  | [] => []
  | .call _ :: rest => sources rest
  | .load source :: rest => source :: sources rest

namespace Eval

section Rest

variable {interpreter : Interpreter} {modules : Bindings Module} {stack : Nat} {frame : FrameId}
  {store : Store}

theorem finalStore_mapM (self : Evaluator) (exprs : List Expr) (store : Store) :
    finalStore (exprs.mapM fun e => self e frame) store =
      finalStore (runAll self frame exprs) store := by
  induction exprs generalizing store with
  | nil => rfl
  | cons first rest ih =>
      simp only [finalStore, List.mapM_cons, bind_apply, runAll_cons_apply]
      cases self first frame store with
      | error e middle => rfl
      | ok value middle =>
          refine Eq.trans ?_ (ih middle)
          simp only [finalStore]
          cases (rest.mapM fun e => self e frame) middle <;> rfl

theorem finalStore_foldlM (self : Evaluator) (exprs : List Expr) (initial : Json) (store : Store) :
    finalStore (exprs.foldlM (fun _ e => self e frame) initial) store =
      finalStore (runAll self frame exprs) store := by
  induction exprs generalizing initial store with
  | nil => rfl
  | cons first rest ih =>
      simp only [finalStore, List.foldlM_cons, bind_apply, runAll_cons_apply]
      cases self first frame store with
      | error e middle => rfl
      | ok value middle => exact ih value middle

theorem advances_comes {exprs : List Expr} {e : Expr} {reached : Store}
    (hactive : interpreter.Active modules store frame)
    (hcomes : Comes (evaluate stack) frame exprs store e reached) :
    (finalStore (evaluate stack e frame) reached).Advances
      (finalStore (runAll (evaluate stack) frame exprs) store) := by
  induction hcomes with
  | @here e rest store =>
      cases hresult : evaluate stack e frame store with
      | error err middle =>
          simp only [finalStore, runAll_cons_apply, hresult]
          exact .refl middle
      | ok value middle =>
          obtain ⟨hmiddle, _⟩ := hactive.evaluate_ok hresult
          have heffect : Effect frame _ middle _ :=
            effect_runAll (evaluate_effect stack) rest middle
          simpa only [finalStore, runAll_cons_apply, hresult] using
            (hmiddle.effect heffect).2.toAdvances
  | later hfirst _ ih =>
      simpa only [finalStore, runAll_cons_apply, hfirst] using ih (hactive.evaluate_ok hfirst).1

theorem advances_exported {source : String} {opening : Opening} {symbols : List String}
    (hactive : interpreter.Active modules store frame)
    (hopen : store.findModule stack frame source = .ok (.inr opening)) :
    (finalStore (runAll (evaluate stack) opening.frame opening.exports) opening.store).Advances
      (finalStore (evaluate (stack + 1) (.imports source symbols) frame) store) := by
  refine Store.Advances.trans ?_ (advances_imports stack source symbols hactive)
  simp only [finalStore, loadModule_apply, hopen, Opening.evaluate]
  cases hrun : runAll (evaluate stack) opening.frame opening.exports opening.store with
  | error e final => exact .close opening final
  | ok _ final =>
      obtain ⟨hfinal, hevolves⟩ := (hactive.opening hopen).1.runAll_ok hrun
      exact hactive.advances_finish hopen hfinal hevolves

theorem advances_begins {task sub : Task} {opened : List Pending}
    (hactive : interpreter.Active modules task.store task.frame)
    (hbegins : Begins (evaluate stack) stack task opened sub) :
    (finalStore (evaluate stack sub.expr sub.frame) sub.store).Advances
      (finalStore (evaluate (stack + 1) task.expr task.frame) task.store) := by
  have hself := evaluate_effect stack
  cases hbegins with
  | @value name value frame store =>
      refine advances_bind fun json middle hmiddle => ?_
      have hassigned : Effect frame (fun _ => [name]) middle _ :=
        .assigned json List.mem_cons_self
      exact ((hactive.evaluate_ok hmiddle).1.effect hassigned).2.toAdvances
  | item hcomes =>
      refine (advances_comes hactive hcomes).trans ?_
      rw [← finalStore_foldlM]
      exact .refl _
  | condition =>
      refine advances_bind fun value middle hmiddle => ?_
      exact ((hactive.evaluate_ok hmiddle).1.effect
        (effect_branch hself (fun _ _ h => h) middle)).2.toAdvances
  | branch hcondition hbranch =>
      simp only [finalStore, evaluate, step, bind_apply, hcondition, hbranch]
      exact .refl _
  | @argument target args frame store e reached hcomes =>
      refine (advances_comes hactive hcomes).trans ?_
      rw [← finalStore_mapM]
      refine advances_bind fun values ready hvalues => ?_
      have hinvoke : Effect frame (fun _ => []) ready _ := effect_invoke hself target values ready
      have hready := (hactive.of_ok (effect_mapM hself args store) hvalues).1
      exact (hready.effect hinvoke).2.toAdvances
  | body happlies henter =>
      obtain ⟨hvalues, hfunction⟩ := happlies
      simp only [finalStore, evaluate, step, bind_apply, hvalues, function_apply, hfunction, apply,
        applyClosure, henter]
      exact .refl _
  | exported hopen hcomes =>
      exact (advances_comes (hactive.opening hopen).1 hcomes).trans
        (advances_exported hactive hopen)

theorem advances_during {left : Nat} {start task : Task} {pending : List Pending}
    (hactive : interpreter.Active modules start.store start.frame)
    (hduring : During stack start pending left task) :
    (finalStore (evaluate left task.expr task.frame) task.store).Advances
      (finalStore (evaluate stack start.expr start.frame) start.store) := by
  induction hduring with
  | start => exact .refl _
  | next hduring hbegins ih =>
      have hmiddle := (Interpreter.invariant_active interpreter).during hactive hduring
      exact (advances_begins hmiddle hbegins).trans ih

end Rest

section Failure

variable {self : Evaluator} {frame : FrameId} {exprs : List Expr} {store reached final : Store}
  {e : Expr} {err : Error}

theorem Comes.mapM_eq_error (h : Comes self frame exprs store e reached)
    (herror : self e frame reached = .error err final) :
    (exprs.mapM fun e => self e frame) store = .error err final := by
  induction h with
  | here => simp only [List.mapM_cons, bind_apply, herror]
  | later hfirst _ ih => simp only [List.mapM_cons, bind_apply, hfirst, ih herror]

theorem Comes.foldlM_eq_error (h : Comes self frame exprs store e reached) (initial : Json)
    (herror : self e frame reached = .error err final) :
    exprs.foldlM (fun _ e => self e frame) initial store = .error err final := by
  induction h generalizing initial with
  | here => simp only [List.foldlM_cons, bind_apply, herror]
  | later hfirst _ ih => simp only [List.foldlM_cons, bind_apply, hfirst, ih _ herror]

theorem Comes.runAll_eq_error (h : Comes self frame exprs store e reached)
    (herror : self e frame reached = .error err final) :
    runAll self frame exprs store = .error err final := by
  induction h with
  | here => simp only [runAll_cons_apply, herror]
  | later hfirst _ ih => simp only [runAll_cons_apply, hfirst, ih herror]

theorem Begins.fails {stack : Nat} {task sub : Task} {opened : List Pending}
    (hbegins : Begins self stack task opened sub) (herror : outcome self sub = .error err final) :
    ∃ last, outcome (step self stack) task = .error err last ∧
      last.registry.loaded = final.registry.loaded := by
  simp only [outcome] at herror ⊢
  cases hbegins with
  | value =>
      refine ⟨final, ?_, rfl⟩
      simp only [step, bind_apply, herror]
  | item hcomes => exact ⟨final, hcomes.foldlM_eq_error _ herror, rfl⟩
  | condition =>
      refine ⟨final, ?_, rfl⟩
      simp only [step, bind_apply, herror]
  | branch hcondition hbranch =>
      refine ⟨final, ?_, rfl⟩
      simp only [step, bind_apply, hcondition, hbranch]
      exact herror
  | argument hcomes =>
      refine ⟨final, ?_, rfl⟩
      simp only [step, bind_apply, hcomes.mapM_eq_error herror]
  | body happlies henter =>
      obtain ⟨hvalues, hfunction⟩ := happlies
      refine ⟨final, ?_, rfl⟩
      simp only [step, bind_apply, hvalues, function_apply, hfunction, apply, applyClosure, henter]
      exact herror
  | @exported source symbols _ _ _ _ opening hopen hcomes =>
      refine ⟨opening.close final, ?_, Store.loaded_close opening final⟩
      simp only [step, bind_apply, loadModule_apply, hopen, Opening.evaluate,
        hcomes.runAll_eq_error herror]

theorem During.fails {stack left : Nat} {start task : Task} {pending : List Pending}
    (hduring : During stack start pending left task)
    (herror : outcome (evaluate left) task = .error err final) :
    ∃ last, outcome (evaluate stack) start = .error err last ∧
      last.registry.loaded = final.registry.loaded := by
  induction hduring generalizing final with
  | start => exact ⟨final, herror, rfl⟩
  | next _ hbegins ih =>
      obtain ⟨middle, hmiddle, hsame⟩ := hbegins.fails herror
      obtain ⟨last, hlast, hloaded⟩ := ih hmiddle
      exact ⟨last, hlast, hloaded.trans hsame⟩

end Failure

theorem Begins.during {stack left : Nat} {task sub last : Task} {opened pending : List Pending}
    (hbegins : Begins (evaluate stack) stack task opened sub)
    (hduring : During stack sub pending left last) :
    During (stack + 1) task (pending ++ opened) left last := by
  induction hduring with
  | start =>
      have h := During.start.next hbegins
      rwa [List.append_nil] at h
  | next _ hnext ih =>
      rw [List.append_assoc]
      exact ih.next hnext

theorem openings_subset_of_during {stack left : Nat} {start task : Task} {pending : List Pending}
    (hduring : During stack start pending left task) :
    openings left task ⊆ openings stack start := by
  induction hduring with
  | start => exact List.Subset.refl _
  | next _ hbegins ih =>
      refine fun name hname => ih (List.mem_append_right _ ?_)
      exact List.mem_flatMap.mpr ⟨_, mem_begun_iff.mpr ⟨_, hbegins⟩, hname⟩

theorem mem_openings_iff {stack : Nat} {start : Task} {name : String} :
    name ∈ openings stack start ↔ ∃ pending left task opening,
      During stack start pending (left + 1) task ∧ opened? left task = some opening ∧
        opening.source = name := by
  constructor
  · intro h
    induction stack generalizing start with
    | zero => cases h
    | succ stack ih =>
        rcases List.mem_append.mp h with h | h
        · obtain ⟨opening, hopened, hname⟩ := List.mem_map.mp h
          exact ⟨_, _, _, opening, .start, Option.mem_toList.mp hopened, hname⟩
        · obtain ⟨sub, hsub, hname⟩ := List.mem_flatMap.mp h
          obtain ⟨opened, hbegins⟩ := mem_begun_iff.mp hsub
          obtain ⟨pending, left, task, opening, hduring, hopened, hsource⟩ := ih hname
          exact ⟨_, left, task, opening, hbegins.during hduring, hopened, hsource⟩
  · rintro ⟨pending, left, task, opening, hduring, hopened, rfl⟩
    refine openings_subset_of_during hduring (List.mem_append_left _ ?_)
    exact List.mem_map.mpr ⟨opening, Option.mem_toList.mpr hopened, rfl⟩

end Eval

namespace Interpreter

variable {interpreter : Interpreter} {session : Session} {request : Request}

/-- The tasks that a request comes to, in order. -/
def started (interpreter : Interpreter) (session : Session) : Request → List Task
  | .run document =>
      match interpreter.load document, interpreter.expansionLimit with
      | .ok program, .ok maxDepth =>
          let (macros, rest) := Macros.collect { maxDepth } program.body
          match macros.expandAll interpreter.stack rest with
          | .ok body =>
              Eval.comings (Eval.evaluate interpreter.stack) 0 body
                (interpreter.freshStore program.modules)
          | .error _ => []
      | _, _ => []
  | .eval document =>
      match interpreter.onDocument document (readExpr document) with
      | .ok e =>
          if e.isMacroDef then []
          else
            match session.macros.expand interpreter.stack 0 e with
            | .ok expanded => [⟨expanded, session.root, { session.store with output := "" }⟩]
            | .error _ => []
      | .error _ => []
  | _ => []

/-- The modules whose exports begin to be evaluated in a request, in order. -/
def openings (interpreter : Interpreter) (session : Session) (request : Request) : List String :=
  (interpreter.started session request).flatMap (Eval.openings interpreter.stack)

theorem mem_started_iff {task : Task} :
    task ∈ interpreter.started session request ↔ interpreter.Starts session request task := by
  constructor
  · intro h
    cases request with
    | run document =>
        unfold started at h
        dsimp only at h
        split at h
        · rename_i program maxDepth hload hlimit
          cases hcollect : Macros.collect { maxDepth } program.body with
          | mk macros rest =>
              simp only [hcollect] at h
              split at h
              · rename_i body hexpand
                obtain ⟨e, frame, store⟩ := task
                obtain ⟨rfl, hcomes⟩ := Eval.mem_comings_iff.mp h
                exact .run hload hlimit hcollect hexpand hcomes
              · cases h
        · cases h
    | eval document =>
        unfold started at h
        dsimp only at h
        split at h
        · rename_i e hread
          split at h
          · cases h
          · rename_i hmacro
            split at h
            · rename_i expanded hexpand
              rw [List.mem_singleton.mp h]
              exact .eval hread (Bool.eq_false_iff.mpr hmacro) hexpand
            · cases h
        · cases h
    | load document => cases h
    | macroexpand document => cases h
  · intro h
    cases h with
    | run hload hlimit hcollect hexpand hcomes =>
        simp only [started, hload, hlimit, hcollect, hexpand]
        exact Eval.mem_comings_iff.mpr ⟨rfl, hcomes⟩
    | eval hread hmacro hexpand =>
        simp only [started, hread, hmacro, hexpand]
        exact List.mem_singleton.mpr rfl

theorem mem_openings_iff {name : String} :
    name ∈ interpreter.openings session request ↔ ∃ pending left task opening,
      interpreter.Moment session request pending (left + 1) task ∧
        Eval.opened? left task = some opening ∧ opening.source = name := by
  constructor
  · intro h
    obtain ⟨start, hstart, hname⟩ := List.mem_flatMap.mp h
    obtain ⟨pending, left, task, opening, hduring, hopened, hsource⟩ :=
      Eval.mem_openings_iff.mp hname
    exact ⟨pending, left, task, opening, ⟨start, mem_started_iff.mp hstart, hduring⟩, hopened,
      hsource⟩
  · rintro ⟨pending, left, task, opening, ⟨start, hstarts, hduring⟩, hopened, hsource⟩
    refine List.mem_flatMap.mpr ⟨start, mem_started_iff.mpr hstarts, ?_⟩
    exact Eval.mem_openings_iff.mpr ⟨pending, left, task, opening, hduring, hopened, hsource⟩

theorem nodup_openings {modules : Bindings Module}
    (h : Invariant.AtRoot interpreter.Active modules session) :
    (interpreter.openings session request).Nodup := by
  have hopens (modules : Bindings Module) (task : Task)
      (hactive : interpreter.Active modules task.store task.frame) :
      Eval.OpensOnce interpreter.stack task := Eval.opensOnce_of_active hactive
  unfold openings started
  cases request with
  | run document =>
      dsimp only
      split
      · rename_i program maxDepth _ _
        split
        · exact (Eval.opensOnce_comings (hopens program.modules)
            (active_freshStore interpreter program.modules)).nodup
        · exact List.nodup_nil
      · exact List.nodup_nil
  | eval document =>
      dsimp only
      split
      · split
        · exact List.nodup_nil
        · split
          · rw [List.flatMap_singleton, h.1]
            exact (hopens modules ⟨_, 0, _⟩ (h.2.withOutput "")).nodup
          · exact List.nodup_nil
      · exact List.nodup_nil
  | load document => exact List.nodup_nil
  | macroexpand document => exact List.nodup_nil

theorem Moment.fails {pending : List Pending} {left : Nat} {task : Task} {err : Error}
    {final : Store} (hmoment : interpreter.Moment session request pending left task)
    (herror : Eval.outcome (Eval.evaluate left) task = .error err final) :
    (interpreter.perform session request).session.store.registry.loaded =
      final.registry.loaded := by
  obtain ⟨start, hstarts, hduring⟩ := hmoment
  obtain ⟨last, hlast, hloaded⟩ := hduring.fails herror
  rw [← hloaded]
  cases hstarts with
  | run hload hlimit hcollect hexpand hcomes =>
      have hfinal := Eval.finalStore_of_error (hcomes.mapM_eq_error hlast)
      simp only [perform, Reply.map, run, hload, hlimit, hcollect, hexpand, session_evaluating]
      rw [← hfinal]
      rfl
  | eval hread hmacro hexpand =>
      simp only [perform, Reply.map, eval, hread, hmacro, hexpand, Bool.false_eq_true, if_false,
        session_evaluating]
      rw [← Eval.finalStore_of_error hlast]
      rfl

variable {modules : Bindings Module}

theorem Moment.advances (h : Invariant.AtRoot interpreter.Active modules session)
    {pending : List Pending} {left : Nat} {task : Task}
    (hmoment : interpreter.Moment session request pending left task) :
    (Eval.finalStore (Eval.evaluate left task.expr task.frame) task.store).Advances
      (interpreter.perform session request).session.store := by
  obtain ⟨start, hstarts, hduring⟩ := hmoment
  refine (Eval.advances_during ((invariant_active interpreter).starts h hstarts) hduring).trans ?_
  cases hstarts with
  | run hload hlimit hcollect hexpand hcomes =>
      simp only [perform, Reply.map, run, hload, hlimit, hcollect, hexpand, session_evaluating]
      refine (Eval.advances_comes (active_freshStore interpreter _) hcomes).trans ?_
      rw [← Eval.finalStore_mapM]
      exact .withOutput _ ""
  | eval hread hmacro hexpand =>
      simp only [perform, Reply.map, eval, hread, hmacro, hexpand, Bool.false_eq_true, if_false,
        session_evaluating]
      exact .withOutput _ ""

theorem advances_perform (h : Invariant.AtRoot interpreter.Active modules session)
    (hdeclares : interpreter.declares? request = none) :
    session.store.Advances (interpreter.perform session request).session.store := by
  cases request with
  | run document =>
      cases hload : interpreter.load document with
      | ok program =>
          rw [declares?_of_ok hload] at hdeclares
          cases hdeclares
      | error e =>
          simp only [perform, Reply.map, run, hload]
          exact .refl _
  | eval document =>
      simp only [perform, Reply.map, eval]
      split
      · exact .refl _
      · split
        · exact .refl _
        · split
          · exact .refl _
          · rename_i expanded _
            rw [session_evaluating, h.1]
            have heffect := Eval.evaluate_effect interpreter.stack expanded 0
              { session.store with output := "" }
            have hactive := h.2.withOutput ""
            refine (Store.Advances.withOutput session.store "").trans ?_
            exact (hactive.effect heffect).2.toAdvances.trans (.withOutput _ "")
  | load document => exact .refl _
  | macroexpand document => exact .refl _

theorem invariant_loading (interpreter : Interpreter) :
    interpreter.Invariant fun modules pending store env =>
      interpreter.Active modules store env ∧
        store.registry.loading = Pending.sources pending where
  fresh modules := ⟨interpreter.active_freshStore modules, rfl⟩
  output text h := ⟨h.1.withOutput text, h.2⟩
  effect h heffect := by
    obtain ⟨hafter, hevolves⟩ := h.1.effect heffect
    exact ⟨hafter, hevolves.loading_eq.trans h.2⟩
  enter h hfunction henter := by
    obtain ⟨hentered, hevolves⟩ := h.1.enter hfunction henter
    exact ⟨hentered, hevolves.loading_eq.trans h.2⟩
  opening h hopen := by
    obtain ⟨hopening, _, hregistry⟩ := h.1.opening hopen
    refine ⟨hopening, ?_⟩
    rw [hregistry]
    exact congrArg (_ :: ·) h.2

namespace Active

variable {store : Store} {env : FrameId} {stack : Nat} {source : String}

theorem findModule_declared (h : interpreter.Active modules store env) {declared : Module}
    (hloaded : store.registry.loaded.get? source = none)
    (hdeclared : modules.get? source = some declared) (hloading : source ∉ store.registry.loading) :
    store.findModule stack env source =
      (Eval.moduleExports stack interpreter.settings declared).map fun (macros, exports) =>
        .inr (store.openModule 0 store.registry (some interpreter.maxCallDepth) source macros.names
          exports) := by
  have hcontains : store.registry.loading.contains source = false := by simpa using hloading
  rw [h.sound.findModule_eq h.lt_size, hloaded, hdeclared]
  simp only [hcontains, Bool.false_eq_true, if_false]

theorem loaded_loadModule (h : interpreter.Active modules store env) (stack : Nat)
    (source : String) :
    (Eval.finalStore (Eval.loadModule (Eval.evaluate stack) stack env source)
        store).registry.loaded.get? source =
      match Eval.loadModule (Eval.evaluate stack) stack env source store with
      | .ok loaded _ => some loaded
      | .error _ _ => none := by
  rw [Eval.finalStore, Eval.loadModule_apply]
  cases hfind : store.findModule stack env source with
  | error e => exact h.sound.not_loaded_of_findModule h.lt_size hfind
  | ok found =>
      cases found with
      | inl entry => exact h.sound.loaded_of_findModule h.lt_size hfind
      | inr opening =>
          have heffect : Effect opening.frame _ opening.store _ :=
            Eval.effect_runAll (Eval.evaluate_effect stack) opening.exports opening.store
          obtain ⟨hfinal, hevolves⟩ := (h.opening hfind).1.effect heffect
          simp only [Opening.evaluate]
          cases hrun : Eval.runAll (Eval.evaluate stack) opening.frame opening.exports
            opening.store with
          | error e final =>
              rw [Eval.finalStore_of_error hrun] at hfinal hevolves
              simp only [Store.loaded_close]
              exact h.not_loaded_within hfind hfinal hevolves
          | ok _ final =>
              rw [Eval.finalStore_of_ok hrun] at hfinal hevolves
              simp only [h.registry_finish hfind hfinal hevolves]
              exact Bindings.get?_set_self _ _ _

end Active

theorem Moment.loadModule {earlier : Bindings Module}
    (h : Invariant.AtRoot interpreter.Active earlier session)
    {pending : List Pending} {left : Nat} {source : String} {symbols : List String}
    {frame : FrameId} {store : Store}
    (hmoment : interpreter.Moment session request pending (left + 1)
      ⟨.imports source symbols, frame, store⟩)
    (hactive : interpreter.Active modules store frame) :
    let next := (interpreter.perform session request).session
    match Eval.loadModule (Eval.evaluate left) left frame source store with
    | .ok loaded after =>
        after.registry.loaded.get? source = some loaded ∧ after.Advances next.store
    | .error _ _ => next.store.registry.loaded.get? source = none := by
  have hloaded := hactive.loaded_loadModule left source
  have hadvances := (Eval.advances_imports left source symbols hactive).trans (hmoment.advances h)
  cases hload : Eval.loadModule (Eval.evaluate left) left frame source store with
  | ok loaded after =>
      rw [Eval.finalStore_of_ok hload] at hloaded hadvances
      rw [hload] at hloaded
      exact ⟨hloaded, hadvances⟩
  | error err after =>
      rw [Eval.finalStore_of_error hload, hload] at hloaded
      have herror : Eval.evaluate (left + 1) (.imports source symbols) frame store =
          .error err after := by
        simp only [Eval.evaluate, Eval.step, Eval.bind_apply, hload]
      simp only [hmoment.fails herror, hloaded]

end Interpreter

/-- The registry that all frames of a store share, in a session whose latest program declares the
modules, while those in the list are being loaded. -/
structure Store.Registers (modules : Bindings Module) (loading : List String) (store : Store) :
    Prop where
  shared : ∀ i < store.frames.size, store.realmOf? i = some 0
  modules_eq : store.registry.modules = modules
  loading_eq : store.registry.loading = loading
  consistent : store.registry.Consistent

namespace Interpreter

theorem Sound.registers {interpreter : Interpreter} {modules : Bindings Module} {store : Store}
    {loading : List String} (h : interpreter.Sound modules store)
    (hloading : store.registry.loading = loading) : store.Registers modules loading :=
  ⟨fun _ => h.realmOf?_eq, h.modules_eq, hloading, h.consistent⟩

/-- Between two requests nothing is being loaded, and a request opens each module at most once.
While it is performed, the modules being loaded are those whose loads are pending; every evaluation
leaves them as they were and keeps, as does all that follows, what has been loaded. A module that is
neither loaded nor being loaded is opened from its declaration; it stays loaded if its load succeeds
and is not loaded when the request ends if its load fails. -/
theorem registry_tracks_loads (interpreter : Interpreter) (macros : Macros)
    (requests : List Request) (request : Request) :
    let session := interpreter.after (interpreter.initial macros) requests
    let next := (interpreter.perform session request).session
    let modules := interpreter.declared (requests ++ [request])
    session.store.Registers (interpreter.declared requests) [] ∧
    (interpreter.declares? request = none → session.store.Advances next.store) ∧
    (interpreter.openings session request).Nodup ∧
    (∀ name, name ∈ interpreter.openings session request ↔ ∃ pending left task opening,
      interpreter.Moment session request pending (left + 1) task ∧
        Eval.opened? left task = some opening ∧ opening.source = name) ∧
    (∀ pending left task, interpreter.Moment session request pending left task →
      let after := Eval.finalStore (Eval.evaluate left task.expr task.frame) task.store
      task.store.Registers modules (Pending.sources pending) ∧ task.store.Evolves after ∧
        after.Advances next.store) ∧
    ∀ pending left source symbols frame store,
      interpreter.Moment session request pending (left + 1)
        ⟨.imports source symbols, frame, store⟩ →
      (∀ declared, store.registry.loaded.get? source = none → source ∉ Pending.sources pending →
        modules.get? source = some declared →
        store.findModule left frame source =
          (Eval.moduleExports left interpreter.settings declared).map fun (macros, exports) =>
            .inr (store.openModule 0 store.registry (some interpreter.maxCallDepth) source
              macros.names exports)) ∧
      match Eval.loadModule (Eval.evaluate left) left frame source store with
      | .ok loaded after =>
          after.registry.loaded.get? source = some loaded ∧ after.Advances next.store
      | .error _ _ => next.store.registry.loaded.get? source = none := by
  intro session next modules
  have hsession := (invariant_active interpreter).after macros requests
  have hidle := (invariant_loading interpreter).after macros requests
  refine ⟨hsession.2.sound.registers hidle.2.2, advances_perform hsession,
    nodup_openings hsession, fun _ => mem_openings_iff, ?_, ?_⟩
  · intro pending left task hmoment
    obtain ⟨hactive, hloading⟩ := (invariant_loading interpreter).moment hmoment
    have heffect := Eval.evaluate_effect left task.expr task.frame task.store
    exact ⟨hactive.sound.registers hloading, (hactive.effect heffect).2,
      hmoment.advances hsession⟩
  · intro pending left source symbols frame store hmoment
    obtain ⟨hactive, hloading⟩ := (invariant_loading interpreter).moment hmoment
    refine ⟨fun declared hloaded hpending hdeclared => ?_, hmoment.loadModule hsession hactive⟩
    rw [← hloading] at hpending
    exact hactive.findModule_declared hloaded hdeclared hpending

/-- While `g` is called in the evaluation of `m`, that module is being loaded. -/
theorem registry_tracks_loads_importInCall :
    let interpreter : Interpreter := { maxCallDepth := 1 }
    ∃ pending left task,
      interpreter.Moment (interpreter.initial { maxDepth := 100 }) (.run importInCall) pending left
        task ∧
      task.expr = .call "g" [] ∧ task.store.registry.loading = ["m"] := by
  intro interpreter
  obtain ⟨store, _, _, hmoment, _, _⟩ := moment_importInCall { maxDepth := 100 }
  obtain ⟨_, _, _, _, hmoments, _⟩ :=
    registry_tracks_loads interpreter { maxDepth := 100 } [] (.run importInCall)
  exact ⟨_, _, _, hmoment, rfl, (hmoments _ _ _ hmoment).1.loading_eq⟩

end Interpreter

end JsonExpr
