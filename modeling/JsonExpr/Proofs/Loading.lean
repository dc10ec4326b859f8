import JsonExpr.Proofs.Registry

namespace JsonExpr

namespace Eval

variable {self : Evaluator} {stack : Nat} {frame : FrameId} {exprs : List Expr} {store : Store}

/-- The tasks that evaluating the expressions in order comes to. -/
def comings (self : Evaluator) (frame : FrameId) : List Expr → Store → List Task
  | [], _ => []
  | e :: rest, store =>
      ⟨e, frame, store⟩ ::
        match self e frame store with
        | .ok _ middle => comings self frame rest middle
        | .error _ _ => []

/-- The body of the function that a call enters, once its arguments have been evaluated. -/
def entered? (self : Evaluator) (target : String) (args : List Expr) (frame : FrameId)
    (store : Store) : Option Task :=
  match (args.mapM fun arg => self arg frame) store with
  | .error _ _ => none
  | .ok values ready =>
      match ready.function? frame target with
      | some (.user closure) =>
          match enter closure values frame ready with
          | .ok callee entered => some ⟨closure.body, callee, entered⟩
          | .error _ _ => none
      | _ => none

/-- The module that a task opens, if it is the import of one that has to be loaded. -/
def opened? (stack : Nat) (task : Task) : Option Opening :=
  match task.expr with
  | .imports source _ =>
      match task.store.findModule stack task.frame source with
      | .ok (.inr opening) => some opening
      | _ => none
  | _ => none

/-- The tasks that the evaluation of a task begins, in order. -/
def begun (self : Evaluator) (stack : Nat) (task : Task) : List Task :=
  match task.expr with
  | .binding _ value => [⟨value, task.frame, task.store⟩]
  | .sequence body => comings self task.frame body task.store
  | .conditional condition whenTrue whenFalse =>
      ⟨condition, task.frame, task.store⟩ ::
        match self condition task.frame task.store with
        | .ok value middle =>
            (if value.truthy then whenTrue else whenFalse).toList.map (⟨·, task.frame, middle⟩)
        | .error _ _ => []
  | .imports _ _ =>
      match opened? stack task with
      | some opening => comings self opening.frame opening.exports opening.store
      | none => []
  | .call target args =>
      comings self task.frame args task.store ++
        (entered? self target args task.frame task.store).toList
  | _ => []

/-- The modules whose exports begin to be evaluated, in order. -/
def openings : (stack : Nat) → Task → List String
  | 0, _ => []
  | stack + 1, task =>
      (opened? stack task).toList.map Opening.source ++
        (begun (evaluate stack) stack task).flatMap (openings stack)

theorem openings_of_not_opened {task : Task} (h : opened? stack task = none) :
    openings (stack + 1) task =
      (begun (evaluate stack) stack task).flatMap (openings stack) := by
  rw [openings, h, Option.toList_none, List.map_nil, List.nil_append]

theorem mem_comings_iff {task : Task} :
    task ∈ comings self frame exprs store ↔
      task.frame = frame ∧ Comes self frame exprs store task.expr task.store := by
  obtain ⟨e, env, reached⟩ := task
  induction exprs generalizing store with
  | nil =>
      constructor
      · intro h
        cases h
      · rintro ⟨_, h⟩
        cases h
  | cons first rest ih =>
      rw [comings, List.mem_cons]
      constructor
      · rintro (heq | h)
        · cases heq
          exact ⟨rfl, .here⟩
        · cases hfirst : self first frame store with
          | error e middle =>
              rw [hfirst] at h
              cases h
          | ok value middle =>
              rw [hfirst] at h
              obtain ⟨henv, hcomes⟩ := ih.mp h
              exact ⟨henv, .later hfirst hcomes⟩
      · rintro ⟨rfl, hcomes⟩
        cases hcomes with
        | here => exact .inl rfl
        | later hfirst hcomes =>
            rw [hfirst]
            exact .inr (ih.mpr ⟨rfl, hcomes⟩)

theorem entered?_eq_some_iff {target : String} {args : List Expr} {task : Task} :
    entered? self target args frame store = some task ↔
      ∃ closure values ready callee entered,
        Applies self ⟨.call target args, frame, store⟩ closure values ready ∧
        enter closure values frame ready = .ok callee entered ∧
        task = ⟨closure.body, callee, entered⟩ := by
  constructor
  · intro h
    unfold entered? at h
    split at h
    · cases h
    · rename_i values ready hvalues
      split at h
      · rename_i closure hfunction
        split at h
        · rename_i callee entered henter
          cases h
          exact ⟨closure, values, ready, callee, entered, ⟨hvalues, hfunction⟩, henter, rfl⟩
        · cases h
      · cases h
  · rintro ⟨closure, values, ready, callee, entered, ⟨hvalues, hfunction⟩, henter, rfl⟩
    simp only [entered?, hvalues, hfunction, henter]

theorem opened?_eq_some_iff {task : Task} {opening : Opening} :
    opened? stack task = some opening ↔
      ∃ source symbols, task.expr = .imports source symbols ∧
        task.store.findModule stack task.frame source = .ok (.inr opening) := by
  constructor
  · intro h
    unfold opened? at h
    split at h
    · rename_i source symbols hexpr
      split at h
      · rename_i found hfind
        cases h
        exact ⟨source, symbols, hexpr, hfind⟩
      · cases h
    · cases h
  · rintro ⟨source, symbols, hexpr, hfind⟩
    simp only [opened?, hexpr, hfind]

theorem begins_of_mem_begun {task sub : Task} (h : sub ∈ begun self stack task) :
    ∃ opened, Begins self stack task opened sub := by
  obtain ⟨e, frame, store⟩ := task
  obtain ⟨subExpr, subFrame, subStore⟩ := sub
  cases e with
  | literal | ref | function | macroDef | record => cases h
  | binding name value =>
      obtain h := List.mem_singleton.mp h
      cases h
      exact ⟨_, .value⟩
  | sequence body =>
      obtain ⟨rfl, hcomes⟩ := mem_comings_iff.mp h
      exact ⟨_, .item hcomes⟩
  | conditional condition whenTrue whenFalse =>
      rcases List.mem_cons.mp h with heq | h
      · cases heq
        exact ⟨_, .condition⟩
      · cases hvalue : self condition frame store with
        | error e middle =>
            simp only [hvalue] at h
            cases h
        | ok value middle =>
            simp only [hvalue, List.mem_map, Option.mem_toList] at h
            obtain ⟨branch, hbranch, heq⟩ := h
            cases heq
            exact ⟨_, .branch hvalue hbranch⟩
  | imports source symbols =>
      cases hopened : opened? stack ⟨.imports source symbols, frame, store⟩ with
      | none =>
          simp only [begun, hopened] at h
          cases h
      | some opening =>
          simp only [begun, hopened] at h
          obtain ⟨_, _, heq, hfind⟩ := opened?_eq_some_iff.mp hopened
          cases heq
          obtain ⟨rfl, hcomes⟩ := mem_comings_iff.mp h
          exact ⟨_, .exported hfind hcomes⟩
  | call target args =>
      rcases List.mem_append.mp h with h | h
      · obtain ⟨rfl, hcomes⟩ := mem_comings_iff.mp h
        exact ⟨_, .argument hcomes⟩
      · obtain ⟨closure, values, ready, callee, entered, happlies, henter, heq⟩ :=
          entered?_eq_some_iff.mp (Option.mem_toList.mp h)
        cases heq
        exact ⟨_, .body happlies henter⟩

theorem mem_begun_of_begins {task sub : Task} {opened : List Pending}
    (h : Begins self stack task opened sub) : sub ∈ begun self stack task := by
  cases h with
  | value => exact List.mem_singleton.mpr rfl
  | item hcomes => exact mem_comings_iff.mpr ⟨rfl, hcomes⟩
  | condition => exact List.mem_cons_self
  | branch hvalue hbranch =>
      simp only [begun, hvalue, hbranch]
      exact List.mem_cons_of_mem _ (List.mem_singleton.mpr rfl)
  | argument hcomes =>
      exact List.mem_append_left _ (mem_comings_iff.mpr ⟨rfl, hcomes⟩)
  | body happlies henter =>
      cases happlies with
      | intro hvalues hfunction =>
          refine List.mem_append_right _ (Option.mem_toList.mpr (entered?_eq_some_iff.mpr ?_))
          exact ⟨_, _, _, _, _, ⟨hvalues, hfunction⟩, henter, rfl⟩
  | @exported source symbols frame store _ _ opening hopen hcomes =>
      have hopened : opened? stack ⟨.imports source symbols, frame, store⟩ = some opening :=
        opened?_eq_some_iff.mpr ⟨source, symbols, rfl, hopen⟩
      simp only [begun, hopened]
      exact mem_comings_iff.mpr ⟨rfl, hcomes⟩

theorem mem_begun_iff {task sub : Task} :
    sub ∈ begun self stack task ↔ ∃ opened, Begins self stack task opened sub := by
  constructor
  · exact begins_of_mem_begun
  · rintro ⟨opened, hbegins⟩
    exact mem_begun_of_begins hbegins

end Eval

/-- Modules that are opened once each, starting from a store in which none of them is loaded or
being loaded; where all goes well, they have been loaded at the end. -/
structure Store.OpensOnce (names : List String) (before : Store) (ends : Store → Prop) : Prop where
  nodup : names.Nodup
  absent : ∀ name ∈ names,
    before.registry.loaded.get? name = none ∧ name ∉ before.registry.loading
  present : ∀ after, ends after → ∀ name ∈ names, name ∈ after.registry.loaded.names

namespace Store.OpensOnce

variable {names more : List String} {before middle : Store} {ends later : Store → Prop}

theorem nil (before : Store) (ends : Store → Prop) : OpensOnce [] before ends :=
  ⟨List.nodup_nil, fun _ h => absurd h List.not_mem_nil, fun _ _ _ h => absurd h List.not_mem_nil⟩

theorem weaken (h : OpensOnce names before ends)
    (hends : ∀ after, later after → ∃ earlier, ends earlier ∧ earlier.Advances after) :
    OpensOnce names before later where
  nodup := h.nodup
  absent := h.absent
  present after hafter name hname := by
    obtain ⟨earlier, hearlier, hadvances⟩ := hends after hafter
    exact hadvances.names_kept.subset (h.present earlier hearlier name hname)

theorem of_registry_eq (h : OpensOnce names middle ends)
    (hregistry : middle.registry = before.registry) : OpensOnce names before ends :=
  ⟨h.nodup, hregistry ▸ h.absent, h.present⟩

theorem append (first : OpensOnce names before ends) (hmiddle : ends middle)
    (hevolves : before.Evolves middle) (second : OpensOnce more middle later)
    (hlater : ∀ after, later after → middle.Advances after) :
    OpensOnce (names ++ more) before later where
  nodup := by
    refine List.nodup_append.mpr ⟨first.nodup, second.nodup, ?_⟩
    rintro name hname _ hmore rfl
    have hloaded := Bindings.get?_isSome_iff.mpr (first.present middle hmiddle name hname)
    rw [(second.absent name hmore).1] at hloaded
    cases hloaded
  absent name hname := by
    rcases List.mem_append.mp hname with hname | hname
    · exact first.absent name hname
    · obtain ⟨hloaded, hloading⟩ := second.absent name hname
      rw [hevolves.loading_eq] at hloading
      refine ⟨?_, hloading⟩
      cases hbefore : before.registry.loaded.get? name with
      | none => rfl
      | some entry =>
          rw [(hevolves.kept name entry hbefore).1] at hloaded
          cases hloaded
  present after hafter name hname := by
    rcases List.mem_append.mp hname with hname | hname
    · exact (hlater after hafter).names_kept.subset (first.present middle hmiddle name hname)
    · exact second.present after hafter name hname

theorem cons {name : String} (h : OpensOnce names middle ends)
    (hregistry : middle.registry = Eval.startLoading name before.registry)
    (hloaded : before.registry.loaded.get? name = none)
    (hloading : name ∉ before.registry.loading)
    (hlater : ∀ after, later after →
      name ∈ after.registry.loaded.names ∧ ∃ earlier, ends earlier ∧ earlier.Advances after) :
    OpensOnce (name :: names) before later where
  nodup := by
    refine List.nodup_cons.mpr ⟨fun hname => ?_, h.nodup⟩
    obtain ⟨_, hnot⟩ := h.absent name hname
    rw [hregistry] at hnot
    exact hnot List.mem_cons_self
  absent other hother := by
    rcases List.mem_cons.mp hother with rfl | hother
    · exact ⟨hloaded, hloading⟩
    · obtain ⟨hnone, hnot⟩ := h.absent other hother
      rw [hregistry] at hnone hnot
      exact ⟨hnone, fun hmem => hnot (List.mem_cons_of_mem _ hmem)⟩
  present after hafter other hother := by
    obtain ⟨hname, earlier, hearlier, hadvances⟩ := hlater after hafter
    rcases List.mem_cons.mp hother with rfl | hother
    · exact hname
    · exact hadvances.names_kept.subset (h.present earlier hearlier other hother)

end Store.OpensOnce

namespace Eval

variable {interpreter : Interpreter} {modules : Bindings Module} {stack : Nat} {frame : FrameId}

/-- Where evaluating the expressions in order ends if it goes well. -/
def EndsAll (self : Evaluator) (frame : FrameId) (exprs : List Expr) (before after : Store) :
    Prop :=
  runAll self frame exprs before = .ok () after

/-- Where a task ends if it goes well. -/
def Ends (self : Evaluator) (task : Task) (after : Store) : Prop :=
  ∃ value, outcome self task = .ok value after

theorem advances_bind {α β : Type} {store : Store} {work : Eval α} {next : α → Eval β}
    (hnext : ∀ value middle, work store = .ok value middle →
      middle.Advances (finalStore (next value) middle)) :
    (finalStore work store).Advances (finalStore (work >>= next) store) := by
  cases hwork : work store with
  | ok value middle =>
      have hadvances := hnext value middle hwork
      simpa only [finalStore, bind_apply, hwork] using hadvances
  | error e middle =>
      simp only [finalStore, bind_apply, hwork]
      exact .refl middle

theorem advances_imports (stack : Nat) (source : String) (symbols : List String) {store : Store}
    (hactive : interpreter.Active modules store frame) :
    (finalStore (loadModule (evaluate stack) stack frame source) store).Advances
      (finalStore (evaluate (stack + 1) (.imports source symbols) frame) store) := by
  refine advances_bind fun loaded middle hload => ?_
  have hloadEffect : Effect frame (fun _ => symbols) store _ :=
    effect_loadModule (evaluate_effect stack) source store
  have hsymbols : Effect frame (fun _ => symbols) middle
      (finalStore (symbols.forM (bindExport source loaded frame)) middle) :=
    Effect.forM (fun symbol hsymbol => effect_bindExport source loaded fun _ => hsymbol) middle
  refine ((hactive.of_ok hloadEffect hload).1.effect (hsymbols.bind fun _ _ _ => ?_)).2.toAdvances
  exact .none

theorem advances_of_imports {source : String} {symbols : List String} {store : Store}
    {opening : Opening} (hactive : interpreter.Active modules store frame)
    (hopen : store.findModule stack frame source = .ok (.inr opening)) {after : Store}
    (h : Ends (evaluate (stack + 1)) ⟨.imports source symbols, frame, store⟩ after) :
    ∃ final, EndsAll (evaluate stack) opening.frame opening.exports opening.store final ∧
      (opening.finish final).Advances after := by
  obtain ⟨value, hvalue⟩ := h
  have hadvances := advances_imports stack source symbols hactive
  rw [finalStore_of_ok hvalue] at hadvances
  obtain ⟨loaded, middle, hload, _⟩ := bind_eq_ok.mp hvalue
  rw [finalStore_of_ok hload] at hadvances
  rw [loadModule_apply, hopen] at hload
  simp only [Opening.evaluate] at hload
  cases hrun : runAll (evaluate stack) opening.frame opening.exports opening.store with
  | error e ended =>
      rw [hrun] at hload
      cases hload
  | ok _ ended =>
      rw [hrun] at hload
      cases hload
      exact ⟨ended, hrun, hadvances⟩

theorem runAll_of_mapM {self : Evaluator} {exprs : List Expr} {store after : Store}
    {values : List Json} (h : (exprs.mapM fun e => self e frame) store = .ok values after) :
    runAll self frame exprs store = .ok () after := by
  induction exprs generalizing store values with
  | nil =>
      cases h
      rfl
  | cons first rest ih =>
      rw [List.mapM_cons, bind_eq_ok] at h
      obtain ⟨value, middle, hfirst, h⟩ := h
      obtain ⟨others, final, hrest, h⟩ := bind_eq_ok.mp h
      cases h
      rw [runAll_cons_apply, hfirst]
      exact ih hrest

theorem runAll_of_foldlM {self : Evaluator} {exprs : List Expr} {store after : Store}
    {initial value : Json}
    (h : exprs.foldlM (fun _ e => self e frame) initial store = .ok value after) :
    runAll self frame exprs store = .ok () after := by
  induction exprs generalizing store initial with
  | nil =>
      cases h
      rfl
  | cons first rest ih =>
      rw [List.foldlM_cons, bind_eq_ok] at h
      obtain ⟨value, middle, hfirst, h⟩ := h
      rw [runAll_cons_apply, hfirst]
      exact ih h

/-- A task opens each module at most once. -/
def OpensOnce (stack : Nat) (task : Task) : Prop :=
  Store.OpensOnce (openings stack task) task.store (Ends (evaluate stack) task)

section Cases

variable (h : ∀ task, interpreter.Active modules task.store task.frame → OpensOnce stack task)
include h

theorem opensOnce_comings {exprs : List Expr} {store : Store}
    (hactive : interpreter.Active modules store frame) :
    Store.OpensOnce ((comings (evaluate stack) frame exprs store).flatMap (openings stack)) store
      (EndsAll (evaluate stack) frame exprs store) := by
  induction exprs generalizing store with
  | nil => exact .nil _ _
  | cons first rest ih =>
      have hfirst : Store.OpensOnce _ store _ := h ⟨first, frame, store⟩ hactive
      rw [comings, List.flatMap_cons]
      cases hresult : evaluate stack first frame store with
      | error e middle =>
          rw [List.flatMap_nil, List.append_nil]
          refine hfirst.weaken fun after hafter => ?_
          rw [EndsAll, runAll_cons_apply, hresult] at hafter
          cases hafter
      | ok value middle =>
          obtain ⟨hmiddle, hevolves⟩ := hactive.evaluate_ok hresult
          refine hfirst.append ⟨value, hresult⟩ hevolves ((ih hmiddle).weaken ?_) ?_
          · intro after hafter
            rw [EndsAll, runAll_cons_apply, hresult] at hafter
            exact ⟨after, hafter, .refl after⟩
          · intro after hafter
            rw [EndsAll, runAll_cons_apply, hresult] at hafter
            exact (hmiddle.runAll_ok hafter).2.toAdvances

theorem opensOnce_conditional {condition : Expr} {whenTrue whenFalse : Option Expr} {store : Store}
    (hactive : interpreter.Active modules store frame) :
    OpensOnce (stack + 1) ⟨.conditional condition whenTrue whenFalse, frame, store⟩ := by
  have hcondition : Store.OpensOnce _ store _ := h ⟨condition, frame, store⟩ hactive
  rw [OpensOnce, openings_of_not_opened rfl]
  cases hresult : evaluate stack condition frame store with
  | error e middle =>
      simp only [begun, hresult, List.flatMap_cons, List.flatMap_nil, List.append_nil]
      refine hcondition.weaken ?_
      rintro after ⟨value, hvalue⟩
      simp only [outcome, evaluate, step, bind_apply, hresult] at hvalue
      cases hvalue
  | ok value middle =>
      obtain ⟨hmiddle, hevolves⟩ := hactive.evaluate_ok hresult
      cases hbranch : if value.truthy then whenTrue else whenFalse with
      | none =>
          simp only [begun, hresult, hbranch, Option.toList_none, List.map_nil, List.flatMap_cons,
            List.flatMap_nil, List.append_nil]
          refine hcondition.weaken ?_
          rintro after ⟨result, hvalue⟩
          simp only [outcome, evaluate, step, bind_apply, hresult, hbranch] at hvalue
          cases hvalue
          exact ⟨_, ⟨value, hresult⟩, .refl _⟩
      | some e =>
          simp only [begun, hresult, hbranch, Option.toList_some, List.map_cons, List.map_nil,
            List.flatMap_cons, List.flatMap_nil, List.append_nil]
          have hends (after : Store) : Ends (evaluate (stack + 1))
              ⟨.conditional condition whenTrue whenFalse, frame, store⟩ after →
                Ends (evaluate stack) ⟨e, frame, middle⟩ after := by
            rintro ⟨result, hvalue⟩
            simp only [outcome, evaluate, step, bind_apply, hresult, hbranch] at hvalue
            exact ⟨result, hvalue⟩
          refine hcondition.append ⟨value, hresult⟩ hevolves
            ((h ⟨e, frame, middle⟩ hmiddle).weaken fun after hafter =>
              ⟨after, hends after hafter, .refl after⟩) fun after hafter => ?_
          obtain ⟨result, hvalue⟩ := hends after hafter
          exact (hmiddle.evaluate_ok hvalue).2.toAdvances

theorem opensOnce_call {target : String} {args : List Expr} {store : Store}
    (hactive : interpreter.Active modules store frame) :
    OpensOnce (stack + 1) ⟨.call target args, frame, store⟩ := by
  have hself := evaluate_effect stack
  have hargs : Store.OpensOnce _ store (EndsAll (evaluate stack) frame args store) :=
    opensOnce_comings h hactive
  rw [OpensOnce, openings_of_not_opened rfl, begun, List.flatMap_append]
  cases hvalues : (args.mapM fun arg => evaluate stack arg frame) store with
  | error e ready =>
      simp only [entered?, hvalues, Option.toList_none, List.flatMap_nil, List.append_nil]
      refine hargs.weaken ?_
      rintro after ⟨value, hvalue⟩
      simp only [outcome, evaluate, step, bind_apply, hvalues] at hvalue
      cases hvalue
  | ok values ready =>
      obtain ⟨hready, hevolves⟩ := hactive.of_ok (effect_mapM hself args store) hvalues
      have hends : ∀ after, Ends (evaluate (stack + 1)) ⟨.call target args, frame, store⟩ after →
          ready.Advances after := by
        rintro after ⟨value, hvalue⟩
        simp only [outcome, evaluate, step] at hvalue
        rw [bind_apply, hvalues] at hvalue
        have hinvoke : Effect frame (fun _ => []) ready _ := effect_invoke hself target values ready
        exact (hready.of_ok hinvoke hvalue).2.toAdvances
      refine hargs.append (runAll_of_mapM hvalues) hevolves ?_ hends
      cases hbody : entered? (evaluate stack) target args frame store with
      | none => exact .nil _ _
      | some task =>
          obtain ⟨closure, _, _, callee, entered, happlies, henter, rfl⟩ :=
            entered?_eq_some_iff.mp hbody
          obtain ⟨hagain, hfunction⟩ := happlies
          rw [hvalues] at hagain
          cases hagain
          obtain ⟨hentered, _⟩ := hready.enter hfunction henter
          have hregistry : entered.registry = ready.registry := by
            obtain ⟨_, vars, _, _, rfl⟩ := enter_eq_ok henter
            rfl
          have htask : Store.OpensOnce _ entered _ := h ⟨closure.body, callee, entered⟩ hentered
          rw [Option.toList_some, List.flatMap_singleton]
          refine (htask.weaken ?_).of_registry_eq hregistry
          rintro after ⟨value, hvalue⟩
          simp only [outcome, evaluate, step, bind_apply, hvalues, function_apply, hfunction, apply,
            applyClosure, henter] at hvalue
          exact ⟨after, ⟨value, hvalue⟩, .refl after⟩

theorem opensOnce_imports {source : String} {symbols : List String} {store : Store}
    (hactive : interpreter.Active modules store frame) :
    OpensOnce (stack + 1) ⟨.imports source symbols, frame, store⟩ := by
  rw [OpensOnce, openings]
  cases hopened : opened? stack ⟨.imports source symbols, frame, store⟩ with
  | none =>
      simp only [begun, hopened, Option.toList_none, List.map_nil, List.flatMap_nil,
        List.append_nil]
      exact .nil _ _
  | some opening =>
      obtain ⟨_, _, heq, hopen⟩ := opened?_eq_some_iff.mp hopened
      cases heq
      obtain ⟨hopening, _, hregistry⟩ := hactive.opening hopen
      obtain ⟨_, _, _, hloaded, _, hloading, _, hsource⟩ :=
        hactive.sound.findModule_eq_opening hactive.lt_size hopen
      have hname : opening.source = source := by rw [hsource, Store.openModule]
      have hexports : Store.OpensOnce _ opening.store
          (EndsAll (evaluate stack) opening.frame opening.exports opening.store) :=
        opensOnce_comings h hopening
      simp only [begun, hopened, Option.toList_some, List.map_cons, List.map_nil, hname,
        List.singleton_append]
      refine hexports.cons hregistry hloaded hloading fun after hafter => ?_
      obtain ⟨final, hfinal, hadvances⟩ := advances_of_imports hactive hopen hafter
      obtain ⟨hactiveFinal, hevolves⟩ := hopening.runAll_ok hfinal
      have hfinish := hactive.advances_finish hopen hactiveFinal hevolves
      refine ⟨hadvances.names_kept.subset ?_, final, hfinal, hfinish.trans hadvances⟩
      rw [hactive.registry_finish hopen hactiveFinal hevolves]
      exact Bindings.mem_names_of_get? (Bindings.get?_set_self _ _ _)

end Cases

/-- No evaluation opens a module twice. -/
theorem opensOnce_of_active {task : Task}
    (hactive : interpreter.Active modules task.store task.frame) : OpensOnce stack task := by
  induction stack generalizing task with
  | zero => exact .nil _ _
  | succ stack ih =>
      have h (task : Task) (hactive : interpreter.Active modules task.store task.frame) :
          OpensOnce stack task := ih hactive
      obtain ⟨e, frame, store⟩ := task
      cases e with
      | literal | ref | function | macroDef | record => exact .nil _ _
      | binding name value =>
          have hvalue : Store.OpensOnce _ store _ := h ⟨value, frame, store⟩ hactive
          rw [OpensOnce, openings_of_not_opened rfl, begun, List.flatMap_singleton]
          refine hvalue.weaken ?_
          rintro after ⟨result, hresult⟩
          obtain ⟨_, middle, hmiddle, hresult⟩ := bind_eq_ok.mp hresult
          cases hresult
          have hassigned : Effect frame (fun _ => [name]) middle _ :=
            .assigned result List.mem_cons_self
          obtain ⟨hactiveMiddle, _⟩ := hactive.evaluate_ok hmiddle
          exact ⟨middle, ⟨result, hmiddle⟩, (hactiveMiddle.effect hassigned).2.toAdvances⟩
      | sequence body =>
          rw [OpensOnce, openings_of_not_opened rfl]
          refine (opensOnce_comings h hactive).weaken ?_
          rintro after ⟨value, hvalue⟩
          exact ⟨after, runAll_of_foldlM hvalue, .refl after⟩
      | conditional => exact opensOnce_conditional h hactive
      | imports => exact opensOnce_imports h hactive
      | call => exact opensOnce_call h hactive

end Eval

end JsonExpr
