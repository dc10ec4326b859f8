import JsonExpr.Proofs.LoadHistory
import JsonExpr.Proofs.ModuleRegistry

namespace JsonExpr

/-- What a name stands for, in the one or the other namespace. -/
inductive Item where
  | function (function : Function)
  | value (value : Json)

def Frame.Binds (frame : Frame) (name : String) : Item → Prop
  | .function function => frame.functions.get? name = some function
  | .value value => frame.vars.get? name = some value

/-- Binds the name to the item in a frame. -/
def Store.put (store : Store) (env : FrameId) (name : String) : Item → Store
  | .function function => store.setFunction env name function
  | .value value => store.setVar env name value

namespace Expr

/-- The subexpressions that are evaluated in the same frame: all but the body of a definition. -/
def openChildren : Expr → List Expr
  | .function .. => []
  | .macroDef .. => []
  | e => e.children

/-- The part occurs in the expression outside the bodies of functions and macros. -/
inductive Exposes : Expr → Expr → Prop
  | self (e) : Exposes e e
  | within {e child part} : child ∈ e.openChildren → Exposes child part → Exposes e part

/-- The part occurs in one of the expressions outside the bodies of functions and macros. -/
def ExposedIn (exprs : List Expr) (part : Expr) : Prop :=
  ∃ e ∈ exprs, e.Exposes part

/-- The expressions themselves define the name as the item, when they are evaluated in the frame. -/
inductive Defines (exprs : List Expr) (frame : FrameId) (name : String) : Item → Prop
  | function {params body} : ExposedIn exprs (.function name params body) →
      Defines exprs frame name (.function (.user { name, params, body, frame }))
  | variable {e} (value : Json) : ExposedIn exprs (.binding name e) →
      Defines exprs frame name (.value value)

end Expr

/-- What evaluating the expressions in a frame can bind there: what they define themselves, and what
they import from a module that has been loaded. -/
inductive Store.Gives (store : Store) (env : FrameId) (exprs : List Expr) (name : String) :
    Item → Prop
  | own {item} : Expr.Defines exprs env name item → Gives store env exprs name item
  | imported {source symbols entry frame item} : Expr.ExposedIn exprs (.imports source symbols) →
      name ∈ symbols → store.registry.loaded.get? source = some entry →
      store.frames[entry.frame]? = some frame → frame.Binds name item →
      Gives store env exprs name item

/-- All that the frame holds in the end was there before or is given by the expressions. -/
def Store.Gains (env : FrameId) (exprs : List Expr) (before after : Store) : Prop :=
  ∀ frame, after.frames[env]? = some frame → ∀ name item, frame.Binds name item →
    (∃ old, before.frames[env]? = some old ∧ old.Binds name item) ∨ after.Gives env exprs name item

namespace Expr

theorem ExposedIn.mono {exprs more : List Expr} {part : Expr} (h : ExposedIn exprs part)
    (hsub : ∀ e ∈ exprs, ∃ other ∈ more, e = other ∨ e ∈ other.openChildren) :
    ExposedIn more part := by
  obtain ⟨e, he, hexposes⟩ := h
  obtain ⟨other, hother, rfl | hchild⟩ := hsub e he
  · exact ⟨e, hother, hexposes⟩
  · exact ⟨other, hother, .within hchild hexposes⟩

theorem exposedIn_self (e : Expr) : ExposedIn [e] e :=
  ⟨e, List.mem_singleton_self e, .self e⟩

end Expr

namespace Store

variable {env : FrameId} {exprs more : List Expr} {name : String} {item : Item}
  {store before middle after : Store}

theorem Gives.mono (h : store.Gives env exprs name item)
    (hsub : ∀ e ∈ exprs, ∃ other ∈ more, e = other ∨ e ∈ other.openChildren) :
    store.Gives env more name item := by
  rcases h with hdefines | ⟨hexposed, hname, hentry, hframe, hbinds⟩
  · refine .own ?_
    rcases hdefines with hexposed | ⟨value, hexposed⟩
    · exact .function (hexposed.mono hsub)
    · exact .variable value (hexposed.mono hsub)
  · exact .imported (hexposed.mono hsub) hname hentry hframe hbinds

theorem Gives.advances (h : store.Gives env exprs name item) (hadvances : store.Advances after) :
    after.Gives env exprs name item := by
  rcases h with hdefines | ⟨hexposed, hname, hentry, hframe, hbinds⟩
  · exact .own hdefines
  · obtain ⟨hkept, hsame⟩ := hadvances.kept _ _ hentry
    exact .imported hexposed hname hkept (hsame.trans hframe) hbinds

theorem registry_put : (store.put env name item).registry = store.registry := by
  cases item <;> rfl

theorem frame_put_of_ne {i : FrameId} (h : i ≠ env) :
    (store.put env name item).frames[i]? = store.frames[i]? := by
  cases item with
  | function function => rw [put, frame_setFunction, if_neg (Ne.symm h)]
  | value value => rw [put, frame_setVar, if_neg (Ne.symm h)]

theorem binds_put {frame : Frame} {other : String} {found : Item}
    (hframe : (store.put env name item).frames[env]? = some frame)
    (hbinds : frame.Binds other found) :
    other = name ∧ found = item ∨ ∃ old, store.frames[env]? = some old ∧ old.Binds other found := by
  cases item with
  | function function =>
      rw [put, frame_setFunction, if_pos rfl, Option.map_eq_some_iff] at hframe
      obtain ⟨old, hold, rfl⟩ := hframe
      cases found with
      | value value => exact .inr ⟨old, hold, hbinds⟩
      | function result =>
          rcases Bindings.get?_set_cases hbinds with ⟨hname, rfl⟩ | hbefore
          · exact .inl ⟨hname, rfl⟩
          · exact .inr ⟨old, hold, hbefore⟩
  | value value =>
      rw [put, frame_setVar, if_pos rfl, Option.map_eq_some_iff] at hframe
      obtain ⟨old, hold, rfl⟩ := hframe
      cases found with
      | function function => exact .inr ⟨old, hold, hbinds⟩
      | value result =>
          rcases Bindings.get?_set_cases hbinds with ⟨hname, rfl⟩ | hbefore
          · exact .inl ⟨hname, rfl⟩
          · exact .inr ⟨old, hold, hbefore⟩

namespace Gains

theorem mono (h : before.Gains env exprs after)
    (hsub : ∀ e ∈ exprs, ∃ other ∈ more, e = other ∨ e ∈ other.openChildren) :
    before.Gains env more after := by
  intro frame hframe name item hbinds
  rcases h frame hframe name item hbinds with hold | hgives
  · exact .inl hold
  · exact .inr (hgives.mono hsub)

theorem of_frame_eq (h : after.frames[env]? = before.frames[env]?) :
    before.Gains env exprs after := by
  intro frame hframe name item hbinds
  exact .inl ⟨frame, h ▸ hframe, hbinds⟩

theorem of_keeps (henv : env < before.frames.size) (h : before.Keeps after) :
    before.Gains env exprs after := by
  obtain ⟨frame, hframe⟩ := exists_frame henv
  exact .of_frame_eq (by rw [h.frame_eq env frame hframe, hframe])

theorem trans (first : before.Gains env exprs middle) (second : middle.Gains env exprs after)
    (hadvances : middle.Advances after) : before.Gains env exprs after := by
  intro frame hframe name item hbinds
  rcases second frame hframe name item hbinds with ⟨old, hold, hbound⟩ | hgives
  · rcases first old hold name item hbound with hbefore | hgives
    · exact .inl hbefore
    · exact .inr (hgives.advances hadvances)
  · exact .inr hgives

theorem put (h : (store.put env name item).Gives env exprs name item) :
    store.Gains env exprs (store.put env name item) := by
  intro frame hframe other found hbinds
  rcases binds_put hframe hbinds with ⟨rfl, rfl⟩ | hold
  · exact .inr h
  · exact .inl hold

end Gains

end Store

namespace Eval

variable {interpreter : Interpreter} {modules : Bindings Module} {stack : Nat} {env : FrameId}
  {exprs : List Expr} {store after : Store}

theorem bindExport_eq_ok {source symbol : String} {loaded : LoadedModule}
    (h : bindExport source loaded env symbol store = .ok () after) :
    ∃ frame item, store.frames[loaded.frame]? = some frame ∧ frame.Binds symbol item ∧
      after = store.put env symbol item := by
  rw [bindExport_apply] at h
  rcases hframe : store.frames[loaded.frame]? with _ | frame
  · simp only [hframe] at h
    cases h
  · simp only [hframe] at h
    rcases hfunction : frame.functions.get? symbol with _ | function
    · rcases hvalue : frame.vars.get? symbol with _ | value
      · simp only [hfunction, hvalue] at h
        split at h <;> cases h
      · simp only [hfunction, hvalue] at h
        cases h
        exact ⟨frame, .value value, rfl, hvalue, rfl⟩
    · simp only [hfunction] at h
      cases h
      exact ⟨frame, .function function, rfl, hfunction, rfl⟩

theorem binds_of_bindExports {source : String} {symbols : List String} {loaded : LoadedModule}
    (hne : loaded.frame ≠ env)
    (h : symbols.forM (bindExport source loaded env) store = .ok () after) :
    after.frames[loaded.frame]? = store.frames[loaded.frame]? ∧
      ∀ symbol ∈ symbols, ∃ frame item, store.frames[loaded.frame]? = some frame ∧
        frame.Binds symbol item := by
  induction symbols generalizing store with
  | nil =>
      cases h
      exact ⟨rfl, fun _ hsymbol => absurd hsymbol List.not_mem_nil⟩
  | cons symbol rest ih =>
      obtain ⟨_, middle, hfirst, hrest⟩ := bind_eq_ok.mp h
      obtain ⟨frame, item, hframe, hbinds, rfl⟩ := bindExport_eq_ok hfirst
      obtain ⟨hsame, hothers⟩ := ih hrest
      rw [Store.frame_put_of_ne hne] at hsame hothers
      refine ⟨hsame, List.forall_mem_cons.mpr ⟨⟨frame, item, hframe, hbinds⟩, hothers⟩⟩

theorem keeps_invoke (stack : Nat) (env : FrameId) (target : String) (args : List Json)
    (store : Store) :
    store.Keeps
      (finalStore (do apply (evaluate stack) (← function env target) args env) store) := by
  simp only [finalStore, bind_apply, function_apply]
  rcases hfunction : store.function? env target with _ | function
  · exact .refl store
  · rcases function with builtin | closure | value
    · simp only [apply, applyBuiltin_apply]
      rcases builtin.apply args with e | outcome
      · exact .refl store
      · exact ⟨.of_eq rfl, fun _ _ hframe => hframe⟩
    · exact keeps_applyClosure stack closure args env store
    · exact .refl store

theorem gains_bindExports {source : String} {symbols : List String} {loaded : LoadedModule}
    (hactive : interpreter.Active modules store env)
    (hloaded : store.registry.loaded.get? source = some loaded)
    (hexposed : ∃ all, Expr.ExposedIn exprs (.imports source all) ∧ ∀ name ∈ symbols, name ∈ all)
    (h : symbols.forM (bindExport source loaded env) store = .ok () after) :
    store.Gains env exprs after := by
  induction symbols generalizing store with
  | nil =>
      cases h
      exact .of_frame_eq rfl
  | cons symbol rest ih =>
      obtain ⟨_, middle, hfirst, hrest⟩ := bind_eq_ok.mp h
      have heffect : Effect env (fun _ => symbol :: rest) store _ :=
        effect_bindExport source loaded (fun _ => List.mem_cons_self) store
      have hmiddle := (hactive.of_ok heffect hfirst).1
      obtain ⟨frame, item, hframe, hbinds, rfl⟩ := bindExport_eq_ok hfirst
      obtain ⟨all, himports, hall⟩ := hexposed
      have hkept : (store.put env symbol item).registry.loaded.get? source = some loaded := by
        rw [Store.registry_put]
        exact hloaded
      have hgives : (store.put env symbol item).Gives env exprs symbol item := by
        refine .imported himports (hall symbol List.mem_cons_self) hkept ?_ hbinds
        rw [Store.frame_put_of_ne (hactive.apart source loaded hloaded)]
        exact hframe
      have hexports : Effect env (fun _ => rest) (store.put env symbol item) _ :=
        Effect.forM (fun name hname => effect_bindExport source loaded fun _ => hname) _
      have hadvances := (hmiddle.of_ok hexports hrest).2.toAdvances
      refine (Store.Gains.put hgives).trans (ih hmiddle hkept ?_ hrest) hadvances
      exact ⟨all, himports, fun name hname => hall name (List.mem_cons_of_mem _ hname)⟩

theorem gains_imports {source : String} {symbols : List String} {value : Json}
    (hactive : interpreter.Active modules store env)
    (h : evaluate (stack + 1) (.imports source symbols) env store = .ok value after) :
    store.Gains env [.imports source symbols] after := by
  obtain ⟨loaded, middle, hload, h⟩ := bind_eq_ok.mp h
  obtain ⟨_, final, hsymbols, h⟩ := bind_eq_ok.mp h
  cases h
  have hkeeps := keeps_loadModule stack env source store
  have hloaded := hactive.loaded_loadModule stack source
  rw [finalStore_of_ok hload] at hkeeps hloaded
  rw [hload] at hloaded
  have heffect : Effect env (fun _ => symbols) store _ :=
    effect_loadModule (evaluate_effect stack) source store
  obtain ⟨hmiddle, _⟩ := hactive.of_ok heffect hload
  have hexports : Effect env (fun _ => symbols) middle _ :=
    Effect.forM (fun name hname => effect_bindExport source loaded fun _ => hname) middle
  have hgains := gains_bindExports hmiddle hloaded
    ⟨symbols, Expr.exposedIn_self _, fun _ hname => hname⟩ hsymbols
  exact (Store.Gains.of_keeps hactive.lt_size hkeeps).trans hgains
    (hmiddle.of_ok hexports hsymbols).2.toAdvances

section Evaluate

variable (hself : ∀ {e env store value after}, interpreter.Active modules store env →
  evaluate stack e env store = .ok value after → store.Gains env [e] after)
include hself

theorem gains_runAll (hactive : interpreter.Active modules store env)
    (h : runAll (evaluate stack) env exprs store = .ok () after) : store.Gains env exprs after := by
  induction exprs generalizing store with
  | nil =>
      cases h
      exact .of_frame_eq rfl
  | cons first rest ih =>
      rw [runAll_cons_apply] at h
      cases hfirst : evaluate stack first env store with
      | error e middle =>
          rw [hfirst] at h
          cases h
      | ok value middle =>
          rw [hfirst] at h
          obtain ⟨hmiddle, _⟩ := hactive.evaluate_ok hfirst
          have hadvances := (hmiddle.runAll_ok h).2.toAdvances
          refine ((hself hactive hfirst).mono ?_).trans ((ih hmiddle h).mono ?_) hadvances
          · intro e he
            obtain rfl := List.mem_singleton.mp he
            exact ⟨e, List.mem_cons_self, .inl rfl⟩
          · intro e he
            exact ⟨e, List.mem_cons_of_mem _ he, .inl rfl⟩

theorem gains_step {e : Expr} {value : Json} (hactive : interpreter.Active modules store env)
    (h : evaluate (stack + 1) e env store = .ok value after) : store.Gains env [e] after := by
  have hchild {child : Expr} {value : Json} {store after : Store}
      (hmem : child ∈ e.openChildren) (hactive : interpreter.Active modules store env)
      (h : evaluate stack child env store = .ok value after) : store.Gains env [e] after := by
    refine (hself hactive h).mono fun other hother => ?_
    obtain rfl := List.mem_singleton.mp hother
    exact ⟨e, List.mem_singleton_self e, .inr hmem⟩
  have hchildren {exprs : List Expr} {store after : Store}
      (hsub : ∀ child ∈ exprs, child ∈ e.openChildren)
      (hactive : interpreter.Active modules store env)
      (h : runAll (evaluate stack) env exprs store = .ok () after) :
      store.Gains env [e] after := by
    refine (gains_runAll hself hactive h).mono fun other hother => ?_
    exact ⟨e, List.mem_singleton_self e, .inr (hsub other hother)⟩
  cases e with
  | literal scalar =>
      cases h
      exact .of_frame_eq rfl
  | ref name =>
      change var env name store = .ok value after at h
      rw [var_apply] at h
      split at h
      · cases h
        exact .of_frame_eq rfl
      · cases h
  | binding name bound =>
      obtain ⟨result, middle, hbound, h⟩ := bind_eq_ok.mp h
      cases h
      obtain ⟨hmiddle, _⟩ := hactive.evaluate_ok hbound
      have hput : middle.Gains env [.binding name bound] (middle.put env name (.value value)) :=
        .put (.own (.variable value (Expr.exposedIn_self _)))
      have hassigned : Effect env (fun _ => [name]) middle (middle.setVar env name value) :=
        .assigned value (List.mem_singleton_self name)
      exact (hchild (List.mem_singleton_self bound) hactive hbound).trans hput
        (hmiddle.effect hassigned).2.toAdvances
  | sequence body =>
      exact hchildren (fun _ hmem => hmem) hactive (runAll_of_foldlM h)
  | conditional condition whenTrue whenFalse =>
      obtain ⟨tested, middle, hcondition, h⟩ := bind_eq_ok.mp h
      obtain ⟨hmiddle, _⟩ := hactive.evaluate_ok hcondition
      have hfirst := hchild List.mem_cons_self hactive hcondition
      rcases hbranch : if tested.truthy then whenTrue else whenFalse with _ | branch
      · simp only [hbranch] at h
        cases h
        exact hfirst
      · simp only [hbranch] at h
        refine hfirst.trans (hchild ?_ hmiddle h) (hmiddle.evaluate_ok h).2.toAdvances
        refine List.mem_cons_of_mem _ (List.mem_append.mpr ?_)
        split at hbranch
        · exact .inl (Option.mem_toList.mpr hbranch)
        · exact .inr (Option.mem_toList.mpr hbranch)
  | function name params body =>
      cases h
      have hput : store.Gains env [.function name params body]
          (store.put env name (.function (.user { name, params, body, frame := env }))) :=
        .put (.own (.function (Expr.exposedIn_self _)))
      exact hput
  | macroDef name params body => cases h
  | imports source symbols => exact gains_imports hactive h
  | call target args =>
      obtain ⟨values, middle, hvalues, h⟩ := bind_eq_ok.mp h
      have hrun := runAll_of_mapM hvalues
      obtain ⟨hmiddle, _⟩ := hactive.runAll_ok hrun
      have hinvoke : Effect env (fun _ => []) middle _ :=
        effect_invoke (evaluate_effect stack) target values middle
      have hkeeps := keeps_invoke stack env target values middle
      rw [finalStore_of_ok h] at hkeeps
      exact (hchildren (fun _ hmem => hmem) hactive hrun).trans (.of_keeps hmiddle.lt_size hkeeps)
        (hmiddle.of_ok hinvoke h).2.toAdvances
  | record target fields => cases h

end Evaluate

/-- What a frame holds after an evaluation in it that has succeeded was there before or is given by
the expression. -/
theorem gains_evaluate {stack : Nat} {e : Expr} {env : FrameId} {value : Json}
    {store after : Store} (hactive : interpreter.Active modules store env)
    (h : evaluate stack e env store = .ok value after) : store.Gains env [e] after := by
  induction stack generalizing e env store value after with
  | zero => cases h
  | succ stack ih => exact gains_step ih hactive h

end Eval

namespace Interpreter

/-- The expressions that a declared module is expanded to. -/
def Expands (interpreter : Interpreter) (modules : Bindings Module) (source : String)
    (exports : List Expr) : Prop :=
  ∃ declared stack macros, modules.get? source = some declared ∧
    Eval.moduleExports stack interpreter.settings declared = .ok (macros, exports)

/-- How a loaded module comes to export a name: it defines the name itself, or it imports it from
another module that does. -/
inductive Exports (interpreter : Interpreter) (modules : Bindings Module) (store : Store) :
    String → String → Item → Prop
  | own {source entry exports name item} : store.registry.loaded.get? source = some entry →
      interpreter.Expands modules source exports → Expr.Defines exports entry.frame name item →
      Exports interpreter modules store source name item
  | imported {source exports other symbols name item} :
      interpreter.Expands modules source exports →
      Expr.ExposedIn exports (.imports other symbols) → name ∈ symbols →
      Exports interpreter modules store other name item →
      Exports interpreter modules store source name item

variable {interpreter : Interpreter} {modules : Bindings Module} {store : Store} {env : FrameId}
  {source name : String} {item : Item}

namespace Exports

theorem advances (h : interpreter.Exports modules store source name item) {after : Store}
    (hadvances : store.Advances after) : interpreter.Exports modules after source name item := by
  induction h with
  | own hentry hexpands hdefines => exact .own (hadvances.kept _ _ hentry).1 hexpands hdefines
  | imported hexpands hexposed hname _ ih => exact .imported hexpands hexposed hname ih

theorem exists_defines (h : interpreter.Exports modules store source name item) :
    ∃ definer entry exports, store.registry.loaded.get? definer = some entry ∧
      interpreter.Expands modules definer exports ∧
      Expr.Defines exports entry.frame name item := by
  induction h with
  | own hentry hexpands hdefines => exact ⟨_, _, _, hentry, hexpands, hdefines⟩
  | imported _ _ _ _ ih => exact ih

theorem ne_builtin (h : interpreter.Exports modules store source name item) (builtin : Builtin) :
    item ≠ .function (.builtin builtin) := by
  obtain ⟨_, _, _, _, _, hdefines⟩ := h.exists_defines
  rintro rfl
  cases hdefines

end Exports

theorem Traced.gives (h : interpreter.Traced modules store env) {entry : LoadedModule}
    (hentry : store.registry.loaded.get? source = some entry) :
    ∃ exports frame final, interpreter.Expands modules source exports ∧
      store.frames[entry.frame]? = some frame ∧ interpreter.Traced modules final entry.frame ∧
      final.Advances store ∧ final.registry.loaded.get? source = none ∧
      ∀ name item, frame.Binds name item → final.Gives entry.frame exports name item := by
  obtain @⟨before, importer, stack, _, opening, final, _, hactive, horigin, hopen, hrun, hkept⟩ :=
    h.origin source entry hentry
  have hopened : interpreter.Traced modules opening.store opening.frame :=
    Traced.opening ⟨hactive, horigin⟩ hopen
  have hfinal : interpreter.Traced modules final opening.frame :=
    hopened.of_ok (Eval.effect_runAll (Eval.evaluate_effect stack) _ _) hrun
  obtain ⟨_, hevolves⟩ := hopened.active.runAll_ok hrun
  have hfinish := hactive.advances_finish hopen hfinal.active hevolves
  have hloaded : (opening.finish final).registry.loaded.get? source = some opening.loaded := by
    rw [hactive.registry_finish hopen hfinal.active hevolves]
    exact Bindings.get?_set_self _ _ _
  have hgains := Eval.gains_runAll Eval.gains_evaluate hopened.active hrun
  obtain ⟨frame, hframe⟩ := Store.exists_frame hfinal.active.lt_size
  have hnot := hactive.not_loaded_within hopen hfinal.active hevolves
  obtain ⟨declared, macros, exports, _, hdeclared, _, hexports, rfl⟩ :=
    hactive.sound.findModule_eq_opening hactive.lt_size hopen
  refine ⟨exports, frame, final, ⟨declared, stack, macros, hdeclared, hexports⟩,
    (hkept.kept source _ hloaded).2.trans hframe, hfinal, hfinish.trans hkept, hnot, ?_⟩
  intro name item hbinds
  rcases hgains frame hframe name item hbinds with ⟨old, hold, hbound⟩ | hgives
  · rw [Store.openModule_frame, Store.frame_openModule_inner] at hold
    cases hold
    cases item <;> cases hbound
  · exact hgives

theorem loaded_length_lt {final : Store} {entry : LoadedModule} (hadvances : final.Advances store)
    (hnot : final.registry.loaded.get? source = none)
    (hentry : store.registry.loaded.get? source = some entry) :
    final.registry.loaded.names.length < store.registry.loaded.names.length := by
  refine Nat.lt_of_le_of_ne hadvances.names_kept.length_le fun hlength => ?_
  have hnames := hadvances.names_kept.eq_of_length hlength
  have hmem := Bindings.mem_names_of_get? hentry
  rw [← hnames, ← Bindings.get?_isSome_iff, hnot] at hmem
  cases hmem

theorem Traced.exports (h : interpreter.Traced modules store env) {entry : LoadedModule}
    (hentry : store.registry.loaded.get? source = some entry) :
    ∃ frame exports, store.frames[entry.frame]? = some frame ∧
      interpreter.Expands modules source exports ∧
      ∀ name item, frame.Binds name item →
        interpreter.Exports modules store source name item ∧
        (Expr.Defines exports entry.frame name item ∨
          ∃ other symbols, Expr.ExposedIn exports (.imports other symbols) ∧ name ∈ symbols) := by
  -- What a module imports was loaded before the module was, when fewer modules were.
  induction hcount : store.registry.loaded.names.length using Nat.strongRecOn generalizing store env
    source entry with
  | _ count ih =>
      obtain ⟨exports, frame, final, hexpands, hframe, hfinal, hadvances, hnot, hgives⟩ :=
        h.gives hentry
      refine ⟨frame, exports, hframe, hexpands, fun name item hbinds => ?_⟩
      have hlt := loaded_length_lt hadvances hnot hentry
      rcases hgives name item hbinds with hdefines |
        @⟨other, symbols, again, source, _, hexposed, hname, hagain, hsource, hbound⟩
      · exact ⟨.own hentry hexpands hdefines, .inl hdefines⟩
      · obtain ⟨found, _, hfound, _, hall⟩ := ih _ (hcount ▸ hlt) hfinal hagain rfl
        obtain rfl : found = source := Option.some.inj (hfound.symm.trans hsource)
        have hexports := ((hall name item hbound).1).advances hadvances
        exact ⟨.imported hexpands hexposed hname hexports, .inr ⟨other, symbols, hexposed, hname⟩⟩

theorem Traced.imports (h : interpreter.Traced modules store env) {stack : Nat}
    {symbols : List String} {value : Json} {final : Store}
    (hvalue : Eval.evaluate (stack + 1) (.imports source symbols) env store = .ok value final) :
    ∀ symbol ∈ symbols, ∃ item, interpreter.Exports modules final source symbol item := by
  obtain ⟨loaded, middle, hload, hrest⟩ := Eval.bind_eq_ok.mp hvalue
  obtain ⟨_, after, hsymbols, hlast⟩ := Eval.bind_eq_ok.mp hrest
  cases hlast
  have hloadEffect : Effect env (fun _ => symbols) store _ :=
    Eval.effect_loadModule (Eval.evaluate_effect stack) source store
  have hmiddle := h.of_ok hloadEffect hload
  have hexportEffect : Effect env (fun _ => symbols) middle _ :=
    Effect.forM (fun name hname => Eval.effect_bindExport source loaded fun _ => hname) middle
  have hfinal := hmiddle.of_ok hexportEffect hsymbols
  have hadvances := (hmiddle.active.of_ok hexportEffect hsymbols).2.toAdvances
  have hloaded := h.active.loaded_loadModule stack source
  rw [Eval.finalStore_of_ok hload, hload] at hloaded
  obtain ⟨hsame, hbound⟩ :=
    Eval.binds_of_bindExports (hmiddle.active.apart source loaded hloaded) hsymbols
  obtain ⟨frame, _, hframe, _, hall⟩ := hfinal.exports (hadvances.kept _ _ hloaded).1
  intro symbol hsymbol
  obtain ⟨found, item, hfound, hbinds⟩ := hbound symbol hsymbol
  obtain rfl : found = frame := Option.some.inj ((hsame.trans hfound).symm.trans hframe)
  exact ⟨item, (hall symbol item hbinds).1⟩

/-- Throughout a session, all that the frame of a loaded module holds goes back to the definition of
a function or a variable outside the bodies of functions: in the module itself, unless the name is
among the symbols of an import there, and then in a module that it is imported from. So no module
exports a builtin, and an import succeeds only for names that are exported in this way. -/
theorem exports_originate_in_definitions (interpreter : Interpreter) :
    (∀ modules store source entry, interpreter.Reachable modules store →
      store.registry.loaded.get? source = some entry →
      ∃ frame exports, store.frames[entry.frame]? = some frame ∧
        interpreter.Expands modules source exports ∧
        ∀ name item, frame.Binds name item →
          interpreter.Exports modules store source name item ∧
          (∀ builtin, item ≠ .function (.builtin builtin)) ∧
          (Expr.Defines exports entry.frame name item ∨
            ∃ other symbols, Expr.ExposedIn exports (.imports other symbols) ∧ name ∈ symbols)) ∧
    ∀ macros requests request pending left source symbols frame store value final,
      interpreter.Moment (interpreter.after (interpreter.initial macros) requests) request pending
        (left + 1) ⟨.imports source symbols, frame, store⟩ →
      Eval.evaluate (left + 1) (.imports source symbols) frame store = .ok value final →
      ∀ symbol ∈ symbols, ∃ item,
        interpreter.Exports (interpreter.declared (requests ++ [request])) final source symbol
          item ∧
        ∀ builtin, item ≠ .function (.builtin builtin) := by
  constructor
  · intro modules store source entry hreachable hentry
    obtain ⟨_, env, htraced⟩ := (invariant_traced interpreter).reachable hreachable
    obtain ⟨frame, exports, hframe, hexpands, hall⟩ := htraced.exports hentry
    refine ⟨frame, exports, hframe, hexpands, fun name item hbinds => ?_⟩
    obtain ⟨hexports, hdefines⟩ := hall name item hbinds
    exact ⟨hexports, hexports.ne_builtin, hdefines⟩
  · intro macros requests request pending left source symbols frame store value final hmoment
      hvalue symbol hsymbol
    obtain ⟨item, hexports⟩ :=
      ((invariant_traced interpreter).moment hmoment).imports hvalue symbol hsymbol
    exact ⟨item, hexports, hexports.ne_builtin⟩

/-- A program that imports `f` from the module `b`, which imports it from the module `a`. -/
def reexport : Json :=
  .obj [("jexl_version", .str "v0.1"), ("name", .str "test"),
    ("modules", .obj
      [("a", .obj [("exports", .arr
        [.obj [("function", .obj [("name", .str "f"), ("params", .arr []), ("body", .null)])]])]),
       ("b", .obj [("exports", .arr
        [.obj [("import", .obj [("module", .str "a"), ("symbols", .arr [.str "f"])])]])])]),
    ("program", .arr
      [.obj [("import", .obj [("module", .str "b"), ("symbols", .arr [.str "f"])])]])]

/-- After the program the frame of `b` holds `f` and nothing else. -/
theorem frame_reexport :
    let interpreter : Interpreter := { maxCallDepth := 100 }
    let store := (interpreter.after (interpreter.initial { maxDepth := 100 }) [.run reexport]).store
    ∃ entry frame function, store.registry.loaded.get? "b" = some entry ∧
      store.frames[entry.frame]? = some frame ∧ frame.functions.get? "f" = some function ∧
      frame.functions.names = ["f"] ∧ frame.vars.names = [] := by
  intro interpreter store
  have hloaded : (store.registry.loaded.get? "b").map LoadedModule.frame = some 2 := by
    decide +kernel
  have hnames : (store.frames[2]?.map fun frame => (frame.vars.names, frame.functions.names)) =
      some ([], ["f"]) := by
    decide +kernel
  obtain ⟨entry, hentry, htwo⟩ := Option.map_eq_some_iff.mp hloaded
  obtain ⟨frame, hframe, hpair⟩ := Option.map_eq_some_iff.mp hnames
  obtain ⟨hvars, hfunctions⟩ := Prod.mk.inj hpair
  have hname : "f" ∈ frame.functions.names := hfunctions ▸ List.mem_singleton_self "f"
  obtain ⟨function, hfunction⟩ :=
    Option.isSome_iff_exists.mp (Bindings.get?_isSome_iff.mpr hname)
  exact ⟨entry, frame, function, hentry, htwo ▸ hframe, hfunction, hfunctions, hvars⟩

/-- The function that `b` exports goes back to the definition in `a`, and it is there when an import
from `b` has succeeded. -/
theorem exports_originate_in_definitions_reexport :
    let interpreter : Interpreter := { maxCallDepth := 100 }
    let modules := interpreter.declared [.run reexport]
    let store := (interpreter.after (interpreter.initial { maxDepth := 100 }) [.run reexport]).store
    (∃ function, interpreter.Exports modules store "b" "f" (.function function)) ∧
      ∃ value final item, Eval.evaluate 1000 (.imports "b" ["f"]) 0
          (interpreter.freshStore modules) = .ok value final ∧
        interpreter.Exports modules final "b" "f" item := by
  intro interpreter modules store
  obtain ⟨hloaded, himports⟩ := exports_originate_in_definitions interpreter
  constructor
  · obtain ⟨entry, found, function, hentry, hfound, hfunction, _, _⟩ := frame_reexport
    obtain ⟨frame, exports, hframe, _, hall⟩ :=
      hloaded modules store "b" entry (.rest { maxDepth := 100 } [.run reexport]) hentry
    obtain rfl : found = frame := Option.some.inj (hfound.symm.trans hframe)
    exact ⟨function, (hall "f" (.function function) hfunction).1⟩
  · have hstarts : interpreter.Starts (interpreter.initial { maxDepth := 100 }) (.run reexport)
        ⟨.imports "b" ["f"], 0, interpreter.freshStore modules⟩ := .run rfl rfl rfl rfl .here
    obtain ⟨value, final, hvalue⟩ : ∃ value final, Eval.evaluate 1000 (.imports "b" ["f"]) 0
        (interpreter.freshStore modules) = .ok value final := by
      have hsome : (EStateM.run' (fun _ => Eval.evaluate 1000 (.imports "b" ["f"]) 0
          (interpreter.freshStore modules)) store).isSome := by
        decide +kernel
      rcases hresult : Eval.evaluate 1000 (.imports "b" ["f"]) 0
        (interpreter.freshStore modules) with ⟨value, final⟩ | ⟨e, final⟩
      · exact ⟨value, final, rfl⟩
      · rw [hresult] at hsome
        cases hsome
    obtain ⟨item, hexports, _⟩ := himports { maxDepth := 100 } [] (.run reexport) [] 999 "b" ["f"] 0
      _ value final ⟨_, hstarts, .start⟩ hvalue "f" (List.mem_singleton_self "f")
    exact ⟨value, final, item, hvalue, hexports⟩

/-- So a module exports a function that it does not define. -/
theorem reexport_without_definition :
    let interpreter : Interpreter := { maxCallDepth := 100 }
    let store := (interpreter.after (interpreter.initial { maxDepth := 100 }) [.run reexport]).store
    ∃ entry frame function, store.registry.loaded.get? "b" = some entry ∧
      store.frames[entry.frame]? = some frame ∧ frame.functions.get? "f" = some function ∧
      interpreter.Expands (interpreter.declared [.run reexport]) "b" [.imports "a" ["f"]] ∧
      ∀ params body, ¬ Expr.ExposedIn [.imports "a" ["f"]] (.function "f" params body) := by
  intro interpreter store
  obtain ⟨entry, frame, function, hentry, hframe, hfunction, _, _⟩ := frame_reexport
  refine ⟨entry, frame, function, hentry, hframe, hfunction, ?_, ?_⟩
  · exact ⟨{ exports := [.imports "a" ["f"]] }, 1000, { maxDepth := 100 }, rfl, rfl⟩
  · rintro params body ⟨e, he, hexposes⟩
    obtain rfl := List.mem_singleton.mp he
    cases hexposes with
    | within hchild _ => cases hchild

end Interpreter

end JsonExpr
