import JsonExpr.Proofs.Registry

namespace JsonExpr.Interpreter

/-- How a module came to be loaded: it was opened from its declaration in an earlier store, its
exports were evaluated, and it has been kept since. -/
inductive Origin (interpreter : Interpreter) (modules : Bindings Module) :
    Store → String → LoadedModule → Prop
  | intro {before env stack name opening final store} : interpreter.Active modules before env →
      (∀ other entry, before.registry.loaded.get? other = some entry →
        Origin interpreter modules before other entry) →
      before.findModule stack env name = .ok (.inr opening) →
      Eval.runAll (Eval.evaluate stack) opening.frame opening.exports opening.store =
        .ok () final →
      (opening.finish final).Advances store →
      Origin interpreter modules store name opening.loaded

/-- A store in which evaluation goes on in the frame and every loaded module has its origin. -/
structure Traced (interpreter : Interpreter) (modules : Bindings Module) (store : Store)
    (env : FrameId) : Prop where
  active : interpreter.Active modules store env
  origin : ∀ name entry, store.registry.loaded.get? name = some entry →
    interpreter.Origin modules store name entry

variable {interpreter : Interpreter} {modules : Bindings Module} {store : Store} {env : FrameId}

theorem Origin.advances {name : String} {entry : LoadedModule} {after : Store}
    (h : interpreter.Origin modules store name entry) (hadvances : store.Advances after) :
    interpreter.Origin modules after name entry := by
  obtain ⟨hactive, horigin, hopen, hrun, hkept⟩ := h
  exact ⟨hactive, horigin, hopen, hrun, hkept.trans hadvances⟩

namespace Traced

theorem of_loaded_eq (h : interpreter.Traced modules store env) {after : Store} {other : FrameId}
    (hactive : interpreter.Active modules after other) (hadvances : store.Advances after)
    (hloaded : after.registry.loaded = store.registry.loaded) :
    interpreter.Traced modules after other where
  active := hactive
  origin name entry hentry := (h.origin name entry (hloaded ▸ hentry)).advances hadvances

theorem enter (h : interpreter.Traced modules store env) {target : String} {closure : Closure}
    {args : List Json} {callee : FrameId} {entered : Store}
    (hfunction : store.function? env target = some (.user closure))
    (henter : Eval.enter closure args env store = .ok callee entered) :
    interpreter.Traced modules entered callee := by
  obtain ⟨hentered, hevolves⟩ := h.active.enter hfunction henter
  refine h.of_loaded_eq hentered hevolves.toAdvances ?_
  obtain ⟨_, _, _, _, rfl⟩ := Eval.enter_eq_ok henter
  rfl

theorem opening (h : interpreter.Traced modules store env) {stack : Nat} {source : String}
    {opening : Opening} (hopen : store.findModule stack env source = .ok (.inr opening)) :
    interpreter.Traced modules opening.store opening.frame := by
  obtain ⟨hopening, hadvances, hregistry⟩ := h.active.opening hopen
  exact h.of_loaded_eq hopening hadvances (by rw [hregistry]; rfl)

theorem finish (h : interpreter.Traced modules store env) {stack : Nat} {source : String}
    {opening : Opening} {final : Store}
    (hopen : store.findModule stack env source = .ok (.inr opening))
    (hrun : Eval.runAll (Eval.evaluate stack) opening.frame opening.exports opening.store =
      .ok () final)
    (hfinal : interpreter.Traced modules final opening.frame) :
    interpreter.Traced modules (opening.finish final) env := by
  obtain ⟨_, hinner⟩ := (h.active.opening hopen).1.runAll_ok hrun
  obtain ⟨hsound, hevolves⟩ := h.active.finish hopen hfinal.active hinner
  refine ⟨h.active.of_evolves hsound hevolves, fun name entry hentry => ?_⟩
  rw [h.active.registry_finish hopen hfinal.active hinner] at hentry
  rcases Bindings.get?_set_cases hentry with ⟨rfl, rfl⟩ | hbefore
  · exact ⟨h.active, h.origin, hopen, hrun, .refl _⟩
  · exact (hfinal.origin name entry hbefore).advances
      (h.active.advances_finish hopen hfinal.active hinner)

theorem effect {may : Namespace → List String} {before after : Store}
    (h : interpreter.Traced modules before env) (heffect : Effect env may before after) :
    interpreter.Traced modules after env := by
  -- Only the end of a load adds a module; all that leaves the realms alone is settled at once.
  have hkept {env : FrameId} {may : Namespace → List String} {before after : Store}
      (h : interpreter.Traced modules before env) (heffect : Effect env may before after)
      (hrealms : after.realms = before.realms) : interpreter.Traced modules after env := by
    obtain ⟨hafter, hevolves⟩ := h.active.effect heffect
    exact h.of_loaded_eq hafter hevolves.toAdvances (by rw [Store.registry_of_realms_eq hrealms])
  induction heffect with
  | none => exact h
  | next _ _ ihFirst ihSecond => exact ihSecond (ihFirst h)
  | @printed env may store text =>
      have heffect : Effect env may store { store with output := store.output ++ text } :=
        .printed text
      exact hkept h heffect rfl
  | assigned value hname => exact hkept h (.assigned value hname) rfl
  | defined params body hname => exact hkept h (.defined params body hname) rfl
  | imported hsymbol hframe hfunction => exact hkept h (.imported hsymbol hframe hfunction) rfl
  | call hfunction henter heffect ih =>
      obtain ⟨hentered, hfirst⟩ := h.active.enter hfunction henter
      obtain ⟨hcalled, hsecond⟩ := hentered.effect heffect
      exact ⟨h.active.of_evolves hcalled.sound (hfirst.trans hsecond),
        (ih (h.enter hfunction henter)).origin⟩
  | @failedLoad _ _ _ _ _ after opening hopen heffect ih =>
      have hafter := ih (h.opening hopen)
      obtain ⟨_, hinner⟩ := (h.active.opening hopen).1.effect heffect
      obtain ⟨hsound, hevolves⟩ := h.active.close hopen hafter.active hinner
      exact hafter.of_loaded_eq (h.active.of_evolves hsound hevolves) (.close opening after)
        (Store.loaded_close opening after)
  | load hopen hrun _ ih => exact h.finish hopen hrun (ih (h.opening hopen))

theorem of_ok {α : Type} (h : interpreter.Traced modules store env) {work : Eval α} {value : α}
    {may : Namespace → List String} {after : Store}
    (heffect : Effect env may store (Eval.finalStore work store))
    (hwork : work store = .ok value after) : interpreter.Traced modules after env := by
  rw [Eval.finalStore_of_ok hwork] at heffect
  exact h.effect heffect

theorem exists_base (h : interpreter.Traced modules store env) {name : String}
    {entry : LoadedModule} (hentry : store.registry.loaded.get? name = some entry) :
    ∃ frame base, store.frames[entry.frame]? = some frame ∧ frame.link = .inside base ∧
      base < entry.frame ∧ base ≠ 0 ∧ store.frames[base]? = some interpreter.baseFrame := by
  obtain @⟨before, _, _, _, opening, final, _, hactive, _, hopen, hrun, hkept⟩ :=
    h.origin name entry hentry
  obtain ⟨hfinal, hinner⟩ := (hactive.opening hopen).1.runAll_ok hrun
  have hadvances : opening.store.Advances store :=
    (hinner.toAdvances.trans (hactive.advances_finish hopen hfinal hinner)).trans hkept
  have hsize : before.frames.size ≠ 0 := Nat.ne_of_gt (Nat.zero_lt_of_lt hactive.lt_size)
  obtain ⟨_, _, _, _, _, _, _, rfl⟩ := hactive.sound.findModule_eq_opening hactive.lt_size hopen
  obtain ⟨frame, hframe, hlink⟩ := hadvances.link_eq _ _ Store.frame_openModule_inner
  obtain ⟨root, hroot, hrootLink⟩ := hadvances.link_eq _ _ Store.frame_openModule_base
  have hbase := h.active.sound.base before.frames.size root hroot hrootLink
  obtain rfl := hbase.resolve_left hsize
  refine ⟨frame, before.frames.size, ?_, hlink, ?_, hsize, hroot⟩
  · rw [Opening.loaded, Store.openModule_frame]
    exact hframe
  · rw [Opening.loaded, Store.openModule_frame]
    exact Nat.lt_succ_self _

end Traced

/-- Throughout a session every loaded module has its origin. -/
theorem invariant_traced (interpreter : Interpreter) :
    interpreter.Invariant fun modules _ => interpreter.Traced modules where
  fresh modules := ⟨interpreter.active_freshStore modules, fun _ _ hentry => by cases hentry⟩
  output text h := h.of_loaded_eq (h.active.withOutput text) (.withOutput _ text) rfl
  effect h heffect := h.effect heffect
  enter h hfunction henter := h.enter hfunction henter
  opening h hopen := h.opening hopen

end JsonExpr.Interpreter
