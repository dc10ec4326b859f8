import JsonExpr.Proofs.Bindings
import JsonExpr.Proofs.Effect
import JsonExpr.Proofs.Store

namespace JsonExpr

/-- A frame in which some names of `may` have been bound. -/
structure Frame.Grows (may : Namespace → List String) (before after : Frame) : Prop where
  link : after.link = before.link
  depth : after.depth = before.depth
  maxCallDepth : after.maxCallDepth = before.maxCallDepth
  vars : before.vars.Grows (may .vars) after.vars
  functions : before.functions.Grows (may .functions) after.functions

namespace Frame.Grows

variable {may : Namespace → List String} {before middle after : Frame}

theorem refl (may : Namespace → List String) (frame : Frame) : Grows may frame frame :=
  ⟨rfl, rfl, rfl, .refl _ _, .refl _ _⟩

theorem trans (first : Grows may before middle) (second : Grows may middle after) :
    Grows may before after where
  link := second.link.trans first.link
  depth := second.depth.trans first.depth
  maxCallDepth := second.maxCallDepth.trans first.maxCallDepth
  vars := first.vars.trans second.vars
  functions := first.functions.trans second.functions

end Frame.Grows

namespace Store

/-- The same realms, but for the modules that are loaded in them. -/
structure SameRealms (before after : Store) : Prop where
  size_eq : after.realms.size = before.realms.size
  realm_eq : ∀ (i : RealmId) (realm : Realm), before.realms[i]? = some realm →
    ∃ loaded, after.realms[i]? = some { realm with loaded }

/-- Every frame is kept as it is, and of the realms all but the loaded modules. -/
structure Keeps (before after : Store) : Prop extends SameRealms before after where
  frame_eq : ∀ (i : FrameId) (frame : Frame),
    before.frames[i]? = some frame → after.frames[i]? = some frame

/-- No frame but `env` has changed, and in that one some names of `may` have been bound. -/
structure Framed (env : FrameId) (may : Namespace → List String) (before after : Store) :
    Prop extends SameRealms before after where
  others : ∀ (i : FrameId) (frame : Frame), i ≠ env →
    before.frames[i]? = some frame → after.frames[i]? = some frame
  own : ∀ frame, before.frames[env]? = some frame →
    ∃ later, after.frames[env]? = some later ∧ frame.Grows may later

variable {env : FrameId} {may : Namespace → List String} {before middle after : Store}

theorem SameRealms.trans (first : SameRealms before middle) (second : SameRealms middle after) :
    SameRealms before after where
  size_eq := second.size_eq.trans first.size_eq
  realm_eq i realm h := by
    obtain ⟨loaded, hmiddle⟩ := first.realm_eq i realm h
    obtain ⟨later, hafter⟩ := second.realm_eq i _ hmiddle
    exact ⟨later, hafter⟩

theorem SameRealms.of_eq (h : after.realms = before.realms) : SameRealms before after where
  size_eq := by rw [h]
  realm_eq i realm hrealm := ⟨realm.loaded, by rw [h]; exact hrealm⟩

theorem Keeps.refl (store : Store) : Keeps store store :=
  ⟨.of_eq rfl, fun _ _ h => h⟩

theorem Keeps.framed (h : Keeps before after) : Framed env may before after where
  toSameRealms := h.toSameRealms
  others i frame _ hframe := h.frame_eq i frame hframe
  own frame hframe := ⟨frame, h.frame_eq env frame hframe, .refl may frame⟩

theorem Framed.trans (first : Framed env may before middle) (second : Framed env may middle after) :
    Framed env may before after where
  toSameRealms := first.toSameRealms.trans second.toSameRealms
  others i frame hne h := second.others i frame hne (first.others i frame hne h)
  own frame h := by
    obtain ⟨later, hmiddle, hgrows⟩ := first.own frame h
    obtain ⟨last, hafter, hmore⟩ := second.own later hmiddle
    exact ⟨last, hafter, hgrows.trans hmore⟩

theorem keeps_addFrame (store : Store) (frame : Frame) : Keeps store (store.addFrame frame) where
  toSameRealms := .of_eq rfl
  frame_eq _ _ h := frame_addFrame_of_some h

theorem Keeps.of_fresh (first : Keeps before middle) (second : Framed env may middle after)
    (hfresh : before.frames.size ≤ env) : Keeps before after where
  toSameRealms := first.toSameRealms.trans second.toSameRealms
  frame_eq i frame h := by
    have hne : i ≠ env := Nat.ne_of_lt (Nat.lt_of_lt_of_le (lt_size_of_frame h) hfresh)
    exact second.others i frame hne (first.frame_eq i frame h)

theorem framed_setVar (store : Store) {name : String} (value : Json)
    (h : name ∈ may .vars) : Framed env may store (store.setVar env name value) where
  toSameRealms := .of_eq rfl
  others i frame hne hframe := by
    rw [frame_setVar, if_neg (Ne.symm hne)]
    exact hframe
  own frame hframe := by
    refine ⟨{ frame with vars := frame.vars.set name value }, ?_, rfl, rfl, rfl, ?_, .refl _ _⟩
    · simp [frame_setVar, hframe]
    · exact .set frame.vars value h

theorem framed_setFunction (store : Store) {name : String} (function : Function)
    (h : name ∈ may .functions) :
    Framed env may store (store.setFunction env name function) where
  toSameRealms := .of_eq rfl
  others i frame hne hframe := by
    rw [frame_setFunction, if_neg (Ne.symm hne)]
    exact hframe
  own frame hframe := by
    refine ⟨{ frame with functions := frame.functions.set name function }, ?_, rfl, rfl, rfl,
      .refl _ _, ?_⟩
    · simp [frame_setFunction, hframe]
    · exact .set frame.functions function h

theorem keeps_enter {closure : Closure} {args : List Json} {caller callee : FrameId}
    {store entered : Store} (h : Eval.enter closure args caller store = .ok callee entered) :
    Keeps store entered ∧ callee = store.frames.size := by
  obtain ⟨_, vars, _, hcallee, rfl⟩ := Eval.enter_eq_ok h
  exact ⟨keeps_addFrame store _, hcallee⟩

theorem keeps_close {stack : Nat} {importer : FrameId} {source : String} {opening : Opening}
    {store final : Store} (hopen : store.findModule stack importer source = .ok (.inr opening))
    (h : Framed opening.frame may opening.store final) :
    Keeps store (opening.close final) := by
  obtain ⟨id, realm, declared, macros, exports, _, hrealm, _, _, hloading, _, rfl⟩ :=
    findModule_eq_opening hopen
  refine ⟨⟨?_, ?_⟩, ?_⟩
  · rw [Opening.close, size_modifyRealm, h.size_eq]
    exact size_modifyRealm _ id _
  · intro i found hfound
    by_cases hid : id = i
    · subst hid
      obtain rfl : realm = found := Option.some.inj (hrealm.symm.trans hfound)
      obtain ⟨loaded, hfinal⟩ := h.realm_eq id _ (realm_openModule_self hrealm)
      refine ⟨loaded, ?_⟩
      refine (realm_modifyRealm _ id id _).trans ?_
      rw [if_pos rfl, hfinal, Option.map_some]
      exact congrArg some (stopLoading_startLoading hloading loaded)
    · obtain ⟨loaded, hfinal⟩ := h.realm_eq i _ ((realm_openModule_of_ne hid).trans hfound)
      refine ⟨loaded, ?_⟩
      refine (realm_modifyRealm _ id i _).trans ?_
      rw [if_neg hid, hfinal]
  · intro i frame hframe
    apply h.others i frame
    · rw [openModule_frame]
      exact Nat.ne_of_lt (Nat.lt_succ_of_lt (lt_size_of_frame hframe))
    · exact frame_openModule_of_some hframe

theorem SameRealms.setLoaded (store : Store) (id : RealmId) (source : String)
    (loaded : LoadedModule) :
    SameRealms store (store.modifyRealm id fun r =>
      { r with loaded := r.loaded.set source loaded }) where
  size_eq := size_modifyRealm store id _
  realm_eq i realm h := by
    rw [realm_modifyRealm, h]
    by_cases hid : id = i
    · exact ⟨realm.loaded.set source loaded, by rw [if_pos hid]; rfl⟩
    · exact ⟨realm.loaded, by rw [if_neg hid]⟩

theorem keeps_finish {stack : Nat} {importer : FrameId} {source : String} {opening : Opening}
    {store final : Store} (hopen : store.findModule stack importer source = .ok (.inr opening))
    (h : Framed opening.frame may opening.store final) :
    Keeps store (opening.finish final) := by
  have hclose := keeps_close hopen h
  exact ⟨hclose.toSameRealms.trans (.setLoaded _ _ _ _), hclose.frame_eq⟩

theorem framed_of_effect (h : Effect env may before after) : Framed env may before after := by
  induction h with
  | none => exact (Keeps.refl _).framed
  | next _ _ ihFirst ihSecond => exact ihFirst.trans ihSecond
  | printed text => exact Keeps.framed ⟨.of_eq rfl, fun _ _ h => h⟩
  | assigned value hname => exact framed_setVar _ value hname
  | defined params body hname => exact framed_setFunction _ _ hname
  | imported hsymbol _ _ => exact framed_setFunction _ _ hsymbol
  | call _ henter _ ih =>
      obtain ⟨hkeeps, hcallee⟩ := keeps_enter henter
      exact (hkeeps.of_fresh ih (Nat.le_of_eq hcallee.symm)).framed
  | failedLoad hopen _ ih => exact (keeps_close hopen ih).framed
  | load hopen _ _ ih => exact (keeps_finish hopen ih).framed

end Store

namespace Eval

theorem framed_evaluate (stack : Nat) (e : Expr) (env : FrameId) (store : Store) :
    Store.Framed env e.binds store (finalStore (evaluate stack e env) store) :=
  Store.framed_of_effect (evaluate_effect stack e env store)

theorem keeps_applyClosure (stack : Nat) (closure : Closure) (args : List Json)
    (caller : FrameId) (store : Store) :
    Store.Keeps store (finalStore (applyClosure (evaluate stack) closure args caller) store) := by
  simp only [finalStore, applyClosure, bind_apply]
  cases henter : enter closure args caller store with
  | error e final =>
      obtain rfl := enter_eq_error henter
      exact .refl final
  | ok callee entered =>
      obtain ⟨hkeeps, hcallee⟩ := Store.keeps_enter henter
      have hbody := framed_evaluate stack closure.body callee entered
      exact hkeeps.of_fresh hbody (Nat.le_of_eq hcallee.symm)

theorem keeps_loadModule (stack : Nat) (importer : FrameId) (source : String) (store : Store) :
    Store.Keeps store (finalStore (loadModule (evaluate stack) stack importer source) store) := by
  simp only [finalStore, loadModule_apply]
  cases hfind : store.findModule stack importer source with
  | error e => exact .refl store
  | ok found =>
      cases found with
      | inl loaded => exact .refl store
      | inr opening =>
          have heffect : Effect opening.frame _ opening.store _ :=
            effect_runAll (evaluate_effect stack) opening.exports opening.store
          simp only [Opening.evaluate]
          cases hrun : runAll (evaluate stack) opening.frame opening.exports opening.store with
          | error e final =>
              rw [finalStore_of_error hrun] at heffect
              exact Store.keeps_close hfind (Store.framed_of_effect heffect)
          | ok _ final =>
              rw [finalStore_of_ok hrun] at heffect
              exact Store.keeps_finish hfind (Store.framed_of_effect heffect)

/-- Whether it succeeds or fails, evaluation changes no frame but its own, binds there only names
that the expression binds outside the bodies of functions and macros, and loses none; and applying
a function of the program changes no frame at all. -/
theorem evaluate_frame_law (stack : Nat) (e : Expr) (env : FrameId) (store : Store) :
    Store.Framed env e.binds store (finalStore (evaluate stack e env) store) ∧
      ∀ (closure : Closure) (args : List Json),
        Store.Keeps store
          (finalStore (applyClosure (evaluate stack) closure args env) store) :=
  ⟨framed_evaluate stack e env store,
    fun closure args => keeps_applyClosure stack closure args env store⟩

end Eval

end JsonExpr
