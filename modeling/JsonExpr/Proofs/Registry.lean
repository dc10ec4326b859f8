import JsonExpr.Proofs.Limited
import JsonExpr.Proofs.Reading
import JsonExpr.Proofs.Session

/-!
The store of a session and its registry of modules. All frames of a session belong to one realm,
whose registry says which modules have been loaded and which are being loaded. Evaluation only adds
to it: a module that has been loaded stays loaded, and its frame is never written to again, since
evaluation goes on in the root frame, in the frame of a call or in that of a module being loaded.
-/

namespace JsonExpr

/-- No module is being loaded twice at a time or again after it was loaded, and only declared
modules are loaded. -/
structure Realm.Consistent (realm : Realm) : Prop where
  loading_nodup : realm.loading.Nodup
  not_loaded : ∀ name ∈ realm.loading, realm.loaded.get? name = none
  declared : ∀ name ∈ realm.loaded.names, name ∈ realm.modules.names

namespace Store

variable {store before middle after : Store}

/-- The one realm of a session. -/
def registry (store : Store) : Realm :=
  store.realms[0]?.getD {}

theorem realm_zero (h : store.realms.size = 1) : store.realms[0]? = some store.registry := by
  have hlt : 0 < store.realms.size := by omega
  simp [registry, hlt]

theorem registry_modifyRealm (h : store.realms.size = 1) (f : Realm → Realm) :
    (store.modifyRealm 0 f).registry = f store.registry := by
  rw [registry, realm_modifyRealm, if_pos rfl, realm_zero h]
  rfl

theorem registry_of_realms_eq (h : after.realms = before.realms) :
    after.registry = before.registry := by
  rw [registry, h, registry]

theorem loaded_close (opening : Opening) (store : Store) :
    (opening.close store).registry.loaded = store.registry.loaded := by
  rw [Opening.close, registry, realm_modifyRealm, registry]
  split
  · cases store.realms[0]? <;> rfl
  · rfl

theorem root_of_inside {id outer : FrameId} {frame : Frame}
    (hframe : store.frames[id]? = some frame) (hlink : frame.link = .inside outer)
    (hlt : outer < id) : store.root id = store.root outer := by
  have houter : outer < store.frames.size := Nat.lt_trans hlt (lt_size_of_frame hframe)
  rw [root, chain_of_inside hframe hlink hlt, root]
  cases hchain : store.chain outer with
  | nil =>
      obtain ⟨found, hfound⟩ := exists_frame houter
      rw [chain, hfound] at hchain
      simp only at hchain
      split at hchain
      · cases hchain
      · split at hchain <;> cases hchain
  | cons first rest =>
      rw [List.getLast?_cons_cons, List.getLast?_cons]
      rfl

/-- The later store has the frames of the earlier one, linked in the same way, and the modules that
were loaded there, with frames that have not changed. -/
structure Advances (before after : Store) : Prop where
  link_eq : ∀ (i : FrameId) (frame : Frame), before.frames[i]? = some frame →
    ∃ later, after.frames[i]? = some later ∧ later.link = frame.link
  names_kept : before.registry.loaded.names <+: after.registry.loaded.names
  kept : ∀ name entry, before.registry.loaded.get? name = some entry →
    after.registry.loaded.get? name = some entry ∧
      after.frames[entry.frame]? = before.frames[entry.frame]?

/-- The later store comes from the earlier one by evaluation: as many modules are being loaded, and
those that have been loaded in between were not being loaded before and have new frames. -/
structure Evolves (before after : Store) : Prop extends Advances before after where
  loading_eq : after.registry.loading = before.registry.loading
  gained : ∀ name entry, after.registry.loaded.get? name = some entry →
    before.registry.loaded.get? name = some entry ∨
      before.frames.size ≤ entry.frame ∧ name ∉ before.registry.loading

namespace Advances

theorem of_registry_eq (hframes : ∀ (i : FrameId) (frame : Frame), before.frames[i]? = some frame →
      ∃ later, after.frames[i]? = some later ∧ later.link = frame.link)
    (hloaded : after.registry.loaded = before.registry.loaded)
    (hkept : ∀ name entry, before.registry.loaded.get? name = some entry →
      after.frames[entry.frame]? = before.frames[entry.frame]?) : Advances before after where
  link_eq := hframes
  names_kept := hloaded ▸ List.prefix_rfl
  kept name entry h := ⟨by rw [hloaded]; exact h, hkept name entry h⟩

theorem refl (store : Store) : Advances store store :=
  .of_registry_eq (fun _ frame h => ⟨frame, h, rfl⟩) rfl fun _ _ _ => rfl

theorem trans (first : Advances before middle) (second : Advances middle after) :
    Advances before after where
  link_eq i frame h := by
    obtain ⟨later, hlater, hlink⟩ := first.link_eq i frame h
    obtain ⟨last, hlast, hagain⟩ := second.link_eq i later hlater
    exact ⟨last, hlast, hagain.trans hlink⟩
  names_kept := first.names_kept.trans second.names_kept
  kept name entry h := by
    obtain ⟨hmiddle, hframe⟩ := first.kept name entry h
    obtain ⟨hafter, hagain⟩ := second.kept name entry hmiddle
    exact ⟨hafter, hagain.trans hframe⟩

theorem close (opening : Opening) (store : Store) : Advances store (opening.close store) :=
  .of_registry_eq (fun _ frame h => ⟨frame, h, rfl⟩) (loaded_close opening store) fun _ _ _ => rfl

theorem withOutput (store : Store) (output : String) : Advances store { store with output } :=
  .of_registry_eq (fun _ frame h => ⟨frame, h, rfl⟩) rfl fun _ _ _ => rfl

theorem size_le (h : Advances before after) : before.frames.size ≤ after.frames.size := by
  by_contra hlt
  obtain ⟨frame, hframe⟩ := exists_frame (Nat.not_le.mp hlt)
  obtain ⟨later, hlater, _⟩ := h.link_eq _ frame hframe
  exact Nat.lt_irrefl _ (lt_size_of_frame hlater)

end Advances

namespace Evolves

theorem of_registry_eq (hadvances : Advances before after)
    (hregistry : after.registry = before.registry) : Evolves before after where
  toAdvances := hadvances
  loading_eq := by rw [hregistry]
  gained name entry h := .inl (by rwa [hregistry] at h)

theorem refl (store : Store) : Evolves store store :=
  .of_registry_eq (.refl store) rfl

theorem trans (first : Evolves before middle) (second : Evolves middle after) :
    Evolves before after where
  toAdvances := first.toAdvances.trans second.toAdvances
  loading_eq := second.loading_eq.trans first.loading_eq
  gained name entry h := by
    rcases second.gained name entry h with hmiddle | ⟨hsize, hloading⟩
    · exact first.gained name entry hmiddle
    · exact .inr ⟨Nat.le_trans first.size_le hsize, first.loading_eq ▸ hloading⟩

theorem addFrame (store : Store) (frame : Frame) (hloaded : ∀ name entry,
      store.registry.loaded.get? name = some entry → entry.frame < store.frames.size) :
    Evolves store (store.addFrame frame) := by
  refine .of_registry_eq (.of_registry_eq ?_ rfl ?_) rfl
  · intro i found h
    exact ⟨found, frame_addFrame_of_some h, rfl⟩
  · intro name entry h
    rw [frame_addFrame, if_neg (Nat.ne_of_lt (hloaded name entry h))]

end Evolves

end Store

namespace Interpreter

/-- The realm of a session, with the modules that have been loaded and those being loaded. -/
def realm (interpreter : Interpreter) (modules : Bindings Module) (loaded : Bindings LoadedModule)
    (loading : List String) : Realm :=
  { builtins := interpreter.builtins, settings := interpreter.settings, modules, loaded, loading }

/-- The root frame of a program or a module, as long as nothing has been bound in it. -/
def baseFrame (interpreter : Interpreter) : Frame :=
  Store.rootFrame 0 interpreter.builtins (some interpreter.maxCallDepth)

/-- A store of a session whose latest program declares the modules: every frame leads outwards to
the root frame of the program or to that of a module, in which nothing is ever bound. -/
structure Sound (interpreter : Interpreter) (modules : Bindings Module) (store : Store) :
    Prop where
  limited : store.Limited interpreter.maxCallDepth
  linked : ∀ (i : FrameId) (frame : Frame), store.frames[i]? = some frame →
    frame.link = .root 0 ∨ ∃ outer, outer < i ∧ frame.link = .inside outer
  base : ∀ (i : FrameId) (frame : Frame), store.frames[i]? = some frame →
    frame.link = .root 0 → i = 0 ∨ frame = interpreter.baseFrame
  size_realms : store.realms.size = 1
  registry_eq : store.registry =
    interpreter.realm modules store.registry.loaded store.registry.loading
  consistent : store.registry.Consistent
  loaded_lt : ∀ name entry, store.registry.loaded.get? name = some entry →
    entry.frame < store.frames.size

/-- A sound store in which evaluation goes on in the frame: it is neither that of a module that has
been loaded nor the root frame of a module. -/
structure Active (interpreter : Interpreter) (modules : Bindings Module) (store : Store)
    (env : FrameId) : Prop where
  sound : interpreter.Sound modules store
  lt_size : env < store.frames.size
  apart : ∀ name entry, store.registry.loaded.get? name = some entry → entry.frame ≠ env
  inner : env = 0 ∨ ∃ frame outer, store.frames[env]? = some frame ∧ frame.link = .inside outer

variable {interpreter : Interpreter} {modules : Bindings Module} {store : Store} {env : FrameId}

namespace Sound

theorem modules_eq (h : interpreter.Sound modules store) : store.registry.modules = modules := by
  rw [h.registry_eq]
  rfl

theorem exists_root (h : interpreter.Sound modules store) {i : FrameId}
    (hi : i < store.frames.size) :
    ∃ frame, store.frames[store.root i]? = some frame ∧ frame.link = .root 0 := by
  induction i using Nat.strongRecOn with
  | _ i ih =>
      obtain ⟨frame, hframe⟩ := Store.exists_frame hi
      rcases h.linked i frame hframe with hroot | ⟨outer, houter, hlink⟩
      · rw [Store.root, Store.chain_of_root hframe hroot]
        exact ⟨frame, hframe, hroot⟩
      · obtain ⟨root, hfound, hlink'⟩ := ih outer houter (Nat.lt_trans houter hi)
        refine ⟨root, ?_, hlink'⟩
        rwa [Store.root_of_inside hframe hlink houter]

theorem realmOf?_eq (h : interpreter.Sound modules store) {i : FrameId}
    (hi : i < store.frames.size) : store.realmOf? i = some 0 := by
  obtain ⟨frame, hframe, hlink⟩ := h.exists_root hi
  rw [Store.realmOf?, hframe]
  cases frame
  cases hlink
  rfl

theorem withRegistry (h : interpreter.Sound modules store) {other : Store}
    (hframes : other.frames = store.frames) (hsize : other.realms.size = 1)
    (loaded : Bindings LoadedModule) (loading : List String)
    (hregistry : other.registry = { store.registry with loaded, loading })
    (hconsistent : other.registry.Consistent)
    (hloaded : ∀ name entry, loaded.get? name = some entry → entry.frame < store.frames.size) :
    interpreter.Sound modules other where
  limited := h.limited.of_frames_eq hframes
  linked := hframes ▸ h.linked
  base := hframes ▸ h.base
  size_realms := hsize
  registry_eq := by
    rw [hregistry, h.registry_eq]
    rfl
  consistent := hconsistent
  loaded_lt name entry hentry := by
    rw [hregistry] at hentry
    rw [hframes]
    exact hloaded name entry hentry

theorem startLoading (h : interpreter.Sound modules store) {source : String}
    (hloaded : store.registry.loaded.get? source = none)
    (hloading : source ∉ store.registry.loading) :
    interpreter.Sound modules (store.modifyRealm 0 (Eval.startLoading source)) := by
  have hregistry : (store.modifyRealm 0 (Eval.startLoading source)).registry =
      Eval.startLoading source store.registry :=
    Store.registry_modifyRealm h.size_realms _
  refine h.withRegistry rfl ?_ store.registry.loaded (source :: store.registry.loading) hregistry ?_
    h.loaded_lt
  · rw [Store.size_modifyRealm]
    exact h.size_realms
  · rw [hregistry]
    refine ⟨List.nodup_cons.mpr ⟨hloading, h.consistent.loading_nodup⟩, ?_, h.consistent.declared⟩
    intro name hname
    rcases List.mem_cons.mp hname with rfl | hname
    · exact hloaded
    · exact h.consistent.not_loaded name hname

theorem addInner (h : interpreter.Sound modules store) {outer : FrameId}
    (houter : outer < store.frames.size) (depth : Int) (vars : Bindings Json) :
    interpreter.Sound modules (store.addFrame (store.innerFrame outer depth vars)) where
  limited := h.limited.addFrame (h.limited.innerFrame houter depth vars _)
  linked i frame hframe := by
    rw [Store.frame_addFrame] at hframe
    split at hframe
    · rename_i hi
      cases hframe
      exact .inr ⟨outer, hi ▸ houter, rfl⟩
    · exact h.linked i frame hframe
  base i frame hframe hlink := by
    rw [Store.frame_addFrame] at hframe
    split at hframe
    · cases hframe
      cases hlink
    · exact h.base i frame hframe hlink
  size_realms := h.size_realms
  registry_eq := h.registry_eq
  consistent := h.consistent
  loaded_lt name entry hentry := by
    rw [Store.size_addFrame]
    exact Nat.lt_succ_of_lt (h.loaded_lt name entry hentry)

theorem addBase (h : interpreter.Sound modules store) :
    interpreter.Sound modules (store.addFrame interpreter.baseFrame) where
  limited := h.limited.addFrame (Store.limited_rootFrame _ _ 0 interpreter.builtins)
  linked i frame hframe := by
    rw [Store.frame_addFrame] at hframe
    split at hframe
    · cases hframe
      exact .inl rfl
    · exact h.linked i frame hframe
  base i frame hframe hlink := by
    rw [Store.frame_addFrame] at hframe
    split at hframe
    · exact .inr (Option.some.inj hframe).symm
    · exact h.base i frame hframe hlink
  size_realms := h.size_realms
  registry_eq := h.registry_eq
  consistent := h.consistent
  loaded_lt name entry hentry := by
    rw [Store.size_addFrame]
    exact Nat.lt_succ_of_lt (h.loaded_lt name entry hentry)

theorem findModule_eq (h : interpreter.Sound modules store) (henv : env < store.frames.size)
    (stack : Nat) (source : String) :
    store.findModule stack env source =
      match store.registry.loaded.get? source, modules.get? source with
      | some loaded, _ => .ok (.inl loaded)
      | none, none => .error (.importFailure (.unknownModule source))
      | none, some declared =>
          if store.registry.loading.contains source then .error (.misuse (.circularImport source))
          else
            (Eval.moduleExports stack interpreter.settings declared).map fun (macros, exports) =>
              .inr (store.openModule 0 store.registry (some interpreter.maxCallDepth) source
                macros.names exports) := by
  have hsettings : store.registry.settings = interpreter.settings := by
    rw [h.registry_eq]
    rfl
  rw [Store.findModule, h.realmOf?_eq henv]
  simp only [Store.realm_zero h.size_realms, h.modules_eq, hsettings,
    h.limited.maxCallDepth (Store.root_lt henv)]
  cases store.registry.loaded.get? source with
  | some loaded => rfl
  | none =>
      cases modules.get? source with
      | none => rfl
      | some declared =>
          simp only
          cases Eval.moduleExports stack interpreter.settings declared <;> rfl

theorem loaded_of_findModule (h : interpreter.Sound modules store) (henv : env < store.frames.size)
    {stack : Nat} {source : String} {loaded : LoadedModule}
    (hfind : store.findModule stack env source = .ok (.inl loaded)) :
    store.registry.loaded.get? source = some loaded := by
  rw [h.findModule_eq henv] at hfind
  split at hfind
  · cases hfind
    assumption
  · cases hfind
  · split at hfind
    · cases hfind
    · obtain ⟨_, _, heq⟩ := map_eq_ok_iff.mp hfind
      cases heq

theorem not_loaded_of_findModule (h : interpreter.Sound modules store)
    (henv : env < store.frames.size) {stack : Nat} {source : String} {e : Error}
    (hfind : store.findModule stack env source = .error e) :
    store.registry.loaded.get? source = none := by
  rw [h.findModule_eq henv] at hfind
  split at hfind
  · cases hfind
  · assumption
  · assumption

theorem findModule_eq_opening (h : interpreter.Sound modules store) (henv : env < store.frames.size)
    {stack : Nat} {source : String} {opening : Opening}
    (hopen : store.findModule stack env source = .ok (.inr opening)) :
    ∃ declared macros exports,
      store.registry.loaded.get? source = none ∧ modules.get? source = some declared ∧
      source ∉ store.registry.loading ∧
      Eval.moduleExports stack interpreter.settings declared = .ok (macros, exports) ∧
      opening = store.openModule 0 store.registry (some interpreter.maxCallDepth) source
        macros.names exports := by
  rw [h.findModule_eq henv] at hopen
  split at hopen
  · cases hopen
  · cases hopen
  · rename_i declared hloaded hdeclared
    split at hopen
    · cases hopen
    · rename_i hloading
      obtain ⟨⟨macros, exports⟩, hexports, heq⟩ := map_eq_ok_iff.mp hopen
      cases heq
      exact ⟨declared, macros, exports, hloaded, hdeclared, by simpa using hloading, hexports, rfl⟩

end Sound

namespace Active

theorem ne_zero_or_inner (h : interpreter.Active modules store env) {frame : Frame}
    (hframe : store.frames[env]? = some frame) (hlink : frame.link = .root 0) : env = 0 := by
  rcases h.inner with hzero | ⟨found, outer, hfound, hinside⟩
  · exact hzero
  · obtain rfl : found = frame := Option.some.inj (hfound.symm.trans hframe)
    rw [hlink] at hinside
    cases hinside

theorem of_evolves (h : interpreter.Active modules store env) {after : Store}
    (hsound : interpreter.Sound modules after) (hevolves : store.Evolves after) :
    interpreter.Active modules after env where
  sound := hsound
  lt_size := Nat.lt_of_lt_of_le h.lt_size hevolves.size_le
  apart name entry hentry := by
    rcases hevolves.gained name entry hentry with hbefore | ⟨hsize, _⟩
    · exact h.apart name entry hbefore
    · exact Nat.ne_of_gt (Nat.lt_of_lt_of_le h.lt_size hsize)
  inner := by
    rcases h.inner with hzero | ⟨frame, outer, hframe, hlink⟩
    · exact .inl hzero
    · obtain ⟨later, hlater, hsame⟩ := hevolves.link_eq env frame hframe
      exact .inr ⟨later, outer, hlater, hsame.trans hlink⟩

theorem write (h : interpreter.Active modules store env) {may : Namespace → List String}
    {after : Store} (hframed : store.Framed env may after)
    (hlimited : after.Limited interpreter.maxCallDepth) (hrealms : after.realms = store.realms)
    (hsize : after.frames.size = store.frames.size) :
    interpreter.Active modules after env ∧ store.Evolves after := by
  have hregistry : after.registry = store.registry := Store.registry_of_realms_eq hrealms
  have hevolves : store.Evolves after := by
    refine .of_registry_eq (.of_registry_eq ?_ (by rw [hregistry]) ?_) hregistry
    · intro i frame hframe
      by_cases hi : i = env
      · subst hi
        obtain ⟨later, hlater, hgrows⟩ := hframed.own frame hframe
        exact ⟨later, hlater, hgrows.link⟩
      · exact ⟨frame, hframed.others i frame hi hframe, rfl⟩
    · intro name entry hentry
      obtain ⟨frame, hframe⟩ := Store.exists_frame (h.sound.loaded_lt name entry hentry)
      rw [hframed.others _ frame (h.apart name entry hentry) hframe, hframe]
  -- A frame of the later store is either one of the earlier or the one written to.
  have hold (i : FrameId) (frame : Frame) (hframe : after.frames[i]? = some frame) :
      ∃ old, store.frames[i]? = some old ∧ frame.link = old.link ∧ (i ≠ env → frame = old) := by
    obtain ⟨old, hfound⟩ := Store.exists_frame (hsize ▸ Store.lt_size_of_frame hframe)
    obtain ⟨later, hlater, hlink⟩ := hevolves.link_eq i old hfound
    obtain rfl : later = frame := Option.some.inj (hlater.symm.trans hframe)
    refine ⟨old, hfound, hlink, fun hi => ?_⟩
    exact Option.some.inj (hframe.symm.trans (hframed.others i old hi hfound))
  refine ⟨h.of_evolves ?_ hevolves, hevolves⟩
  exact {
    limited := hlimited
    linked := fun i frame hframe => by
      obtain ⟨old, hfound, hlink, _⟩ := hold i frame hframe
      rw [hlink]
      exact h.sound.linked i old hfound
    base := fun i frame hframe hroot => by
      obtain ⟨old, hfound, hlink, hsame⟩ := hold i frame hframe
      by_cases hi : i = env
      · subst hi
        exact .inl (h.ne_zero_or_inner hfound (hlink ▸ hroot))
      · obtain rfl := hsame hi
        exact h.sound.base i frame hfound hroot
    size_realms := hrealms ▸ h.sound.size_realms
    registry_eq := hregistry ▸ h.sound.registry_eq
    consistent := hregistry ▸ h.sound.consistent
    loaded_lt := by
      rw [hregistry, hsize]
      exact h.sound.loaded_lt }

theorem enter (h : interpreter.Active modules store env) {target : String} {closure : Closure}
    {args : List Json} {callee : FrameId} {entered : Store}
    (hfunction : store.function? env target = some (.user closure))
    (henter : Eval.enter closure args env store = .ok callee entered) :
    interpreter.Active modules entered callee ∧ store.Evolves entered := by
  obtain ⟨_, vars, _, rfl, rfl⟩ := Eval.enter_eq_ok henter
  refine ⟨⟨h.sound.addInner (h.sound.limited.closure_lt hfunction) _ vars, ?_, ?_, ?_⟩,
    .addFrame store _ h.sound.loaded_lt⟩
  · rw [Store.size_addFrame]
    exact Nat.lt_succ_self _
  · intro name entry hentry
    exact Nat.ne_of_lt (h.sound.loaded_lt name entry hentry)
  · exact .inr ⟨_, closure.frame, (Store.frame_addFrame _ _ _).trans (if_pos rfl), rfl⟩

theorem opening (h : interpreter.Active modules store env) {stack : Nat} {source : String}
    {opening : Opening} (hopen : store.findModule stack env source = .ok (.inr opening)) :
    interpreter.Active modules opening.store opening.frame ∧ store.Advances opening.store ∧
      opening.store.registry = Eval.startLoading source store.registry := by
  obtain ⟨declared, macros, exports, hloaded, hdeclared, hloading, _, rfl⟩ :=
    h.sound.findModule_eq_opening h.lt_size hopen
  let based := store.addFrame interpreter.baseFrame
  let framed := based.addFrame (based.innerFrame store.frames.size 0 [])
  have hframed : interpreter.Sound modules framed := by
    refine h.sound.addBase.addInner ?_ 0 []
    rw [Store.size_addFrame]
    exact Nat.lt_succ_self _
  have hevolves : store.Evolves framed :=
    (Store.Evolves.addFrame store _ h.sound.loaded_lt).trans
      (.addFrame based _ h.sound.addBase.loaded_lt)
  have hstore : (store.openModule 0 store.registry (some interpreter.maxCallDepth) source
      macros.names exports).store = framed.modifyRealm 0 (Eval.startLoading source) := by
    have hbase : Store.rootFrame 0 store.registry.builtins (some interpreter.maxCallDepth) =
        interpreter.baseFrame := by
      rw [h.sound.registry_eq]
      rfl
    simp only [Store.openModule, hbase, framed, based]
  have hregistry : (framed.modifyRealm 0 (Eval.startLoading source)).registry =
      Eval.startLoading source store.registry :=
    Store.registry_modifyRealm h.sound.size_realms _
  have hframe : framed.frames[store.frames.size + 1]? =
      some (based.innerFrame store.frames.size 0 []) := by
    refine (Store.frame_addFrame based _ _).trans (if_pos ?_)
    rw [Store.size_addFrame]
  rw [hstore, Store.openModule_frame]
  refine ⟨⟨hframed.startLoading hloaded hloading, Store.lt_size_of_frame hframe, ?_,
    .inr ⟨_, _, hframe, rfl⟩⟩, ?_, hregistry⟩
  · intro name entry hentry
    rw [hregistry] at hentry
    exact Nat.ne_of_lt (Nat.lt_succ_of_lt (h.sound.loaded_lt name entry hentry))
  · refine .of_registry_eq hevolves.link_eq (by rw [hregistry]; rfl) fun name entry hentry => ?_
    exact (hevolves.kept name entry hentry).2

section Load

variable {stack : Nat} {source : String} {opening : Opening} {after : Store}

theorem registry_close (h : interpreter.Active modules store env)
    (hopen : store.findModule stack env source = .ok (.inr opening))
    (hafter : interpreter.Active modules after opening.frame)
    (hevolves : opening.store.Evolves after) :
    (opening.close after).registry = { after.registry with loading := store.registry.loading } := by
  obtain ⟨_, _, hregistry⟩ := h.opening hopen
  obtain ⟨declared, macros, exports, _, _, hloading, _, rfl⟩ :=
    h.sound.findModule_eq_opening h.lt_size hopen
  have hstop := Store.stopLoading_startLoading hloading after.registry.loaded
  have hstarted : after.registry =
      { Eval.startLoading source store.registry with loaded := after.registry.loaded } := by
    rw [hafter.sound.registry_eq, hevolves.loading_eq, hregistry, h.sound.registry_eq]
    rfl
  rw [Opening.close, Store.openModule, Store.registry_modifyRealm hafter.sound.size_realms]
  rw [hstarted]
  exact hstop

theorem close (h : interpreter.Active modules store env)
    (hopen : store.findModule stack env source = .ok (.inr opening))
    (hafter : interpreter.Active modules after opening.frame)
    (hevolves : opening.store.Evolves after) :
    interpreter.Sound modules (opening.close after) ∧ store.Evolves (opening.close after) := by
  have hregistry := h.registry_close hopen hafter hevolves
  obtain ⟨_, hadvances, hopened⟩ := h.opening hopen
  have hloading : ∀ name ∈ store.registry.loading, name ∈ after.registry.loading := by
    intro name hname
    rw [hevolves.loading_eq, hopened]
    exact List.mem_cons_of_mem _ hname
  constructor
  · refine hafter.sound.withRegistry rfl ?_ after.registry.loaded store.registry.loading
      hregistry ?_ hafter.sound.loaded_lt
    · rw [Opening.close, Store.size_modifyRealm]
      exact hafter.sound.size_realms
    · rw [hregistry]
      exact ⟨h.sound.consistent.loading_nodup,
        fun name hname => hafter.sound.consistent.not_loaded name (hloading name hname),
        hafter.sound.consistent.declared⟩
  · refine ⟨(hadvances.trans hevolves.toAdvances).trans (.close opening after),
      by rw [hregistry], ?_⟩
    intro name entry hentry
    rw [hregistry] at hentry
    rcases hevolves.gained name entry hentry with hbefore | ⟨hsize, hnot⟩
    · rw [hopened] at hbefore
      exact .inl hbefore
    · refine .inr ⟨Nat.le_trans hadvances.size_le hsize, fun hname => hnot ?_⟩
      rw [hopened]
      exact List.mem_cons_of_mem _ hname

theorem not_loaded_within (h : interpreter.Active modules store env)
    (hopen : store.findModule stack env source = .ok (.inr opening))
    (hafter : interpreter.Active modules after opening.frame)
    (hevolves : opening.store.Evolves after) : after.registry.loaded.get? source = none := by
  obtain ⟨_, _, hopened⟩ := h.opening hopen
  refine hafter.sound.consistent.not_loaded source ?_
  rw [hevolves.loading_eq, hopened]
  exact List.mem_cons_self

theorem registry_finish (h : interpreter.Active modules store env)
    (hopen : store.findModule stack env source = .ok (.inr opening))
    (hafter : interpreter.Active modules after opening.frame)
    (hevolves : opening.store.Evolves after) :
    (opening.finish after).registry =
      { after.registry with
        loaded := after.registry.loaded.set source opening.loaded
        loading := store.registry.loading } := by
  have hsize := (h.close hopen hafter hevolves).1.size_realms
  have hregistry := h.registry_close hopen hafter hevolves
  obtain ⟨declared, macros, exports, _, _, _, _, rfl⟩ :=
    h.sound.findModule_eq_opening h.lt_size hopen
  exact (Store.registry_modifyRealm hsize _).trans (by rw [hregistry]; rfl)

theorem advances_finish (h : interpreter.Active modules store env)
    (hopen : store.findModule stack env source = .ok (.inr opening))
    (hafter : interpreter.Active modules after opening.frame)
    (hevolves : opening.store.Evolves after) : after.Advances (opening.finish after) where
  link_eq _ frame hframe := ⟨frame, hframe, rfl⟩
  names_kept := by
    rw [h.registry_finish hopen hafter hevolves, Bindings.names_set]
    split
    · exact List.prefix_rfl
    · exact List.prefix_append _ _
  kept name entry hentry := by
    rw [h.registry_finish hopen hafter hevolves]
    refine ⟨?_, rfl⟩
    have hnot := h.not_loaded_within hopen hafter hevolves
    refine (Bindings.get?_set_of_ne _ _ ?_).trans hentry
    rintro rfl
    rw [hnot] at hentry
    cases hentry

theorem consistent_finish (h : interpreter.Active modules store env)
    (hopen : store.findModule stack env source = .ok (.inr opening))
    (hafter : interpreter.Active modules after opening.frame)
    (hevolves : opening.store.Evolves after) : (opening.finish after).registry.Consistent := by
  obtain ⟨hclose, _⟩ := h.close hopen hafter hevolves
  obtain ⟨declared, macros, exports, _, hdeclared, hloading, _, _⟩ :=
    h.sound.findModule_eq_opening h.lt_size hopen
  rw [h.registry_finish hopen hafter hevolves]
  refine ⟨h.sound.consistent.loading_nodup, fun name hname => ?_, fun name hname => ?_⟩
  · have hne : source ≠ name := fun heq => hloading (heq ▸ hname)
    have hnone := hclose.consistent.not_loaded name
    rw [h.registry_close hopen hafter hevolves] at hnone
    exact (Bindings.get?_set_of_ne _ _ hne).trans (hnone hname)
  · have hnames := hafter.sound.consistent.declared name
    rw [hafter.sound.modules_eq] at hnames ⊢
    rw [Bindings.names_set] at hname
    split at hname
    · exact hnames hname
    · rcases List.mem_append.mp hname with hname | hname
      · exact hnames hname
      · obtain rfl := List.mem_singleton.mp hname
        exact Bindings.mem_names_of_get? hdeclared

theorem finish (h : interpreter.Active modules store env)
    (hopen : store.findModule stack env source = .ok (.inr opening))
    (hafter : interpreter.Active modules after opening.frame)
    (hevolves : opening.store.Evolves after) :
    interpreter.Sound modules (opening.finish after) ∧ store.Evolves (opening.finish after) := by
  obtain ⟨hclose, hclosed⟩ := h.close hopen hafter hevolves
  have hregistry := h.registry_finish hopen hafter hevolves
  have hconsistent := h.consistent_finish hopen hafter hevolves
  constructor
  · refine hafter.sound.withRegistry rfl ?_ _ _ hregistry hconsistent fun name entry hentry => ?_
    · rw [Opening.finish, Store.size_modifyRealm]
      exact hclose.size_realms
    · rcases Bindings.get?_set_cases hentry with ⟨_, rfl⟩ | hbefore
      · exact hafter.lt_size
      · exact hafter.sound.loaded_lt name entry hbefore
  · obtain ⟨_, hbefore, _⟩ := h.opening hopen
    refine ⟨(hbefore.trans hevolves.toAdvances).trans (h.advances_finish hopen hafter hevolves),
      by rw [hregistry], fun name entry hentry => ?_⟩
    rw [hregistry] at hentry
    rcases Bindings.get?_set_cases hentry with ⟨rfl, rfl⟩ | hbefore
    · obtain ⟨_, _, _, _, _, hloading, _, rfl⟩ := h.sound.findModule_eq_opening h.lt_size hopen
      refine .inr ⟨?_, hloading⟩
      rw [Opening.loaded, Store.openModule_frame]
      exact Nat.le_succ _
    · refine hclosed.gained name entry ?_
      rw [h.registry_close hopen hafter hevolves]
      exact hbefore

end Load

theorem effect {may : Namespace → List String} {before after : Store}
    (h : interpreter.Active modules before env) (heffect : Effect env may before after) :
    interpreter.Active modules after env ∧ before.Evolves after := by
  induction heffect with
  | none => exact ⟨h, .refl _⟩
  | next _ _ ihFirst ihSecond =>
      obtain ⟨hmiddle, hfirst⟩ := ihFirst h
      obtain ⟨hafter, hsecond⟩ := ihSecond hmiddle
      exact ⟨hafter, hfirst.trans hsecond⟩
  | @printed env may store text =>
      have heffect : Effect env may store { store with output := store.output ++ text } :=
        .printed text
      exact h.write (Store.framed_of_effect heffect) (h.sound.limited.effect h.lt_size heffect) rfl
        rfl
  | assigned value hname =>
      exact h.write (Store.framed_setVar _ value hname)
        (h.sound.limited.effect h.lt_size (.assigned value hname)) rfl (Store.size_setVar _ _ _ _)
  | defined params body hname =>
      exact h.write (Store.framed_setFunction _ _ hname)
        (h.sound.limited.effect h.lt_size (.defined params body hname)) rfl
        (Store.size_setFunction _ _ _ _)
  | imported hsymbol hframe hfunction =>
      exact h.write (Store.framed_setFunction _ _ hsymbol)
        (h.sound.limited.effect h.lt_size (.imported hsymbol hframe hfunction)) rfl
        (Store.size_setFunction _ _ _ _)
  | call hfunction henter _ ih =>
      obtain ⟨hentered, hfirst⟩ := h.enter hfunction henter
      obtain ⟨hafter, hsecond⟩ := ih hentered
      have hevolves := hfirst.trans hsecond
      exact ⟨h.of_evolves hafter.sound hevolves, hevolves⟩
  | failedLoad hopen _ ih =>
      obtain ⟨hafter, hinner⟩ := ih (h.opening hopen).1
      obtain ⟨hsound, hevolves⟩ := h.close hopen hafter hinner
      exact ⟨h.of_evolves hsound hevolves, hevolves⟩
  | load hopen _ _ ih =>
      obtain ⟨hafter, hinner⟩ := ih (h.opening hopen).1
      obtain ⟨hsound, hevolves⟩ := h.finish hopen hafter hinner
      exact ⟨h.of_evolves hsound hevolves, hevolves⟩

theorem of_ok {α : Type} (h : interpreter.Active modules store env) {work : Eval α} {value : α}
    {may : Namespace → List String} {after : Store}
    (heffect : Effect env may store (Eval.finalStore work store))
    (hwork : work store = .ok value after) :
    interpreter.Active modules after env ∧ store.Evolves after := by
  rw [Eval.finalStore_of_ok hwork] at heffect
  exact h.effect heffect

theorem evaluate_ok (h : interpreter.Active modules store env) {stack : Nat} {e : Expr}
    {value : Json} {after : Store} (hvalue : Eval.evaluate stack e env store = .ok value after) :
    interpreter.Active modules after env ∧ store.Evolves after :=
  h.of_ok (Eval.evaluate_effect stack e env store) hvalue

theorem runAll_ok (h : interpreter.Active modules store env) {stack : Nat} {exprs : List Expr}
    {after : Store} (hrun : Eval.runAll (Eval.evaluate stack) env exprs store = .ok () after) :
    interpreter.Active modules after env ∧ store.Evolves after :=
  h.of_ok (Eval.effect_runAll (Eval.evaluate_effect stack) exprs store) hrun

end Active

theorem active_freshStore (interpreter : Interpreter) (modules : Bindings Module) :
    interpreter.Active modules (interpreter.freshStore modules) 0 where
  sound :=
    { limited := by
        intro i frame hframe
        obtain ⟨hlt, rfl⟩ := Array.getElem?_eq_some_iff.mp hframe
        obtain rfl : i = 0 := Nat.lt_one_iff.mp hlt
        exact Store.limited_rootFrame _ _ 0 interpreter.builtins
      linked := fun i frame hframe => by
        obtain ⟨hlt, rfl⟩ := Array.getElem?_eq_some_iff.mp hframe
        obtain rfl : i = 0 := Nat.lt_one_iff.mp hlt
        exact .inl rfl
      base := fun i frame hframe _ => .inl (Nat.lt_one_iff.mp (Store.lt_size_of_frame hframe))
      size_realms := rfl
      registry_eq := rfl
      consistent := ⟨List.nodup_nil, fun _ h => absurd h List.not_mem_nil,
        fun _ h => absurd h List.not_mem_nil⟩
      loaded_lt := fun _ _ h => by cases h }
  lt_size := Nat.zero_lt_one
  apart _ _ h := by cases h
  inner := .inl rfl

theorem Active.withOutput (h : interpreter.Active modules store env) (output : String) :
    interpreter.Active modules { store with output } env where
  sound :=
    { h.sound with limited := h.sound.limited.of_frames_eq rfl }
  lt_size := h.lt_size
  apart := h.apart
  inner := h.inner

/-- Throughout a session evaluation goes on in a sound store. -/
theorem invariant_active (interpreter : Interpreter) :
    interpreter.Invariant fun modules _ => interpreter.Active modules where
  fresh := interpreter.active_freshStore
  output text h := h.withOutput text
  effect h heffect := (h.effect heffect).1
  enter h hfunction henter := (h.enter hfunction henter).1
  opening h hopen := (h.opening hopen).1

end Interpreter

end JsonExpr
