import JsonExpr.Proofs.Evaluation

namespace JsonExpr.Store

variable (store : Store)

@[simp]
theorem size_setVar (id : FrameId) (name : String) (value : Json) :
    (store.setVar id name value).frames.size = store.frames.size := by
  simp [setVar]

@[simp]
theorem size_setFunction (id : FrameId) (name : String) (function : Function) :
    (store.setFunction id name function).frames.size = store.frames.size := by
  simp [setFunction]

@[simp]
theorem size_addFrame (frame : Frame) :
    (store.addFrame frame).frames.size = store.frames.size + 1 := by
  simp [addFrame]

theorem frame_setVar (id i : FrameId) (name : String) (value : Json) :
    (store.setVar id name value).frames[i]? =
      if id = i then
        store.frames[i]?.map fun frame => { frame with vars := frame.vars.set name value }
      else store.frames[i]? :=
  Array.getElem?_modify

theorem frame_setFunction (id i : FrameId) (name : String) (function : Function) :
    (store.setFunction id name function).frames[i]? =
      if id = i then
        store.frames[i]?.map fun frame =>
          { frame with functions := frame.functions.set name function }
      else store.frames[i]? :=
  Array.getElem?_modify

theorem frame_addFrame (frame : Frame) (i : FrameId) :
    (store.addFrame frame).frames[i]? =
      if i = store.frames.size then some frame else store.frames[i]? :=
  Array.getElem?_push

theorem realm_modifyRealm (id i : RealmId) (f : Realm → Realm) :
    (store.modifyRealm id f).realms[i]? =
      if id = i then store.realms[i]?.map f else store.realms[i]? :=
  Array.getElem?_modify

@[simp]
theorem realms_addFrame (frame : Frame) : (store.addFrame frame).realms = store.realms := rfl

@[simp]
theorem size_modifyRealm (id : RealmId) (f : Realm → Realm) :
    (store.modifyRealm id f).realms.size = store.realms.size := by
  simp [modifyRealm]

variable {store}

theorem lt_size_of_frame {i : FrameId} {frame : Frame} (h : store.frames[i]? = some frame) :
    i < store.frames.size := by
  obtain ⟨hlt, _⟩ := Array.getElem?_eq_some_iff.mp h
  exact hlt

theorem exists_frame {i : FrameId} (h : i < store.frames.size) :
    ∃ frame, store.frames[i]? = some frame :=
  ⟨_, Array.getElem?_eq_getElem h⟩

theorem chain_of_root {id : FrameId} {frame : Frame} {realm : RealmId}
    (hframe : store.frames[id]? = some frame) (hlink : frame.link = .root realm) :
    store.chain id = [id] := by
  rw [chain, hframe]
  simp only [hlink]

theorem chain_of_inside {id outer : FrameId} {frame : Frame}
    (hframe : store.frames[id]? = some frame) (hlink : frame.link = .inside outer)
    (hlt : outer < id) : store.chain id = id :: store.chain outer := by
  rw [chain, hframe]
  simp only [hlink, if_pos hlt]

theorem chain_eq_of_links_le {other : Store} {env : FrameId}
    (h : ∀ i : FrameId, i ≤ env →
      other.frames[i]?.map Frame.link = store.frames[i]?.map Frame.link) :
    other.chain env = store.chain env := by
  induction env using Nat.strongRecOn with
  | _ env ih =>
      have hlink := h env (Nat.le_refl env)
      rw [chain, chain]
      cases hframe : store.frames[env]? with
      | none =>
          rw [hframe, Option.map_none, Option.map_eq_none_iff] at hlink
          rw [hlink]
      | some frame =>
          rw [hframe, Option.map_some] at hlink
          obtain ⟨found, hfound, hsame⟩ := Option.map_eq_some_iff.mp hlink
          rw [hfound]
          simp only [hsame]
          cases frame.link with
          | root id => rfl
          | inside outer =>
              simp only
              split
              · rename_i hlt
                rw [ih outer hlt fun i hi => h i (Nat.le_trans hi (Nat.le_of_lt hlt))]
              · rfl

theorem chain_eq_of_links {other : Store}
    (h : ∀ i : FrameId, other.frames[i]?.map Frame.link = store.frames[i]?.map Frame.link)
    (env : FrameId) : other.chain env = store.chain env :=
  chain_eq_of_links_le fun i _ => h i

theorem chain_addFrame_of_ne {frame : Frame} {env : FrameId} (h : env ≠ store.frames.size) :
    (store.addFrame frame).chain env = store.chain env := by
  rcases Nat.lt_or_gt_of_ne h with hlt | hgt
  · apply chain_eq_of_links_le
    intro i hi
    rw [frame_addFrame, if_neg (Nat.ne_of_lt (Nat.lt_of_le_of_lt hi hlt))]
  · have hnone : store.frames[env]? = none := Array.getElem?_eq_none (Nat.le_of_lt hgt)
    rw [chain, chain, frame_addFrame, if_neg h, hnone]

theorem chain_addFrame_root {frame : Frame} {realm : RealmId} (hlink : frame.link = .root realm) :
    (store.addFrame frame).chain store.frames.size = [store.frames.size] :=
  chain_of_root ((frame_addFrame store frame _).trans (if_pos rfl)) hlink

theorem chain_addFrame_inside {frame : Frame} {outer : FrameId}
    (hlink : frame.link = .inside outer) (hlt : outer < store.frames.size) :
    (store.addFrame frame).chain store.frames.size =
      store.frames.size :: store.chain outer := by
  rw [chain_of_inside ((frame_addFrame store frame _).trans (if_pos rfl)) hlink hlt,
    chain_addFrame_of_ne (Nat.ne_of_lt hlt)]

theorem root_eq_of_links {other : Store}
    (h : ∀ i : FrameId, other.frames[i]?.map Frame.link = store.frames[i]?.map Frame.link)
    (env : FrameId) : other.root env = store.root env := by
  rw [root, root, chain_eq_of_links h]

theorem realmOf?_eq_of_links {other : Store}
    (h : ∀ i : FrameId, other.frames[i]?.map Frame.link = store.frames[i]?.map Frame.link)
    (env : FrameId) : other.realmOf? env = store.realmOf? env := by
  have hlink := h (store.root env)
  rw [realmOf?, realmOf?, root_eq_of_links h]
  cases hframe : store.frames[store.root env]? with
  | none =>
      rw [hframe, Option.map_none, Option.map_eq_none_iff] at hlink
      rw [hlink]
  | some frame =>
      rw [hframe, Option.map_some] at hlink
      obtain ⟨found, hfound, hsame⟩ := Option.map_eq_some_iff.mp hlink
      obtain ⟨_, _, link, _, _⟩ := frame
      obtain ⟨_, _, again, _, _⟩ := found
      obtain rfl : again = link := hsame
      rw [hfound]
      cases again <;> rfl

theorem frame_addFrame_of_some {added frame : Frame} {i : FrameId}
    (h : store.frames[i]? = some frame) : (store.addFrame added).frames[i]? = some frame := by
  rw [frame_addFrame, if_neg (Nat.ne_of_lt (lt_size_of_frame h))]
  exact h

section OpenModule

variable {id : RealmId} {realm : Realm} {maxCallDepth : Option Int} {source : String}
  {macros : List String} {exports : List Expr}

theorem openModule_frame :
    (store.openModule id realm maxCallDepth source macros exports).frame =
      store.frames.size + 1 :=
  size_addFrame store _

theorem frame_openModule_base :
    (store.openModule id realm maxCallDepth source macros exports).store.frames[
      store.frames.size]? = some (rootFrame id realm.builtins maxCallDepth) :=
  frame_addFrame_of_some ((frame_addFrame store _ _).trans (if_pos rfl))

theorem frame_openModule_inner :
    (store.openModule id realm maxCallDepth source macros exports).store.frames[
      store.frames.size + 1]? = some { link := .inside store.frames.size, maxCallDepth } := by
  have hbase : (store.addFrame (rootFrame id realm.builtins maxCallDepth)).maxCallDepth
      store.frames.size = maxCallDepth := by
    rw [Store.maxCallDepth, frame_addFrame, if_pos rfl]
    rfl
  refine (frame_addFrame _ _ _).trans ?_
  rw [size_addFrame, if_pos rfl, innerFrame, hbase]

theorem frame_openModule_of_some {i : FrameId} {frame : Frame}
    (h : store.frames[i]? = some frame) :
    (store.openModule id realm maxCallDepth source macros exports).store.frames[i]? =
      some frame :=
  frame_addFrame_of_some (frame_addFrame_of_some h)

theorem realm_openModule_self {found : Realm} (h : store.realms[id]? = some found) :
    (store.openModule id realm maxCallDepth source macros exports).store.realms[id]? =
      some (Eval.startLoading source found) := by
  refine (realm_modifyRealm _ id id _).trans ?_
  simp [h]

theorem realm_openModule_of_ne {i : RealmId} (h : id ≠ i) :
    (store.openModule id realm maxCallDepth source macros exports).store.realms[i]? =
      store.realms[i]? := by
  refine (realm_modifyRealm _ id i _).trans ?_
  simp [h]

end OpenModule

theorem frame_of_findModule {stack : Nat} {importer : FrameId} {source : String}
    {opening : Opening} (h : store.findModule stack importer source = .ok (.inr opening)) :
    ∃ frame : Frame, opening.store.frames[opening.frame]? = some frame ∧ frame.depth = 0 := by
  obtain ⟨id, realm, declared, macros, exports, _, _, _, _, _, _, rfl⟩ := findModule_eq_opening h
  refine ⟨_, (frame_addFrame _ _ _).trans (if_pos rfl), ?_⟩
  rfl

theorem stopLoading_startLoading {source : String} {realm : Realm}
    (h : source ∉ realm.loading) (loaded : Bindings LoadedModule) :
    Eval.stopLoading source { Eval.startLoading source realm with loaded } =
      { realm with loaded } := by
  have hfilter : (source :: realm.loading).filter (· ≠ source) = realm.loading := by
    rw [List.filter_cons_of_neg (by simp), List.filter_eq_self]
    rintro name hname
    simpa using fun heq : name = source => h (heq ▸ hname)
  simp only [Eval.stopLoading, Eval.startLoading, hfilter]

end JsonExpr.Store
