import JsonExpr.Proofs.FrameLaw

namespace JsonExpr

theorem Bindings.mem_update {α : Type} {bound more : Bindings α} {entry : String × α}
    (h : entry ∈ bound.update more) : entry ∈ bound ∨ entry ∈ more := by
  induction more generalizing bound with
  | nil => exact .inl h
  | cons first rest ih =>
      rcases ih h with hset | hrest
      · rcases mem_set hset with rfl | hbound
        · exact .inr List.mem_cons_self
        · exact .inl hbound
      · exact .inr (List.mem_cons_of_mem _ hrest)

theorem Bindings.mem_ofList {α : Type} {pairs : List (String × α)} {entry : String × α}
    (h : entry ∈ ofList pairs) : entry ∈ pairs := by
  rcases mem_update h with hnil | hpairs
  · cases hnil
  · exact hpairs

/-- A frame under the limit, with functions that are defined in one of the first `size` frames. -/
structure Frame.Limited (limit : Int) (size : Nat) (frame : Frame) : Prop where
  maxCallDepth_eq : frame.maxCallDepth = some limit
  closure_lt : ∀ name closure, (name, Function.user closure) ∈ frame.functions →
    closure.frame < size

theorem Frame.Limited.mono {limit : Int} {size larger : Nat} {frame : Frame}
    (h : frame.Limited limit size) (hle : size ≤ larger) : frame.Limited limit larger where
  maxCallDepth_eq := h.maxCallDepth_eq
  closure_lt name closure hmem := Nat.lt_of_lt_of_le (h.closure_lt name closure hmem) hle

namespace Store

/-- All frames are under the limit, and all functions are defined in a frame that exists. -/
def Limited (limit : Int) (store : Store) : Prop :=
  ∀ (i : FrameId) (frame : Frame), store.frames[i]? = some frame →
    frame.Limited limit store.frames.size

variable {limit : Int} {store : Store}

theorem mem_chain_lt {id i : FrameId} (h : i ∈ store.chain id) : i < store.frames.size := by
  induction id using Nat.strongRecOn with
  | _ id ih =>
      rw [chain] at h
      split at h
      · cases h
      · rename_i frame hframe
        have hid := lt_size_of_frame hframe
        split at h
        · obtain rfl := List.mem_singleton.mp h
          exact hid
        · rename_i outer _
          by_cases houter : outer < id
          · rw [if_pos houter] at h
            rcases List.mem_cons.mp h with rfl | h
            · exact hid
            · exact ih outer houter h
          · rw [if_neg houter] at h
            obtain rfl := List.mem_singleton.mp h
            exact hid

theorem root_lt {id : FrameId} (h : id < store.frames.size) :
    store.root id < store.frames.size := by
  rw [root]
  cases hlast : (store.chain id).getLast? with
  | none => exact h
  | some last => exact mem_chain_lt (List.mem_of_getLast? hlast)

theorem exists_frame_of_function? {id : FrameId} {name : String} {function : Function}
    (h : store.function? id name = some function) :
    ∃ (i : FrameId) (frame : Frame), store.frames[i]? = some frame ∧
      frame.functions.get? name = some function := by
  obtain ⟨i, _, hi⟩ := List.exists_of_findSome?_eq_some h
  obtain ⟨frame, hframe, hfunction⟩ := Option.bind_eq_some_iff.mp hi
  exact ⟨i, frame, hframe, hfunction⟩

namespace Limited

theorem maxCallDepth (h : store.Limited limit) {id : FrameId} (hid : id < store.frames.size) :
    store.maxCallDepth id = some limit := by
  obtain ⟨frame, hframe⟩ := exists_frame hid
  rw [Store.maxCallDepth, hframe]
  exact (h id frame hframe).maxCallDepth_eq

theorem closure_lt (h : store.Limited limit) {id : FrameId} {name : String} {closure : Closure}
    (hfunction : store.function? id name = some (.user closure)) :
    closure.frame < store.frames.size := by
  obtain ⟨i, frame, hframe, hget⟩ := exists_frame_of_function? hfunction
  exact (h i frame hframe).closure_lt name closure (Bindings.mem_of_get? hget)

theorem of_frames_eq {other : Store} (h : store.Limited limit)
    (hframes : other.frames = store.frames) : other.Limited limit := by
  intro i frame hframe
  rw [hframes] at hframe ⊢
  exact h i frame hframe

theorem addFrame (h : store.Limited limit) {frame : Frame}
    (hframe : frame.Limited limit store.frames.size) : (store.addFrame frame).Limited limit := by
  intro i found hfound
  rw [size_addFrame]
  rw [frame_addFrame] at hfound
  split at hfound
  · cases hfound
    exact hframe.mono (Nat.le_succ _)
  · exact (h i found hfound).mono (Nat.le_succ _)

theorem setVar (h : store.Limited limit) (id : FrameId) (name : String) (value : Json) :
    (store.setVar id name value).Limited limit := by
  intro i found hfound
  rw [size_setVar]
  rw [frame_setVar] at hfound
  split at hfound
  · obtain ⟨frame, hframe, rfl⟩ := Option.map_eq_some_iff.mp hfound
    obtain ⟨hlimit, hclosure⟩ := h i frame hframe
    exact ⟨hlimit, hclosure⟩
  · exact h i found hfound

theorem setFunction (h : store.Limited limit) (id : FrameId) (name : String) {function : Function}
    (hfunction : ∀ closure, function = .user closure → closure.frame < store.frames.size) :
    (store.setFunction id name function).Limited limit := by
  intro i found hfound
  rw [size_setFunction]
  rw [frame_setFunction] at hfound
  split at hfound
  · obtain ⟨frame, hframe, rfl⟩ := Option.map_eq_some_iff.mp hfound
    obtain ⟨hlimit, hclosure⟩ := h i frame hframe
    refine ⟨hlimit, fun bound closure hmem => ?_⟩
    rcases Bindings.mem_set hmem with heq | hmem
    · exact hfunction closure (congrArg Prod.snd heq).symm
    · exact hclosure bound closure hmem
  · exact h i found hfound

end Limited

theorem limited_rootFrame (limit : Int) (size : Nat) (realm : RealmId)
    (builtins : Bindings Builtin) :
    (rootFrame realm builtins (some limit)).Limited limit size where
  maxCallDepth_eq := rfl
  closure_lt name closure hmem := by
    obtain ⟨entry, _, heq⟩ := List.mem_map.mp (Bindings.mem_ofList hmem)
    cases heq

theorem Limited.innerFrame (h : store.Limited limit) {outer : FrameId}
    (houter : outer < store.frames.size) (depth : Int) (vars : Bindings Json) (size : Nat) :
    (store.innerFrame outer depth vars).Limited limit size where
  maxCallDepth_eq := h.maxCallDepth houter
  closure_lt _ _ hmem := by cases hmem

theorem Limited.enter (h : store.Limited limit) {target : String} {closure : Closure}
    {args : List Json} {caller callee : FrameId} {entered : Store}
    (hfunction : store.function? caller target = some (.user closure))
    (henter : Eval.enter closure args caller store = .ok callee entered) :
    entered.Limited limit := by
  obtain ⟨_, vars, _, _, rfl⟩ := Eval.enter_eq_ok henter
  exact h.addFrame (h.innerFrame (h.closure_lt hfunction) _ vars _)

theorem Limited.openModule (h : store.Limited limit) {stack : Nat} {importer : FrameId}
    {source : String} {opening : Opening} (himporter : importer < store.frames.size)
    (hopen : store.findModule stack importer source = .ok (.inr opening)) :
    opening.store.Limited limit := by
  obtain ⟨id, realm, declared, macros, exports, _, _, _, _, _, _, rfl⟩ :=
    findModule_eq_opening hopen
  have hroot : store.maxCallDepth (store.root importer) = some limit :=
    h.maxCallDepth (root_lt himporter)
  have hbased := h.addFrame (limited_rootFrame limit _ id realm.builtins)
  rw [hroot]
  refine of_frames_eq (hbased.addFrame (hbased.innerFrame ?_ 0 [] _)) rfl
  rw [size_addFrame]
  exact Nat.lt_succ_self _

theorem Limited.effect {env : FrameId} {may : Namespace → List String} {before after : Store}
    (h : before.Limited limit) (henv : env < before.frames.size)
    (heffect : Effect env may before after) : after.Limited limit := by
  induction heffect with
  | none => exact h
  | next hfirst _ ihFirst ihSecond =>
      obtain ⟨frame, hframe⟩ := exists_frame henv
      obtain ⟨later, hlater, _⟩ := (framed_of_effect hfirst).own frame hframe
      exact ihSecond (ihFirst h henv) (lt_size_of_frame hlater)
  | printed text => exact h.of_frames_eq rfl
  | assigned value _ => exact h.setVar _ _ value
  | defined params body _ =>
      refine h.setFunction _ _ fun closure heq => ?_
      cases heq
      exact henv
  | @imported env may store symbol source frame function _ hframe hfunction =>
      refine h.setFunction _ _ fun closure heq => ?_
      subst heq
      exact (h source frame hframe).closure_lt symbol closure (Bindings.mem_of_get? hfunction)
  | call hfunction henter _ ih =>
      obtain ⟨_, vars, _, rfl, rfl⟩ := Eval.enter_eq_ok henter
      refine ih (h.enter hfunction henter) ?_
      rw [size_addFrame]
      exact Nat.lt_succ_self _
  | failedLoad hopen _ ih =>
      obtain ⟨frame, hframe, _⟩ := frame_of_findModule hopen
      exact (ih (h.openModule henv hopen) (lt_size_of_frame hframe)).of_frames_eq rfl
  | load hopen _ _ ih =>
      obtain ⟨frame, hframe, _⟩ := frame_of_findModule hopen
      exact (ih (h.openModule henv hopen) (lt_size_of_frame hframe)).of_frames_eq rfl

end Store

end JsonExpr
