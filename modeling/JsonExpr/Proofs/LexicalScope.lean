import JsonExpr.Proofs.Limited
import JsonExpr.Proofs.Simulation

namespace JsonExpr

/-- All that a frame leads to has been seen: the frame around it, the frames in which its functions
were defined and, at a root, the modules that have been loaded. -/
structure Frame.Within (seen : FrameId → Prop) (realms : Array Realm) (frame : Frame) : Prop where
  outer : ∀ outer, frame.link = .inside outer → seen outer
  closure : ∀ name closure, (name, Function.user closure) ∈ frame.functions → seen closure.frame
  loaded : ∀ (id : RealmId) (realm : Realm) name entry, frame.link = .root id →
    realms[id]? = some realm → realm.loaded.get? name = some entry → seen entry.frame

namespace Store

/-- The frames that can be seen from a frame, going outwards, into functions and into the modules
that have been loaded. -/
inductive Reaches (store : Store) (start : FrameId) : FrameId → Prop
  | start : Reaches store start start
  | outer {i frame outer} : Reaches store start i → store.frames[i]? = some frame →
      frame.link = .inside outer → Reaches store start outer
  | closure {i frame name closure} : Reaches store start i → store.frames[i]? = some frame →
      (name, Function.user closure) ∈ frame.functions → Reaches store start closure.frame
  | loaded {i frame id realm name entry} : Reaches store start i → store.frames[i]? = some frame →
      frame.link = .root id → store.realms[id]? = some realm →
      realm.loaded.get? name = some entry → Reaches store start entry.frame

/-- Two stores that differ at most in the contents of frames that are not seen. -/
structure AgreeOn (seen : FrameId → Prop) (store other : Store) : Prop where
  size_eq : other.frames.size = store.frames.size
  realms_eq : other.realms = store.realms
  output_eq : other.output = store.output
  frame_eq : ∀ i, seen i → other.frames[i]? = store.frames[i]?

/-- The seen frames, with all that are still to come, lead to no other frame. -/
structure Encloses (seen : FrameId → Prop) (store : Store) : Prop where
  fresh : ∀ i, store.frames.size ≤ i → seen i
  within : ∀ (i : FrameId) (frame : Frame), seen i → store.frames[i]? = some frame →
    frame.Within seen store.realms

variable {seen : FrameId → Prop} {store other : Store} {env : FrameId}

namespace Encloses

theorem addFrame (h : store.Encloses seen) {frame : Frame}
    (hframe : frame.Within seen store.realms) : (store.addFrame frame).Encloses seen where
  fresh i hi := by
    rw [size_addFrame] at hi
    exact h.fresh i (Nat.le_of_succ_le hi)
  within i found hseen hfound := by
    rw [frame_addFrame] at hfound
    split at hfound
    · cases hfound
      exact hframe
    · exact h.within i found hseen hfound

theorem setVar (h : store.Encloses seen) (env : FrameId) (name : String) (value : Json) :
    (store.setVar env name value).Encloses seen where
  fresh i hi := h.fresh i (by rwa [size_setVar] at hi)
  within i found hseen hfound := by
    rw [frame_setVar] at hfound
    split at hfound
    · obtain ⟨frame, hframe, rfl⟩ := Option.map_eq_some_iff.mp hfound
      obtain ⟨houter, hclosure, hloaded⟩ := h.within i frame hseen hframe
      exact ⟨houter, hclosure, hloaded⟩
    · exact h.within i found hseen hfound

theorem setFunction (h : store.Encloses seen) (env : FrameId) (name : String) {function : Function}
    (hfunction : ∀ closure, function = .user closure → seen closure.frame) :
    (store.setFunction env name function).Encloses seen where
  fresh i hi := h.fresh i (by rwa [size_setFunction] at hi)
  within i found hseen hfound := by
    rw [frame_setFunction] at hfound
    split at hfound
    · obtain ⟨frame, hframe, rfl⟩ := Option.map_eq_some_iff.mp hfound
      obtain ⟨houter, hclosure, hloaded⟩ := h.within i frame hseen hframe
      refine ⟨houter, fun symbol closure hmem => ?_, hloaded⟩
      rcases Bindings.mem_set hmem with heq | hmem
      · cases heq
        exact hfunction closure rfl
      · exact hclosure symbol closure hmem
    · exact h.within i found hseen hfound

theorem modifyRealm (h : store.Encloses seen) (id : RealmId) {f : Realm → Realm}
    (hf : ∀ realm name entry, (f realm).loaded.get? name = some entry →
      realm.loaded.get? name = some entry ∨ seen entry.frame) :
    (store.modifyRealm id f).Encloses seen where
  fresh := h.fresh
  within i frame hseen hframe := by
    obtain ⟨houter, hclosure, hloaded⟩ := h.within i frame hseen hframe
    refine ⟨houter, hclosure, fun root realm name entry hlink hrealm hentry => ?_⟩
    rw [realm_modifyRealm] at hrealm
    split at hrealm
    · obtain ⟨before, hbefore, rfl⟩ := Option.map_eq_some_iff.mp hrealm
      rcases hf before name entry hentry with hold | hnew
      · exact hloaded root before name entry hlink hbefore hold
      · exact hnew
    · exact hloaded root realm name entry hlink hrealm hentry

end Encloses

namespace AgreeOn

theorem addFrame (h : store.AgreeOn seen other) (frame : Frame) :
    (store.addFrame frame).AgreeOn seen (other.addFrame frame) where
  size_eq := by rw [size_addFrame, size_addFrame, h.size_eq]
  realms_eq := h.realms_eq
  output_eq := h.output_eq
  frame_eq i hseen := by
    rw [frame_addFrame, frame_addFrame, h.size_eq, h.frame_eq i hseen]

theorem setVar (h : store.AgreeOn seen other) (env : FrameId) (name : String) (value : Json) :
    (store.setVar env name value).AgreeOn seen (other.setVar env name value) where
  size_eq := by rw [size_setVar, size_setVar, h.size_eq]
  realms_eq := h.realms_eq
  output_eq := h.output_eq
  frame_eq i hseen := by rw [frame_setVar, frame_setVar, h.frame_eq i hseen]

theorem setFunction (h : store.AgreeOn seen other) (env : FrameId) (name : String)
    (function : Function) :
    (store.setFunction env name function).AgreeOn seen (other.setFunction env name function) where
  size_eq := by rw [size_setFunction, size_setFunction, h.size_eq]
  realms_eq := h.realms_eq
  output_eq := h.output_eq
  frame_eq i hseen := by rw [frame_setFunction, frame_setFunction, h.frame_eq i hseen]

theorem modifyRealm (h : store.AgreeOn seen other) (id : RealmId) (f : Realm → Realm) :
    (store.modifyRealm id f).AgreeOn seen (other.modifyRealm id f) where
  size_eq := h.size_eq
  realms_eq := by rw [Store.modifyRealm, Store.modifyRealm, h.realms_eq]
  output_eq := h.output_eq
  frame_eq := h.frame_eq

theorem maxCallDepth_eq (h : store.AgreeOn seen other) (henv : seen env) :
    other.maxCallDepth env = store.maxCallDepth env := by
  rw [maxCallDepth, maxCallDepth, h.frame_eq env henv]

theorem depth_eq (h : store.AgreeOn seen other) (henv : seen env) :
    other.depth env = store.depth env := by
  rw [depth, depth, h.frame_eq env henv]

theorem chain_eq (h : store.AgreeOn seen other) (hencloses : store.Encloses seen)
    (henv : seen env) : other.chain env = store.chain env ∧ ∀ i ∈ store.chain env, seen i := by
  induction env using Nat.strongRecOn with
  | _ env ih =>
      have hframe := h.frame_eq env henv
      rw [chain, chain, hframe]
      cases hfound : store.frames[env]? with
      | none => exact ⟨rfl, fun _ hi => absurd hi List.not_mem_nil⟩
      | some frame =>
          cases hlink : frame.link with
          | root id =>
              simp only [hlink]
              exact ⟨trivial, fun i hi => List.mem_singleton.mp hi ▸ henv⟩
          | inside outer =>
              simp only [hlink]
              by_cases hlt : outer < env
              · obtain ⟨heq, hseen⟩ :=
                  ih outer hlt ((hencloses.within env frame henv hfound).outer outer hlink)
                simp only [if_pos hlt, heq]
                refine ⟨trivial, fun i hi => ?_⟩
                rcases List.mem_cons.mp hi with rfl | hi
                · exact henv
                · exact hseen i hi
              · simp only [if_neg hlt]
                exact ⟨trivial, fun i hi => List.mem_singleton.mp hi ▸ henv⟩

theorem root_eq (h : store.AgreeOn seen other) (hencloses : store.Encloses seen)
    (henv : seen env) : other.root env = store.root env ∧ seen (store.root env) := by
  obtain ⟨hchain, hseen⟩ := h.chain_eq hencloses henv
  rw [root, root, hchain]
  refine ⟨rfl, ?_⟩
  cases hlast : (store.chain env).getLast? with
  | none => exact henv
  | some last => exact hseen last (List.mem_of_getLast? hlast)

theorem realmOf?_eq (h : store.AgreeOn seen other) (hencloses : store.Encloses seen)
    (henv : seen env) : other.realmOf? env = store.realmOf? env := by
  obtain ⟨hroot, hseen⟩ := h.root_eq hencloses henv
  rw [realmOf?, realmOf?, hroot, h.frame_eq _ hseen]

end AgreeOn

/-- Two stores that cannot be told apart by what happens in seen frames. -/
structure Shares (seen : FrameId → Prop) (store other : Store) : Prop where
  agree : store.AgreeOn seen other
  encloses : store.Encloses seen

namespace Shares

theorem addFrame (h : store.Shares seen other) {frame : Frame}
    (hframe : frame.Within seen store.realms) :
    (store.addFrame frame).Shares seen (other.addFrame frame) :=
  ⟨h.agree.addFrame frame, h.encloses.addFrame hframe⟩

theorem addInner (h : store.Shares seen other) {outer : FrameId} (houter : seen outer) (depth : Int)
    (vars : Bindings Json) :
    (store.addFrame (store.innerFrame outer depth vars)).Shares seen
      (other.addFrame (other.innerFrame outer depth vars)) := by
  have hinner : other.innerFrame outer depth vars = store.innerFrame outer depth vars := by
    rw [innerFrame, innerFrame, h.agree.maxCallDepth_eq houter]
  rw [hinner]
  refine h.addFrame ⟨fun _ hlink => ?_, fun _ _ hmem => ?_, fun _ _ _ _ hlink => ?_⟩
  · cases hlink
    exact houter
  · cases hmem
  · cases hlink

theorem modifyRealm (h : store.Shares seen other) (id : RealmId) {f : Realm → Realm}
    (hf : ∀ realm name entry, (f realm).loaded.get? name = some entry →
      realm.loaded.get? name = some entry ∨ seen entry.frame) :
    (store.modifyRealm id f).Shares seen (other.modifyRealm id f) :=
  ⟨h.agree.modifyRealm id f, h.encloses.modifyRealm id hf⟩

theorem enter (h : store.Shares seen other) {caller again : FrameId}
    (hdepth : other.depth again = store.depth caller)
    (hlimit : other.maxCallDepth again = store.maxCallDepth caller) {closure : Closure}
    (hclosure : seen closure.frame) (args : List Json) :
    Corresponds (fun _ => False) (Shares seen) seen (Eval.enter closure args caller store)
      (Eval.enter closure args again other) := by
  have hexceeded : other.exceeded? again = store.exceeded? caller := by
    rw [exceeded?, exceeded?, hlimit, hdepth]
  rw [Eval.enter_apply, Eval.enter_apply, hexceeded]
  cases store.exceeded? caller with
  | some limit => exact .error h
  | none =>
      cases bindArguments closure.name closure.params args with
      | error e => exact .error h
      | ok vars =>
          simp only [h.agree.size_eq, hdepth]
          exact .ok (h.encloses.fresh _ (Nat.le_refl _)) (h.addInner hclosure _ vars)

theorem exists_root_of_realmOf? {id : RealmId} (h : store.realmOf? env = some id) :
    ∃ frame, store.frames[store.root env]? = some frame ∧ frame.link = .root id := by
  rw [realmOf?] at h
  split at h
  · rename_i hframe
    cases h
    exact ⟨_, hframe, rfl⟩
  · cases h

theorem rootFrame_within (h : store.Encloses seen) {root : FrameId} (hroot : seen root)
    {frame : Frame} (hframe : store.frames[root]? = some frame) {id : RealmId}
    (hlink : frame.link = .root id) (builtins : Bindings Builtin) (limit : Option Int) :
    (rootFrame id builtins limit).Within seen store.realms where
  outer _ hinside := by cases hinside
  closure name closure hmem := by
    obtain ⟨entry, _, heq⟩ := List.mem_map.mp (Bindings.mem_ofList hmem)
    cases heq
  loaded _ realm name entry hsame := by
    cases hsame
    exact (h.within root frame hroot hframe).loaded id realm name entry hlink

theorem openModule (h : store.Shares seen other) {id : RealmId} {realm : Realm} {limit : Option Int}
    (hbase : (rootFrame id realm.builtins limit).Within seen store.realms) (source : String)
    (macros : List String) (exports : List Expr) :
    (store.openModule id realm limit source macros exports).Matches (Shares seen) seen
      (other.openModule id realm limit source macros exports) := by
  have hlive : seen (store.openModule id realm limit source macros exports).frame := by
    rw [openModule_frame]
    exact h.encloses.fresh _ (Nat.le_succ _)
  have hloading {final ended : Store} (hfinal : final.Shares seen ended) :
      (final.modifyRealm id (Eval.stopLoading source)).Shares seen
        (ended.modifyRealm id (Eval.stopLoading source)) :=
    hfinal.modifyRealm id fun _ _ _ => .inl
  have hloaded : (other.openModule id realm limit source macros exports).loaded =
      (store.openModule id realm limit source macros exports).loaded := by
    simp only [Opening.loaded, openModule_frame, h.agree.size_eq]
    rfl
  refine ⟨hloaded, rfl, hlive, ?_, hloading, fun hfinal => ?_⟩
  · have hinner := (h.addFrame hbase).addInner (h.encloses.fresh _ (Nat.le_refl _)) 0 []
    have hstarted := hinner.modifyRealm id (f := Eval.startLoading source) fun _ _ _ => .inl
    simp only [Store.openModule, h.agree.size_eq]
    exact hstarted
  · simp only [Opening.finish, hloaded]
    refine (hloading hfinal).modifyRealm id fun realm name entry hentry => ?_
    rcases Bindings.get?_set_cases hentry with ⟨_, rfl⟩ | hbefore
    · exact .inr hlive
    · exact .inl hbefore

theorem find (h : store.Shares seen other) (henv : seen env) (stack : Nat) (source : String) :
    Found (fun _ => False) (Shares seen) seen (store.findModule stack env source)
      (other.findModule stack env source) := by
  obtain ⟨hroot, hseen⟩ := h.agree.root_eq h.encloses henv
  refine .of_realms_eq (h.agree.realmOf?_eq h.encloses henv) h.agree.realms_eq ?_ ?_ ?_
  · rw [hroot, h.agree.maxCallDepth_eq hseen]
  · intro id realm loaded hid hrealm hloaded
    obtain ⟨root, hframe, hlink⟩ := exists_root_of_realmOf? hid
    have hwithin := h.encloses.within _ root hseen hframe
    exact hwithin.loaded id realm source loaded hlink hrealm hloaded
  · intro id realm macros exports hid
    obtain ⟨root, hframe, hlink⟩ := exists_root_of_realmOf? hid
    refine h.openModule ?_ source macros exports
    exact rootFrame_within h.encloses hseen hframe hlink _ _

end Shares

theorem simulation_shares (seen : FrameId → Prop) :
    Simulation (fun _ => False) (Shares seen) seen where
  chain_eq h henv := (h.agree.chain_eq h.encloses henv).1
  chain_live h henv := (h.agree.chain_eq h.encloses henv).2
  vars_eq h hi := by rw [h.agree.frame_eq _ hi]
  functions_eq h hi := by rw [h.agree.frame_eq _ hi]
  closure_live h hi hframe hget :=
    (h.encloses.within _ _ hi hframe).closure _ _ (Bindings.mem_of_get? hget)
  setVar name value h _ := ⟨h.agree.setVar _ name value, h.encloses.setVar _ name value⟩
  setFunction name h _ hfunction :=
    ⟨h.agree.setFunction _ name _, h.encloses.setFunction _ name hfunction⟩
  print text h :=
    ⟨⟨h.agree.size_eq, h.agree.realms_eq, by rw [h.agree.output_eq], h.agree.frame_eq⟩,
      ⟨h.encloses.fresh, h.encloses.within⟩⟩
  enter args h henv hclosure :=
    h.enter (h.agree.depth_eq henv) (h.agree.maxCallDepth_eq henv) hclosure args
  find stack source h henv := h.find henv stack source

/-- The frames that a call can see, before it is made and while it is going on. -/
def Visible (store : Store) (closure : Closure) (i : FrameId) : Prop :=
  store.Reaches closure.frame i ∨ store.frames.size ≤ i

theorem encloses_visible (store : Store) (closure : Closure) :
    store.Encloses (store.Visible closure) where
  fresh _ hi := .inr hi
  within i frame hvisible hframe := by
    have hreaches : store.Reaches closure.frame i := by
      refine hvisible.resolve_right fun hsize => ?_
      exact Nat.not_le_of_lt (lt_size_of_frame hframe) hsize
    exact ⟨fun _ hlink => .inl (.outer hreaches hframe hlink),
      fun _ _ hmem => .inl (.closure hreaches hframe hmem),
      fun _ _ _ _ hlink hrealm hentry => .inl (.loaded hreaches hframe hlink hrealm hentry)⟩

theorem shares_visible {closure : Closure}
    (h : store.AgreeOn (store.Reaches closure.frame) other) :
    store.Shares (store.Visible closure) other := by
  refine ⟨⟨h.size_eq, h.realms_eq, h.output_eq, fun i hvisible => ?_⟩,
    encloses_visible store closure⟩
  rcases hvisible with hreaches | hsize
  · exact h.frame_eq i hreaches
  · rw [Array.getElem?_eq_none hsize, Array.getElem?_eq_none (h.size_eq ▸ hsize)]

/-- A call gives the same value or the same error, prints the same and leaves the same in all frames
that it can see, in any two stores that agree on what can be seen from the frame of the function,
and from any two callers at the same depth and under the same limit. -/
theorem applyClosure_noninterference {closure : Closure}
    (h : store.AgreeOn (store.Reaches closure.frame) other) {caller again : FrameId}
    (hdepth : other.depth again = store.depth caller)
    (hlimit : other.maxCallDepth again = store.maxCallDepth caller) (stack : Nat)
    (args : List Json) :
    match Eval.applyClosure (Eval.evaluate stack) closure args caller store,
      Eval.applyClosure (Eval.evaluate stack) closure args again other with
    | .ok value final, .ok result ended =>
        result = value ∧ final.AgreeOn (store.Visible closure) ended
    | .error e final, .error err ended => err = e ∧ final.AgreeOn (store.Visible closure) ended
    | _, _ => False := by
  have hsimulation := simulation_shares (store.Visible closure)
  have hcall : Corresponds (fun _ => False) (Shares (store.Visible closure)) (fun _ => True)
      (Eval.applyClosure (Eval.evaluate stack) closure args caller store)
      (Eval.applyClosure (Eval.evaluate stack) closure args again other) := by
    refine .bind ((shares_visible h).enter hdepth hlimit (.inl .start) args) ?_
    exact fun callee entered landed => hsimulation.evaluate stack closure.body callee entered landed
  revert hcall
  generalize Eval.applyClosure (Eval.evaluate stack) closure args caller store = first,
    Eval.applyClosure (Eval.evaluate stack) closure args again other = second
  intro hcall
  cases hcall with
  | ok _ hshares => exact ⟨rfl, hshares.agree⟩
  | error hshares => exact ⟨rfl, hshares.agree⟩
  | excused hexcused => exact hexcused.elim

/-- A function of the root frame that looks up `x`. -/
def lookup : Closure :=
  { name := "lookup", params := [], body := .ref "x", frame := 0 }

/-- A root frame with the function, and a frame to call it from in which `x` is bound. -/
def callerWith (value : Json) : Store :=
  { frames := #[
      { functions := [("lookup", .user lookup)], link := .root 0, maxCallDepth := some 1 },
      { vars := [("x", value)], link := .inside 0, maxCallDepth := some 1 }],
    realms := #[{}] }

theorem reaches_callerWith {value : Json} {i : FrameId} (h : (callerWith value).Reaches 0 i) :
    i = 0 := by
  induction h with
  | start => rfl
  | outer _ hframe hlink ih =>
      subst ih
      cases hframe
      cases hlink
  | closure _ hframe hmem ih =>
      subst ih
      cases hframe
      cases List.mem_singleton.mp hmem
      rfl
  | loaded _ hframe hlink hrealm hentry ih =>
      subst ih
      cases hframe
      cases hlink
      cases hrealm
      cases hentry

/-- Whatever the caller binds `x` to, the call of the function ends alike. -/
theorem applyClosure_noninterference_callerWith :
    (callerWith (.bool true)).AgreeOn ((callerWith (.bool true)).Reaches lookup.frame)
        (callerWith (.bool false)) ∧
      match Eval.applyClosure (Eval.evaluate 2) lookup [] 1 (callerWith (.bool true)),
        Eval.applyClosure (Eval.evaluate 2) lookup [] 1 (callerWith (.bool false)) with
      | .ok value final, .ok result ended =>
          result = value ∧ final.AgreeOn ((callerWith (.bool true)).Visible lookup) ended
      | .error e final, .error err ended =>
          err = e ∧ final.AgreeOn ((callerWith (.bool true)).Visible lookup) ended
      | _, _ => False := by
  have hagree : (callerWith (.bool true)).AgreeOn ((callerWith (.bool true)).Reaches lookup.frame)
      (callerWith (.bool false)) :=
    ⟨rfl, rfl, rfl, fun i hi => by rw [reaches_callerWith hi]; rfl⟩
  exact ⟨hagree, applyClosure_noninterference hagree rfl rfl 2 []⟩

end Store

end JsonExpr
