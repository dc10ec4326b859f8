import JsonExpr.Proofs.CallLimit

namespace JsonExpr

theorem Store.frame_openModule_cases {store : Store} {id : RealmId} {realm : Realm}
    {maxCallDepth : Option Int} {source : String} {macros : List String} {exports : List Expr}
    {i : FrameId} {frame : Frame}
    (h : (store.openModule id realm maxCallDepth source macros exports).store.frames[i]? =
      some frame) :
    store.frames[i]? = some frame ∨
      i = store.frames.size ∧ frame = rootFrame id realm.builtins maxCallDepth ∨
      frame = { link := .inside store.frames.size, maxCallDepth } := by
  by_cases hinner : i = store.frames.size + 1
  · subst hinner
    exact .inr (.inr (Option.some.inj (h.symm.trans frame_openModule_inner)))
  by_cases hbase : i = store.frames.size
  · subst hbase
    exact .inr (.inl ⟨rfl, Option.some.inj (h.symm.trans frame_openModule_base)⟩)
  have hframes := (frame_addFrame _ _ i).symm.trans h
  rw [size_addFrame, if_neg hinner, frame_addFrame, if_neg hbase] at hframes
  exact .inl hframes

namespace Interpreter

/-- A function that a frame may hold by a name: the builtin of that name or one that a program
defines. -/
def Admits (interpreter : Interpreter) (name : String) (function : Function) : Prop :=
  (∃ closure, function = .user closure) ∨
    interpreter.baseFrame.functions.get? name = some function

/-- What the frames of a store are like besides being linked soundly: no frame is nested in more
calls than the limit allows, no frame holds a builtin by a name that is not its own, a root frame
has a function for every name of a builtin, and every root but the first has the frame of a module
in it. -/
structure Shaped (interpreter : Interpreter) (store : Store) : Prop where
  depth : ∀ (i : FrameId) (frame : Frame), store.frames[i]? = some frame →
    0 ≤ frame.depth ∧ frame.depth ≤ max interpreter.maxCallDepth 0
  admits : ∀ (i : FrameId) (frame : Frame), store.frames[i]? = some frame →
    ∀ name function, frame.functions.get? name = some function → interpreter.Admits name function
  names : ∀ (i : FrameId) (frame : Frame), store.frames[i]? = some frame →
    frame.link = .root 0 → interpreter.baseFrame.functions.names <+: frame.functions.names
  inner : ∀ (i : FrameId) (frame : Frame), store.frames[i]? = some frame →
    frame.link = .root 0 → i = 0 ∨
      ∃ inner, store.frames[i + 1]? = some inner ∧ inner.link = .inside i

variable {interpreter : Interpreter} {modules : Bindings Module} {store : Store} {env : FrameId}

namespace Shaped

theorem of_frames_eq (h : interpreter.Shaped store) {after : Store}
    (hframes : after.frames = store.frames) : interpreter.Shaped after where
  depth := hframes ▸ h.depth
  admits := hframes ▸ h.admits
  names := hframes ▸ h.names
  inner := hframes ▸ h.inner

theorem write (h : interpreter.Shaped store) {may : Namespace → List String} {after : Store}
    (hframed : store.Framed env may after) (hsize : after.frames.size = store.frames.size)
    (hadmits : ∀ frame, after.frames[env]? = some frame →
      ∀ name function, frame.functions.get? name = some function →
        interpreter.Admits name function) :
    interpreter.Shaped after := by
  have hkept (i : FrameId) (old : Frame) (hold : store.frames[i]? = some old) :
      ∃ frame, after.frames[i]? = some frame ∧ frame.link = old.link ∧ frame.depth = old.depth ∧
        old.functions.names <+: frame.functions.names := by
    by_cases hi : i = env
    · subst hi
      obtain ⟨frame, hframe, hgrows⟩ := hframed.own old hold
      exact ⟨frame, hframe, hgrows.link, hgrows.depth, hgrows.functions.names_prefix⟩
    · exact ⟨old, hframed.others i old hi hold, rfl, rfl, List.prefix_rfl⟩
  have hold (i : FrameId) (frame : Frame) (hframe : after.frames[i]? = some frame) :
      ∃ old, store.frames[i]? = some old ∧ frame.link = old.link ∧ frame.depth = old.depth ∧
        old.functions.names <+: frame.functions.names := by
    obtain ⟨old, hold⟩ := Store.exists_frame (hsize ▸ Store.lt_size_of_frame hframe)
    obtain ⟨found, hfound, hsame⟩ := hkept i old hold
    obtain rfl : found = frame := Option.some.inj (hfound.symm.trans hframe)
    exact ⟨old, hold, hsame⟩
  constructor
  · intro i frame hframe
    obtain ⟨old, hold, _, hdepth, _⟩ := hold i frame hframe
    rw [hdepth]
    exact h.depth i old hold
  · intro i frame hframe
    by_cases hi : i = env
    · exact hadmits frame (hi ▸ hframe)
    · obtain ⟨old, hold, _⟩ := hold i frame hframe
      obtain rfl : old = frame :=
        Option.some.inj ((hframed.others i old hi hold).symm.trans hframe)
      exact h.admits i old hold
  · intro i frame hframe hroot
    obtain ⟨old, hold, hlink, _, hnames⟩ := hold i frame hframe
    exact (h.names i old hold (hlink ▸ hroot)).trans hnames
  · intro i frame hframe hroot
    obtain ⟨old, hold, hlink, _, _⟩ := hold i frame hframe
    refine (h.inner i old hold (hlink ▸ hroot)).imp_right ?_
    rintro ⟨inner, hinner, hinside⟩
    obtain ⟨later, hlater, hsame, _, _⟩ := hkept (i + 1) inner hinner
    exact ⟨later, hlater, hsame.trans hinside⟩

theorem setVar (h : interpreter.Shaped store) {may : Namespace → List String} {name : String}
    (value : Json) (hname : name ∈ may .vars) :
    interpreter.Shaped (store.setVar env name value) := by
  refine h.write (Store.framed_setVar _ value hname) (Store.size_setVar _ _ _ _) ?_
  intro frame hframe
  rw [Store.frame_setVar, if_pos rfl] at hframe
  obtain ⟨old, hold, rfl⟩ := Option.map_eq_some_iff.mp hframe
  exact h.admits env old hold

theorem setFunction (h : interpreter.Shaped store) {may : Namespace → List String}
    {name : String} {function : Function} (hname : name ∈ may .functions)
    (hfunction : interpreter.Admits name function) :
    interpreter.Shaped (store.setFunction env name function) := by
  refine h.write (Store.framed_setFunction _ function hname) (Store.size_setFunction _ _ _ _) ?_
  intro frame hframe other found hfound
  rw [Store.frame_setFunction, if_pos rfl] at hframe
  obtain ⟨old, hold, rfl⟩ := Option.map_eq_some_iff.mp hframe
  rcases Bindings.get?_set_cases hfound with ⟨rfl, rfl⟩ | hbefore
  · exact hfunction
  · exact h.admits env old hold other found hbefore

theorem addInner (h : interpreter.Shaped store) {outer : FrameId} {depth : Int}
    {vars : Bindings Json} (hdepth : 0 ≤ depth ∧ depth ≤ max interpreter.maxCallDepth 0) :
    interpreter.Shaped (store.addFrame (store.innerFrame outer depth vars)) := by
  have hnew (i : FrameId) (frame : Frame)
      (hframe : (store.addFrame (store.innerFrame outer depth vars)).frames[i]? = some frame) :
      store.frames[i]? = some frame ∨ frame = store.innerFrame outer depth vars := by
    rw [Store.frame_addFrame] at hframe
    split at hframe
    · exact .inr (Option.some.inj hframe).symm
    · exact .inl hframe
  constructor
  · intro i frame hframe
    rcases hnew i frame hframe with hold | rfl
    · exact h.depth i frame hold
    · exact hdepth
  · intro i frame hframe
    rcases hnew i frame hframe with hold | rfl
    · exact h.admits i frame hold
    · intro _ _ hfunction
      cases hfunction
  · intro i frame hframe hroot
    rcases hnew i frame hframe with hold | rfl
    · exact h.names i frame hold hroot
    · cases hroot
  · intro i frame hframe hroot
    rcases hnew i frame hframe with hold | rfl
    · refine (h.inner i frame hold hroot).imp_right ?_
      rintro ⟨inner, hinner, hlink⟩
      exact ⟨inner, Store.frame_addFrame_of_some hinner, hlink⟩
    · cases hroot

theorem enter (h : interpreter.Shaped store) (hactive : interpreter.Active modules store env)
    {closure : Closure} {args : List Json} {callee : FrameId} {entered : Store}
    (henter : Eval.enter closure args env store = .ok callee entered) :
    interpreter.Shaped entered := by
  obtain ⟨hlimit, vars, _, _, rfl⟩ := Eval.enter_eq_ok henter
  obtain ⟨frame, hframe⟩ := Store.exists_frame hactive.lt_size
  obtain ⟨hlower, hupper⟩ := h.depth env frame hframe
  have hdepth : store.depth env = frame.depth := by
    rw [Store.depth, hframe]
  have hle : store.depth env + 1 ≤ interpreter.maxCallDepth := by
    rw [Store.exceeded?, hactive.sound.limited.maxCallDepth hactive.lt_size] at hlimit
    by_contra hlt
    simp [Int.not_le.mp hlt] at hlimit
  refine h.addInner ⟨?_, ?_⟩
  · rw [hdepth]
    omega
  · exact hle.trans (le_max_left _ _)

theorem opening (h : interpreter.Shaped store) (hactive : interpreter.Active modules store env)
    {stack : Nat} {source : String} {opening : Opening}
    (hopen : store.findModule stack env source = .ok (.inr opening)) :
    interpreter.Shaped opening.store := by
  obtain ⟨_, macros, exports, _, _, _, _, rfl⟩ :=
    hactive.sound.findModule_eq_opening hactive.lt_size hopen
  have hbase : Store.rootFrame 0 store.registry.builtins (some interpreter.maxCallDepth) =
      interpreter.baseFrame := by
    rw [hactive.sound.registry_eq]
    rfl
  have hzero : (0 : Int) ≤ 0 ∧ (0 : Int) ≤ max interpreter.maxCallDepth 0 :=
    ⟨le_refl 0, le_max_right _ _⟩
  constructor
  · intro i frame hframe
    rcases Store.frame_openModule_cases hframe with hold | ⟨_, rfl⟩ | rfl
    · exact h.depth i frame hold
    · exact hzero
    · exact hzero
  · intro i frame hframe
    rcases Store.frame_openModule_cases hframe with hold | ⟨_, rfl⟩ | rfl
    · exact h.admits i frame hold
    · rw [hbase]
      exact fun _ _ => .inr
    · intro _ _ hfunction
      cases hfunction
  · intro i frame hframe hroot
    rcases Store.frame_openModule_cases hframe with hold | ⟨_, rfl⟩ | rfl
    · exact h.names i frame hold hroot
    · rw [hbase]
    · cases hroot
  · intro i frame hframe hroot
    rcases Store.frame_openModule_cases hframe with hold | ⟨rfl, rfl⟩ | rfl
    · refine (h.inner i frame hold hroot).imp_right ?_
      rintro ⟨inner, hinner, hlink⟩
      exact ⟨inner, Store.frame_openModule_of_some hinner, hlink⟩
    · exact .inr ⟨_, Store.frame_openModule_inner, rfl⟩
    · cases hroot

theorem effect {may : Namespace → List String} {before after : Store}
    (h : interpreter.Shaped before) (hactive : interpreter.Active modules before env)
    (heffect : Effect env may before after) : interpreter.Shaped after := by
  induction heffect with
  | none => exact h
  | next heffect _ ihFirst ihSecond =>
      exact ihSecond (ihFirst h hactive) (hactive.effect heffect).1
  | printed text => exact h.of_frames_eq rfl
  | assigned value hname => exact h.setVar value hname
  | defined params body hname => exact h.setFunction hname (.inl ⟨_, rfl⟩)
  | imported hsymbol hframe hfunction =>
      -- An imported function keeps its name, so a builtin would keep its own.
      exact h.setFunction hsymbol (h.admits _ _ hframe _ _ hfunction)
  | call hfunction henter _ ih =>
      exact ih (h.enter hactive henter) (hactive.enter hfunction henter).1
  | failedLoad hopen _ ih =>
      exact (ih (h.opening hactive hopen) (hactive.opening hopen).1).of_frames_eq rfl
  | load hopen _ _ ih =>
      exact (ih (h.opening hactive hopen) (hactive.opening hopen).1).of_frames_eq rfl

end Shaped

theorem invariant_shaped (interpreter : Interpreter) :
    interpreter.Invariant fun modules _ store env =>
      interpreter.Active modules store env ∧ interpreter.Shaped store where
  fresh modules := by
    have hframe (i : FrameId) (frame : Frame)
        (h : (interpreter.freshStore modules).frames[i]? = some frame) :
        i = 0 ∧ frame = interpreter.baseFrame := by
      obtain ⟨hlt, rfl⟩ := Array.getElem?_eq_some_iff.mp h
      obtain rfl : i = 0 := Nat.lt_one_iff.mp hlt
      exact ⟨rfl, rfl⟩
    refine ⟨interpreter.active_freshStore modules, ?_, ?_, ?_, ?_⟩
    · intro i frame h
      obtain ⟨_, rfl⟩ := hframe i frame h
      exact ⟨le_refl 0, le_max_right _ _⟩
    · intro i frame h
      obtain ⟨_, rfl⟩ := hframe i frame h
      exact fun _ _ => .inr
    · intro i frame h _
      obtain ⟨_, rfl⟩ := hframe i frame h
      exact List.prefix_rfl
    · intro i frame h _
      exact .inl (hframe i frame h).1
  output text h := ⟨h.1.withOutput text, h.2.of_frames_eq rfl⟩
  effect h heffect := ⟨(h.1.effect heffect).1, h.2.effect h.1 heffect⟩
  enter h hfunction henter := ⟨(h.1.enter hfunction henter).1, h.2.enter h.1 henter⟩
  opening h hopen := ⟨(h.1.opening hopen).1, h.2.opening h.1 hopen⟩

/-- The store of a session whose latest program declares the modules. -/
structure WellFormed (interpreter : Interpreter) (modules : Bindings Module) (store : Store) :
    Prop where
  /-- Every frame is a root or stands inside an older frame. -/
  linked : ∀ (i : FrameId) (frame : Frame), store.frames[i]? = some frame →
    frame.link = .root 0 ∨ ∃ outer, outer < i ∧ frame.link = .inside outer
  /-- Going outwards ends in the root frame of the program or in that of a module. -/
  root : ∀ i < store.frames.size, ∃ frame, store.frames[store.root i]? = some frame ∧
    frame.link = .root 0 ∧ (store.root i = 0 ∨ frame = interpreter.baseFrame ∧
      ∃ inner, store.frames[store.root i + 1]? = some inner ∧ inner.link = .inside (store.root i))
  closures : ∀ (i : FrameId) (frame : Frame), store.frames[i]? = some frame →
    ∀ name closure, (name, Function.user closure) ∈ frame.functions →
      closure.frame < store.frames.size
  limit : ∀ (i : FrameId) (frame : Frame), store.frames[i]? = some frame →
    frame.maxCallDepth = some interpreter.maxCallDepth
  depth : ∀ (i : FrameId) (frame : Frame), store.frames[i]? = some frame →
    0 ≤ frame.depth ∧ frame.depth ≤ max interpreter.maxCallDepth 0
  /-- Every root holds the builtins, but for those that the program has redefined. -/
  builtins : ∀ (i : FrameId) (frame : Frame), store.frames[i]? = some frame →
    frame.link = .root 0 →
    ∀ name builtin, interpreter.baseFrame.functions.get? name = some builtin →
      frame.functions.get? name = some builtin ∨
        ∃ closure, frame.functions.get? name = some (.user closure)
  /-- There is one realm, which all roots belong to. -/
  shared : ∃ loaded loading, store.realms = #[interpreter.realm modules loaded loading]

theorem wellFormed_of_active (hactive : interpreter.Active modules store env)
    (hshaped : interpreter.Shaped store) : interpreter.WellFormed modules store where
  linked := hactive.sound.linked
  root i hi := by
    obtain ⟨frame, hframe, hlink⟩ := hactive.sound.exists_root hi
    refine ⟨frame, hframe, hlink, ?_⟩
    rcases hshaped.inner _ frame hframe hlink with hzero | hinner
    · exact .inl hzero
    · exact (hactive.sound.base _ frame hframe hlink).imp_right fun hbase => ⟨hbase, hinner⟩
  closures i frame hframe := (hactive.sound.limited i frame hframe).closure_lt
  limit i frame hframe := (hactive.sound.limited i frame hframe).maxCallDepth_eq
  depth := hshaped.depth
  builtins i frame hframe hroot name builtin hbuiltin := by
    have hname := (hshaped.names i frame hframe hroot).subset (Bindings.mem_names_of_get? hbuiltin)
    obtain ⟨function, hfunction⟩ :=
      Option.isSome_iff_exists.mp (Bindings.get?_isSome_iff.mpr hname)
    rcases hshaped.admits i frame hframe name function hfunction with ⟨closure, rfl⟩ | hsame
    · exact .inr ⟨closure, hfunction⟩
    · rw [hbuiltin] at hsame
      exact .inl (hsame ▸ hfunction)
  shared := by
    refine ⟨store.registry.loaded, store.registry.loading, ?_⟩
    rw [← hactive.sound.registry_eq]
    apply Array.ext
    · exact hactive.sound.size_realms
    · intro i hi _
      obtain rfl : i = 0 := by
        have hsize := hactive.sound.size_realms
        omega
      obtain ⟨_, hzero⟩ :=
        Array.getElem?_eq_some_iff.mp (Store.realm_zero hactive.sound.size_realms)
      exact hzero

/-- Between two requests and whenever the evaluation of an expression begins or ends, whether it
succeeds or fails, the store is well formed. A call is evaluated in a frame inside that of its
definition and one deeper than the frame it is made from. Where the embedding application reports no
nested calls of its own, an evaluation that fails for too many of them reports the limit of the
interpreter, and a request that fails so reports the same limit, or none where the stack was used up
before the limit was reached. -/
theorem store_wellFormed (interpreter : Interpreter) (macros : Macros) (requests : List Request)
    (request : Request) :
    let session := interpreter.after (interpreter.initial macros) requests
    let modules := interpreter.declared (requests ++ [request])
    interpreter.WellFormed (interpreter.declared requests) session.store ∧
    (∀ pending left task, interpreter.Moment session request pending left task →
      interpreter.WellFormed modules task.store ∧
      interpreter.WellFormed modules
        (Eval.finalStore (Eval.evaluate left task.expr task.frame) task.store) ∧
      ∀ limit final, interpreter.HostAvoids (.depthExceeded limit "call") →
        Eval.outcome (Eval.evaluate left) task = .error (.depthExceeded limit "call") final →
        limit = some interpreter.maxCallDepth) ∧
    (∀ pending left task closure values ready callee entered,
      interpreter.Moment session request pending (left + 1) task →
      Eval.Applies (Eval.evaluate left) task closure values ready →
      Eval.enter closure values task.frame ready = .ok callee entered →
      ∃ caller frame, ready.frames[task.frame]? = some caller ∧
        entered.frames[callee]? = some frame ∧ frame.link = .inside closure.frame ∧
        frame.depth = caller.depth + 1) ∧
    (∀ limit, interpreter.HostAvoids (.depthExceeded limit "call") →
      interpreter.faultOf.Avoids (.depthExceeded limit "call") →
      (interpreter.perform session request).outcome = .error (.depthExceeded limit "call") →
      limit = some interpreter.maxCallDepth ∨ limit = none ∧
        ∃ task final, interpreter.Starts session request task ∧
          Eval.outcome (Eval.evaluate interpreter.stack) task = .error .stackExhausted final) := by
  intro session modules
  have hinvariant := invariant_shaped interpreter
  refine ⟨?_, ?_, ?_, ?_⟩
  · obtain ⟨_, hactive, hshaped⟩ := hinvariant.after macros requests
    exact wellFormed_of_active hactive hshaped
  · intro pending left task hmoment
    obtain ⟨hactive, hshaped⟩ := hinvariant.moment hmoment
    have heffect := Eval.evaluate_effect left task.expr task.frame task.store
    refine ⟨wellFormed_of_active hactive hshaped,
      wellFormed_of_active (hactive.effect heffect).1 (hshaped.effect hactive heffect), ?_⟩
    intro limit final hhost herror
    exact limit_eq_of_moment hmoment hhost herror
  · intro pending left task closure values ready callee entered hmoment happlies henter
    have heffect := Eval.effect_applies (Eval.evaluate_effect left) happlies
    obtain ⟨hactive, _⟩ := hinvariant.moment hmoment
    obtain ⟨hready, _⟩ := hactive.effect heffect
    obtain ⟨caller, hcaller⟩ := Store.exists_frame hready.lt_size
    obtain ⟨_, vars, _, rfl, rfl⟩ := Eval.enter_eq_ok henter
    refine ⟨caller, _, hcaller, (Store.frame_addFrame _ _ _).trans (if_pos rfl), rfl, ?_⟩
    simp only [Store.innerFrame, Store.depth, hcaller]
  · intro limit hhost hfaultOf houtcome
    exact limit_eq_of_perform hhost hfaultOf houtcome

/-- While `g` is called in the evaluation of `m`, its frame counts one call. -/
theorem store_wellFormed_importInCall :
    let interpreter : Interpreter := { maxCallDepth := 1 }
    (∀ limit, interpreter.HostAvoids (.depthExceeded limit "call") ∧
      interpreter.faultOf.Avoids (.depthExceeded limit "call")) ∧
    ∃ pending left task closure callee entered caller frame,
      interpreter.Moment (interpreter.initial { maxDepth := 100 }) (.run importInCall) pending
        (left + 1) task ∧
      Eval.enter closure [] task.frame task.store = .ok callee entered ∧
      interpreter.WellFormed (interpreter.declared [.run importInCall]) task.store ∧
      task.store.frames[task.frame]? = some caller ∧ entered.frames[callee]? = some frame ∧
      frame.depth = caller.depth + 1 := by
  intro interpreter
  refine ⟨fun limit => ⟨hostAvoids_of_standard rfl _,
    TypeCheck.schema_avoids_depthExceeded limit "call"⟩, ?_⟩
  obtain ⟨store, callee, entered, hmoment, happlies, henter⟩ :=
    moment_importInCall { maxDepth := 100 }
  obtain ⟨_, hmoments, hcalls, _⟩ :=
    store_wellFormed interpreter { maxDepth := 100 } [] (.run importInCall)
  obtain ⟨hstore, _, _⟩ := hmoments _ _ _ hmoment
  obtain ⟨caller, frame, hcaller, hframe, _, hdepth⟩ :=
    hcalls _ 996 _ _ _ _ _ _ hmoment happlies henter
  exact ⟨_, 996, _, _, callee, entered, caller, frame, hmoment, henter, hstore, hcaller, hframe,
    hdepth⟩

/-- A function that calls itself without end. -/
def loop : Closure :=
  { name := "loop", params := [], body := .call "loop" [], frame := 0 }

theorem loop_exhausts {limit depth : Int} {store : Store} {env : FrameId} {root : Frame}
    (stack : Nat) (hroot : store.frames[0]? = some root) (hlink : root.link = .root 0)
    (hloop : root.functions.get? "loop" = some (.user loop))
    (hfunction : store.function? env "loop" = some (.user loop))
    (hdepth : store.AtDepth limit depth env) (hstack : depth + stack ≤ limit) :
    ∃ final, Eval.evaluate stack (.call "loop" []) env store = .error .stackExhausted final := by
  induction stack generalizing store env depth with
  | zero => exact ⟨store, rfl⟩
  | succ stack ih =>
      let entered := store.addFrame (store.innerFrame 0 (store.depth env + 1) [])
      have henter : Eval.enter loop [] env store = .ok store.frames.size entered := by
        rw [Eval.enter_apply, hdepth.exceeded?_eq, if_neg (by omega)]
        rfl
      obtain ⟨_, hentered⟩ := hdepth.enter hfunction henter
      have hcallee : entered.frames[store.frames.size]? =
          some (store.innerFrame 0 (store.depth env + 1) []) :=
        (Store.frame_addFrame _ _ _).trans (if_pos rfl)
      have hpositive : 0 < store.frames.size := Store.lt_size_of_frame hroot
      have hkept : entered.frames[0]? = some root := Store.frame_addFrame_of_some hroot
      have hfound : entered.function? store.frames.size "loop" = some (.user loop) := by
        rw [Store.function?, Store.chain_of_inside hcallee rfl hpositive,
          Store.chain_of_root hkept hlink]
        simp [hcallee, hkept, hloop, Store.innerFrame, Bindings.get?_nil]
      obtain ⟨final, hfinal⟩ := ih hkept hfound hentered (by push_cast at hstack; omega)
      refine ⟨final, ?_⟩
      simp only [Eval.evaluate, Eval.step, List.mapM_nil, Eval.bind_apply, Eval.pure_apply,
        Eval.function_apply, hfunction, Eval.apply, Eval.applyClosure, henter]
      exact hfinal

/-- A program that defines the function and calls it. -/
def runaway : Json :=
  .obj [("jexl_version", .str "v0.1"), ("name", .str "test"),
    ("program", .arr
      [.obj [("function", .obj [("name", .str "loop"), ("params", .arr []),
          ("body", .obj [("loop", .arr [])])])],
        .obj [("loop", .arr [])]])]

/-- Where the limit is larger than the stack, the error for too many nested calls does not report
the limit. -/
theorem runaway_reports_no_limit :
    let interpreter : Interpreter := { maxCallDepth := 1000000 }
    let reply := interpreter.perform (interpreter.initial { maxDepth := 100 }) (.run runaway)
    ∃ limit, reply.outcome = .error (.depthExceeded limit "call") ∧
      limit ≠ some interpreter.maxCallDepth := by
  intro interpreter reply
  let defined : Store := (interpreter.freshStore []).setFunction 0 "loop" (.user loop)
  have hcomes : Eval.Comes (Eval.evaluate 1000) 0
      [.function "loop" [] (.call "loop" []), .call "loop" []] (interpreter.freshStore [])
      (.call "loop" []) defined := .later rfl .here
  have hstarts : interpreter.Starts (interpreter.initial { maxDepth := 100 }) (.run runaway)
      ⟨.call "loop" [], 0, defined⟩ := .run rfl rfl rfl rfl hcomes
  have hfunction : defined.function? 0 "loop" = some (.user loop) := by
    rw [Store.function?, Store.chain_of_root rfl rfl]
    rfl
  have hdepth : defined.AtDepth 1000000 0 0 := by
    have hdefined : Effect 0 (fun _ => ["loop"]) (interpreter.freshStore []) defined :=
      .defined [] (.call "loop" []) (List.mem_singleton_self "loop")
    exact (atDepth_freshStore interpreter []).effect hdefined
  have hstack : (0 : Int) + interpreter.stack ≤ 1000000 := by decide
  obtain ⟨final, hfinal⟩ := loop_exhausts interpreter.stack rfl rfl rfl hfunction hdepth hstack
  have hlate : interpreter.FailsLate (interpreter.initial { maxDepth := 100 }) (.run runaway)
      (.depthExceeded none "call") := by
    refine ⟨⟨.call "loop" [], 0, defined⟩, .stackExhausted, final, hstarts, ?_, rfl⟩
    rw [Eval.outcome]
    exact hfinal
  exact ⟨none, hlate.outcome_eq, by simp⟩

end Interpreter

end JsonExpr
