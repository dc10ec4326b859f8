import JsonExpr.Proofs.Simulation
import JsonExpr.Proofs.Termination

namespace JsonExpr

/-- A limit on nesting was exceeded. -/
def Error.IsDepthExceeded (e : Error) : Prop :=
  ∃ limit what, e = .depthExceeded limit what

/-- What determining a limit comes to, and the same with a limit that is no lower. -/
inductive Raised : Except Error Int → Except Error Int → Prop
  | fails (e : Error) : Raised (.error e) (.error e)
  | limits {limit higher : Int} : limit ≤ higher → Raised (.ok limit) (.ok higher)

namespace Macros

/-- The same macros under a limit that is no lower. -/
structure Raises (macros higher : Macros) : Prop where
  table_eq : higher.table = macros.table
  maxDepth_le : macros.maxDepth ≤ higher.maxDepth

variable {macros higher : Macros}

theorem Raises.learn (h : macros.Raises higher) (e : Expr) :
    (macros.learn e).Raises (higher.learn e) := by
  cases e with
  | macroDef name params body =>
      refine ⟨?_, h.maxDepth_le⟩
      simp only [Macros.learn, define, h.table_eq]
  | _ => exact h

theorem Raises.of_collect {limit raised : Int} (h : limit ≤ raised) {exprs rest : List Expr}
    (hcollect : Macros.collect { maxDepth := limit } exprs = (macros, rest)) :
    ∃ higher, macros.Raises higher ∧
      Macros.collect { maxDepth := raised } exprs = (higher, rest) := by
  obtain ⟨rfl, rfl⟩ := Prod.mk.inj hcollect
  refine ⟨exprs.foldl Macros.learn { maxDepth := raised }, ?_, rfl⟩
  have hlearn (macros higher : Macros) (hraises : macros.Raises higher) :
      (exprs.foldl Macros.learn macros).Raises (exprs.foldl Macros.learn higher) := by
    clear hcollect
    induction exprs generalizing macros higher with
    | nil => exact hraises
    | cons e rest ih => exact ih _ _ (hraises.learn e)
  exact hlearn _ _ ⟨rfl, h⟩

theorem Raises.invoked?_eq (h : macros.Raises higher) (e : Expr) :
    higher.invoked? e = macros.invoked? e := by
  rw [invoked?, invoked?, h.table_eq]

theorem Raises.expandOnce_eq (h : macros.Raises higher) (e : Expr) :
    higher.expandOnce e = macros.expandOnce e := by
  rw [expandOnce, expandOnce, h.invoked?_eq]

theorem Raises.expand_eq (h : macros.Raises higher) {stack : Nat} {depth : Int} {e : Expr}
    (hwithin : ∀ err, macros.expand stack depth e = .error err → ¬ err.IsDepthExceeded) :
    higher.expand stack depth e = macros.expand stack depth e := by
  induction stack generalizing depth e with
  | zero => rfl
  | succ stack ih =>
      by_cases hdepth : depth ≤ macros.maxDepth
      case neg =>
        have hexceeded : macros.expand (stack + 1) depth e =
            .error (.depthExceeded (some macros.maxDepth) "macro expansion") :=
          expand_of_exceeded (Int.not_le.mp hdepth)
        exact absurd ⟨_, _, rfl⟩ (hwithin _ hexceeded)
      have hbelow : depth ≤ higher.maxDepth := Int.le_trans hdepth h.maxDepth_le
      cases hinvoked : macros.invoked? e with
      | some found =>
          rw [expand_of_invoked hdepth hinvoked] at hwithin
          rw [expand_of_invoked hdepth hinvoked,
            expand_of_invoked hbelow ((h.invoked?_eq e).trans hinvoked), h.expandOnce_eq]
          cases honce : macros.expandOnce e with
          | error err => rfl
          | ok expanded =>
              rw [honce] at hwithin
              exact ih hwithin
      | none =>
          rw [expand_of_not_invoked hdepth hinvoked] at hwithin
          rw [expand_of_not_invoked hdepth hinvoked,
            expand_of_not_invoked hbelow ((h.invoked?_eq e).trans hinvoked)]
          have hchildren : e.children.mapM (higher.expand stack depth) =
              e.children.mapM (macros.expand stack depth) :=
            mapM_eq_of_unexcused (fun child _ hchild => ih hchild)
              fun err herror => hwithin err (map_eq_error_iff.mpr herror)
          rw [hchildren]

theorem Raises.expandAll_eq (h : macros.Raises higher) {stack : Nat} {exprs : List Expr}
    (hwithin : ∀ err, macros.expandAll stack exprs = .error err → ¬ err.IsDepthExceeded) :
    higher.expandAll stack exprs = macros.expandAll stack exprs :=
  mapM_eq_of_unexcused (fun _ _ he => h.expand_eq he) hwithin

end Macros

theorem Eval.moduleExports_raised {settings raised : Settings}
    (h : Raised settings.maxExpansionDepth raised.maxExpansionDepth) (stack : Nat)
    (declared : Module)
    (hwithin : ∀ err, moduleExports stack settings declared = .error err → ¬ err.IsDepthExceeded) :
    (moduleExports stack raised declared).map (fun exported => (exported.1.names, exported.2)) =
      (moduleExports stack settings declared).map
        fun exported => (exported.1.names, exported.2) := by
  generalize hfirst : settings.maxExpansionDepth = first at h
  generalize hsecond : raised.maxExpansionDepth = second at h
  cases h with
  | fails e =>
      simp only [moduleExports, hfirst, hsecond]
  | @limits limit higher hle =>
      obtain ⟨macros, rest, hcollect⟩ : ∃ macros rest,
          Macros.collect { maxDepth := limit } declared.exports = (macros, rest) := ⟨_, _, rfl⟩
      obtain ⟨larger, hraises, hrecollect⟩ := Macros.Raises.of_collect hle hcollect
      rw [moduleExports_eq hfirst hcollect] at hwithin
      rw [moduleExports_eq hfirst hcollect, moduleExports_eq hsecond hrecollect,
        hraises.expandAll_eq fun err herror => hwithin err (map_eq_error_iff.mpr herror)]
      cases macros.expandAll stack rest with
      | error err => rfl
      | ok exports => simp only [Except.map, Macros.names, hraises.table_eq]

/-! Stores with their limits set aside. No operation but the check of the depth of a call looks at
them, so setting them aside commutes with every write. -/

def Frame.unlimited (frame : Frame) : Frame :=
  { frame with maxCallDepth := none }

def Realm.unlimited (realm : Realm) : Realm :=
  { realm with settings := {} }

namespace Store

def unlimited (store : Store) : Store :=
  { store with
    frames := store.frames.map Frame.unlimited, realms := store.realms.map Realm.unlimited }

variable (store : Store)

theorem frame_unlimited (i : FrameId) :
    store.unlimited.frames[i]? = store.frames[i]?.map Frame.unlimited :=
  Array.getElem?_map

theorem realm_unlimited (id : RealmId) :
    store.unlimited.realms[id]? = store.realms[id]?.map Realm.unlimited :=
  Array.getElem?_map

@[simp]
theorem size_unlimited : store.unlimited.frames.size = store.frames.size :=
  Array.size_map

theorem unlimited_setVar (id : FrameId) (name : String) (value : Json) :
    (store.setVar id name value).unlimited = store.unlimited.setVar id name value := by
  simp only [unlimited, setVar, mk.injEq, and_true]
  apply Array.ext_getElem?
  intro i
  simp only [Array.getElem?_map, Array.getElem?_modify]
  split
  · simp only [Option.map_map]
    rfl
  · rfl

theorem unlimited_setFunction (id : FrameId) (name : String) (function : Function) :
    (store.setFunction id name function).unlimited =
      store.unlimited.setFunction id name function := by
  simp only [unlimited, setFunction, mk.injEq, and_true]
  apply Array.ext_getElem?
  intro i
  simp only [Array.getElem?_map, Array.getElem?_modify]
  split
  · simp only [Option.map_map]
    rfl
  · rfl

theorem unlimited_addFrame (frame : Frame) :
    (store.addFrame frame).unlimited = store.unlimited.addFrame frame.unlimited := by
  simp only [unlimited, addFrame, Array.map_push]

theorem unlimited_modifyRealm (id : RealmId) {f : Realm → Realm}
    (hf : ∀ realm, (f realm).unlimited = f realm.unlimited) :
    (store.modifyRealm id f).unlimited = store.unlimited.modifyRealm id f := by
  simp only [unlimited, modifyRealm, mk.injEq, and_true, true_and]
  apply Array.ext_getElem?
  intro i
  simp only [Array.getElem?_map, Array.getElem?_modify]
  split
  · simp only [Option.map_map, Function.comp_def, hf]
  · rfl

theorem depth_unlimited (env : FrameId) : store.unlimited.depth env = store.depth env := by
  rw [depth, depth, frame_unlimited]
  cases store.frames[env]? <;> rfl

/-- The second limit is no lower than the first, where no limit is higher than any. -/
def NoLower : Option Int → Option Int → Prop
  | _, none => True
  | none, some _ => False
  | some limit, some higher => limit ≤ higher

/-- The same store with limits that are no lower. -/
structure Raises (store other : Store) : Prop where
  unlimited_eq : other.unlimited = store.unlimited
  maxCallDepth : ∀ i, NoLower (store.maxCallDepth i) (other.maxCallDepth i)
  settings : ∀ (id : RealmId) (realm again : Realm), store.realms[id]? = some realm →
    other.realms[id]? = some again →
    Raised realm.settings.maxExpansionDepth again.settings.maxExpansionDepth

namespace Raises

variable {store other : Store}

theorem frame_eq (h : store.Raises other) (i : FrameId) :
    other.frames[i]?.map Frame.unlimited = store.frames[i]?.map Frame.unlimited := by
  rw [← frame_unlimited, ← frame_unlimited, h.unlimited_eq]

theorem realm_eq (h : store.Raises other) (id : RealmId) :
    other.realms[id]?.map Realm.unlimited = store.realms[id]?.map Realm.unlimited := by
  rw [← realm_unlimited, ← realm_unlimited, h.unlimited_eq]

theorem size_eq (h : store.Raises other) : other.frames.size = store.frames.size := by
  rw [← size_unlimited, h.unlimited_eq, size_unlimited]

theorem output_eq (h : store.Raises other) : other.output = store.output := by
  change other.unlimited.output = store.unlimited.output
  rw [h.unlimited_eq]

theorem depth_eq (h : store.Raises other) (env : FrameId) : other.depth env = store.depth env := by
  rw [← depth_unlimited, h.unlimited_eq, depth_unlimited]

theorem part_eq (h : store.Raises other) {γ : Type} (part : Frame → γ)
    (hpart : ∀ frame : Frame, part frame.unlimited = part frame) (i : FrameId) :
    other.frames[i]?.map part = store.frames[i]?.map part := by
  have hmap := congrArg (Option.map part) (h.frame_eq i)
  simpa only [Option.map_map, Function.comp_def, hpart] using hmap

theorem link_eq (h : store.Raises other) (i : FrameId) :
    other.frames[i]?.map Frame.link = store.frames[i]?.map Frame.link :=
  h.part_eq Frame.link (fun _ => rfl) i

theorem withOutput (h : store.Raises other) (text : String) :
    Raises { store with output := text } { other with output := text } :=
  ⟨congrArg (fun found : Store => { found with output := text }) h.unlimited_eq, h.maxCallDepth,
    h.settings⟩

theorem write (h : store.Raises other) {change : Store → Store}
    (hunlimited : ∀ store, (change store).unlimited = change store.unlimited)
    (hlimit : ∀ store i, (change store).maxCallDepth i = store.maxCallDepth i)
    (hrealms : ∀ store, (change store).realms = store.realms) :
    (change store).Raises (change other) where
  unlimited_eq := by rw [hunlimited, hunlimited, h.unlimited_eq]
  maxCallDepth i := by
    rw [hlimit, hlimit]
    exact h.maxCallDepth i
  settings id realm again hrealm hagain := by
    rw [hrealms] at hrealm hagain
    exact h.settings id realm again hrealm hagain

theorem setVar (h : store.Raises other) (env : FrameId) (name : String) (value : Json) :
    (store.setVar env name value).Raises (other.setVar env name value) := by
  refine h.write (fun store => store.unlimited_setVar env name value) (fun store i => ?_)
    fun _ => rfl
  rw [Store.maxCallDepth, frame_setVar, Store.maxCallDepth]
  split
  · cases store.frames[i]? <;> rfl
  · rfl

theorem setFunction (h : store.Raises other) (env : FrameId) (name : String)
    (function : Function) :
    (store.setFunction env name function).Raises (other.setFunction env name function) := by
  refine h.write (fun store => store.unlimited_setFunction env name function) (fun store i => ?_)
    fun _ => rfl
  rw [Store.maxCallDepth, frame_setFunction, Store.maxCallDepth]
  split
  · cases store.frames[i]? <;> rfl
  · rfl

theorem addFrame (h : store.Raises other) {frame again : Frame}
    (hframe : again.unlimited = frame.unlimited)
    (hlimit : NoLower frame.maxCallDepth again.maxCallDepth) :
    (store.addFrame frame).Raises (other.addFrame again) where
  unlimited_eq := by rw [unlimited_addFrame, unlimited_addFrame, h.unlimited_eq, hframe]
  maxCallDepth i := by
    rw [Store.maxCallDepth, Store.maxCallDepth, frame_addFrame, frame_addFrame, h.size_eq]
    split
    · exact hlimit
    · exact h.maxCallDepth i
  settings := h.settings

theorem addInner (h : store.Raises other) (outer : FrameId) (depth : Int) (vars : Bindings Json) :
    (store.addFrame (store.innerFrame outer depth vars)).Raises
      (other.addFrame (other.innerFrame outer depth vars)) :=
  h.addFrame rfl (h.maxCallDepth outer)

theorem modifyRealm (h : store.Raises other) (id : RealmId) {f : Realm → Realm}
    (hf : ∀ realm, (f realm).unlimited = f realm.unlimited)
    (hsettings : ∀ realm, (f realm).settings = realm.settings) :
    (store.modifyRealm id f).Raises (other.modifyRealm id f) where
  unlimited_eq := by
    rw [unlimited_modifyRealm _ _ hf, unlimited_modifyRealm _ _ hf, h.unlimited_eq]
  maxCallDepth := h.maxCallDepth
  settings i realm again hrealm hagain := by
    rw [realm_modifyRealm] at hrealm hagain
    split at hrealm
    · rename_i hid
      rw [if_pos hid] at hagain
      obtain ⟨before, hbefore, rfl⟩ := Option.map_eq_some_iff.mp hrealm
      obtain ⟨prior, hprior, rfl⟩ := Option.map_eq_some_iff.mp hagain
      rw [hsettings, hsettings]
      exact h.settings i before prior hbefore hprior
    · rename_i hid
      rw [if_neg hid] at hagain
      exact h.settings i realm again hrealm hagain

theorem exceeded?_eq_none (h : store.Raises other) {env : FrameId}
    (hnone : store.exceeded? env = none) : other.exceeded? env = none := by
  have hlimit := h.maxCallDepth env
  rw [exceeded?] at hnone ⊢
  rw [h.depth_eq]
  revert hnone hlimit
  cases other.maxCallDepth env with
  | none => exact fun _ _ => rfl
  | some higher =>
      cases store.maxCallDepth env with
      | none => exact fun _ => False.elim
      | some limit =>
          simp only [NoLower, ite_eq_right_iff, reduceCtorEq, imp_false, Int.not_lt]
          exact fun hnone hle => Int.le_trans hnone hle

theorem enter (h : store.Raises other) (closure : Closure) (args : List Json) (env : FrameId) :
    Corresponds Error.IsDepthExceeded Raises (fun _ => True) (Eval.enter closure args env store)
      (Eval.enter closure args env other) := by
  rw [Eval.enter_apply, Eval.enter_apply]
  cases hexceeded : store.exceeded? env with
  | some limit => exact .excused ⟨_, _, rfl⟩
  | none =>
      rw [h.exceeded?_eq_none hexceeded]
      cases bindArguments closure.name closure.params args with
      | error e => exact .error h
      | ok vars =>
          simp only [h.size_eq, h.depth_eq]
          exact .ok trivial (h.addInner closure.frame _ vars)

theorem openModule (h : store.Raises other) (id : RealmId) {realm again : Realm}
    (hbuiltins : again.builtins = realm.builtins) {limit higher : Option Int}
    (hlimit : NoLower limit higher) (source : String) (macros : List String)
    (exports : List Expr) :
    (store.openModule id realm limit source macros exports).Matches Raises (fun _ => True)
      (other.openModule id again higher source macros exports) := by
  have hloaded : (other.openModule id again higher source macros exports).loaded =
      (store.openModule id realm limit source macros exports).loaded := by
    simp only [Opening.loaded, openModule_frame, h.size_eq]
    rfl
  have hclose {final ended : Store} (hfinal : final.Raises ended) :
      (final.modifyRealm id (Eval.stopLoading source)).Raises
        (ended.modifyRealm id (Eval.stopLoading source)) :=
    hfinal.modifyRealm id (fun _ => rfl) fun _ => rfl
  refine ⟨hloaded, rfl, trivial, ?_, hclose, fun hfinal => ?_⟩
  · have hbase : (store.addFrame (rootFrame id realm.builtins limit)).Raises
        (other.addFrame (rootFrame id again.builtins higher)) := by
      rw [hbuiltins]
      exact h.addFrame rfl hlimit
    have hopened := (hbase.addInner store.frames.size 0 []).modifyRealm id
      (f := Eval.startLoading source) (fun _ => rfl) fun _ => rfl
    simp only [Store.openModule, h.size_eq]
    exact hopened
  · simp only [Opening.finish, hloaded]
    exact (hclose hfinal).modifyRealm id (fun _ => rfl) fun _ => rfl

theorem findDeclared (h : store.Raises other) (id : RealmId) {realm again : Realm}
    (hbuiltins : again.builtins = realm.builtins)
    (hsettings : Raised realm.settings.maxExpansionDepth again.settings.maxExpansionDepth)
    {limit higher : Option Int} (hlimit : NoLower limit higher) (stack : Nat) (source : String)
    (declared : Module) :
    Found Error.IsDepthExceeded Raises (fun _ => True)
      (match Eval.moduleExports stack realm.settings declared with
      | .error e => .error e
      | .ok (macros, exports) =>
          .ok (.inr (store.openModule id realm limit source macros.names exports)))
      (match Eval.moduleExports stack again.settings declared with
      | .error e => .error e
      | .ok (macros, exports) =>
          .ok (.inr (other.openModule id again higher source macros.names exports))) := by
  have hexports := Eval.moduleExports_raised hsettings stack declared
  revert hexports
  generalize Eval.moduleExports stack realm.settings declared = exported,
    Eval.moduleExports stack again.settings declared = reexported
  intro hexports
  cases exported with
  | error e =>
      by_cases hexcused : e.IsDepthExceeded
      · exact .excused hexcused
      · have hsame := hexports fun err herror => Except.error.inj herror ▸ hexcused
        obtain rfl := map_eq_error_iff.mp hsame
        exact .error
  | ok exported =>
      have hsame := hexports fun err herror => by cases herror
      obtain ⟨⟨macros, exports⟩, rfl, hnames⟩ := map_eq_ok_iff.mp hsame
      simp only [Prod.mk.injEq] at hnames
      simp only [hnames.1, hnames.2]
      exact .opened (h.openModule id hbuiltins hlimit source _ _)

theorem find (h : store.Raises other) (stack : Nat) (env : FrameId) (source : String) :
    Found Error.IsDepthExceeded Raises (fun _ => True) (store.findModule stack env source)
      (other.findModule stack env source) := by
  rw [findModule, findModule, realmOf?_eq_of_links h.link_eq, root_eq_of_links h.link_eq]
  cases store.realmOf? env with
  | none => exact .error
  | some id =>
      have hrealms := h.realm_eq id
      cases hrealm : store.realms[id]? with
      | none =>
          rw [hrealm, Option.map_none, Option.map_eq_none_iff] at hrealms
          simp only [hrealm, hrealms]
          exact .error
      | some realm =>
          rw [hrealm, Option.map_some] at hrealms
          obtain ⟨again, hagain, hsame⟩ := Option.map_eq_some_iff.mp hrealms
          have hsettings := h.settings id realm again hrealm hagain
          obtain ⟨hbuiltins, _, hmodules, hloaded, hloading⟩ := (Realm.mk.injEq ..).mp hsame
          simp only [hrealm, hagain, hmodules, hloaded, hloading]
          cases realm.loaded.get? source with
          | some loaded => exact .loaded trivial
          | none =>
              cases realm.modules.get? source with
              | none => exact .error
              | some declared =>
                  simp only
                  split
                  · exact .error
                  · exact h.findDeclared id hbuiltins hsettings
                      (h.maxCallDepth (store.root env)) stack source declared

end Raises

/-- Under higher limits evaluation does the same, as long as it stays within the lower ones. -/
theorem simulation_raises : Simulation Error.IsDepthExceeded Raises fun _ => True where
  chain_eq h _ := chain_eq_of_links h.link_eq _
  chain_live _ _ _ _ := trivial
  vars_eq h _ := h.part_eq Frame.vars (fun _ => rfl) _
  functions_eq h _ := h.part_eq Frame.functions (fun _ => rfl) _
  closure_live _ _ _ _ := trivial
  setVar name value h _ := h.setVar _ name value
  setFunction name h _ _ := h.setFunction _ name _
  print text h := by
    rw [h.output_eq]
    exact h.withOutput _
  enter args h _ _ := h.enter _ args _
  find stack source h _ := h.find stack _ source

end Store

/-- The session with the limits set aside that its frames and its macros hold. -/
def Session.unlimited (session : Session) : Session :=
  { store := session.store.unlimited, root := session.root,
    macros := { session.macros with maxDepth := 0 } }

/-- Two replies that are the same but for the limits in the session. -/
structure Reply.SameUnlimited {α : Type} (reply other : Reply α) : Prop where
  outcome_eq : other.outcome = reply.outcome
  output_eq : other.output = reply.output
  session_eq : other.session.unlimited = reply.session.unlimited

theorem Error.IsDepthExceeded.whenExhausted {e : Error} (h : e.IsDepthExceeded) (what : String) :
    e.whenExhausted what = e := by
  obtain ⟨_, _, rfl⟩ := h
  rfl

namespace Interpreter

/-- An interpreter that is set up alike but for limits that are no lower: on calls, on expansions in
programs, and on expansions in modules, which comes from the settings. -/
structure Raises (interpreter raised : Interpreter) : Prop where
  builtins_eq : raised.builtins = interpreter.builtins
  faultOf_eq : raised.faultOf = interpreter.faultOf
  stack_eq : raised.stack = interpreter.stack
  maxCallDepth_le : interpreter.maxCallDepth ≤ raised.maxCallDepth
  expansionLimit : Raised interpreter.expansionLimit raised.expansionLimit
  settings : Raised interpreter.settings.maxExpansionDepth raised.settings.maxExpansionDepth

variable {interpreter raised : Interpreter}

theorem Raises.load_eq (h : interpreter.Raises raised) (document : Json) :
    raised.load document = interpreter.load document := by
  simp only [load, onDocument, h.stack_eq, h.faultOf_eq]

theorem Raises.freshStore (h : interpreter.Raises raised) (modules : Bindings Module) :
    (interpreter.freshStore modules).Raises (raised.freshStore modules) where
  unlimited_eq := by
    simp [Interpreter.freshStore, Store.unlimited, Store.rootFrame, Frame.unlimited,
      Realm.unlimited, h.builtins_eq]
  maxCallDepth i := by
    cases i with
    | zero => exact h.maxCallDepth_le
    | succ i => exact trivial
  settings id realm again hrealm hagain := by
    cases id with
    | zero =>
        cases hrealm
        cases hagain
        exact h.settings
    | succ id => cases hrealm

theorem evaluating_sameUnlimited {α : Type} {session other : Session} {work again : Eval α}
    (hwork : Corresponds Error.IsDepthExceeded Store.Raises (fun _ => True)
      (work { session.store with output := "" }) (again { other.store with output := "" }))
    (hroot : other.root = session.root) (hmacros : other.macros.table = session.macros.table)
    (hwithin : ∀ limit what,
      (evaluating session work).outcome ≠ .error (.depthExceeded limit what)) :
    (evaluating session work).SameUnlimited (evaluating other again) := by
  have hsession {final ended : Store} (h : final.Raises ended) :
      Session.unlimited { other with store := { ended with output := "" } } =
        Session.unlimited { session with store := { final with output := "" } } := by
    simp only [Session.unlimited, (h.withOutput "").unlimited_eq, hroot, hmacros]
  unfold evaluating at hwithin ⊢
  revert hwork hwithin
  generalize work { session.store with output := "" } = first,
    again { other.store with output := "" } = second
  intro hwork hwithin
  cases hwork with
  | ok _ hfinal => exact ⟨rfl, hfinal.output_eq, hsession hfinal⟩
  | error hfinal => exact ⟨rfl, hfinal.output_eq, hsession hfinal⟩
  | excused hexcused =>
      simp only [hexcused.whenExhausted] at hwithin
      obtain ⟨limit, what, rfl⟩ := hexcused
      exact absurd rfl (hwithin limit what)

/-- A run that ends in anything but an exceeded limit ends alike under higher limits: with the same
values or the same error, the same text printed, and the same session, in which only the limits
differ that its frames and its macros hold. -/
theorem run_unchanged_by_raised_limits (h : interpreter.Raises raised) {session other : Session}
    (hsession : other.unlimited = session.unlimited) (document : Json)
    (hwithin : ∀ limit what,
      (interpreter.run session document).outcome ≠ .error (.depthExceeded limit what)) :
    (interpreter.run session document).SameUnlimited (raised.run other document) := by
  have hmacros : other.macros.table = session.macros.table := by
    change other.unlimited.macros.table = session.unlimited.macros.table
    rw [hsession]
  have hfresh (modules : Bindings Module) {macros higher : Macros}
      (htable : higher.table = macros.table) :
      Session.unlimited { store := raised.freshStore modules, root := 0, macros := higher } =
        Session.unlimited { store := interpreter.freshStore modules, root := 0, macros } := by
    simp only [Session.unlimited, (h.freshStore modules).unlimited_eq, htable]
  cases hload : interpreter.load document with
  | error e =>
      rw [run_of_load_error hload, run_of_load_error ((h.load_eq document).trans hload)]
      exact ⟨rfl, rfl, hsession⟩
  | ok program =>
      have hreload : raised.load document = .ok program := (h.load_eq document).trans hload
      have hlimit := h.expansionLimit
      generalize hfirst : interpreter.expansionLimit = first at hlimit
      generalize hsecond : raised.expansionLimit = second at hlimit
      cases hlimit with
      | fails e =>
          rw [run_of_limit_error hload hfirst, run_of_limit_error hreload hsecond]
          exact ⟨rfl, rfl, hfresh _ hmacros⟩
      | @limits limit higher hle =>
          obtain ⟨macros, rest, hcollect⟩ : ∃ macros rest,
              Macros.collect { maxDepth := limit } program.body = (macros, rest) := ⟨_, _, rfl⟩
          obtain ⟨larger, hraises, hrecollect⟩ := Macros.Raises.of_collect hle hcollect
          -- An expansion that exceeds the limit would be the outcome of the run.
          have hreexpand : larger.expandAll raised.stack rest =
              macros.expandAll interpreter.stack rest := by
            rw [h.stack_eq, hraises.expandAll_eq]
            intro err herror hexceeded
            rw [run_of_expand_error hload hfirst hcollect herror, hexceeded.whenExhausted]
              at hwithin
            obtain ⟨limit, what, rfl⟩ := hexceeded
            exact hwithin limit what rfl
          cases hexpand : macros.expandAll interpreter.stack rest with
          | error e =>
              rw [run_of_expand_error hload hfirst hcollect hexpand,
                run_of_expand_error hreload hsecond hrecollect (hreexpand.trans hexpand)]
              exact ⟨rfl, rfl, hfresh _ hraises.table_eq⟩
          | ok body =>
              rw [run_of_expand hload hfirst hcollect hexpand] at hwithin ⊢
              rw [run_of_expand hreload hsecond hrecollect (hreexpand.trans hexpand), h.stack_eq]
              have hevaluate := Store.simulation_raises.evaluateAll interpreter.stack body 0
                trivial ((h.freshStore program.modules).withOutput "")
              exact evaluating_sameUnlimited hevaluate rfl hraises.table_eq hwithin

/-- A program with a module, a macro and a call, which fails at its last expression. -/
def failsAtEnd : Json :=
  .obj [("jexl_version", .str "v0.1"), ("name", .str "test"),
    ("modules", .obj [("m", .obj [("exports", .arr
      [.obj [("function", .obj [("name", .str "f"), ("params", .arr [.str "x"]),
        ("body", .obj [("print", .arr [.obj [("ref", .str "x")]])])])]])])]),
    ("program", .arr
      [.obj [("macro", .obj [("name", .str "say"), ("params", .arr [.str "x"]),
          ("body", .obj [("f", .arr [.obj [("ref", .str "x")]])])])],
        .obj [("import", .obj [("module", .str "m"), ("symbols", .arr [.str "f"])])],
        .obj [("say", .arr [.str "s"])],
        .obj [("ref", .str "y")]])]

/-- One call and one expansion are as deep as the program goes, so it ends under higher limits as it
does under these. -/
theorem run_unchanged_by_raised_limits_failsAtEnd :
    let lower : Interpreter := { maxCallDepth := 1, maxExpansionDepth := some 1 }
    let higher : Interpreter := { maxCallDepth := 50, maxExpansionDepth := some 7 }
    let first := lower.run (lower.initial { maxDepth := 1 }) failsAtEnd
    let second := higher.run (higher.initial { maxDepth := 7 }) failsAtEnd
    first.outcome.isOk = false ∧ first.output = "s\n" ∧ first.session.macros.names = ["say"] ∧
      first.SameUnlimited second := by
  intro lower higher first second
  have hraises : lower.Raises higher := by
    refine ⟨rfl, rfl, rfl, by decide, .limits (by decide), ?_⟩
    exact .limits (Int.le_refl 100)
  have hsession : (higher.initial { maxDepth := 7 }).unlimited =
      (lower.initial { maxDepth := 1 }).unlimited := by
    simp only [Session.unlimited, initial, (hraises.freshStore []).unlimited_eq]
  have hwithin : (match first.outcome with
      | .error (.depthExceeded _ _) => true
      | _ => false) = false := by
    decide +kernel
  refine ⟨by decide +kernel, by decide +kernel, by decide +kernel, ?_⟩
  refine run_unchanged_by_raised_limits hraises hsession failsAtEnd fun limit what herror => ?_
  simp only [first, herror] at hwithin
  cases hwithin

end Interpreter

end JsonExpr
