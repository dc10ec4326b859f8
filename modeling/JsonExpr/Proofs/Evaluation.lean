import JsonExpr.Evaluation

namespace JsonExpr

/-- The limit that one more call from a frame would exceed, if it would exceed one. -/
def Store.exceeded? (store : Store) (caller : FrameId) : Option Int :=
  match store.maxCallDepth caller with
  | some limit => if limit < store.depth caller + 1 then some limit else none
  | none => none

/-- Evaluates a list of expressions in order, for what they do to the store. -/
def Eval.runAll (self : Evaluator) (frame : FrameId) (exprs : List Expr) : Eval Unit :=
  exprs.forM fun e => do let _ ← self e frame

/-- A module about to be evaluated, in a store that has its frame and marks it as loading. -/
structure Opening where
  realm : RealmId
  source : String
  frame : FrameId
  macros : List String
  exports : List Expr
  store : Store

namespace Opening

def loaded (opening : Opening) : LoadedModule :=
  { frame := opening.frame, macros := opening.macros }

/-- The store after the evaluation of the module has ended, in whatever way. -/
def close (opening : Opening) (store : Store) : Store :=
  store.modifyRealm opening.realm (Eval.stopLoading opening.source)

/-- The store after the module has been evaluated without an error. -/
def finish (opening : Opening) (store : Store) : Store :=
  (opening.close store).modifyRealm opening.realm fun r =>
    { r with loaded := r.loaded.set opening.source opening.loaded }

/-- Evaluates the exports of the module in order and loads it if they all succeed. -/
def evaluate (opening : Opening) (self : Evaluator) : EStateM.Result Error Store LoadedModule :=
  match Eval.runAll self opening.frame opening.exports opening.store with
  | .ok _ final => .ok opening.loaded (opening.finish final)
  | .error e final => .error e (opening.close final)

end Opening

namespace Store

/-- Adds the two frames of a module and marks the module as loading. -/
def openModule (store : Store) (id : RealmId) (realm : Realm) (maxCallDepth : Option Int)
    (source : String) (macros : List String) (exports : List Expr) : Opening :=
  let based := store.addFrame (rootFrame id realm.builtins maxCallDepth)
  let framed := based.addFrame (based.innerFrame store.frames.size 0 [])
  { realm := id, source, frame := based.frames.size, macros, exports,
    store := framed.modifyRealm id (Eval.startLoading source) }

/-- What an import begins with: the module where it has been loaded, and else its opening. -/
def findModule (stack : Nat) (store : Store) (importer : FrameId) (source : String) :
    Except Error (LoadedModule ⊕ Opening) :=
  match store.realmOf? importer with
  | none => .error (.importFailure (.unknownModule source))
  | some id =>
      match store.realms[id]? with
      | none => .error (.importFailure (.unknownModule source))
      | some realm =>
          match realm.loaded.get? source with
          | some loaded => .ok (.inl loaded)
          | none =>
              match realm.modules.get? source with
              | none => .error (.importFailure (.unknownModule source))
              | some declared =>
                  if realm.loading.contains source then
                    .error (.misuse (.circularImport source))
                  else
                    match Eval.moduleExports stack realm.settings declared with
                    | .error e => .error e
                    | .ok (macros, exports) =>
                        .ok (.inr (store.openModule id realm
                          (store.maxCallDepth (store.root importer)) source macros.names exports))

theorem findModule_eq_opening {stack : Nat} {store : Store} {importer : FrameId}
    {source : String} {opening : Opening}
    (h : store.findModule stack importer source = .ok (.inr opening)) :
    ∃ id realm declared macros exports,
      store.realmOf? importer = some id ∧ store.realms[id]? = some realm ∧
      realm.loaded.get? source = none ∧ realm.modules.get? source = some declared ∧
      source ∉ realm.loading ∧
      Eval.moduleExports stack realm.settings declared = .ok (macros, exports) ∧
      opening = store.openModule id realm (store.maxCallDepth (store.root importer)) source
        macros.names exports := by
  unfold findModule at h
  split at h
  · cases h
  · rename_i id hid
    split at h
    · cases h
    · rename_i realm hrealm
      split at h
      · cases h
      · rename_i hloaded
        split at h
        · cases h
        · rename_i declared hdeclared
          split at h
          · cases h
          · rename_i hloading
            split at h
            · cases h
            · rename_i macros exports hexports
              refine ⟨id, realm, declared, macros, exports, hid, hrealm, hloaded, hdeclared, ?_,
                hexports, ?_⟩
              · simpa using hloading
              · simpa using h.symm

end Store

namespace Eval

variable {α β : Type}

/-- The store in which a computation ends, whether it succeeds or fails. -/
def finalStore (work : Eval α) (store : Store) : Store :=
  match work store with
  | .ok _ final => final
  | .error _ final => final

theorem finalStore_of_ok {work : Eval α} {store final : Store} {value : α}
    (h : work store = .ok value final) : finalStore work store = final := by
  rw [finalStore, h]

theorem finalStore_of_error {work : Eval α} {store final : Store} {e : Error}
    (h : work store = .error e final) : finalStore work store = final := by
  rw [finalStore, h]

@[simp]
theorem pure_apply (value : α) (store : Store) : (pure value : Eval α) store = .ok value store :=
  rfl

@[simp]
theorem throw_apply (e : Error) (store : Store) : (throw e : Eval α) store = .error e store :=
  rfl

@[simp]
theorem get_apply (store : Store) : (get : Eval Store) store = .ok store store :=
  rfl

@[simp]
theorem modify_apply (f : Store → Store) (store : Store) :
    (modify f : Eval PUnit) store = .ok ⟨⟩ (f store) :=
  rfl

@[simp]
theorem newFrame_apply (frame : Store → Frame) (store : Store) :
    newFrame frame store = .ok store.frames.size (store.addFrame (frame store)) :=
  rfl

@[simp]
theorem bind_apply (work : Eval α) (next : α → Eval β) (store : Store) :
    (work >>= next) store =
      match work store with
      | .ok value middle => next value middle
      | .error e middle => .error e middle := by
  simp only [bind, EStateM.bind]
  cases work store <;> rfl

theorem bind_eq_ok {work : Eval α} {next : α → Eval β} {store final : Store} {result : β} :
    (work >>= next) store = .ok result final ↔
      ∃ value middle, work store = .ok value middle ∧ next value middle = .ok result final := by
  rw [bind_apply]
  constructor
  · intro h
    cases hwork : work store with
    | ok value middle =>
        rw [hwork] at h
        exact ⟨value, middle, rfl, h⟩
    | error e middle =>
        rw [hwork] at h
        cases h
  · rintro ⟨value, middle, hwork, hnext⟩
    rw [hwork]
    exact hnext

@[simp]
theorem ofExcept_ok (value : α) : ofExcept (.ok value) = pure value := rfl

@[simp]
theorem ofExcept_error (e : Error) : (ofExcept (.error e) : Eval α) = throw e := rfl

theorem var_apply (frame : FrameId) (name : String) (store : Store) :
    var frame name store =
      match store.var? frame name with
      | some value => .ok value store
      | none => .error (.unbound .variable name) store := by
  simp only [var, bind_apply, get_apply]
  cases store.var? frame name <;> rfl

theorem function_apply (frame : FrameId) (name : String) (store : Store) :
    function frame name store =
      match store.function? frame name with
      | some function => .ok function store
      | none => .error (.unbound .function name) store := by
  simp only [function, bind_apply, get_apply]
  cases store.function? frame name <;> rfl

theorem callFrame_apply (closure : Closure) (args : List Json) (depth : Int) (store : Store) :
    callFrame closure args depth store =
      match bindArguments closure.name closure.params args with
      | .error e => .error e store
      | .ok vars =>
          .ok store.frames.size (store.addFrame (store.innerFrame closure.frame depth vars)) := by
  simp only [callFrame]
  cases bindArguments closure.name closure.params args <;> rfl

theorem enter_apply (closure : Closure) (args : List Json) (caller : FrameId) (store : Store) :
    enter closure args caller store =
      match store.exceeded? caller with
      | some limit => .error (.depthExceeded (some limit) "call") store
      | none =>
          match bindArguments closure.name closure.params args with
          | .error e => .error e store
          | .ok vars => .ok store.frames.size
              (store.addFrame (store.innerFrame closure.frame (store.depth caller + 1) vars)) := by
  simp only [enter, bind_apply, get_apply, Store.exceeded?]
  cases store.maxCallDepth caller with
  | none => exact callFrame_apply closure args _ store
  | some limit =>
      by_cases h : limit < store.depth caller + 1
      · simp only [if_pos h, bind_apply, throw_apply]
      · simp only [if_neg h]
        exact callFrame_apply closure args _ store

theorem enter_eq_ok {closure : Closure} {args : List Json} {caller callee : FrameId}
    {store entered : Store} (h : enter closure args caller store = .ok callee entered) :
    store.exceeded? caller = none ∧ ∃ vars,
      bindArguments closure.name closure.params args = .ok vars ∧ callee = store.frames.size ∧
      entered =
        store.addFrame (store.innerFrame closure.frame (store.depth caller + 1) vars) := by
  rw [enter_apply] at h
  split at h
  · cases h
  · rename_i hlimit
    split at h
    · cases h
    · rename_i vars hvars
      cases h
      exact ⟨hlimit, vars, hvars, rfl, rfl⟩

theorem enter_eq_error {closure : Closure} {args : List Json} {caller : FrameId}
    {store final : Store} {e : Error} (h : enter closure args caller store = .error e final) :
    final = store := by
  rw [enter_apply] at h
  split at h
  · cases h
    rfl
  · split at h
    · cases h
      rfl
    · cases h

theorem applyBuiltin_apply (builtin : Builtin) (args : List Json) (store : Store) :
    applyBuiltin builtin args store =
      match builtin.apply args with
      | .ok outcome => .ok outcome.value { store with output := store.output ++ outcome.printed }
      | .error e => .error e store := by
  simp only [applyBuiltin]
  cases builtin.apply args <;> rfl

theorem ensuring_apply (body : Eval α) (after : Store → Store) (store : Store) :
    ensuring body after store =
      match body store with
      | .ok value final => .ok value (after final)
      | .error e final => .error e (after final) := rfl

theorem runAll_cons_apply (self : Evaluator) (frame : FrameId) (first : Expr) (rest : List Expr)
    (store : Store) :
    runAll self frame (first :: rest) store =
      match self first frame store with
      | .ok _ middle => runAll self frame rest middle
      | .error e middle => .error e middle := by
  change ((do let _ ← self first frame) >>= fun _ => runAll self frame rest) store = _
  simp only [bind_apply]
  cases self first frame store <;> rfl

theorem loadDeclared_apply (self : Evaluator) (stack : Nat) (id : RealmId) (realm : Realm)
    (maxCallDepth : Option Int) (source : String) (declared : Module) (store : Store) :
    loadDeclared self stack id realm maxCallDepth source declared store =
      match moduleExports stack realm.settings declared with
      | .error e => .error e store
      | .ok (macros, exports) =>
          (store.openModule id realm maxCallDepth source macros.names exports).evaluate self := by
  cases h : moduleExports stack realm.settings declared with
  | error e => simp only [loadDeclared, h, ofExcept_error, bind_apply, throw_apply]
  | ok pair =>
      obtain ⟨macros, exports⟩ := pair
      have hrun (frame : FrameId) :
          (exports.forM fun e => do let _ ← self e frame) = runAll self frame exports := rfl
      simp only [loadDeclared, h, ofExcept_ok, bind_apply, pure_apply, moduleFrame, newFrame_apply,
        modify_apply, ensuring_apply, hrun]
      simp only [Opening.evaluate, Store.openModule]
      cases runAll self _ exports _ <;> rfl

theorem loadModule_apply (self : Evaluator) (stack : Nat) (importer : FrameId) (source : String)
    (store : Store) :
    loadModule self stack importer source store =
      match store.findModule stack importer source with
      | .error e => .error e store
      | .ok (.inl loaded) => .ok loaded store
      | .ok (.inr opening) => opening.evaluate self := by
  simp only [loadModule, bind_apply, get_apply, Store.findModule]
  cases store.realmOf? importer with
  | none => rfl
  | some id =>
      cases hrealm : store.realms[id]? with
      | none => simp only [hrealm, throw_apply]
      | some realm =>
          cases hloaded : realm.loaded.get? source with
          | some loaded => simp only [hrealm, hloaded, pure_apply]
          | none =>
              cases hdeclared : realm.modules.get? source with
              | none => simp only [hrealm, hloaded, hdeclared, throw_apply]
              | some declared =>
                  simp only [hrealm, hloaded, hdeclared]
                  by_cases hloading : realm.loading.contains source = true
                  · simp only [if_pos hloading, bind_apply, throw_apply]
                  · simp only [if_neg hloading, loadDeclared_apply]
                    cases moduleExports stack realm.settings declared <;> rfl

theorem bindExport_apply (source : String) (loaded : LoadedModule) (target : FrameId)
    (symbol : String) (store : Store) :
    bindExport source loaded target symbol store =
      match store.frames[loaded.frame]? with
      | none => .error (.importFailure (.unknownSymbol source symbol)) store
      | some frame =>
          match frame.functions.get? symbol, frame.vars.get? symbol with
          | some function, _ => .ok () (store.setFunction target symbol function)
          | none, some value => .ok () (store.setVar target symbol value)
          | none, none =>
              if loaded.macros.contains symbol then
                .error (.misuse (.importedMacro symbol source)) store
              else .error (.importFailure (.unknownSymbol source symbol)) store := by
  simp only [bindExport, bind_apply, get_apply]
  cases store.frames[loaded.frame]? with
  | none => rfl
  | some frame =>
      simp only
      cases hfunction : frame.functions.get? symbol with
      | some function => simp only [modify_apply]
      | none =>
          cases hvar : frame.vars.get? symbol with
          | some value => simp only [modify_apply]
          | none =>
              simp only
              split <;> rfl

end Eval

end JsonExpr
