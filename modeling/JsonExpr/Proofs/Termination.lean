import JsonExpr.Proofs.Builtins
import JsonExpr.Proofs.CallDepth
import JsonExpr.Proofs.Registry
import Mathlib.Algebra.Order.BigOperators.Group.Finset

/-!
Every evaluation ends. On the way into a subexpression the expression gets smaller; on the way into
a call the frame gets closer to the limit on calls; and on the way into a module, which starts again
at the depth of no call, one more of the declared modules is being loaded. Nothing else is
evaluated, and what is being loaded is the same after an evaluation as before, so from some stack on
the outcome is no longer that the stack was used up, and is always the same.
-/

namespace JsonExpr

/-- The number of declared modules that are not being loaded. -/
def Realm.room (realm : Realm) : Nat :=
  (realm.modules.names.filter fun name => ! realm.loading.contains name).length

theorem Realm.room_startLoading_lt {realm : Realm} {source : String} {declared : Module}
    (hdeclared : realm.modules.get? source = some declared) (hloading : source ∉ realm.loading) :
    (Eval.startLoading source realm).room < realm.room := by
  have hfilter : realm.modules.names.filter
        (fun name => ! (Eval.startLoading source realm).loading.contains name) =
      (realm.modules.names.filter fun name => ! realm.loading.contains name).filter
        (· ≠ source) := by
    rw [List.filter_filter]
    refine List.filter_congr fun name _ => ?_
    simp [Eval.startLoading, Bool.not_or]
  have hsource : source ∈ realm.modules.names.filter fun name => ! realm.loading.contains name := by
    refine List.mem_filter.mpr ⟨Bindings.mem_names_of_get? hdeclared, ?_⟩
    simpa using hloading
  unfold room
  rw [show (Eval.startLoading source realm).modules = realm.modules from rfl, hfilter]
  exact List.length_filter_lt_length_iff_exists.mpr ⟨source, hsource, by simp⟩

namespace Store

variable {store before after : Store}

/-- The number of declared modules of all realms that are not being loaded. -/
def room (store : Store) : Nat :=
  ∑ i ∈ Finset.range store.realms.size, (store.realms[i]?.map Realm.room).getD 0

theorem SameRealms.room_eq (h : SameRealms before after) : after.room = before.room := by
  refine Finset.sum_congr (by rw [h.size_eq]) fun i hi => ?_
  obtain ⟨realm, hrealm⟩ : ∃ realm, before.realms[i]? = some realm :=
    ⟨_, Array.getElem?_eq_getElem (Finset.mem_range.mp hi)⟩
  obtain ⟨loaded, hafter⟩ := h.realm_eq i realm hrealm
  rw [hrealm, hafter]
  rfl

theorem room_opening_lt {stack : Nat} {env : FrameId} {source : String} {opening : Opening}
    (hopen : store.findModule stack env source = .ok (.inr opening)) :
    opening.store.room < store.room := by
  obtain ⟨id, realm, declared, macros, exports, _, hrealm, _, hdeclared, hloading, _, rfl⟩ :=
    findModule_eq_opening hopen
  have hroom := Realm.room_startLoading_lt hdeclared hloading
  have hself : (store.openModule id realm (store.maxCallDepth (store.root env)) source macros.names
      exports).store.realms[id]? = some (Eval.startLoading source realm) :=
    realm_openModule_self hrealm
  obtain ⟨hlt, _⟩ := Array.getElem?_eq_some_iff.mp hrealm
  have hsize : (store.openModule id realm (store.maxCallDepth (store.root env)) source macros.names
      exports).store.realms.size = store.realms.size := size_modifyRealm _ _ _
  rw [room, room, hsize]
  refine Finset.sum_lt_sum (fun i _ => ?_) ⟨id, Finset.mem_range.mpr hlt, ?_⟩
  · by_cases hi : id = i
    · subst hi
      rw [hself, hrealm]
      exact Nat.le_of_lt hroom
    · rw [realm_openModule_of_ne hi]
  · rw [hself, hrealm]
    exact hroom

end Store

theorem Settings.shallow_limit (name : String) (text : Option String) :
    Shallow (limit name text) := by
  unfold limit
  split
  · exact shallow_ok _
  · split
    · exact shallow_ok _
    · split
      · exact shallow_error rfl
      · exact shallow_error rfl
      · split
        · exact shallow_error rfl
        · exact shallow_ok _

namespace Eval

/-- On every stack that is large enough a computation comes to the same outcome, which is not that
the stack was used up. -/
def Converges {α : Type} (outcomes : Nat → EStateM.Result Error Store α) : Prop :=
  ∃ enough outcome, (∀ final, outcome ≠ .error .stackExhausted final) ∧
    ∀ stack, enough ≤ stack → outcomes stack = outcome

namespace Converges

variable {α β : Type} {store : Store}

theorem ok (value : α) (final : Store) : Converges fun _ => .ok value final := by
  refine ⟨0, .ok value final, fun _ h => ?_, fun _ _ => rfl⟩
  cases h

theorem error {e : Error} (h : e ≠ .stackExhausted) (final : Store) :
    Converges fun _ => (.error e final : EStateM.Result Error Store α) := by
  refine ⟨0, .error e final, fun _ hfinal => ?_, fun _ _ => rfl⟩
  cases hfinal
  exact h rfl

theorem of_eventually {outcomes others : Nat → EStateM.Result Error Store α} (enough : Nat)
    (hothers : Converges others) (h : ∀ stack, enough ≤ stack → outcomes stack = others stack) :
    Converges outcomes := by
  obtain ⟨more, outcome, hne, houtcome⟩ := hothers
  refine ⟨max enough more, outcome, hne, fun stack hle => ?_⟩
  rw [h stack (Nat.le_trans (Nat.le_max_left _ _) hle)]
  exact houtcome stack (Nat.le_trans (Nat.le_max_right _ _) hle)

theorem of_succ {outcomes : Nat → EStateM.Result Error Store α}
    (h : Converges fun stack => outcomes (stack + 1)) : Converges outcomes := by
  obtain ⟨enough, outcome, hne, houtcome⟩ := h
  refine ⟨enough + 1, outcome, hne, fun stack hle => ?_⟩
  obtain ⟨below, rfl⟩ := Nat.exists_eq_add_of_le' (Nat.le_trans (Nat.le_add_left 1 enough) hle)
  exact houtcome below (Nat.le_of_add_le_add_right hle)

theorem bind {work : Nat → Eval α} {next : Nat → α → Eval β}
    (hwork : Converges fun stack => work stack store)
    (hnext : ∀ stack value middle, work stack store = .ok value middle →
      Converges fun stack => next stack value middle) :
    Converges fun stack => (work stack >>= next stack) store := by
  obtain ⟨enough, outcome, hne, houtcome⟩ := hwork
  cases outcome with
  | ok value middle =>
      obtain ⟨more, last, hlast, hmore⟩ :=
        hnext enough value middle (houtcome enough (Nat.le_refl enough))
      refine ⟨max enough more, last, hlast, fun stack hle => ?_⟩
      have hvalue := houtcome stack (Nat.le_trans (Nat.le_max_left _ _) hle)
      dsimp only at hvalue ⊢
      rw [bind_apply, hvalue]
      exact hmore stack (Nat.le_trans (Nat.le_max_right _ _) hle)
  | error e middle =>
      refine ⟨enough, .error e middle, fun final hfinal => ?_, fun stack hle => ?_⟩
      · cases hfinal
        exact hne middle rfl
      · have herror := houtcome stack hle
        dsimp only at herror ⊢
        rw [bind_apply, herror]

section Lists

/- Each item is worked on in a store that is as good as the one before. -/
variable {good : Store → Prop} {f : Nat → α → Eval β} {items : List α}

theorem mapM (h : ∀ item ∈ items, ∀ store, good store → Converges fun stack => f stack item store)
    (hgood : ∀ item ∈ items, ∀ store, good store →
      ∀ stack value middle, f stack item store = .ok value middle → good middle)
    (hstore : good store) : Converges fun stack => items.mapM (f stack) store := by
  induction items generalizing store with
  | nil => exact .ok _ store
  | cons item rest ih =>
      simp only [List.mapM_cons]
      refine bind (h item List.mem_cons_self store hstore) fun stack value middle hvalue => ?_
      have hmiddle := hgood item List.mem_cons_self store hstore stack value middle hvalue
      refine bind (ih (fun other hother => h other (List.mem_cons_of_mem _ hother))
        (fun other hother => hgood other (List.mem_cons_of_mem _ hother)) hmiddle) ?_
      exact fun _ values final _ => .ok (value :: values) final

theorem foldlM (h : ∀ item ∈ items, ∀ store, good store →
      Converges fun stack => f stack item store)
    (hgood : ∀ item ∈ items, ∀ store, good store →
      ∀ stack value middle, f stack item store = .ok value middle → good middle)
    (hstore : good store) (initial : β) :
    Converges fun stack => items.foldlM (fun _ item => f stack item) initial store := by
  induction items generalizing store initial with
  | nil => exact .ok initial store
  | cons item rest ih =>
      simp only [List.foldlM_cons]
      refine bind (h item List.mem_cons_self store hstore) fun stack value middle hvalue => ?_
      have hmiddle := hgood item List.mem_cons_self store hstore stack value middle hvalue
      exact ih (fun other hother => h other (List.mem_cons_of_mem _ hother))
        (fun other hother => hgood other (List.mem_cons_of_mem _ hother)) hmiddle value

end Lists

end Converges

section Modules

variable {store : Store} {env : FrameId} {source : String}

theorem moduleExports_eq {settings : Settings} {declared : Module} {maxDepth : Int}
    {macros : Macros} {rest : List Expr} (hlimit : settings.maxExpansionDepth = .ok maxDepth)
    (hcollect : Macros.collect { maxDepth } declared.exports = (macros, rest)) (stack : Nat) :
    moduleExports stack settings declared =
      (macros.expandAll stack rest).map fun exports => (macros, exports) := by
  simp only [moduleExports, hlimit, bind, Except.bind, hcollect]
  cases macros.expandAll stack rest <;> rfl

theorem moduleExports_eq_of_le {settings : Settings} {declared : Module} {stack larger : Nat}
    (hfinished : moduleExports stack settings declared ≠ .error .stackExhausted)
    (h : stack ≤ larger) :
    moduleExports larger settings declared = moduleExports stack settings declared := by
  cases hlimit : settings.maxExpansionDepth with
  | error e =>
      simp only [moduleExports, hlimit]
      rfl
  | ok maxDepth =>
      cases hcollect : Macros.collect { maxDepth } declared.exports with
      | mk macros rest =>
          rw [moduleExports_eq hlimit hcollect, Ne, map_eq_error_iff] at hfinished
          have hexpand : macros.expandAll larger rest = macros.expandAll stack rest :=
            mapM_eq_of_agree (fun e _ hne => Macros.expand_eq_of_le hne h) hfinished
          rw [moduleExports_eq hlimit hcollect, moduleExports_eq hlimit hcollect, hexpand]

theorem exists_moduleExports_ne_exhausted (settings : Settings) (declared : Module) :
    ∃ stack, moduleExports stack settings declared ≠ .error .stackExhausted := by
  cases hlimit : settings.maxExpansionDepth with
  | error e =>
      refine ⟨0, fun h => ?_⟩
      simp only [moduleExports, hlimit] at h
      cases h
      exact (Settings.shallow_limit _ _).ne_exhausted hlimit
  | ok maxDepth =>
      cases hcollect : Macros.collect { maxDepth } declared.exports with
      | mk macros rest =>
          have hitems (e : Expr) (_ : e ∈ rest) :
              ∃ stack, macros.expand stack 0 e ≠ .error .stackExhausted :=
            macros.exists_expand_ne_exhausted (macros.maxDepth + 1).toNat (by omega) e
          obtain ⟨stack, hstack⟩ := Macros.exists_stack_of_forall hitems
          refine ⟨stack, fun h => ?_⟩
          rw [moduleExports_eq hlimit hcollect, map_eq_error_iff] at h
          obtain ⟨e, he, herror⟩ := exists_of_mapM_eq_error h
          exact hstack e he herror

theorem exists_findModule (store : Store) (env : FrameId) (source : String) :
    ∃ enough found, found ≠ .error .stackExhausted ∧
      ∀ stack, enough ≤ stack → store.findModule stack env source = found := by
  have hconstant {found : Except Error (LoadedModule ⊕ Opening)}
      (hne : found ≠ .error .stackExhausted) :
      ∃ enough outcome, outcome ≠ .error .stackExhausted ∧
        ∀ stack, enough ≤ stack → found = outcome := ⟨0, found, hne, fun _ _ => rfl⟩
  unfold Store.findModule
  split
  · exact hconstant (by simp)
  · rename_i id _
    split
    · exact hconstant (by simp)
    · rename_i realm _
      split
      · exact hconstant (by simp)
      · split
        · exact hconstant (by simp)
        · rename_i declared _
          split
          · exact hconstant (by simp)
          · obtain ⟨enough, henough⟩ := exists_moduleExports_ne_exhausted realm.settings declared
            refine ⟨enough, _, ?_, fun stack hle => by rw [moduleExports_eq_of_le henough hle]⟩
            cases hexports : moduleExports enough realm.settings declared with
            | error e =>
                rw [hexports] at henough
                intro h
                cases h
                exact henough rfl
            | ok pair => simp

theorem converges_bindExport (source : String) (loaded : LoadedModule) (env : FrameId)
    (symbol : String) (store : Store) :
    Converges fun _ => bindExport source loaded env symbol store := by
  rw [bindExport_apply]
  split
  · exact .error (by simp) store
  · split
    · exact .ok () _
    · exact .ok () _
    · split
      · exact .error (by simp) store
      · exact .error (by simp) store

theorem converges_bindExports (source : String) (loaded : LoadedModule) (env : FrameId)
    (symbols : List String) (store : Store) :
    Converges fun _ => symbols.forM (bindExport source loaded env) store := by
  induction symbols generalizing store with
  | nil => exact .ok () store
  | cons symbol rest ih =>
      exact .bind (converges_bindExport source loaded env symbol store)
        fun _ _ middle _ => ih middle

theorem converges_loadModule (hexports : ∀ stack opening,
      store.findModule stack env source = .ok (.inr opening) →
      Converges fun stack => runAll (evaluate stack) opening.frame opening.exports opening.store) :
    Converges fun stack => loadModule (evaluate stack) stack env source store := by
  obtain ⟨enough, found, hne, hfound⟩ := exists_findModule store env source
  cases found with
  | error e =>
      have herror : e ≠ .stackExhausted := fun h => hne (by rw [h])
      refine .of_eventually enough (.error herror store) fun stack hle => ?_
      rw [loadModule_apply, hfound stack hle]
  | ok found =>
      cases found with
      | inl loaded =>
          refine .of_eventually enough (.ok loaded store) fun stack hle => ?_
          rw [loadModule_apply, hfound stack hle]
      | inr opening =>
          have hevaluate : Converges fun stack => opening.evaluate (evaluate stack) := by
            obtain ⟨more, outcome, houtcome, hmore⟩ :=
              hexports enough opening (hfound enough (Nat.le_refl enough))
            cases outcome with
            | ok _ final =>
                refine .of_eventually more (.ok opening.loaded (opening.finish final)) ?_
                intro stack hle
                simp only [Opening.evaluate, hmore stack hle]
            | error e final =>
                have hne : e ≠ .stackExhausted := fun h => houtcome final (by rw [h])
                refine .of_eventually more (.error hne (opening.close final)) ?_
                intro stack hle
                simp only [Opening.evaluate, hmore stack hle]
          refine .of_eventually enough hevaluate fun stack hle => ?_
          rw [loadModule_apply, hfound stack hle]

end Modules

/-- The frame is at the depth, so many of the declared modules are not being loaded, and no builtin
uses up the stack by itself. -/
structure Steady (limit depth : Int) (room : Nat) (env : FrameId) (store : Store) : Prop where
  atDepth : store.AtDepth limit depth env
  room_eq : store.room = room
  confined : store.Confined (·.Avoids .stackExhausted)

section Cases

variable {limit depth : Int} {room : Nat} {env : FrameId} {store : Store}

theorem Steady.of_ok {α : Type} (h : Steady limit depth room env store) {work : Eval α}
    {may : Namespace → List String} {value : α} {after : Store}
    (heffect : Effect env may store (finalStore work store))
    (hwork : work store = .ok value after) : Steady limit depth room env after := by
  rw [finalStore_of_ok hwork] at heffect
  exact ⟨h.atDepth.effect heffect,
    (Store.framed_of_effect heffect).toSameRealms.room_eq.trans h.room_eq,
    h.confined.effect heffect⟩

theorem Steady.evaluate_ok (h : Steady limit depth room env store) {stack : Nat} {e : Expr}
    {value : Json} {after : Store} (hvalue : evaluate stack e env store = .ok value after) :
    Steady limit depth room env after :=
  h.of_ok (evaluate_effect stack e env store) hvalue

theorem converges_runAll {exprs : List Expr} (hexprs : ∀ e ∈ exprs, ∀ store,
      Steady limit depth room env store → Converges fun stack => evaluate stack e env store)
    (h : Steady limit depth room env store) :
    Converges fun stack => runAll (evaluate stack) env exprs store := by
  induction exprs generalizing store with
  | nil => exact .ok () store
  | cons first rest ih =>
      have hfirst : Converges fun stack => (evaluate stack first env >>= fun _ => pure ()) store :=
        .bind (hexprs first List.mem_cons_self store h) fun _ _ middle _ => .ok () middle
      refine .bind hfirst fun stack _ middle hmiddle => ?_
      obtain ⟨value, final, hvalue, hfinal⟩ := bind_eq_ok.mp hmiddle
      cases hfinal
      exact ih (fun e he => hexprs e (List.mem_cons_of_mem _ he)) (h.evaluate_ok hvalue)

theorem converges_imports {source : String} (symbols : List String)
    (hload : ∀ less < room, ∀ (store : Store) (env : FrameId) (e : Expr) (depth : Int),
      Steady limit depth less env store → Converges fun stack => evaluate stack e env store)
    (h : Steady limit depth room env store) :
    Converges fun stack => step (evaluate stack) stack (.imports source symbols) env store := by
  refine .bind (converges_loadModule fun stack opening hopen => ?_) fun stack loaded middle _ => ?_
  · have hroom := Store.room_opening_lt hopen
    rw [h.room_eq] at hroom
    have hopening : Steady limit 0 opening.store.room opening.frame opening.store :=
      ⟨h.atDepth.openModule hopen, rfl, h.confined.openModule hopen⟩
    refine converges_runAll (fun e _ store hstore => ?_) hopening
    exact hload _ hroom store opening.frame e 0 hstore
  · refine .bind (converges_bindExports source loaded env symbols middle) fun _ _ final _ => ?_
    exact .ok Json.null final

theorem converges_applyClosure {target : String} {closure : Closure} (args : List Json)
    (hcall : ∀ (store : Store) (callee : FrameId) (body : Expr),
      Steady limit (depth + 1) room callee store → depth + 1 ≤ limit →
      Converges fun stack => evaluate stack body callee store)
    (h : Steady limit depth room env store)
    (hfunction : store.function? env target = some (.user closure)) :
    Converges fun stack => applyClosure (evaluate stack) closure args env store := by
  refine .bind ?_ fun _ callee entered henter => ?_
  · rw [enter_apply]
    split
    · exact .error (by simp) store
    · split
      · rename_i e harguments
        refine .error (fun he => ?_) store
        exact (shallow_bindArguments _ _ _).ne_exhausted (he ▸ harguments)
      · exact .ok _ _
  · obtain ⟨hlimit, hentered⟩ := h.atDepth.enter hfunction henter
    have hroom := (Store.keeps_enter henter).1.toSameRealms.room_eq
    exact hcall entered callee closure.body
      ⟨hentered, hroom.trans h.room_eq, h.confined.enter henter⟩ hlimit

theorem converges_call {target : String} {args : List Expr}
    (hargs : ∀ arg ∈ args, ∀ store, Steady limit depth room env store →
      Converges fun stack => evaluate stack arg env store)
    (hcall : ∀ (store : Store) (callee : FrameId) (body : Expr),
      Steady limit (depth + 1) room callee store → depth + 1 ≤ limit →
      Converges fun stack => evaluate stack body callee store)
    (h : Steady limit depth room env store) :
    Converges fun stack => step (evaluate stack) stack (.call target args) env store := by
  refine .bind (.mapM hargs ?_ h) fun stack values ready hvalues => ?_
  · intro arg _ store hstore stack value middle hvalue
    exact hstore.evaluate_ok hvalue
  · have hready : Steady limit depth room env ready :=
      h.of_ok (effect_mapM (evaluate_effect stack) args store) hvalues
    simp only [bind_apply, function_apply]
    cases hfunction : ready.function? env target with
    | none => exact .error (by simp) ready
    | some function =>
        cases function with
        | user closure => exact converges_applyClosure values hcall hready hfunction
        | value value => exact .error (by simp) ready
        | builtin builtin =>
            simp only [apply, applyBuiltin_apply]
            cases hresult : builtin.apply values with
            | ok outcome => exact .ok _ _
            | error e =>
                refine .error (fun he => ?_) ready
                have havoids := hready.confined.allowed_of_function? hfunction
                exact havoids.apply_ne values (he ▸ hresult)

end Cases

/-- Evaluation in any frame comes to an end, where all frames are under the same limit. -/
theorem converges_evaluate {limit depth : Int} {room : Nat} {store : Store} {env : FrameId}
    (e : Expr) (h : Steady limit depth room env store) :
    Converges fun stack => evaluate stack e env store := by
  -- A module starts again at depth 0 but leaves less room, a call has its body anywhere but goes
  -- one deeper, and all else is a part of the expression: hence three inductions, in this order.
  induction room using Nat.strong_induction_on generalizing depth store env e with
  | _ room ihRoom =>
  induction hlevels : (limit - depth).toNat using Nat.strong_induction_on
    generalizing depth store env e with
  | _ levels ihLevels =>
  induction e using Expr.inductionOnChildren generalizing store with
  | _ e ih =>
  have hchild (child : Expr) (hmem : child ∈ e.children) (store : Store)
      (hstore : Steady limit depth room env store) :
      Converges fun stack => evaluate stack child env store := ih child hmem hstore
  refine .of_succ ?_
  cases e with
  | literal value => exact .ok _ store
  | ref name =>
      simp only [evaluate, step, var_apply]
      cases store.var? env name with
      | some value => exact .ok value store
      | none => exact .error (by simp) store
  | binding name value =>
      refine .bind (hchild value List.mem_cons_self store h) fun _ json middle _ => ?_
      exact .ok json _
  | sequence body =>
      refine .foldlM hchild ?_ h .null
      intro item _ store hstore stack value middle hvalue
      exact hstore.evaluate_ok hvalue
  | conditional condition whenTrue whenFalse =>
      refine .bind (hchild condition List.mem_cons_self store h)
        fun _ value middle hvalue => ?_
      cases hbranch : if value.truthy then whenTrue else whenFalse with
      | none => exact .ok Json.null middle
      | some chosen =>
          refine hchild chosen (List.mem_cons_of_mem _ ?_) middle (h.evaluate_ok hvalue)
          rw [List.mem_append, Option.mem_toList, Option.mem_toList]
          split at hbranch
          · exact .inl hbranch
          · exact .inr hbranch
  | function name params body => exact .ok _ _
  | macroDef name params body => exact .error (by simp) store
  | imports source symbols =>
      refine converges_imports symbols (fun less hless store env e depth hstore => ?_) h
      exact ihRoom less hless e hstore
  | call target args =>
      refine converges_call hchild (fun store callee body hstore hlimit => ?_) h
      exact ihLevels (limit - (depth + 1)).toNat (by omega) body hstore rfl
  | record target fields => exact .error (by simp) store

end Eval

namespace Interpreter

theorem invariant_hosted {interpreter : Interpreter} {err : Error}
    (hhost : interpreter.HostAvoids err) (hnesting : err.reportsNesting = true) :
    interpreter.Invariant fun modules _ store env =>
      interpreter.Active modules store env ∧ store.Confined (·.Avoids err) :=
  (invariant_active interpreter).and (invariant_confined (hhost.avoids hnesting))

/-- In every state of an interpreter the evaluation of every expression ends, in a value or in an
error, whatever modules are declared and whatever functions the embedding application adds, as long
as these do not use up the stack by themselves: there is a stack from which on the outcome is not
that the stack was used up, and no longer changes. -/
theorem evaluate_terminates {interpreter : Interpreter}
    (hhost : interpreter.HostAvoids .stackExhausted) {modules : Bindings Module}
    {store : Store} (h : interpreter.Reachable modules store) {env : FrameId}
    (henv : env < store.frames.size) (e : Expr) :
    ∃ enough outcome, (∀ final, outcome ≠ .error .stackExhausted final) ∧
      ∀ stack, enough ≤ stack → Eval.evaluate stack e env store = outcome := by
  obtain ⟨_, _, hactive, hconfined⟩ := (invariant_hosted hhost rfl).reachable h
  obtain ⟨frame, hframe⟩ := Store.exists_frame henv
  exact Eval.converges_evaluate e ⟨⟨hactive.sound.limited, frame, hframe, rfl⟩, rfl, hconfined⟩

/-- A program with two modules that import each other, one of them within a function. -/
def mutualImports : Json :=
  .obj [("jexl_version", .str "v0.1"), ("name", .str "test"),
    ("modules", .obj
      [("a", .obj [("exports", .arr
        [.obj [("function", .obj [("name", .str "f"), ("params", .arr []),
          ("body", .obj [("do", .arr
            [.obj [("import", .obj [("module", .str "b"), ("symbols", .arr [.str "g"])])],
              .obj [("g", .arr [])]])])])]])]),
       ("b", .obj [("exports", .arr
        [.obj [("import", .obj [("module", .str "a"), ("symbols", .arr [.str "f"])])],
          .obj [("function", .obj [("name", .str "g"), ("params", .arr []),
            ("body", .obj [("f", .arr [])])])]])])]),
    ("program", .arr
      [.obj [("import", .obj [("module", .str "a"), ("symbols", .arr [.str "f"])])]])]

/-- The call of `f`, which calls itself by way of the other module, ends. -/
theorem evaluate_terminates_mutualImports :
    let interpreter : Interpreter := { maxCallDepth := 100 }
    let session :=
      interpreter.after (interpreter.initial { maxDepth := 100 }) [.run mutualImports]
    interpreter.HostAvoids .stackExhausted ∧
      interpreter.Reachable (interpreter.declared [.run mutualImports]) session.store ∧
      0 < session.store.frames.size ∧
      ∃ enough outcome, (∀ final, outcome ≠ .error .stackExhausted final) ∧
        ∀ stack, enough ≤ stack → Eval.evaluate stack (.call "f" []) 0 session.store = outcome := by
  intro interpreter session
  have hreachable : interpreter.Reachable (interpreter.declared [.run mutualImports])
      session.store := .rest { maxDepth := 100 } [.run mutualImports]
  have hsize : 0 < session.store.frames.size :=
    ((invariant_active interpreter).after { maxDepth := 100 } [.run mutualImports]).2.lt_size
  have hhost : interpreter.HostAvoids .stackExhausted := hostAvoids_of_standard rfl _
  exact ⟨hhost, hreachable, hsize, evaluate_terminates hhost hreachable hsize (.call "f" [])⟩

end Interpreter

end JsonExpr
