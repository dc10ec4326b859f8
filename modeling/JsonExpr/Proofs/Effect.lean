import JsonExpr.Proofs.Evaluation
import JsonExpr.Proofs.Expr

/-!
What evaluation does to the store. `Effect` lists, apart from the expression being evaluated, every
way in which evaluation in a frame can change the store, and `evaluate_effect` says that there is
no other. What evaluation preserves is then shown by one case for each of these ways.
-/

namespace JsonExpr

/-- How the store changes when evaluation goes on in the frame `env` and binds no names there but
those of `may`. -/
inductive Effect : FrameId → (Namespace → List String) → Store → Store → Prop
  | none {env may store} : Effect env may store store
  | next {env may before middle after} :
      Effect env may before middle → Effect env may middle after → Effect env may before after
  | printed {env may store} (text : String) :
      Effect env may store { store with output := store.output ++ text }
  | assigned {env may store name} (value : Json) :
      name ∈ may .vars → Effect env may store (store.setVar env name value)
  | defined {env may store name} (params : List Param) (body : Expr) :
      name ∈ may .functions →
      Effect env may store (store.setFunction env name (.user { name, params, body, frame := env }))
  | imported {env may store symbol} {source : FrameId} {frame : Frame}
      {function : Function} :
      symbol ∈ may .functions → store.frames[source]? = some frame →
      frame.functions.get? symbol = some function →
      Effect env may store (store.setFunction env symbol function)
  | call {env may store target args callee entered after} {closure : Closure} :
      store.function? env target = some (.user closure) →
      Eval.enter closure args env store = .ok callee entered →
      Effect callee closure.body.binds entered after → Effect env may store after
  | failedLoad {env may store stack source after} {opening : Opening} :
      store.findModule stack env source = .ok (.inr opening) →
      Effect opening.frame (Expr.bindsOfItems opening.exports) opening.store after →
      Effect env may store (opening.close after)
  | load {env may store stack source after} {opening : Opening} :
      store.findModule stack env source = .ok (.inr opening) →
      Eval.runAll (Eval.evaluate stack) opening.frame opening.exports opening.store = .ok () after →
      Effect opening.frame (Expr.bindsOfItems opening.exports) opening.store after →
      Effect env may store (opening.finish after)

namespace Effect

variable {α β : Type} {env : FrameId} {may more : Namespace → List String}

theorem mono {before after : Store} (h : Effect env may before after)
    (hsub : ∀ space, ∀ name ∈ may space, name ∈ more space) : Effect env more before after := by
  induction h generalizing more with
  | none => exact .none
  | next _ _ ihFirst ihSecond => exact .next (ihFirst hsub) (ihSecond hsub)
  | printed text => exact .printed text
  | assigned value hname => exact .assigned value (hsub _ _ hname)
  | defined params body hname => exact .defined params body (hsub _ _ hname)
  | imported hsymbol hframe hfunction => exact .imported (hsub _ _ hsymbol) hframe hfunction
  | call hfunction henter hbody _ => exact .call hfunction henter hbody
  | failedLoad hopen hexports _ => exact .failedLoad hopen hexports
  | load hopen hrun hexports _ => exact .load hopen hrun hexports

theorem bind {work : Eval α} {rest : α → Eval β} {store : Store}
    (hwork : Effect env may store (Eval.finalStore work store))
    (hrest : ∀ value middle, work store = .ok value middle →
      Effect env may middle (Eval.finalStore (rest value) middle)) :
    Effect env may store (Eval.finalStore (work >>= rest) store) := by
  cases h : work store with
  | error e middle =>
      rw [Eval.finalStore_of_error h] at hwork
      simpa only [Eval.finalStore, Eval.bind_apply, h] using hwork
  | ok value middle =>
      rw [Eval.finalStore_of_ok h] at hwork
      have hafter := hrest value middle h
      simp only [Eval.finalStore] at hafter
      simpa only [Eval.finalStore, Eval.bind_apply, h] using hwork.next hafter

theorem forM {work : α → Eval PUnit} {items : List α}
    (h : ∀ item ∈ items, ∀ store, Effect env may store (Eval.finalStore (work item) store))
    (store : Store) : Effect env may store (Eval.finalStore (items.forM work) store) := by
  induction items generalizing store with
  | nil => exact .none
  | cons item rest ih =>
      apply bind (h item List.mem_cons_self store)
      intro _ middle _
      exact ih (fun other hother => h other (List.mem_cons_of_mem _ hother)) middle

theorem mapM {work : α → Eval β} {items : List α}
    (h : ∀ item ∈ items, ∀ store, Effect env may store (Eval.finalStore (work item) store))
    (store : Store) : Effect env may store (Eval.finalStore (items.mapM work) store) := by
  induction items generalizing store with
  | nil => exact .none
  | cons item rest ih =>
      rw [List.mapM_cons]
      apply bind (h item List.mem_cons_self store)
      intro _ middle _
      apply bind (ih (fun other hother => h other (List.mem_cons_of_mem _ hother)) middle)
      intro _ _ _
      exact .none

theorem foldlM {work : β → α → Eval β} {items : List α}
    (h : ∀ item ∈ items, ∀ value store,
      Effect env may store (Eval.finalStore (work value item) store))
    (value : β) (store : Store) :
    Effect env may store (Eval.finalStore (items.foldlM work value) store) := by
  induction items generalizing value store with
  | nil => exact .none
  | cons item rest ih =>
      rw [List.foldlM_cons]
      apply bind (h item List.mem_cons_self value store)
      intro next middle _
      exact ih (fun other hother => h other (List.mem_cons_of_mem _ hother)) next middle

end Effect

namespace Eval

variable {env : FrameId}

/-- The evaluator has no other effects than those listed. -/
def HasEffects (self : Evaluator) : Prop :=
  ∀ e env store, Effect env e.binds store (finalStore (self e env) store)

theorem effect_runAll {self : Evaluator} (hself : HasEffects self) (exprs : List Expr)
    (store : Store) :
    Effect env (Expr.bindsOfItems exprs) store (finalStore (runAll self env exprs) store) := by
  apply Effect.forM
  intro e he middle
  apply Effect.bind ((hself e env middle).mono (Expr.binds_subset_bindsOfItems he))
  intro _ _ _
  exact .none

theorem effect_mapM {self : Evaluator} (hself : HasEffects self) (exprs : List Expr)
    (store : Store) :
    Effect env (Expr.bindsOfItems exprs) store
      (finalStore (exprs.mapM fun e => self e env) store) := by
  apply Effect.mapM
  intro e he middle
  exact (hself e env middle).mono (Expr.binds_subset_bindsOfItems he)

theorem effect_applyClosure {self : Evaluator} (hself : HasEffects self)
    {may : Namespace → List String} {target : String} {closure : Closure} (args : List Json)
    {store : Store} (h : store.function? env target = some (.user closure)) :
    Effect env may store (finalStore (applyClosure self closure args env) store) := by
  cases henter : enter closure args env store with
  | error e final =>
      obtain rfl := enter_eq_error henter
      simpa only [applyClosure, finalStore, bind_apply, henter] using .none
  | ok callee entered =>
      have hbody := hself closure.body callee entered
      simp only [finalStore] at hbody
      simpa only [applyClosure, finalStore, bind_apply, henter] using .call h henter hbody

theorem effect_apply {self : Evaluator} (hself : HasEffects self)
    {may : Namespace → List String} {target : String} {function : Function} (args : List Json)
    {store : Store} (h : store.function? env target = some function) :
    Effect env may store (finalStore (apply self function args env) store) := by
  cases function with
  | builtin builtin =>
      simp only [apply, finalStore, applyBuiltin_apply]
      cases builtin.apply args with
      | ok outcome => exact .printed outcome.printed
      | error e => exact .none
  | user closure => exact effect_applyClosure hself args h
  | value value => exact .none

theorem effect_invoke {self : Evaluator} (hself : HasEffects self)
    {may : Namespace → List String} (target : String) (args : List Json) (store : Store) :
    Effect env may store
      (finalStore (do apply self (← function env target) args env) store) := by
  cases hfunction : store.function? env target with
  | none =>
      simp only [finalStore, bind_apply, function_apply, hfunction]
      exact .none
  | some function =>
      have happly : Effect env may store (finalStore (apply self function args env) store) :=
        effect_apply hself args hfunction
      simp only [finalStore] at happly
      simpa only [finalStore, bind_apply, function_apply, hfunction] using happly

theorem effect_loadModule {stack : Nat} (hself : HasEffects (evaluate stack))
    {may : Namespace → List String} (source : String) (store : Store) :
    Effect env may store (finalStore (loadModule (evaluate stack) stack env source) store) := by
  simp only [finalStore, loadModule_apply]
  cases hfind : store.findModule stack env source with
  | error e => exact .none
  | ok found =>
      cases found with
      | inl loaded => exact .none
      | inr opening =>
          have hexports : Effect opening.frame (Expr.bindsOfItems opening.exports) opening.store
              (finalStore (runAll (evaluate stack) opening.frame opening.exports) opening.store) :=
            effect_runAll hself opening.exports opening.store
          simp only [Opening.evaluate]
          cases hrun : runAll (evaluate stack) opening.frame opening.exports opening.store with
          | ok _ final =>
              rw [finalStore_of_ok hrun] at hexports
              exact .load hfind hrun hexports
          | error e final =>
              rw [finalStore_of_error hrun] at hexports
              exact .failedLoad hfind hexports

theorem effect_bindExport {may : Namespace → List String} (source : String)
    (loaded : LoadedModule) {symbol : String} (h : ∀ space, symbol ∈ may space) (store : Store) :
    Effect env may store (finalStore (bindExport source loaded env symbol) store) := by
  simp only [finalStore, bindExport_apply]
  cases hframe : store.frames[loaded.frame]? with
  | none => exact .none
  | some frame =>
      simp only
      cases hfunction : frame.functions.get? symbol with
      | some function => exact .imported (h _) hframe hfunction
      | none =>
          cases frame.vars.get? symbol with
          | some value => exact .assigned value (h _)
          | none =>
              by_cases hmacro : loaded.macros.contains symbol = true
              · simp only [if_pos hmacro]
                exact .none
              · simp only [if_neg hmacro]
                exact .none

theorem effect_branch {self : Evaluator} (hself : HasEffects self)
    {may : Namespace → List String} {branch : Option Expr}
    (h : ∀ space, ∀ name ∈ Expr.bindsOfBranch branch space, name ∈ may space) (store : Store) :
    Effect env may store (finalStore
      (match branch with
      | some chosen => self chosen env
      | none => return .null) store) := by
  cases branch with
  | none => exact .none
  | some chosen => exact (hself chosen env store).mono h

theorem effect_step {stack : Nat} (hself : HasEffects (evaluate stack)) :
    HasEffects (step (evaluate stack) stack) := by
  intro e env store
  cases e with
  | literal value => exact .none
  | ref name =>
      simp only [step, finalStore, var_apply]
      cases store.var? env name <;> exact .none
  | binding name value =>
      have hsub : ∀ space, ∀ bound ∈ value.binds space,
          bound ∈ (Expr.binding name value).binds space := by
        intro space bound hbound
        cases space with
        | vars => exact List.mem_cons_of_mem _ hbound
        | functions => exact hbound
      apply Effect.bind ((hself value env store).mono hsub)
      intro result middle _
      exact .assigned result List.mem_cons_self
  | sequence body =>
      apply Effect.foldlM
      intro item hitem _ middle
      exact (hself item env middle).mono (Expr.binds_subset_bindsOfItems hitem)
  | conditional condition whenTrue whenFalse =>
      have hcondition : ∀ space, ∀ name ∈ condition.binds space,
          name ∈ (Expr.conditional condition whenTrue whenFalse).binds space := by
        intro space name hname
        simp [Expr.binds, hname]
      apply Effect.bind ((hself condition env store).mono hcondition)
      intro value middle _
      by_cases htruthy : value.truthy = true
      · simp only [if_pos htruthy]
        apply effect_branch hself
        intro space name hname
        simp [Expr.binds, hname]
      · simp only [if_neg htruthy]
        apply effect_branch hself
        intro space name hname
        simp [Expr.binds, hname]
  | function name params body => exact .defined params body List.mem_cons_self
  | macroDef name params body => exact .none
  | imports source symbols =>
      apply Effect.bind (effect_loadModule hself source store)
      intro loaded middle _
      apply Effect.bind (Effect.forM ?_ middle)
      · intro _ _ _
        exact .none
      · intro symbol hsymbol inner
        exact effect_bindExport source loaded (fun _ => hsymbol) inner
  | call target args =>
      apply Effect.bind (effect_mapM hself args store)
      intro values middle _
      exact effect_invoke hself target values middle
  | record target fields => exact .none

theorem evaluate_effect (stack : Nat) : HasEffects (evaluate stack) := by
  induction stack with
  | zero =>
      intro e env store
      exact .none
  | succ stack ih => exact effect_step ih

end Eval

end JsonExpr
