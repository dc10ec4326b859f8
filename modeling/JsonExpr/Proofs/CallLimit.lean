import JsonExpr.Proofs.Phases
import JsonExpr.Proofs.Termination

namespace JsonExpr

theorem Shallow.ne_depthExceeded {α : Type} {work : Except Error α} (h : Shallow work)
    (limit : Option Int) (what : String) : work ≠ .error (.depthExceeded limit what) := by
  intro herror
  cases h _ herror

theorem Macros.expand_ne_callDepth (macros : Macros) (stack : Nat) (depth : Int) (e : Expr)
    (limit : Option Int) :
    macros.expand stack depth e ≠ .error (.depthExceeded limit "call") := by
  intro h
  induction stack generalizing depth e with
  | zero => cases h
  | succ stack ih =>
      by_cases hdepth : depth ≤ macros.maxDepth
      · rcases hinvoked : macros.invoked? e with _ | found
        · rw [expand_of_not_invoked hdepth hinvoked, map_eq_error_iff] at h
          obtain ⟨child, _, hchild⟩ := exists_of_mapM_eq_error h
          exact ih _ _ hchild
        · rw [expand_of_invoked hdepth hinvoked, bind_eq_error_iff] at h
          rcases h with honce | ⟨expanded, _, hlater⟩
          · exact (shallow_expandOnce e).ne_depthExceeded _ _ honce
          · exact ih _ _ hlater
      · rw [expand_of_exceeded (Int.not_le.mp hdepth)] at h
        simp at h

theorem Program.exists_of_firstInvalid?_error {faultOf : TypeCheck}
    {types : List (Option String × String × Json)} {err : Error}
    (h : firstInvalid? faultOf types = .error err) : ∃ document, faultOf document = .error err := by
  induction types with
  | nil => cases h
  | cons declared rest ih =>
      rcases bind_eq_error_iff.mp h with hfirst | ⟨reason, _, hrest⟩
      · exact ⟨_, hfirst⟩
      · rcases reason with _ | reason
        · exact ih hrest
        · cases hrest

/-- The check never fails with the error. -/
def TypeCheck.Avoids (faultOf : TypeCheck) (err : Error) : Prop :=
  ∀ document, faultOf document ≠ .error err

theorem TypeCheck.schema_avoids_depthExceeded (limit : Option Int) (what : String) :
    TypeCheck.schema.Avoids (.depthExceeded limit what) := by
  intro document h
  obtain ⟨failure, _, hfailure⟩ := mapError_eq_error_iff.mp h
  unfold Error.ofFailure at hfailure
  split at hfailure
  · cases hfailure
  · cases hfailure
  · cases hfailure
  · cases hfailure

namespace Eval

theorem moduleExports_ne_callDepth (stack : Nat) (settings : Settings) (declared : Module)
    (limit : Option Int) :
    moduleExports stack settings declared ≠ .error (.depthExceeded limit "call") := by
  intro h
  rcases bind_eq_error_iff.mp h with hlimit | ⟨maxDepth, _, hexports⟩
  · exact (Settings.shallow_limit _ _).ne_depthExceeded _ _ hlimit
  · rcases bind_eq_error_iff.mp hexports with hexpand | ⟨_, _, hlast⟩
    · obtain ⟨e, _, herror⟩ := exists_of_mapM_eq_error hexpand
      exact Macros.expand_ne_callDepth _ _ _ _ _ herror
    · cases hlast

theorem bindExports_ne_depthExceeded {source : String} {symbols : List String}
    {loaded : LoadedModule} {env : FrameId} {store final : Store} (limit : Option Int)
    (what : String) :
    symbols.forM (bindExport source loaded env) store ≠
      .error (.depthExceeded limit what) final := by
  intro h
  induction symbols generalizing store with
  | nil => cases h
  | cons symbol rest ih =>
      rcases bind_eq_error.mp h with hfirst | ⟨_, _, _, hrest⟩
      · rw [bindExport_apply] at hfirst
        split at hfirst
        · cases hfirst
        · split at hfirst
          · cases hfirst
          · cases hfirst
          · split at hfirst
            · cases hfirst
            · cases hfirst
      · exact ih hrest

variable {interpreter : Interpreter} {modules : Bindings Module} {left : Nat} {task : Task}
  {limit : Option Int}

/-- Only a call that is refused throws an error for too many nested calls, and the limit that it
reports is that of the interpreter. -/
theorem Throws.limit_eq (h : Throws (evaluate left) left task (.depthExceeded limit "call"))
    (hactive : interpreter.Active modules task.store task.frame)
    (hconfined : task.store.Confined (·.Avoids (.depthExceeded limit "call"))) :
    limit = some interpreter.maxCallDepth := by
  cases h with
  | @builtin _ args frame store _ _ _ _ hvalues hfunction hbuiltin =>
      have heffect : Effect frame _ store
          (finalStore (args.mapM fun arg => evaluate left arg frame) store) :=
        effect_mapM (evaluate_effect left) args store
      rw [finalStore_of_ok hvalues] at heffect
      have havoids := (hconfined.effect heffect).allowed_of_function? hfunction
      exact absurd hbuiltin (havoids.apply_ne _)
  | unopened hfind =>
      rw [hactive.sound.findModule_eq hactive.lt_size] at hfind
      split at hfind
      · cases hfind
      · cases hfind
      · split at hfind
        · cases hfind
        · exact absurd (map_eq_error_iff.mp hfind) (moduleExports_ne_callDepth _ _ _ _)
  | unexported _ hsymbols => exact absurd hsymbols (bindExports_ne_depthExceeded _ _)
  | @refused _ _ _ ready _ _ happlies henter =>
      obtain ⟨hready, _⟩ := hactive.effect (effect_applies (evaluate_effect left) happlies)
      have hmax := hready.sound.limited.maxCallDepth hready.lt_size
      rw [enter_apply, Store.exceeded?, hmax] at henter
      by_cases hexceeded : interpreter.maxCallDepth < ready.depth task.frame + 1
      · simp only [if_pos hexceeded] at henter
        cases henter
        rfl
      · simp only [if_neg hexceeded] at henter
        split at henter
        · rename_i harguments
          cases henter
          exact absurd harguments ((shallow_bindArguments _ _ _).ne_depthExceeded _ _)
        · cases henter

end Eval

theorem Error.eq_of_whenExhausted {err : Error} {limit : Option Int} {what other : String}
    (h : err.whenExhausted what = .depthExceeded limit other) :
    err = .depthExceeded limit other ∨ err = .stackExhausted ∧ limit = none ∧ what = other := by
  unfold whenExhausted at h
  split at h
  · cases h
    exact .inr ⟨rfl, rfl, rfl⟩
  · exact .inl h

namespace Interpreter

variable {interpreter : Interpreter} {session : Session} {request : Request} {phase : Phase}
  {err : Error} {limit : Option Int}

theorem Fails.ne_callDepth (h : interpreter.Fails session request phase err)
    (hfaultOf : interpreter.faultOf.Avoids (.depthExceeded limit "call")) :
    err ≠ .depthExceeded limit "call" := by
  intro hcall
  have hexpand {macros : Macros} {e : Expr} {raised : Error}
      (hraised : macros.expand interpreter.stack 0 e = .error raised) :
      raised.whenExhausted "nesting" ≠ .depthExceeded limit "call" := by
    intro hsame
    rcases Error.eq_of_whenExhausted hsame with rfl | ⟨_, _, hwhat⟩
    · exact macros.expand_ne_callDepth _ _ _ _ hraised
    · simp at hwhat
  cases h with
  | tooDeep => simp at hcall
  | notProgram => cases hcall
  | notExpression => cases hcall
  | uncheckable _ _ _ hcheck =>
      obtain ⟨document, hdocument⟩ := Program.exists_of_firstInvalid?_error hcheck
      rcases Error.eq_of_whenExhausted hcall with rfl | ⟨_, _, hwhat⟩
      · exact hfaultOf document hdocument
      · simp at hwhat
  | invalidType => cases hcall
  | body _ _ _ hbody =>
      obtain ⟨e, _, herror⟩ := exists_of_mapM_eq_error hbody
      exact hexpand herror hcall
  | evaluated _ _ _ herror => exact hexpand herror hcall
  | shown _ _ herror => exact hexpand herror hcall

theorem failsLate_of_callDepth
    (hfaultOf : interpreter.faultOf.Avoids (.depthExceeded limit "call"))
    (h : (interpreter.perform session request).outcome = .error (.depthExceeded limit "call")) :
    interpreter.FailsLate session request (.depthExceeded limit "call") := by
  rcases fails_of_perform h with hunknown | ⟨phase, hfails⟩ | hlate
  · unfold expansionLimit at hunknown
    split at hunknown
    · cases hunknown
    · exact absurd hunknown ((Settings.shallow_limit _ _).ne_depthExceeded _ _)
  · exact absurd rfl (hfails.ne_callDepth hfaultOf)
  · exact hlate

theorem limit_eq_of_moment {macros : Macros} {requests : List Request} {pending : List Pending}
    {left : Nat} {task : Task} {final : Store}
    (hmoment : interpreter.Moment (interpreter.after (interpreter.initial macros) requests) request
      pending left task)
    (hhost : interpreter.HostAvoids (.depthExceeded limit "call"))
    (h : Eval.outcome (Eval.evaluate left) task = .error (.depthExceeded limit "call") final) :
    limit = some interpreter.maxCallDepth := by
  have hinvariant := invariant_hosted hhost rfl
  rcases Eval.exists_throws h with ⟨_, _, _, hexhausted⟩ | ⟨_, _, sub, hduring, hthrows⟩
  · cases hexhausted
  · obtain ⟨hactive, hconfined⟩ := hinvariant.during (hinvariant.moment hmoment) hduring
    exact hthrows.limit_eq hactive hconfined

theorem limit_eq_of_perform {macros : Macros} {requests : List Request}
    (hhost : interpreter.HostAvoids (.depthExceeded limit "call"))
    (hfaultOf : interpreter.faultOf.Avoids (.depthExceeded limit "call"))
    (h : (interpreter.perform (interpreter.after (interpreter.initial macros) requests)
      request).outcome = .error (.depthExceeded limit "call")) :
    limit = some interpreter.maxCallDepth ∨ limit = none ∧
      ∃ task final,
        interpreter.Starts (interpreter.after (interpreter.initial macros) requests) request task ∧
        Eval.outcome (Eval.evaluate interpreter.stack) task = .error .stackExhausted final := by
  obtain ⟨task, raised, final, hstarts, herror, hraised⟩ := failsLate_of_callDepth hfaultOf h
  rcases Error.eq_of_whenExhausted hraised with rfl | ⟨rfl, hnone, _⟩
  · exact .inl (limit_eq_of_moment ⟨task, hstarts, .start⟩ hhost herror)
  · exact .inr ⟨hnone, task, final, hstarts, herror⟩

end Interpreter

end JsonExpr
