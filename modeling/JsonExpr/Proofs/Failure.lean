import JsonExpr.Proofs.ModuleRegistry

namespace JsonExpr

namespace Eval

variable {self : Evaluator} {stack : Nat} {frame : FrameId} {exprs : List Expr}
  {store final : Store} {err : Error}

/-- The errors that the evaluation of a task throws itself, once all that it begins has gone
well. -/
inductive Throws (self : Evaluator) (stack : Nat) : Task → Error → Prop
  | unboundVariable {name frame store} : store.var? frame name = none →
      Throws self stack ⟨.ref name, frame, store⟩ (.unbound .variable name)
  | macroDefinition {name params body frame store} :
      Throws self stack ⟨.macroDef name params body, frame, store⟩ (.macroNotExpanded name)
  | record {target fields frame store} :
      Throws self stack ⟨.record target fields, frame, store⟩ (.misuse (.notMacro target))
  | unboundFunction {target args frame store values ready} :
      (args.mapM fun arg => self arg frame) store = .ok values ready →
      ready.function? frame target = none →
      Throws self stack ⟨.call target args, frame, store⟩ (.unbound .function target)
  | notFunction {target args frame store values ready value} :
      (args.mapM fun arg => self arg frame) store = .ok values ready →
      ready.function? frame target = some (.value value) →
      Throws self stack ⟨.call target args, frame, store⟩ (.misuse (.notFunction value))
  | builtin {target args frame store values ready builtin err} :
      (args.mapM fun arg => self arg frame) store = .ok values ready →
      ready.function? frame target = some (.builtin builtin) →
      builtin.apply values = .error err →
      Throws self stack ⟨.call target args, frame, store⟩ err
  | refused {task closure values ready err final} : Applies self task closure values ready →
      enter closure values task.frame ready = .error err final → Throws self stack task err
  | unopened {source symbols frame store err} :
      store.findModule stack frame source = .error err →
      Throws self stack ⟨.imports source symbols, frame, store⟩ err
  | unexported {source symbols frame store loaded middle err final} :
      loadModule self stack frame source store = .ok loaded middle →
      symbols.forM (bindExport source loaded frame) middle = .error err final →
      Throws self stack ⟨.imports source symbols, frame, store⟩ err

theorem bind_eq_error {α β : Type} {work : Eval α} {next : α → Eval β} :
    (work >>= next) store = .error err final ↔
      work store = .error err final ∨
        ∃ value middle, work store = .ok value middle ∧ next value middle = .error err final := by
  rw [bind_apply]
  rcases work store with ⟨value, middle⟩ | ⟨e, middle⟩
  · simp
  · simp

section Lists

theorem exists_comes_of_runAll_error (h : runAll self frame exprs store = .error err final) :
    ∃ e reached, Comes self frame exprs store e reached ∧
      self e frame reached = .error err final := by
  induction exprs generalizing store with
  | nil => cases h
  | cons first rest ih =>
      rw [runAll_cons_apply] at h
      rcases hfirst : self first frame store with ⟨value, middle⟩ | ⟨e, middle⟩
      · rw [hfirst] at h
        obtain ⟨e, reached, hcomes, herror⟩ := ih h
        exact ⟨e, reached, .later hfirst hcomes, herror⟩
      · rw [hfirst] at h
        cases h
        exact ⟨first, store, .here, hfirst⟩

theorem runAll_of_mapM_error
    (h : (exprs.mapM fun e => self e frame) store = .error err final) :
    runAll self frame exprs store = .error err final := by
  induction exprs generalizing store with
  | nil => cases h
  | cons first rest ih =>
      rw [List.mapM_cons, bind_eq_error] at h
      rw [runAll_cons_apply]
      rcases h with hfirst | ⟨value, middle, hfirst, h⟩
      · rw [hfirst]
      · rw [hfirst]
        rcases bind_eq_error.mp h with hrest | ⟨_, _, _, h⟩
        · exact ih hrest
        · cases h

theorem runAll_of_foldlM_error {initial : Json}
    (h : exprs.foldlM (fun _ e => self e frame) initial store = .error err final) :
    runAll self frame exprs store = .error err final := by
  induction exprs generalizing store initial with
  | nil => cases h
  | cons first rest ih =>
      rw [List.foldlM_cons, bind_eq_error] at h
      rw [runAll_cons_apply]
      rcases h with hfirst | ⟨value, middle, hfirst, hrest⟩
      · rw [hfirst]
      · rw [hfirst]
        exact ih hrest

end Lists

theorem throws_or_begins_call {target : String} {args : List Expr}
    (h : outcome (step self stack) ⟨.call target args, frame, store⟩ = .error err final) :
    Throws self stack ⟨.call target args, frame, store⟩ err ∨
      ∃ opened sub last, Begins self stack ⟨.call target args, frame, store⟩ opened sub ∧
        outcome self sub = .error err last := by
  rcases bind_eq_error.mp h with hargs | ⟨values, ready, hvalues, happly⟩
  · obtain ⟨e, reached, hcomes, herror⟩ :=
      exists_comes_of_runAll_error (runAll_of_mapM_error hargs)
    exact .inr ⟨_, _, _, .argument hcomes, herror⟩
  · rcases hfunction : ready.function? frame target with _ | function
    · simp only [bind_apply, function_apply, hfunction] at happly
      cases happly
      exact .inl (.unboundFunction hvalues hfunction)
    · simp only [bind_apply, function_apply, hfunction] at happly
      rcases function with builtin | closure | value
      · rw [apply, applyBuiltin_apply] at happly
        rcases hbuiltin : builtin.apply values with e | result
        · rw [hbuiltin] at happly
          cases happly
          exact .inl (.builtin hvalues hfunction hbuiltin)
        · rw [hbuiltin] at happly
          cases happly
      · rcases bind_eq_error.mp happly with henter | ⟨callee, entered, henter, hbody⟩
        · exact .inl (.refused (.intro hvalues hfunction) henter)
        · exact .inr ⟨_, _, _, .body (.intro hvalues hfunction) henter, hbody⟩
      · cases happly
        exact .inl (.notFunction hvalues hfunction)

theorem throws_or_begins_imports {source : String} {symbols : List String}
    (h : outcome (step self stack) ⟨.imports source symbols, frame, store⟩ = .error err final) :
    Throws self stack ⟨.imports source symbols, frame, store⟩ err ∨
      ∃ opened sub last, Begins self stack ⟨.imports source symbols, frame, store⟩ opened sub ∧
        outcome self sub = .error err last := by
  rcases bind_eq_error.mp h with hload | ⟨loaded, middle, hload, hrest⟩
  · rw [loadModule_apply] at hload
    rcases hfind : store.findModule stack frame source with e | loaded | opening
    · rw [hfind] at hload
      cases hload
      exact .inl (.unopened hfind)
    · rw [hfind] at hload
      cases hload
    · rw [hfind] at hload
      rcases hrun : runAll self opening.frame opening.exports opening.store with
        ⟨value, last⟩ | ⟨e, last⟩
      · simp only [Opening.evaluate, hrun] at hload
        cases hload
      · simp only [Opening.evaluate, hrun] at hload
        cases hload
        obtain ⟨e, reached, hcomes, herror⟩ := exists_comes_of_runAll_error hrun
        exact .inr ⟨_, _, _, .exported hfind hcomes, herror⟩
  · rcases bind_eq_error.mp hrest with hsymbols | ⟨_, _, _, hlast⟩
    · exact .inl (.unexported hload hsymbols)
    · cases hlast

theorem throws_or_begins {task : Task}
    (h : outcome (step self stack) task = .error err final) :
    Throws self stack task err ∨
      ∃ opened sub last, Begins self stack task opened sub ∧
        outcome self sub = .error err last := by
  obtain ⟨e, frame, store⟩ := task
  cases e with
  | literal | function => cases h
  | macroDef =>
      cases h
      exact .inl .macroDefinition
  | record =>
      cases h
      exact .inl .record
  | ref name =>
      change var frame name store = .error err final at h
      rw [var_apply] at h
      rcases hvar : store.var? frame name with _ | value
      · rw [hvar] at h
        cases h
        exact .inl (.unboundVariable hvar)
      · rw [hvar] at h
        cases h
  | binding name value =>
      rcases bind_eq_error.mp h with hvalue | ⟨_, _, _, hlast⟩
      · exact .inr ⟨_, _, _, .value, hvalue⟩
      · cases hlast
  | sequence body =>
      obtain ⟨e, reached, hcomes, herror⟩ :=
        exists_comes_of_runAll_error (runAll_of_foldlM_error h)
      exact .inr ⟨_, _, _, .item hcomes, herror⟩
  | conditional condition whenTrue whenFalse =>
      rcases bind_eq_error.mp h with hcondition | ⟨value, middle, hcondition, hbranch⟩
      · exact .inr ⟨_, _, _, .condition, hcondition⟩
      · rcases hchosen : if value.truthy then whenTrue else whenFalse with _ | branch
        · simp only [hchosen] at hbranch
          cases hbranch
        · simp only [hchosen] at hbranch
          exact .inr ⟨_, _, _, .branch hcondition hchosen, hbranch⟩
  | imports source symbols => exact throws_or_begins_imports h
  | call target args => exact throws_or_begins_call h

/-- Every error of an evaluation is thrown at one of its moments, unless the stack is used up
there. -/
theorem exists_throws {start : Task} (h : outcome (evaluate stack) start = .error err final) :
    (∃ pending task, During stack start pending 0 task ∧ err = .stackExhausted) ∨
      ∃ pending left task, During stack start pending (left + 1) task ∧
        Throws (evaluate left) left task err := by
  induction stack generalizing start final with
  | zero =>
      cases h
      exact .inl ⟨[], start, .start, rfl⟩
  | succ stack ih =>
      rcases throws_or_begins h with hthrows | ⟨opened, sub, last, hbegins, herror⟩
      · exact .inr ⟨[], stack, start, .start, hthrows⟩
      · rcases ih herror with ⟨pending, task, hduring, hexhausted⟩ |
          ⟨pending, left, task, hduring, hthrows⟩
        · exact .inl ⟨_, task, hbegins.during hduring, hexhausted⟩
        · exact .inr ⟨_, left, task, hbegins.during hduring, hthrows⟩

end Eval

end JsonExpr
