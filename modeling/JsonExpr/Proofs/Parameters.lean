import JsonExpr.Proofs.Invocation
import JsonExpr.Proofs.Store

namespace JsonExpr

/-- The argument stands at the last place at which the name occurs among the parameters. -/
def IsLastArgument {α : Type} (params : List Param) (args : List α) (name : String) (arg : α) :
    Prop :=
  ∃ place : Nat, (paramNames params)[place]? = some name ∧ args[place]? = some arg ∧
    ∀ later : Nat, place < later → (paramNames params)[later]? ≠ some name

/-- The names of the parameters and no others are bound, in the order in which they first occur,
each to the argument at the last of its places. -/
structure BindsByPosition {α : Type} (params : List Param) (args : List α) (bound : Bindings α) :
    Prop where
  mem_names_iff : ∀ name, name ∈ bound.names ↔ name ∈ paramNames params
  ordered : bound.names.Pairwise fun first second =>
    (paramNames params).idxOf first < (paramNames params).idxOf second
  get?_eq_some_iff : ∀ name arg, bound.get? name = some arg ↔ IsLastArgument params args name arg

section Arguments

variable {α : Type} {params : List Param} {args : List α}

theorem isLastArgument_of_lastArgument? {name : String} {arg : α}
    (hlength : args.length = params.length) (h : lastArgument? params args name = some arg) :
    IsLastArgument params args name arg := by
  obtain ⟨after, before, hreverse, hafter⟩ := List.lookup_eq_some_iff.mp h
  have hpairs : (paramNames params).zip args = before.reverse ++ (name, arg) :: after.reverse := by
    simpa using List.reverse_eq_append_iff.mp hreverse
  have hplace : ((paramNames params).zip args)[before.length]? = some (name, arg) := by
    simp [hpairs]
  obtain ⟨hname, harg⟩ := List.getElem?_zip_eq_some.mp hplace
  refine ⟨before.length, hname, harg, fun later hlater hagain => ?_⟩
  -- There is an argument at every place of the name, so a later one would be found first.
  obtain ⟨gap, rfl⟩ := Nat.exists_eq_add_of_lt hlater
  have hbound : before.length + gap + 1 < args.length := by
    obtain ⟨hlt, _⟩ := List.getElem?_eq_some_iff.mp hagain
    rwa [paramNames, List.length_map, ← hlength] at hlt
  have hpair : ((paramNames params).zip args)[before.length + gap + 1]? =
      some (name, args[before.length + gap + 1]) :=
    List.getElem?_zip_eq_some.mpr ⟨hagain, List.getElem?_eq_getElem hbound⟩
  have hmem : (name, args[before.length + gap + 1]) ∈ after.reverse := by
    rw [hpairs, List.getElem?_append_right (by rw [List.length_reverse]; omega)] at hpair
    apply List.mem_of_getElem? (i := gap)
    simpa [Nat.add_assoc] using hpair
  have hne := hafter _ (List.mem_reverse.mp hmem)
  simp at hne

theorem lastArgument?_eq_some_iff (hlength : args.length = params.length) {name : String}
    {arg : α} :
    lastArgument? params args name = some arg ↔ IsLastArgument params args name arg := by
  refine ⟨isLastArgument_of_lastArgument? hlength, ?_⟩
  rintro ⟨place, hname, harg, hlast⟩
  have hsome := (lastArgument?_isSome_iff hlength).mpr (List.mem_of_getElem? hname)
  obtain ⟨found, hfound⟩ := Option.isSome_iff_exists.mp hsome
  obtain ⟨other, hother, hotherArg, hotherLast⟩ := isLastArgument_of_lastArgument? hlength hfound
  have hplace : place = other := by
    rcases Nat.lt_trichotomy place other with hlt | heq | hgt
    · exact absurd hother (hlast other hlt)
    · exact heq
    · exact absurd hname (hotherLast place hgt)
  rw [hfound, ← hotherArg, ← hplace, harg]

theorem bindsByPosition_ofList (hlength : args.length = params.length) :
    BindsByPosition params args (.ofList ((paramNames params).zip args)) where
  mem_names_iff name := by
    rw [Bindings.names_ofList, List.mem_eraseDups, map_fst_zip_paramNames hlength]
  ordered := by
    have hordered := Bindings.ordered_ofList ((paramNames params).zip args)
    rwa [map_fst_zip_paramNames hlength] at hordered
  get?_eq_some_iff name arg := by
    rw [Bindings.get?_ofList]
    exact lastArgument?_eq_some_iff hlength

theorem bindArguments_eq_error_iff {name : String} :
    bindArguments name params args = .error (.arity name params.length args.length) ↔
      params.length ≠ args.length := by
  rw [bindArguments]
  split
  · rename_i h
    simp [h]
  · rename_i h
    simpa using Ne.symm h

theorem bindArguments_eq_ok {name : String} (h : params.length = args.length) :
    bindArguments name params args = .ok (.ofList ((paramNames params).zip args)) :=
  if_pos h.symm

end Arguments

namespace Store

/-- Sets variables of a frame one after another. -/
def setVars (store : Store) (id : FrameId) (pairs : List (String × Json)) : Store :=
  pairs.foldl (fun store pair => store.setVar id pair.1 pair.2) store

theorem setVar_addFrame (store : Store) (frame : Frame) (name : String) (value : Json) :
    (store.addFrame frame).setVar store.frames.size name value =
      store.addFrame { frame with vars := frame.vars.set name value } := by
  have hframes : ((store.addFrame frame).setVar store.frames.size name value).frames =
      (store.addFrame { frame with vars := frame.vars.set name value }).frames := by
    apply Array.ext_getElem?
    intro i
    rw [frame_setVar, frame_addFrame, frame_addFrame]
    by_cases hi : i = store.frames.size
    · simp [hi]
    · rw [if_neg (Ne.symm hi), if_neg hi, if_neg hi]
  exact congrArg (fun frames => { store with frames }) hframes

theorem setVars_addFrame (store : Store) (frame : Frame) (pairs : List (String × Json)) :
    (store.addFrame frame).setVars store.frames.size pairs =
      store.addFrame { frame with vars := frame.vars.update pairs } := by
  induction pairs generalizing frame with
  | nil => rfl
  | cons pair rest ih =>
      rw [setVars, List.foldl_cons, setVar_addFrame]
      exact ih { frame with vars := frame.vars.set pair.1 pair.2 }

end Store

/-- A function and a macro of the same name with the same parameters are given their arguments
alike. Both refuse a number of arguments other than that of the parameters, and else both bind the
parameters by position. The frame of a call is the one that comes of setting the parameters in it
one after another. -/
theorem functions_and_macros_bind_alike (name : String) (params : List Param) (body : Expr) :
    (∀ (home : FrameId) (args : List Json) (depth : Int) (store : Store),
      (Eval.callFrame { name, params, body, frame := home } args depth store =
          .error (.arity name params.length args.length) store ↔ params.length ≠ args.length) ∧
        (params.length = args.length →
          ∃ vars, BindsByPosition params args vars ∧
            Eval.callFrame { name, params, body, frame := home } args depth store =
              .ok store.frames.size (store.addFrame (store.innerFrame home depth vars)) ∧
            store.addFrame (store.innerFrame home depth vars) =
              (store.addFrame (store.innerFrame home depth [])).setVars store.frames.size
                ((paramNames params).zip args))) ∧
      ∀ args : List Expr,
        (Macros.arguments name { params, body } (.call name args) =
            .error (.arity name params.length args.length) ↔ params.length ≠ args.length) ∧
          (params.length = args.length →
            ∃ bound, BindsByPosition params args bound ∧
              Macros.arguments name { params, body } (.call name args) = .ok bound) := by
  refine ⟨fun home args depth store => ⟨?_, fun hlength => ?_⟩,
    fun args => ⟨bindArguments_eq_error_iff, fun hlength => ?_⟩⟩
  · rw [Eval.callFrame_apply, ← bindArguments_eq_error_iff]
    cases bindArguments name params args with
    | error e => simp
    | ok vars => simp
  · refine ⟨_, bindsByPosition_ofList hlength.symm, ?_, ?_⟩
    · rw [Eval.callFrame_apply, bindArguments_eq_ok hlength]
    · exact (Store.setVars_addFrame store (store.innerFrame home depth []) _).symm
  · exact ⟨_, bindsByPosition_ofList hlength.symm, bindArguments_eq_ok hlength⟩

/-- With the parameter `a` at the first and the last place, the first argument is lost, and two
arguments are too few. -/
theorem functions_and_macros_bind_alike_repeatedParam :
    let params : List Param := [⟨"a", none⟩, ⟨"b", some "T"⟩, ⟨"a", none⟩]
    let closure : Closure := { name := "f", params, body := .ref "a", frame := 0 }
    let store : Store := { frames := #[{ link := .root 0 }], realms := #[{}] }
    (∃ vars, Eval.callFrame closure [.null, .str "s", .bool true] 1 store =
          .ok 1 (store.addFrame (store.innerFrame 0 1 vars)) ∧
        vars.get? "a" = some (.bool true) ∧ vars.get? "b" = some (.str "s")) ∧
      Eval.callFrame closure [.null, .str "s"] 1 store = .error (.arity "f" 3 2) store ∧
      (∃ bound, Macros.arguments "f" { params, body := .ref "a" }
            (.call "f" [.ref "x", .ref "y", .ref "z"]) = .ok bound ∧
        bound.get? "a" = some (.ref "z") ∧ bound.get? "b" = some (.ref "y")) ∧
      Macros.arguments "f" { params, body := .ref "a" } (.call "f" [.ref "x", .ref "y"]) =
        .error (.arity "f" 3 2) := by
  intro params closure store
  have hlastOfA (later : Nat) (h : 2 < later) : (paramNames params)[later]? ≠ some "a" := by
    rw [List.getElem?_eq_none h]
    exact (Option.some_ne_none _).symm
  have hlastOfB (later : Nat) (h : 1 < later) : (paramNames params)[later]? ≠ some "b" := by
    rcases Nat.lt_or_eq_of_le h with hlt | rfl
    · rw [List.getElem?_eq_none hlt]
      exact (Option.some_ne_none _).symm
    · decide
  obtain ⟨hcalls, hmacros⟩ := functions_and_macros_bind_alike "f" params (.ref "a")
  obtain ⟨vars, hvars, hcall, _⟩ := (hcalls 0 [.null, .str "s", .bool true] 1 store).2 rfl
  obtain ⟨bound, hbound, hmacro⟩ := (hmacros [.ref "x", .ref "y", .ref "z"]).2 rfl
  refine ⟨⟨vars, hcall, ?_, ?_⟩, (hcalls 0 [.null, .str "s"] 1 store).1.mpr (by decide),
    ⟨bound, hmacro, ?_, ?_⟩, (hmacros [.ref "x", .ref "y"]).1.mpr (by decide)⟩
  · exact (hvars.get?_eq_some_iff "a" _).mpr ⟨2, rfl, rfl, hlastOfA⟩
  · exact (hvars.get?_eq_some_iff "b" _).mpr ⟨1, rfl, rfl, hlastOfB⟩
  · exact (hbound.get?_eq_some_iff "a" _).mpr ⟨2, rfl, rfl, hlastOfA⟩
  · exact (hbound.get?_eq_some_iff "b" _).mpr ⟨1, rfl, rfl, hlastOfB⟩

end JsonExpr
