import JsonExpr.Proofs.Expansion
import JsonExpr.Proofs.Grammar
import JsonExpr.Proofs.Limited
import JsonExpr.Proofs.RoundTrip
import JsonExpr.Proofs.Session

namespace JsonExpr

namespace Expr

/-- No invocation in the expression targets a reserved key. -/
def Readable (e : Expr) : Prop :=
  ∀ target ∈ e.targets, Reserved.ofKey? target = none

theorem ofJson_toJson_iff_readable {e : Expr} : ofJson e.toJson = .ok e ↔ e.Readable := by
  rw [ofJson_toJson_eq_ok_iff]
  constructor
  · intro h target htarget
    rw [Reserved.ofKey?_eq_none_iff]
    rintro form rfl
    exact h form htarget
  · intro h form htarget
    exact Reserved.ofKey?_eq_none_iff.mp (h _ htarget) form rfl

theorem readable_of_ofJson {value : Json} {e : Expr} (h : ofJson value = .ok e) : e.Readable := by
  rw [← ofJson_toJson_iff_readable, ofJson_toJson_eq_ok_iff]
  exact key_notMem_targets_of_spells (ofJson_eq_ok_iff.mp h)

theorem Readable.child {e child : Expr} (h : e.Readable) (hchild : child ∈ e.children) :
    child.Readable :=
  (forall_mem_targets_iff.mp h).2 child hchild

theorem Readable.withChildren {e : Expr} (h : e.Readable) {children : List Expr}
    (hlength : e.children.length = children.length)
    (hchildren : ∀ child ∈ children, child.Readable) : (e.withChildren children).Readable := by
  refine forall_mem_targets_iff.mpr ⟨?_, ?_⟩
  · rw [target?_withChildren]
    exact (forall_mem_targets_iff.mp h).1
  · rw [children_withChildren hlength]
    exact hchildren

theorem isMacroDef_withChildren (e : Expr) (children : List Expr) :
    (e.withChildren children).isMacroDef = e.isMacroDef := by
  unfold withChildren
  split <;> rfl

section Substitution

variable (bound : Bindings Expr)

theorem substituteItems_eq_map (items : List Expr) :
    substituteItems bound items = items.map (substitute bound) := by
  induction items with
  | nil => rw [substituteItems, List.map_nil]
  | cons e rest ih => rw [substituteItems, ih, List.map_cons]

theorem target?_substitute {e : Expr} (h : ∀ name, e ≠ .ref name) :
    (e.substitute bound).target? = e.target? := by
  cases e with
  | ref name => exact absurd rfl (h name)
  | _ => simp only [substitute, target?]

theorem children_substitute {e : Expr} (h : ∀ name, e ≠ .ref name) :
    (e.substitute bound).children = e.children.map (substitute bound) := by
  cases e with
  | ref name => exact absurd rfl (h name)
  | sequence | call => simp only [substitute, children, substituteItems_eq_map]
  | conditional condition whenTrue whenFalse =>
      cases whenTrue <;> cases whenFalse <;> simp [substitute, substituteBranch, children]
  | _ => simp [substitute, children]

variable {bound}

theorem mem_targets_substitute {e : Expr} {target : String}
    (h : target ∈ (e.substitute bound).targets) :
    target ∈ e.targets ∨ ∃ entry ∈ bound, target ∈ entry.2.targets := by
  induction e using inductionOnChildren with
  | step e ih =>
      -- Only a reference is replaced, and then by one of the bound expressions.
      by_cases href : ∃ name, e = .ref name
      · obtain ⟨name, rfl⟩ := href
        rw [substitute] at h
        cases hget : bound.get? name with
        | none =>
            rw [hget] at h
            exact .inl h
        | some arg =>
            rw [hget] at h
            exact .inr ⟨_, Bindings.mem_of_get? hget, h⟩
      · have hother : ∀ name, e ≠ .ref name := not_exists.mp href
        rcases mem_targets.mp h with h | ⟨child, hchild, h⟩
        · rw [target?_substitute bound hother] at h
          exact .inl (mem_targets.mpr (.inl h))
        · rw [children_substitute bound hother] at hchild
          obtain ⟨before, hbefore, rfl⟩ := List.mem_map.mp hchild
          refine (ih before hbefore h).imp_left fun h => ?_
          exact mem_targets.mpr (.inr ⟨before, hbefore, h⟩)

theorem Readable.substitute {e : Expr} (he : e.Readable)
    (hbound : ∀ entry ∈ bound, entry.2.Readable) : (e.substitute bound).Readable := by
  intro target hmem
  rcases mem_targets_substitute hmem with h | ⟨entry, hentry, h⟩
  · exact he target h
  · exact hbound entry hentry target h

end Substitution

end Expr

namespace Macros

/-- The bodies of all macros are readable. -/
def Readable (macros : Macros) : Prop :=
  ∀ entry ∈ macros.table, entry.2.body.Readable

variable {macros : Macros}

theorem Readable.learn (h : macros.Readable) {e : Expr} (he : e.Readable) :
    (macros.learn e).Readable := by
  cases e with
  | macroDef name params body =>
      intro entry hentry
      rcases Bindings.mem_set hentry with rfl | hentry
      · exact he.child (List.mem_singleton.mpr rfl)
      · exact h entry hentry
  | _ => exact h

theorem Readable.learnAll (h : macros.Readable) {exprs : List Expr}
    (hexprs : ∀ e ∈ exprs, e.Readable) : (exprs.foldl Macros.learn macros).Readable := by
  induction exprs generalizing macros with
  | nil => exact h
  | cons e rest ih =>
      rw [List.forall_mem_cons] at hexprs
      exact ih (h.learn hexprs.1) hexprs.2

theorem readable_fieldArguments {target : String} {params : List Param} {fields : Bindings Json}
    {bound : Bindings Expr} (h : fieldArguments target params fields = .ok bound) :
    ∀ entry ∈ bound, entry.2.Readable := by
  dsimp only [fieldArguments] at h
  split at h
  · exact absurd (located_eq_ok_iff.mp h) refuse_ne_ok
  · split at h
    · exact absurd h refuse_ne_ok
    · obtain ⟨values, hvalues, h⟩ := bind_eq_ok_iff.mp h
      cases h
      intro entry hentry
      have hmem := (List.of_mem_zip (Bindings.mem_ofList hentry)).2
      obtain ⟨name, hname⟩ := exists_of_forall₂ (mapM_eq_ok_iff.mp hvalues) hmem
      unfold fieldArgument at hname
      split at hname
      · exact Expr.readable_of_ofJson (located_eq_ok_iff.mp hname)
      · exact absurd hname refuse_ne_ok

/-- Positional arguments are parts of the invocation, and those given by name are read when the
macro is expanded. -/
theorem readable_arguments {target : String} {definition : Macro} {e : Expr}
    {bound : Bindings Expr} (he : e.Readable) (h : arguments target definition e = .ok bound) :
    ∀ entry ∈ bound, entry.2.Readable := by
  cases e with
  | call name args =>
      simp only [arguments, bindArguments] at h
      split at h
      · cases h
        intro entry hentry
        exact he.child (List.of_mem_zip (Bindings.mem_ofList hentry)).2
      · cases h
  | record name fields =>
      simp only [arguments, mapError_eq_ok_iff, located_eq_ok_iff] at h
      exact readable_fieldArguments h
  | _ =>
      cases h
      simp

theorem get?_of_invoked {e : Expr} {target : String} {definition : Macro}
    (h : macros.invoked? e = some (target, definition)) :
    macros.table.get? target = some definition := by
  obtain ⟨_, _, h⟩ := Option.bind_eq_some_iff.mp h
  obtain ⟨_, hget, h⟩ := Option.bind_eq_some_iff.mp h
  cases h
  exact hget

theorem readable_expandOnce (hmacros : macros.Readable) {e once : Expr} (he : e.Readable)
    (h : macros.expandOnce e = .ok once) : once.Readable := by
  unfold expandOnce at h
  split at h
  · rename_i target definition hinvoked
    rw [bind_eq_ok_iff] at h
    obtain ⟨bound, hbound, h⟩ := h
    cases h
    have hdefined := Bindings.mem_of_get? (get?_of_invoked hinvoked)
    exact (hmacros _ hdefined).substitute (readable_arguments he hbound)
  · cases h
    exact he

theorem readable_of_expand (hmacros : macros.Readable) {stack : Nat} {depth : Int}
    {e expanded : Expr} (he : e.Readable) (h : macros.expand stack depth e = .ok expanded) :
    expanded.Readable := by
  induction stack generalizing depth e expanded with
  | zero => cases h
  | succ stack ih =>
      have hdepth := le_maxDepth_of_expand h
      cases hinvoked : macros.invoked? e with
      | some found =>
          rw [expand_of_invoked hdepth hinvoked, bind_eq_ok_iff] at h
          obtain ⟨once, honce, hexpanded⟩ := h
          exact ih (readable_expandOnce hmacros he honce) hexpanded
      | none =>
          rw [expand_of_not_invoked hdepth hinvoked, map_eq_ok_iff] at h
          obtain ⟨children, hmapM, rfl⟩ := h
          have hchildren := mapM_eq_ok_iff.mp hmapM
          refine he.withChildren hchildren.length_eq fun child hmem => ?_
          have hreadable : ∀ before ∈ e.children, before.Readable := fun _ => he.child
          obtain ⟨before, hbefore, hexpanded⟩ :=
            exists_of_forall₂ ((List.forall₂_and_left _ _).mpr ⟨hreadable, hchildren⟩) hmem
          exact ih hbefore hexpanded

theorem isMacroDef_of_expand {stack : Nat} {depth : Int} {e expanded : Expr}
    (he : e.isMacroDef = true) (h : macros.expand stack depth e = .ok expanded) :
    expanded.isMacroDef = true := by
  cases stack with
  | zero => cases h
  | succ stack =>
      have hinvoked : macros.invoked? e = none := by
        cases e with
        | macroDef => rfl
        | _ => cases he
      rw [expand_of_not_invoked (le_maxDepth_of_expand h) hinvoked, map_eq_ok_iff] at h
      obtain ⟨children, _, rfl⟩ := h
      rw [Expr.isMacroDef_withChildren, he]

end Macros

namespace Interpreter

variable {interpreter : Interpreter}

theorem readable_of_load {document : Json} {program : Program}
    (h : interpreter.load document = .ok program) : ∀ e ∈ program.body, e.Readable := by
  intro e he
  obtain ⟨_, hread, _⟩ := load_eq_ok_iff.mp h
  obtain ⟨_, items, _, _, _, _, _, _, hbody⟩ := Program.ofJson_eq_ok_iff.mp hread
  rw [Expr.ofItems_eq_eachItem, Json.eachItem_eq_ok_iff] at hbody
  obtain ⟨item, hitem⟩ := exists_of_forall₂ hbody he
  exact Expr.readable_of_ofJson hitem

theorem readable_run {session : Session} (hsession : session.macros.Readable) (document : Json) :
    (interpreter.run session document).session.macros.Readable := by
  cases hload : interpreter.load document with
  | error e =>
      rw [run_of_load_error hload]
      exact hsession
  | ok program =>
      cases hlimit : interpreter.expansionLimit with
      | error e =>
          rw [run_of_limit_error hload hlimit]
          exact hsession
      | ok maxDepth =>
          obtain ⟨macros, rest, hcollect⟩ : ∃ macros rest,
              Macros.collect { maxDepth } program.body = (macros, rest) := ⟨_, _, rfl⟩
          have hmacros : macros.Readable := by
            obtain ⟨rfl, rfl⟩ := Prod.mk.inj hcollect
            have hnone : ({ maxDepth } : Macros).Readable := by simp [Macros.Readable]
            exact hnone.learnAll (readable_of_load hload)
          cases hexpand : macros.expandAll interpreter.stack rest with
          | error e =>
              rw [run_of_expand_error hload hlimit hcollect hexpand]
              exact hmacros
          | ok body =>
              rw [run_of_expand hload hlimit hcollect hexpand, session_evaluating]
              exact hmacros

theorem readable_eval {session : Session} (hsession : session.macros.Readable) (document : Json) :
    (interpreter.eval session document).session.macros.Readable := by
  unfold eval
  split
  · exact hsession
  · rename_i e hread
    have he := Expr.readable_of_ofJson (readExpr_eq_ok_iff.mp (onDocument_eq_ok_iff.mp hread).2)
    split
    · exact hsession.learn he
    · split
      · exact hsession
      · rw [session_evaluating]
        exact hsession

theorem readable_after (interpreter : Interpreter) (maxDepth : Int) (requests : List Request) :
    (interpreter.after (interpreter.initial { maxDepth }) requests).macros.Readable := by
  have hrequests (session : Session) (hsession : session.macros.Readable) :
      (interpreter.after session requests).macros.Readable := by
    induction requests generalizing session with
    | nil => exact hsession
    | cons request rest ih =>
        refine ih _ ?_
        cases request with
        | run document => exact readable_run hsession document
        | eval document => exact readable_eval hsession document
        | load document => exact hsession
        | macroexpand document => exact hsession
  exact hrequests _ (by simp [Macros.Readable, initial])

theorem macroexpand_eq_ok_iff {session : Session} {document expansion : Json} :
    interpreter.macroexpand session document = .ok expansion ↔
      document.fitsWithin interpreter.stack = true ∧
        ∃ e expanded, Expr.ofJson document = .ok e ∧
          session.macros.expand interpreter.stack 0 e = .ok expanded ∧
          expansion = expanded.toJson := by
  rw [macroexpand, onDocument_eq_ok_iff]
  refine and_congr_right fun _ => ?_
  simp only [bind_eq_ok_iff, readExpr_eq_ok_iff]
  constructor
  · rintro ⟨e, hread, expanded, hexpand, h⟩
    cases h
    exact ⟨e, expanded, hread, hexpand, rfl⟩
  · rintro ⟨e, expanded, hread, hexpand, rfl⟩
    exact ⟨e, hread, expanded, hexpand, rfl⟩

/-- What expansion writes in a session is the text of a program: it reads as the expansion of what
was given, and then, on any stack on which it can be read at all, it is left as it is by expansion
and evaluates as what was given does, unless it has become a macro definition. -/
theorem macroexpand_faithful {interpreter : Interpreter} {maxDepth : Int} {requests : List Request}
    {session : Session}
    (hsession : session = interpreter.after (interpreter.initial { maxDepth }) requests)
    {document expansion : Json} (h : interpreter.macroexpand session document = .ok expansion) :
    ∃ e expanded, Expr.ofJson document = .ok e ∧
      session.macros.expand interpreter.stack 0 e = .ok expanded ∧
      Expr.ofJson expansion = .ok expanded ∧
      ∀ stack, interpreter.stack ≤ stack → expansion.fitsWithin stack = true →
        { interpreter with stack }.macroexpand session expansion = .ok expansion ∧
        (expanded.isMacroDef = false →
          { interpreter with stack }.eval session document =
            { interpreter with stack }.eval session expansion) := by
  have hmacros : session.macros.Readable := hsession ▸ readable_after interpreter maxDepth requests
  obtain ⟨hfits, e, expanded, hread, hexpand, rfl⟩ := macroexpand_eq_ok_iff.mp h
  have hreadable := Macros.readable_of_expand hmacros (Expr.readable_of_ofJson hread) hexpand
  have hreread := Expr.ofJson_toJson_iff_readable.mpr hreadable
  refine ⟨e, expanded, hread, hexpand, hreread, fun stack hle hwithin => ?_⟩
  have hdeeper : session.macros.expand stack 0 e = .ok expanded := by
    rw [Macros.expand_eq_of_le (by simp [hexpand]) hle, hexpand]
  have hagain := Macros.expand_expanded hdeeper (Macros.le_maxDepth_of_expand hexpand)
  refine ⟨macroexpand_eq_ok_iff.mpr ⟨hwithin, expanded, expanded, hreread, hagain, rfl⟩, ?_⟩
  intro hnot
  have hbefore : e.isMacroDef = false := by
    by_contra hdefinition
    rw [Macros.isMacroDef_of_expand (Bool.not_eq_false _ ▸ hdefinition) hexpand] at hnot
    cases hnot
  rw [eval_of_expand (Json.fitsWithin_mono hfits hle) hread hbefore hdeeper,
    eval_of_expand hwithin hreread hnot hagain]

/-- An invocation by parameter name, one of whose fields invokes another macro by position. -/
theorem macroexpand_faithful_unless :
    let interpreter : Interpreter := { maxCallDepth := 50 }
    let ref (name : String) : Json := .obj [("ref", .str name)]
    let definition (name : String) (params : List Json) (body : Json) : Json := .obj [("macro", .obj
      [("name", .str name), ("params", .arr params), ("body", body)])]
    let program : Json := .obj [("jexl_version", .str "v0.1"), ("name", .str "test"),
      ("program", .arr [definition "unless" [.str "c", .str "b"]
        (.obj [("if", .obj [("condition", ref "c"), ("false", ref "b")])])])]
    let session := interpreter.after (interpreter.initial { maxDepth := 3 })
      [.run program, .eval (definition "say" [.str "x"] (.obj [("print", .arr [ref "x"])]))]
    let document : Json := .obj [("unless", .obj
      [("b", .obj [("say", .arr [.str "s"])]), ("c", .bool false)])]
    let expansion : Json := .obj [("if", .obj
      [("condition", .bool false), ("false", .obj [("print", .arr [.str "s"])])])]
    interpreter.macroexpand session document = .ok expansion ∧
      interpreter.macroexpand session expansion = .ok expansion ∧
      (interpreter.eval session document).output = "s\n" ∧
      interpreter.eval session document = interpreter.eval session expansion := by
  intro interpreter ref definition program session document expansion
  have hexpansion : interpreter.macroexpand session document = .ok expansion := rfl
  have hconditional : Expr.ofJson expansion =
      .ok (.conditional (.literal (.bool false)) none
        (some (.call "print" [.literal (.str "s")]))) := rfl
  obtain ⟨_, expanded, _, _, hread, hreread⟩ := macroexpand_faithful rfl hexpansion
  obtain ⟨hagain, hsame⟩ := hreread interpreter.stack (Nat.le_refl _) (by decide +kernel)
  obtain rfl := Except.ok.inj (hread.symm.trans hconditional)
  exact ⟨hexpansion, hagain, by decide +kernel, hsame rfl⟩

end Interpreter

end JsonExpr
