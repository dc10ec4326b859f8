import JsonExpr.Proofs.Expr
import JsonExpr.Proofs.Reading
import Mathlib.Order.Lattice

namespace JsonExpr

theorem mapM_eq_of_unexcused {α β ε : Type} {excused : ε → Prop} {f g : α → Except ε β}
    {items : List α}
    (h : ∀ item ∈ items, (∀ err, f item = .error err → ¬ excused err) → g item = f item)
    (hunexcused : ∀ err, items.mapM f = .error err → ¬ excused err) :
    items.mapM g = items.mapM f := by
  induction items with
  | nil => rfl
  | cons item rest ih =>
      rw [List.mapM_cons] at hunexcused
      rw [List.mapM_cons, List.mapM_cons]
      have hitem : g item = f item := by
        refine h item List.mem_cons_self fun err herr => hunexcused err ?_
        rw [herr]
        rfl
      rw [hitem]
      cases hresult : f item with
      | error err => rfl
      | ok first =>
          have hrest : rest.mapM g = rest.mapM f := by
            refine ih (fun other hmem => h other (List.mem_cons_of_mem _ hmem)) fun err herr => ?_
            refine hunexcused err ?_
            rw [hresult, herr]
            rfl
          rw [hrest]

theorem mapM_eq_of_agree {α β : Type} {f g : α → Except Error β} {items : List α}
    (h : ∀ item ∈ items, f item ≠ .error .stackExhausted → g item = f item)
    (hfinished : items.mapM f ≠ .error .stackExhausted) : items.mapM g = items.mapM f := by
  have hagree : ∀ item ∈ items,
      (∀ err, f item = .error err → ¬ err = .stackExhausted) → g item = f item :=
    fun item hmem hitem => h item hmem fun herror => hitem _ herror rfl
  refine mapM_eq_of_unexcused hagree ?_
  rintro err herror rfl
  exact hfinished herror

theorem exists_of_mapM_eq_error {α β ε : Type} {f : α → Except ε β} {items : List α} {err : ε}
    (h : items.mapM f = .error err) : ∃ item ∈ items, f item = .error err := by
  induction items with
  | nil => cases h
  | cons item rest ih =>
      rw [List.mapM_cons] at h
      cases hitem : f item with
      | error found =>
          rw [hitem] at h
          cases h
          exact ⟨item, List.mem_cons_self, hitem⟩
      | ok first =>
          cases hrest : rest.mapM f with
          | ok others =>
              rw [hitem, hrest] at h
              cases h
          | error found =>
              rw [hitem, hrest] at h
              cases h
              obtain ⟨other, hmem, hother⟩ := ih hrest
              exact ⟨other, List.mem_cons_of_mem _ hmem, hother⟩

/-- The error reports too much nesting: of calls, of expansions or of the computation itself. -/
def Error.reportsNesting : Error → Bool
  | .depthExceeded .. => true
  | .stackExhausted => true
  | _ => false

/-- The computation does not fail for too much nesting. -/
def Shallow {α : Type} (work : Except Error α) : Prop :=
  ∀ err, work = .error err → err.reportsNesting = false

section Shallow

variable {α β : Type}

theorem Shallow.ne_exhausted {work : Except Error α} (h : Shallow work) :
    work ≠ .error .stackExhausted := by
  intro hexhausted
  cases h _ hexhausted

theorem shallow_ok (value : α) : Shallow (.ok value) := by
  intro err h
  cases h

theorem shallow_error {err : Error} (h : err.reportsNesting = false) :
    Shallow (.error err : Except Error α) := by
  rintro _ ⟨⟩
  exact h

theorem shallow_bind {part : Except Error α} {next : α → Except Error β} (hpart : Shallow part)
    (hnext : ∀ value, Shallow (next value)) : Shallow (part >>= next) := by
  intro err h
  rcases bind_eq_error_iff.mp h with hfirst | ⟨value, _, hlater⟩
  · exact hpart err hfirst
  · exact hnext value err hlater

theorem shallow_bindArguments (name : String) (params : List Param) (args : List α) :
    Shallow (bindArguments name params args) := by
  unfold bindArguments
  split
  · exact shallow_ok _
  · exact shallow_error rfl

end Shallow

namespace Macros

variable {macros : Macros}

/-- No invocation in the expression targets a macro. -/
def IsNormal (macros : Macros) (e : Expr) : Prop :=
  ∀ target ∈ e.targets, macros.table.get? target = none

/-- Expansion comes to the outcome: on every stack that is large enough, and on a smaller one it
can only run out of stack. -/
structure Settles (macros : Macros) (depth : Int) (e : Expr) (outcome : Except Error Expr) :
    Prop where
  ne_exhausted : outcome ≠ .error .stackExhausted
  eventually : ∃ enough, ∀ stack, enough ≤ stack → macros.expand stack depth e = outcome
  always : ∀ stack, macros.expand stack depth e = outcome ∨
    macros.expand stack depth e = .error .stackExhausted

theorem invoked?_eq_none_iff {e : Expr} :
    macros.invoked? e = none ↔
      ∀ target, e.target? = some target → macros.table.get? target = none := by
  unfold invoked?
  cases e.target? with
  | none => simp
  | some target => cases hget : macros.table.get? target <;> simp [hget]

theorem isNormal_iff {e : Expr} :
    macros.IsNormal e ↔
      macros.invoked? e = none ∧ ∀ child ∈ e.children, macros.IsNormal child := by
  rw [invoked?_eq_none_iff]
  exact Expr.forall_mem_targets_iff

theorem shallow_arguments (target : String) (definition : Macro) (e : Expr) :
    Shallow (arguments target definition e) := by
  unfold arguments
  split
  · exact shallow_bindArguments _ _ _
  · intro err h
    obtain ⟨_, _, rfl⟩ := mapError_eq_error_iff.mp h
    rfl
  · exact shallow_ok _

theorem shallow_expandOnce (e : Expr) : Shallow (macros.expandOnce e) := by
  unfold expandOnce
  split
  · exact shallow_bind (shallow_arguments _ _ e) fun _ => shallow_ok _
  · exact shallow_ok _

theorem expand_of_exceeded {stack : Nat} {depth : Int} {e : Expr} (h : macros.maxDepth < depth) :
    macros.expand (stack + 1) depth e =
      .error (.depthExceeded (some macros.maxDepth) "macro expansion") := by
  rw [expand, if_pos h]

theorem expand_of_invoked {stack : Nat} {depth : Int} {e : Expr} {found : String × Macro}
    (hdepth : depth ≤ macros.maxDepth) (h : macros.invoked? e = some found) :
    macros.expand (stack + 1) depth e =
      macros.expandOnce e >>= macros.expand stack (depth + 1) := by
  rw [expand, if_neg (Int.not_lt.mpr hdepth), h]

theorem expand_of_not_invoked {stack : Nat} {depth : Int} {e : Expr}
    (hdepth : depth ≤ macros.maxDepth) (h : macros.invoked? e = none) :
    macros.expand (stack + 1) depth e =
      (e.children.mapM (macros.expand stack depth)).map e.withChildren := by
  rw [expand, if_neg (Int.not_lt.mpr hdepth), h, ← Expr.mapChildrenM_eq]

theorem expand_succ {stack : Nat} {depth : Int} {e : Expr}
    (h : macros.expand stack depth e ≠ .error .stackExhausted) :
    macros.expand (stack + 1) depth e = macros.expand stack depth e := by
  induction stack generalizing depth e with
  | zero => exact absurd rfl h
  | succ stack ih =>
      by_cases hdepth : depth ≤ macros.maxDepth
      case neg =>
        have hexceeded := Int.not_le.mp hdepth
        rw [expand_of_exceeded hexceeded, expand_of_exceeded hexceeded]
      cases hinvoked : macros.invoked? e with
      | some found =>
          rw [expand_of_invoked hdepth hinvoked] at h
          rw [expand_of_invoked hdepth hinvoked, expand_of_invoked hdepth hinvoked]
          cases honce : macros.expandOnce e with
          | error err => rfl
          | ok expanded =>
              rw [honce] at h
              exact ih h
      | none =>
          rw [expand_of_not_invoked hdepth hinvoked] at h
          rw [expand_of_not_invoked hdepth hinvoked, expand_of_not_invoked hdepth hinvoked]
          have hchildren : e.children.mapM (macros.expand stack depth) ≠
              .error .stackExhausted := by
            intro hexhausted
            rw [hexhausted] at h
            exact h rfl
          rw [mapM_eq_of_agree (fun child _ hchild => ih hchild) hchildren]

theorem expand_eq_of_le {stack larger : Nat} {depth : Int} {e : Expr}
    (hfinished : macros.expand stack depth e ≠ .error .stackExhausted) (h : stack ≤ larger) :
    macros.expand larger depth e = macros.expand stack depth e := by
  induction larger, h using Nat.le_induction with
  | base => rfl
  | succ larger _ ih =>
      rw [expand_succ, ih]
      rw [ih]
      exact hfinished

theorem settles_of_expand {stack : Nat} {depth : Int} {e : Expr} {outcome : Except Error Expr}
    (h : macros.expand stack depth e = outcome) (hne : outcome ≠ .error .stackExhausted) :
    macros.Settles depth e outcome := by
  subst h
  refine ⟨hne, ⟨stack, fun larger hle => expand_eq_of_le hne hle⟩, fun other => ?_⟩
  by_cases hother : macros.expand other depth e = .error .stackExhausted
  · exact .inr hother
  · rcases Nat.le_total stack other with hle | hle
    · exact .inl (expand_eq_of_le hne hle)
    · exact .inl (expand_eq_of_le hother hle).symm

theorem Settles.unique {depth : Int} {e : Expr} {outcome other : Except Error Expr}
    (h : macros.Settles depth e outcome) (hother : macros.Settles depth e other) :
    outcome = other := by
  obtain ⟨enough, houtcome⟩ := h.eventually
  rcases hother.always enough with hexpand | hexpand
  · rw [← hexpand, houtcome enough (Nat.le_refl _)]
  · rw [houtcome enough (Nat.le_refl _)] at hexpand
    exact absurd hexpand h.ne_exhausted

theorem exists_stack_of_forall {depth : Int} {exprs : List Expr}
    (h : ∀ e ∈ exprs, ∃ stack, macros.expand stack depth e ≠ .error .stackExhausted) :
    ∃ stack, ∀ e ∈ exprs, macros.expand stack depth e ≠ .error .stackExhausted := by
  induction exprs with
  | nil => exact ⟨0, by simp⟩
  | cons first rest ih =>
      obtain ⟨stack, hfirst⟩ := h first List.mem_cons_self
      obtain ⟨other, hrest⟩ := ih fun e hmem => h e (List.mem_cons_of_mem _ hmem)
      refine ⟨max stack other, fun e hmem => ?_⟩
      rcases List.mem_cons.mp hmem with rfl | hmem
      · rwa [expand_eq_of_le hfirst (Nat.le_max_left stack other)]
      · rw [expand_eq_of_le (hrest e hmem) (Nat.le_max_right stack other)]
        exact hrest e hmem

/-- Expansion ends. The outer induction is on the levels that are left below the limit, which only
an expansion uses up; within one level it is on the expression. -/
theorem exists_expand_ne_exhausted (levels : Nat) {depth : Int}
    (hlevels : macros.maxDepth - depth < levels) (e : Expr) :
    ∃ stack, macros.expand stack depth e ≠ .error .stackExhausted := by
  induction levels generalizing depth e with
  | zero =>
      refine ⟨1, ?_⟩
      rw [expand_of_exceeded (by omega)]
      simp
  | succ levels ihLevels =>
      induction e using Expr.inductionOnChildren with
      | step e ihChildren =>
          by_cases hdepth : depth ≤ macros.maxDepth
          case neg =>
            refine ⟨1, ?_⟩
            rw [expand_of_exceeded (Int.not_le.mp hdepth)]
            simp
          cases hinvoked : macros.invoked? e with
          | some found =>
              cases honce : macros.expandOnce e with
              | error err =>
                  have hne : macros.expandOnce e ≠ .error .stackExhausted :=
                    (shallow_expandOnce e).ne_exhausted
                  refine ⟨1, ?_⟩
                  rw [expand_of_invoked hdepth hinvoked, honce]
                  rwa [honce] at hne
              | ok expanded =>
                  have hnext : macros.maxDepth - (depth + 1) < levels := by omega
                  obtain ⟨stack, hstack⟩ := ihLevels hnext expanded
                  refine ⟨stack + 1, ?_⟩
                  rw [expand_of_invoked hdepth hinvoked, honce]
                  exact hstack
          | none =>
              obtain ⟨stack, hstack⟩ := exists_stack_of_forall ihChildren
              refine ⟨stack + 1, fun hexhausted => ?_⟩
              rw [expand_of_not_invoked hdepth hinvoked, map_eq_error_iff] at hexhausted
              obtain ⟨child, hmem, hchild⟩ := exists_of_mapM_eq_error hexhausted
              exact hstack child hmem hchild

theorem le_maxDepth_of_expand {stack : Nat} {depth : Int} {e expanded : Expr}
    (h : macros.expand stack depth e = .ok expanded) : depth ≤ macros.maxDepth := by
  by_contra hdepth
  cases stack with
  | zero => cases h
  | succ stack =>
      rw [expand_of_exceeded (Int.not_le.mp hdepth)] at h
      cases h

theorem isNormal_of_expand {stack : Nat} {depth : Int} {e expanded : Expr}
    (h : macros.expand stack depth e = .ok expanded) : macros.IsNormal expanded := by
  induction stack generalizing depth e expanded with
  | zero => cases h
  | succ stack ih =>
      have hdepth := le_maxDepth_of_expand h
      cases hinvoked : macros.invoked? e with
      | some found =>
          rw [expand_of_invoked hdepth hinvoked, bind_eq_ok_iff] at h
          obtain ⟨once, _, hexpanded⟩ := h
          exact ih hexpanded
      | none =>
          rw [expand_of_not_invoked hdepth hinvoked, map_eq_ok_iff] at h
          obtain ⟨children, hmapM, rfl⟩ := h
          have hchildren := mapM_eq_ok_iff.mp hmapM
          rw [isNormal_iff, Expr.children_withChildren hchildren.length_eq]
          constructor
          · rw [invoked?_eq_none_iff, Expr.target?_withChildren]
            exact invoked?_eq_none_iff.mp hinvoked
          · intro child hmem
            obtain ⟨before, hbefore⟩ := exists_of_forall₂ hchildren hmem
            exact ih hbefore

theorem expand_of_isNormal {stack : Nat} {depth : Int} {e : Expr} (h : macros.IsNormal e)
    (hdepth : depth ≤ macros.maxDepth) (hstack : sizeOf e < stack) :
    macros.expand stack depth e = .ok e := by
  induction stack generalizing e with
  | zero => exact absurd hstack (Nat.not_lt_zero _)
  | succ stack ih =>
      obtain ⟨hinvoked, hnormal⟩ := isNormal_iff.mp h
      have hchildren : e.children.mapM (macros.expand stack depth) = .ok e.children := by
        rw [mapM_eq_ok_iff, List.forall₂_same]
        intro child hmem
        have hsize := Expr.sizeOf_lt_of_mem_children hmem
        exact ih (hnormal child hmem) (by omega)
      rw [expand_of_not_invoked hdepth hinvoked, hchildren, Except.map, Expr.withChildren_children]

theorem expand_expanded {stack : Nat} {depth other : Int} {e expanded : Expr}
    (h : macros.expand stack depth e = .ok expanded) (hother : other ≤ macros.maxDepth) :
    macros.expand stack other expanded = .ok expanded := by
  induction stack generalizing depth e expanded with
  | zero => cases h
  | succ stack ih =>
      have hdepth := le_maxDepth_of_expand h
      cases hinvoked : macros.invoked? e with
      | some found =>
          rw [expand_of_invoked hdepth hinvoked, bind_eq_ok_iff] at h
          obtain ⟨once, _, hexpanded⟩ := h
          -- The stack that the invocation used up is not needed again.
          have hagain := ih hexpanded
          rw [expand_succ, hagain]
          rw [hagain]
          simp
      | none =>
          have hnormal := isNormal_of_expand h
          rw [expand_of_not_invoked hdepth hinvoked, map_eq_ok_iff] at h
          obtain ⟨children, hmapM, rfl⟩ := h
          have hchildren := mapM_eq_ok_iff.mp hmapM
          have hparts := Expr.children_withChildren hchildren.length_eq
          have hagain : children.mapM (macros.expand stack other) = .ok children := by
            rw [mapM_eq_ok_iff, List.forall₂_same]
            intro child hmem
            obtain ⟨before, hbefore⟩ := exists_of_forall₂ hchildren hmem
            exact ih hbefore
          have hsame := Expr.withChildren_children (e.withChildren children)
          rw [hparts] at hsame
          rw [expand_of_not_invoked hother (isNormal_iff.mp hnormal).1, hparts, hagain, Except.map,
            hsame]

theorem settles_of_isNormal {depth : Int} {e : Expr} (h : macros.IsNormal e)
    (hdepth : depth ≤ macros.maxDepth) : macros.Settles depth e (.ok e) :=
  settles_of_expand (expand_of_isNormal h hdepth (Nat.lt_succ_self _)) (by simp)

/-- Expansion ends, with whatever macros and limit: it either fails or gives a normal form, which
it leaves as it is from then on; and within the limit it gives back the expression itself exactly
when that was a normal form before. -/
theorem expand_reaches_normal_form (macros : Macros) (depth : Int) (e : Expr) :
    ∃ outcome, macros.Settles depth e outcome ∧
      (∀ expanded, outcome = .ok expanded →
        macros.IsNormal expanded ∧ macros.Settles depth expanded (.ok expanded)) ∧
      (depth ≤ macros.maxDepth → (outcome = .ok e ↔ macros.IsNormal e)) := by
  have hlevels : macros.maxDepth - depth < (macros.maxDepth - depth + 1).toNat := by omega
  obtain ⟨stack, hstack⟩ := exists_expand_ne_exhausted _ hlevels e
  have hsettles := settles_of_expand rfl hstack
  refine ⟨macros.expand stack depth e, hsettles, ?_, fun hdepth => ⟨isNormal_of_expand, ?_⟩⟩
  · intro expanded h
    have hnormal := isNormal_of_expand h
    exact ⟨hnormal, settles_of_isNormal hnormal (le_maxDepth_of_expand h)⟩
  · intro hnormal
    exact hsettles.unique (settles_of_isNormal hnormal hdepth)

/-- A macro whose body invokes another one twice, invoked by parameter name in the body of a
function. -/
theorem expand_reaches_normal_form_nested :
    let macros : Macros :=
      { table :=
          [("swap", { params := [⟨"a", none⟩, ⟨"b", none⟩],
                      body := .call "pair" [.ref "b", .ref "a"] }),
            ("both", { params := [⟨"x", none⟩],
                       body := .call "swap" [.ref "x", .call "swap" [.ref "x", .ref "y"]] })],
        maxDepth := 3 }
    let e : Expr := .function "f" [] (.record "both" [("x", .str "s")])
    let expanded : Expr := .function "f" []
      (.call "pair" [.call "pair" [.ref "y", .literal (.str "s")], .literal (.str "s")])
    macros.Settles 0 e (.ok expanded) ∧ macros.IsNormal expanded ∧
      macros.Settles 0 expanded (.ok expanded) ∧ ¬ macros.IsNormal e := by
  intro macros e expanded
  obtain ⟨outcome, hsettles, hnormal, hself⟩ := expand_reaches_normal_form macros 0 e
  have hrun : macros.expand 9 0 e = .ok expanded := rfl
  obtain rfl : .ok expanded = outcome := by
    rcases hsettles.always 9 with h | h
    · exact hrun ▸ h
    · rw [hrun] at h
      cases h
  obtain ⟨hexpanded, hagain⟩ := hnormal expanded rfl
  refine ⟨hsettles, hexpanded, hagain, fun he => ?_⟩
  have hsame := (hself (by decide)).mpr he
  simp [expanded, e] at hsame

end Macros

end JsonExpr
