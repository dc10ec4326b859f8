import JsonExpr.Macros
import Mathlib.Data.List.Basic

namespace JsonExpr

/-- Variables and functions are named apart. -/
inductive Namespace where
  | vars
  | functions
  deriving DecidableEq

namespace Expr

/-- The direct subexpressions, in the order in which they are written. -/
def children : Expr → List Expr
  | .binding _ value => [value]
  | .sequence body => body
  | .conditional condition whenTrue whenFalse => condition :: (whenTrue.toList ++ whenFalse.toList)
  | .function _ _ body => [body]
  | .macroDef _ _ body => [body]
  | .call _ args => args
  | _ => []

theorem sizeOf_lt_of_mem_children {e child : Expr} (h : child ∈ e.children) :
    sizeOf child < sizeOf e := by
  cases e with
  | binding name value =>
      obtain rfl := List.mem_singleton.mp h
      rw [binding.sizeOf_spec]
      omega
  | sequence body =>
      have hlt : sizeOf child < sizeOf body := List.sizeOf_lt_of_mem h
      rw [sequence.sizeOf_spec]
      omega
  | conditional condition whenTrue whenFalse =>
      simp only [children, List.mem_cons, List.mem_append, Option.mem_toList] at h
      rw [conditional.sizeOf_spec]
      rcases h with rfl | h | h
      · omega
      · obtain rfl := h
        rw [Option.some.sizeOf_spec]
        omega
      · obtain rfl := h
        rw [Option.some.sizeOf_spec]
        omega
  | function name params body =>
      obtain rfl := List.mem_singleton.mp h
      rw [function.sizeOf_spec]
      omega
  | macroDef name params body =>
      obtain rfl := List.mem_singleton.mp h
      rw [macroDef.sizeOf_spec]
      omega
  | call target args =>
      have hlt : sizeOf child < sizeOf args := List.sizeOf_lt_of_mem h
      rw [call.sizeOf_spec]
      omega
  | literal | ref | imports | record => simp [children] at h

/-- What holds of an expression whenever it holds of its direct subexpressions holds of all. -/
theorem inductionOnChildren {motive : Expr → Prop}
    (step : ∀ e, (∀ child ∈ e.children, motive child) → motive e) (e : Expr) : motive e :=
  step e fun child h =>
    have := sizeOf_lt_of_mem_children h
    inductionOnChildren step child
termination_by sizeOf e

/-- The expression with other direct subexpressions in place of its own, of which there have to be
as many. -/
def withChildren : Expr → List Expr → Expr
  | .binding name _, [value] => .binding name value
  | .sequence _, body => .sequence body
  | .conditional _ none none, [condition] => .conditional condition none none
  | .conditional _ (some _) none, [condition, whenTrue] => .conditional condition whenTrue none
  | .conditional _ none (some _), [condition, whenFalse] => .conditional condition none whenFalse
  | .conditional _ (some _) (some _), [condition, whenTrue, whenFalse] =>
      .conditional condition whenTrue whenFalse
  | .function name params _, [body] => .function name params body
  | .macroDef name params _, [body] => .macroDef name params body
  | .call target _, args => .call target args
  | e, _ => e

theorem withChildren_children (e : Expr) : e.withChildren e.children = e := by
  cases e with
  | conditional condition whenTrue whenFalse => cases whenTrue <;> cases whenFalse <;> rfl
  | _ => rfl

theorem target?_withChildren (e : Expr) (children : List Expr) :
    (e.withChildren children).target? = e.target? := by
  unfold withChildren
  split <;> rfl

theorem children_withChildren {e : Expr} {children : List Expr}
    (h : e.children.length = children.length) : (e.withChildren children).children = children := by
  cases e with
  | literal | ref | imports | record =>
      exact (List.eq_nil_of_length_eq_zero h.symm).symm
  | sequence | call => rfl
  | binding | function | macroDef =>
      obtain ⟨child, rfl⟩ := List.length_eq_one_iff.mp h.symm
      rfl
  | conditional condition whenTrue whenFalse =>
      cases whenTrue <;> cases whenFalse
      · obtain ⟨child, rfl⟩ := List.length_eq_one_iff.mp h.symm
        rfl
      · obtain ⟨first, second, rfl⟩ := List.length_eq_two.mp h.symm
        rfl
      · obtain ⟨first, second, rfl⟩ := List.length_eq_two.mp h.symm
        rfl
      · obtain ⟨first, second, third, rfl⟩ := List.length_eq_three.mp h.symm
        rfl

theorem mapChildrenM_eq {ε : Type} (f : Expr → Except ε Expr) (e : Expr) :
    e.mapChildrenM f = (e.children.mapM f).map e.withChildren := by
  cases e with
  | literal | ref | imports | record => rfl
  | binding name child | function name params child | macroDef name params child =>
      simp only [mapChildrenM, children, List.mapM_cons, List.mapM_nil]
      cases f child <;> rfl
  | sequence items | call target items =>
      simp only [mapChildrenM, children]
      cases items.mapM f <;> rfl
  | conditional condition whenTrue whenFalse =>
      simp only [mapChildrenM, children, List.mapM_cons, List.mapM_append]
      cases f condition with
      | error => rfl
      | ok condition =>
          cases whenTrue with
          | none =>
              cases whenFalse with
              | none => rfl
              | some whenFalse =>
                  simp only [Option.mapM_some, Option.toList_some, List.mapM_cons, List.mapM_nil]
                  cases f whenFalse <;> rfl
          | some whenTrue =>
              simp only [Option.mapM_some, Option.toList_some, List.mapM_cons, List.mapM_nil]
              cases f whenTrue with
              | error => rfl
              | ok whenTrue =>
                  cases whenFalse with
                  | none => rfl
                  | some whenFalse =>
                      simp only [Option.mapM_some, Option.toList_some, List.mapM_cons,
                        List.mapM_nil]
                      cases f whenFalse <;> rfl

mutual

/-- The names that the invocations in an expression target, by position or by parameter name. -/
def targets : Expr → List String
  | .binding _ value => targets value
  | .sequence body => targetsOfItems body
  | .conditional condition whenTrue whenFalse =>
      targets condition ++ targetsOfBranch whenTrue ++ targetsOfBranch whenFalse
  | .function _ _ body => targets body
  | .macroDef _ _ body => targets body
  | .call target args => target :: targetsOfItems args
  | .record target _ => [target]
  | _ => []

def targetsOfItems : List Expr → List String
  | [] => []
  | e :: rest => targets e ++ targetsOfItems rest

def targetsOfBranch : Option Expr → List String
  | none => []
  | some e => targets e

end

theorem mem_targetsOfItems {name : String} {items : List Expr} :
    name ∈ targetsOfItems items ↔ ∃ e ∈ items, name ∈ e.targets := by
  induction items with
  | nil => simp [targetsOfItems]
  | cons e rest ih => simp [targetsOfItems, ih]

theorem mem_targetsOfBranch {name : String} {branch : Option Expr} :
    name ∈ targetsOfBranch branch ↔ ∃ e ∈ branch.toList, name ∈ e.targets := by
  cases branch <;> simp [targetsOfBranch]

theorem mem_targets {name : String} {e : Expr} :
    name ∈ e.targets ↔
      e.target? = some name ∨ ∃ child ∈ e.children, name ∈ child.targets := by
  cases e with
  | conditional condition whenTrue whenFalse =>
      simp only [targets, List.mem_append, mem_targetsOfBranch, target?, children, List.mem_cons]
      constructor
      · rintro ((h | ⟨e, he, h⟩) | ⟨e, he, h⟩)
        · exact .inr ⟨_, .inl rfl, h⟩
        · exact .inr ⟨e, .inr (.inl he), h⟩
        · exact .inr ⟨e, .inr (.inr he), h⟩
      · rintro (h | ⟨e, (rfl | he | he), h⟩)
        · cases h
        · exact .inl (.inl h)
        · exact .inl (.inr ⟨e, he, h⟩)
        · exact .inr ⟨e, he, h⟩
  | _ => simp [targets, target?, children, mem_targetsOfItems, eq_comm]

theorem forall_mem_targets_iff {p : String → Prop} {e : Expr} :
    (∀ target ∈ e.targets, p target) ↔
      (∀ target, e.target? = some target → p target) ∧
        ∀ child ∈ e.children, ∀ target ∈ child.targets, p target := by
  constructor
  · intro h
    refine ⟨fun target htarget => h target (mem_targets.mpr (.inl htarget)), ?_⟩
    intro child hchild target htarget
    exact h target (mem_targets.mpr (.inr ⟨child, hchild, htarget⟩))
  · rintro ⟨htarget, hchildren⟩ target hmem
    rcases mem_targets.mp hmem with h | ⟨child, hchild, h⟩
    · exact htarget target h
    · exact hchildren child hchild target h

mutual

/-- The names that evaluation can bind in the frame at hand: those that are bound outside the
bodies of functions and macros. -/
def binds : Expr → Namespace → List String
  | .binding name value, .vars => name :: binds value .vars
  | .binding _ value, .functions => binds value .functions
  | .sequence body, space => bindsOfItems body space
  | .conditional condition whenTrue whenFalse, space =>
      binds condition space ++ bindsOfBranch whenTrue space ++ bindsOfBranch whenFalse space
  | .function name _ _, .functions => [name]
  | .imports _ symbols, _ => symbols
  | .call _ args, space => bindsOfItems args space
  | _, _ => []

def bindsOfItems : List Expr → Namespace → List String
  | [], _ => []
  | e :: rest, space => binds e space ++ bindsOfItems rest space

def bindsOfBranch : Option Expr → Namespace → List String
  | none, _ => []
  | some e, space => binds e space

end

theorem binds_subset_bindsOfItems {e : Expr} {items : List Expr} (h : e ∈ items)
    (space : Namespace) : ∀ name ∈ e.binds space, name ∈ bindsOfItems items space := by
  intro name hname
  induction items with
  | nil => cases h
  | cons first rest ih =>
      rw [bindsOfItems, List.mem_append]
      rcases List.mem_cons.mp h with rfl | h
      · exact .inl hname
      · exact .inr (ih h)

end Expr

end JsonExpr
