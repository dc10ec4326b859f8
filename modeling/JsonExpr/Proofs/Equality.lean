import JsonExpr.Builtin
import JsonExpr.Proofs.RoundTrip
import Mathlib.Data.List.Sort
import Mathlib.Data.String.Basic

namespace JsonExpr

def Exact.isNaN : Exact → Bool
  | .nan => true
  | _ => false

theorem Exact.equal_iff {a b : Exact} (h : a.isNaN = false) : a.equal b = true ↔ a = b := by
  cases a with
  | nan => cases h
  | finite value => cases b <;> simp [equal]
  | infinite negative => cases b <;> simp [equal]

/-- What two equal values have in common. -/
inductive Canonical where
  | null
  | bool (value : Bool)
  | number (value : Exact)
  | str (value : String)
  | arr (items : List Canonical)
  /-- The members in the order of their names. -/
  | obj (members : List (String × Canonical))

namespace Bindings

variable {α β : Type}

/-- The same bindings in the order of their names. -/
def byName (bindings : Bindings α) : Bindings α :=
  bindings.insertionSort fun a b => a.1 ≤ b.1

theorem byName_eq_iff_perm {first second : Bindings α} (hnodup : first.names.Nodup) :
    first.byName = second.byName ↔ first.Perm second := by
  have hfirst : first.byName.Perm first := List.perm_insertionSort _ first
  have hsecond : second.byName.Perm second := List.perm_insertionSort _ second
  constructor
  · intro h
    exact hfirst.symm.trans (h ▸ hsecond)
  · intro h
    have hperm : first.byName.Perm second.byName := hfirst.trans (h.trans hsecond.symm)
    have htotal : Std.Total fun a b : String × α => a.1 ≤ b.1 := ⟨fun a b => le_total a.1 b.1⟩
    have htrans : IsTrans (String × α) fun a b => a.1 ≤ b.1 := ⟨fun _ _ _ => le_trans⟩
    refine List.Perm.eq_of_pairwise ?_ (List.pairwise_insertionSort _ first)
      (List.pairwise_insertionSort _ second) hperm
    intro a b ha hb hab hba
    have ha' : a ∈ first := hfirst.mem_iff.mp ha
    have hb' : b ∈ first := hfirst.mem_iff.mp (hperm.mem_iff.mpr hb)
    exact List.inj_on_of_nodup_map hnodup ha' hb' (le_antisymm hab hba)

theorem perm_iff_get?_eq {first second : Bindings α} (hfirst : first.names.Nodup)
    (hsecond : second.names.Nodup) :
    first.Perm second ↔ ∀ name, first.get? name = second.get? name := by
  rw [List.perm_ext_iff_of_nodup (List.Nodup.of_map _ hfirst) (List.Nodup.of_map _ hsecond)]
  simp only [mem_iff_get? hfirst, mem_iff_get? hsecond, Prod.forall]
  constructor
  · intro h name
    exact Option.ext fun value => h name value
  · intro h name value
    rw [h name]

theorem names_mapValues (f : α → β) (bindings : Bindings α) :
    (bindings.mapValues f).names = bindings.names := by
  simp [mapValues, names]

theorem get?_mapValues (f : α → β) (bindings : Bindings α) (name : String) :
    (bindings.mapValues f).get? name = (bindings.get? name).map f := by
  induction bindings with
  | nil => rfl
  | cons entry rest ih =>
      obtain ⟨bound, value⟩ := entry
      rw [mapValues] at ih
      rw [mapValues, List.map_cons, get?_cons, get?_cons, ih]
      split <;> rfl

end Bindings

def Scalar.canonical : Scalar → Canonical
  | .null => .null
  | .bool value => .bool value
  | .num value => .number value.exact
  | .str value => .str value

namespace Json

mutual

def canonical : Json → Canonical
  | .scalar value => value.canonical
  | .arr items => .arr (canonicalItems items)
  | .obj members => .obj (Bindings.byName (canonicalMembers members))

def canonicalItems : List Json → List Canonical
  | [] => []
  | item :: rest => canonical item :: canonicalItems rest

def canonicalMembers : List (String × Json) → List (String × Canonical)
  | [] => []
  | (name, value) :: rest => (name, canonical value) :: canonicalMembers rest

end

mutual

/-- No number in the value is NaN. -/
def nanFree : Json → Bool
  | .scalar (.num value) => ! value.exact.isNaN
  | .scalar _ => true
  | .arr items => itemsNanFree items
  | .obj members => membersNanFree members

def itemsNanFree : List Json → Bool
  | [] => true
  | item :: rest => nanFree item && itemsNanFree rest

def membersNanFree : List (String × Json) → Bool
  | [] => true
  | (_, value) :: rest => nanFree value && membersNanFree rest

end

theorem canonicalItems_eq_map (items : List Json) : canonicalItems items = items.map canonical := by
  induction items with
  | nil => rw [canonicalItems, List.map_nil]
  | cons item rest ih => rw [canonicalItems, ih, List.map_cons]

theorem canonicalMembers_eq_mapValues (members : Bindings Json) :
    canonicalMembers members = members.mapValues canonical := by
  induction members with
  | nil => rw [canonicalMembers, Bindings.mapValues, List.map_nil]
  | cons entry rest ih =>
      rw [canonicalMembers, ih, Bindings.mapValues, Bindings.mapValues, List.map_cons]

theorem itemsNanFree_iff {items : List Json} :
    itemsNanFree items = true ↔ ∀ item ∈ items, item.nanFree = true := by
  induction items with
  | nil => simp [itemsNanFree]
  | cons item rest ih => simp [itemsNanFree, ih]

theorem membersNanFree_iff {members : List (String × Json)} :
    membersNanFree members = true ↔ ∀ entry ∈ members, entry.2.nanFree = true := by
  induction members with
  | nil => simp [membersNanFree]
  | cons entry rest ih =>
      obtain ⟨name, value⟩ := entry
      simp only [membersNanFree, Bool.and_eq_true, ih, List.forall_mem_cons]

/-- A value that equality is meant for: an object has each name once, and there is no NaN, which
does not even equal itself. -/
structure Comparable (value : Json) : Prop where
  nanFree : value.nanFree = true
  distinctKeys : value.distinctKeys = true

theorem Comparable.part {value part : Json} (h : value.Comparable) (hpart : part ∈ value.parts) :
    part.Comparable := by
  obtain ⟨hnan, hdistinct⟩ := h
  cases value with
  | scalar value => cases hpart
  | arr items =>
      rw [Json.nanFree, itemsNanFree_iff] at hnan
      exact ⟨hnan part hpart, distinctKeys_of_mem hdistinct hpart⟩
  | obj members =>
      obtain ⟨entry, hentry, rfl⟩ := List.mem_map.mp hpart
      have hget := Bindings.get?_of_mem (nodup_of_distinctKeys hdistinct) hentry
      rw [Json.nanFree, membersNanFree_iff] at hnan
      exact ⟨hnan entry hentry, distinctKeys_of_get? hdistinct hget⟩

theorem itemsEqual_iff {as bs : List Json} :
    itemsEqual as bs = true ↔ List.Forall₂ (fun a b => a.equal b = true) as bs := by
  induction as generalizing bs with
  | nil => cases bs <;> simp [itemsEqual]
  | cons a as ih => cases bs <;> simp [itemsEqual, ih]

theorem membersEqual_iff {others members : Bindings Json} :
    membersEqual others members = true ↔
      ∀ entry ∈ members, ∃ other, others.get? entry.1 = some other ∧
        entry.2.equal other = true := by
  induction members with
  | nil => simp [membersEqual]
  | cons entry rest ih =>
      obtain ⟨name, value⟩ := entry
      rw [membersEqual, Bool.and_eq_true, ih, List.forall_mem_cons]
      cases others.get? name <;> simp

theorem sameNames_iff {as bs : Bindings Json} :
    sameNames as bs = true ↔ ∀ name, name ∈ as.names ↔ name ∈ bs.names := by
  simp only [sameNames, Bool.and_eq_true, List.all_eq_true, Bindings.has, Bindings.get?_isSome_iff]
  constructor
  · rintro ⟨has, hbs⟩ name
    constructor
    · intro hname
      obtain ⟨entry, hentry, rfl⟩ := List.mem_map.mp hname
      exact has entry hentry
    · intro hname
      obtain ⟨entry, hentry, rfl⟩ := List.mem_map.mp hname
      exact hbs entry hentry
  · intro h
    exact ⟨fun entry hentry => (h entry.1).mp (List.mem_map_of_mem hentry),
      fun entry hentry => (h entry.1).mpr (List.mem_map_of_mem hentry)⟩

theorem equal_obj_iff {as bs : Bindings Json} (hnodup : as.names.Nodup) :
    (Json.obj as).equal (.obj bs) = true ↔
      ∀ name, Option.Rel (fun a b => a.equal b = true) (as.get? name) (bs.get? name) := by
  rw [equal, Bool.and_eq_true, sameNames_iff, membersEqual_iff]
  constructor
  · rintro ⟨hnames, hequal⟩ name
    cases ha : as.get? name with
    | none =>
        have hb : bs.get? name = none := by
          rw [Bindings.get?_eq_none_iff, ← hnames, ← Bindings.get?_eq_none_iff]
          exact ha
        rw [hb]
        exact .none
    | some a =>
        obtain ⟨b, hb, hab⟩ := hequal _ (Bindings.mem_of_get? ha)
        rw [hb]
        exact .some hab
  · intro h
    constructor
    · intro name
      have hrel := h name
      rw [← Bindings.get?_isSome_iff, ← Bindings.get?_isSome_iff]
      generalize as.get? name = a, bs.get? name = b at hrel ⊢
      cases hrel <;> simp
    · intro entry hentry
      have hrel := h entry.1
      rw [Bindings.get?_of_mem hnodup hentry] at hrel
      generalize bs.get? entry.1 = b at hrel ⊢
      cases hrel with
      | some hab => exact ⟨_, rfl, hab⟩

theorem canonical_obj_eq_iff {as bs : Bindings Json} (has : as.names.Nodup) (hbs : bs.names.Nodup) :
    (Json.obj as).canonical = (Json.obj bs).canonical ↔
      ∀ name, Option.Rel (fun a b => a.canonical = b.canonical) (as.get? name) (bs.get? name) := by
  have hrel (x y : Option Json) :
      x.map canonical = y.map canonical ↔
        Option.Rel (fun a b => a.canonical = b.canonical) x y := by
    constructor
    · intro h
      cases x <;> cases y
      · exact .none
      · cases h
      · cases h
      · exact .some (Option.some.inj h)
    · rintro (hab | _)
      · exact congrArg some hab
      · rfl
  rw [← Bindings.names_mapValues canonical] at has hbs
  simp only [canonical, canonicalMembers_eq_mapValues, Canonical.obj.injEq,
    Bindings.byName_eq_iff_perm has, Bindings.perm_iff_get?_eq has hbs, Bindings.get?_mapValues,
    hrel]

theorem scalar_equal_iff {a b : Scalar} (ha : (Json.scalar a).nanFree = true) :
    a.equal b = true ↔ a.canonical = b.canonical := by
  cases a with
  | num a =>
      have hnan : a.exact.isNaN = false := by simpa [nanFree] using ha
      cases b <;> simp [Scalar.equal, Scalar.canonical, Number.equal, Exact.equal_iff hnan]
  | _ => cases b <;> simp [Scalar.equal, Scalar.canonical]

/-- Equal values are those with the same canonical form. The induction is on the first value; the
parts of the second that it comes to are whichever stand in the same places. -/
theorem equal_iff_canonical_eq {a b : Json} (ha : a.Comparable) (hb : b.Comparable) :
    a.equal b = true ↔ a.canonical = b.canonical := by
  induction a using inductionOnParts generalizing b with
  | step a ih =>
      have hparts {a' b' : Json} (ha' : a' ∈ a.parts) (hb' : b' ∈ b.parts) :
          a'.equal b' = true ↔ a'.canonical = b'.canonical :=
        ih a' ha' (ha.part ha') (hb.part hb')
      cases a with
      | scalar a =>
          cases b with
          | scalar b =>
              rw [equal, canonical, canonical]
              exact scalar_equal_iff ha.nanFree
          | arr | obj => cases a <;> simp [equal, canonical, Scalar.canonical]
      | arr as =>
          cases b with
          | arr bs =>
              rw [equal, itemsEqual_iff, canonical, canonical, Canonical.arr.injEq,
                canonicalItems_eq_map, canonicalItems_eq_map, ← List.forall₂_eq_eq_eq,
                List.forall₂_map_left_iff, List.forall₂_map_right_iff, List.forall₂_iff_zip,
                List.forall₂_iff_zip]
              refine and_congr_right fun _ => forall₂_congr fun a' b' => ?_
              refine imp_congr_right fun hmem => ?_
              exact hparts (List.of_mem_zip hmem).1 (List.of_mem_zip hmem).2
          | scalar b => cases b <;> simp [equal, canonical, Scalar.canonical]
          | obj => simp [equal, canonical]
      | obj as =>
          cases b with
          | obj bs =>
              have has := nodup_of_distinctKeys ha.distinctKeys
              have hbs := nodup_of_distinctKeys hb.distinctKeys
              rw [equal_obj_iff has, canonical_obj_eq_iff has hbs]
              refine forall_congr' fun name => ?_
              cases ha' : Bindings.get? as name <;> cases hb' : Bindings.get? bs name
              case some.some a' b' =>
                simpa using hparts (mem_parts_of_get? ha') (mem_parts_of_get? hb')
              all_goals simp
          | scalar b => cases b <;> simp [equal, canonical, Scalar.canonical]
          | arr => simp [equal, canonical]

/-- Equality is an equivalence on all values without NaN, whatever their depth, and two of them are
equal, for the builtin as well, exactly when they have the same canonical form. -/
theorem equal_is_structural :
    (Equivalence fun a b : { value : Json // value.Comparable } => a.1.equal b.1 = true) ∧
      ∀ a b : Json, a.Comparable → b.Comparable →
        (a.equal b = true ↔ a.canonical = b.canonical) ∧
          (Builtin.equals.value [a, b] = .ok (.bool true) ↔ a.canonical = b.canonical) := by
  constructor
  · constructor
    · rintro ⟨a, ha⟩
      exact (equal_iff_canonical_eq ha ha).mpr rfl
    · rintro ⟨a, ha⟩ ⟨b, hb⟩ hab
      rw [equal_iff_canonical_eq ha hb] at hab
      exact (equal_iff_canonical_eq hb ha).mpr hab.symm
    · rintro ⟨a, ha⟩ ⟨b, hb⟩ ⟨c, hc⟩ hab hbc
      rw [equal_iff_canonical_eq ha hb] at hab
      rw [equal_iff_canonical_eq hb hc] at hbc
      exact (equal_iff_canonical_eq ha hc).mpr (hab.trans hbc)
  · intro a b ha hb
    refine ⟨equal_iff_canonical_eq ha hb, ?_⟩
    rw [← equal_iff_canonical_eq ha hb, Builtin.value]
    simp

/-- The order of the members does not matter at any depth, nor whether a number is an integer, but a
boolean in the place of a number does. -/
theorem equal_is_structural_reordered :
    let a : Json := .obj [("x", .arr [.num (.int 1), .bool true]),
      ("y", .obj [("p", .null), ("q", .str "s")])]
    let b : Json := .obj [("y", .obj [("q", .str "s"), ("p", .null)]),
      ("x", .arr [.num (.float 1.0), .bool true])]
    let c : Json := .obj [("x", .arr [.num (.int 1), .num (.int 1)]),
      ("y", .obj [("p", .null), ("q", .str "s")])]
    a.Comparable ∧ b.Comparable ∧ c.Comparable ∧
      a.equal b = true ∧ a.canonical = b.canonical ∧ b.equal a = true ∧
      a.equal c = false ∧ a.canonical ≠ c.canonical := by
  intro a b c
  have ha : a.Comparable := ⟨by decide +kernel, by decide +kernel⟩
  have hb : b.Comparable := ⟨by decide +kernel, by decide +kernel⟩
  have hc : c.Comparable := ⟨by decide +kernel, by decide +kernel⟩
  have hab : a.equal b = true := by decide +kernel
  have hac : a.equal c = false := by decide +kernel
  obtain ⟨hequivalence, hcanonical⟩ := equal_is_structural
  refine ⟨ha, hb, hc, hab, (hcanonical a b ha hb).1.mp hab, ?_, hac, ?_⟩
  · exact hequivalence.symm (x := ⟨a, ha⟩) (y := ⟨b, hb⟩) hab
  · intro hsame
    rw [(hcanonical a c ha hc).1.mpr hsame] at hac
    cases hac

end Json

end JsonExpr
