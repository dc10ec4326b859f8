import JsonExpr.Bindings
import Mathlib.Data.List.Induction
import Mathlib.Data.List.Nodup

namespace JsonExpr.Bindings

variable {α : Type}

@[simp]
theorem get?_nil (name : String) : get? ([] : Bindings α) name = none := rfl

theorem get?_cons (bound name : String) (value : α) (rest : Bindings α) :
    get? ((bound, value) :: rest) name =
      if bound = name then some value else rest.get? name := by
  rw [get?, List.lookup_cons]
  by_cases h : bound = name
  · simp [h]
  · have hne : (name == bound) = false := by simpa using fun heq => h heq.symm
    simp [h, hne, get?]

theorem mem_of_get? {bindings : Bindings α} {name : String} {value : α}
    (h : bindings.get? name = some value) : (name, value) ∈ bindings := by
  obtain ⟨before, after, rfl, _⟩ := List.lookup_eq_some_iff.mp h
  simp

theorem get?_isSome_iff {bindings : Bindings α} {name : String} :
    (bindings.get? name).isSome ↔ name ∈ bindings.names := by
  induction bindings with
  | nil => simp [names]
  | cons entry rest ih =>
      obtain ⟨bound, value⟩ := entry
      rw [get?_cons]
      by_cases h : bound = name
      · simp [h, names]
      · simpa [h, names, Ne.symm h] using ih

theorem mem_names_of_get? {bindings : Bindings α} {name : String} {value : α}
    (h : bindings.get? name = some value) : name ∈ bindings.names :=
  get?_isSome_iff.mp (Option.isSome_of_eq_some h)

theorem get?_eq_none_iff {bindings : Bindings α} {name : String} :
    bindings.get? name = none ↔ name ∉ bindings.names := by
  rw [← Option.not_isSome_iff_eq_none, get?_isSome_iff]

@[simp]
theorem get?_set_self (bindings : Bindings α) (name : String) (value : α) :
    (bindings.set name value).get? name = some value := by
  induction bindings with
  | nil => simp [set, get?_cons]
  | cons entry rest ih =>
      obtain ⟨bound, old⟩ := entry
      by_cases h : bound = name
      · simp [set, h, get?_cons]
      · simp [set, h, get?_cons, ih]

theorem get?_set_of_ne (bindings : Bindings α) {name other : String} (value : α)
    (h : name ≠ other) : (bindings.set name value).get? other = bindings.get? other := by
  induction bindings with
  | nil => simp [set, get?_cons, h]
  | cons entry rest ih =>
      obtain ⟨bound, old⟩ := entry
      by_cases hbound : bound = name
      · subst hbound
        simp [set, get?_cons, h]
      · simp only [set, if_neg hbound, get?_cons, ih]

theorem get?_set_cases {bindings : Bindings α} {name other : String} {value found : α}
    (h : (bindings.set name value).get? other = some found) :
    other = name ∧ found = value ∨ bindings.get? other = some found := by
  by_cases hname : name = other
  · subst hname
    rw [get?_set_self] at h
    exact .inl ⟨rfl, (Option.some.inj h).symm⟩
  · rw [get?_set_of_ne _ _ hname] at h
    exact .inr h

theorem names_set (bindings : Bindings α) (name : String) (value : α) :
    (bindings.set name value).names =
      if name ∈ bindings.names then bindings.names else bindings.names ++ [name] := by
  induction bindings with
  | nil => simp [set, names]
  | cons entry rest ih =>
      obtain ⟨bound, old⟩ := entry
      by_cases h : bound = name
      · simp [set, names, h]
      · simp only [names] at ih
        simp only [set, if_neg h, names, List.map_cons, ih, List.mem_cons, Ne.symm h, false_or]
        by_cases hmem : name ∈ List.map Prod.fst rest
        · simp [hmem]
        · simp [hmem]

theorem mem_set {bindings : Bindings α} {name : String} {value : α} {entry : String × α}
    (h : entry ∈ bindings.set name value) : entry = (name, value) ∨ entry ∈ bindings := by
  induction bindings with
  | nil => exact .inl (by simpa [set] using h)
  | cons first rest ih =>
      obtain ⟨bound, old⟩ := first
      by_cases hbound : bound = name
      · simp only [set, if_pos hbound, List.mem_cons] at h
        rcases h with rfl | h
        · exact .inl (by rw [hbound])
        · exact .inr (List.mem_cons_of_mem _ h)
      · simp only [set, if_neg hbound, List.mem_cons] at h
        rcases h with rfl | h
        · exact .inr List.mem_cons_self
        · exact (ih h).imp_right (List.mem_cons_of_mem _)

theorem nodup_names_set {bindings : Bindings α} (h : bindings.names.Nodup) (name : String)
    (value : α) : (bindings.set name value).names.Nodup := by
  rw [names_set]
  split
  · exact h
  · rename_i hfresh
    rw [← List.concat_eq_append]
    exact h.concat hfresh

theorem eq_of_get?_eq {first second : Bindings α} (hnodup : first.names.Nodup)
    (hnames : first.names = second.names) (h : ∀ name, first.get? name = second.get? name) :
    first = second := by
  induction first generalizing second with
  | nil => exact (List.map_eq_nil_iff.mp hnames.symm).symm
  | cons entry rest ih =>
      obtain ⟨name, value⟩ := entry
      obtain ⟨⟨bound, found⟩, others, rfl, rfl, hrest⟩ := List.map_eq_cons_iff.mp hnames.symm
      obtain ⟨hfresh, hnodup⟩ := List.nodup_cons.mp hnodup
      have hvalue := h bound
      rw [get?_cons, get?_cons, if_pos rfl, if_pos rfl, Option.some_inj] at hvalue
      have hothers : rest = others := by
        refine ih hnodup hrest.symm fun name => ?_
        by_cases hname : bound = name
        · subst hname
          have hfresh' : bound ∉ names others := fun hmem => hfresh (hrest ▸ hmem)
          rw [get?_eq_none_iff.mpr hfresh, get?_eq_none_iff.mpr hfresh']
        · simpa only [get?_cons, if_neg hname] using h name
      rw [hvalue, hothers]

theorem ofList_concat (pairs : List (String × α)) (name : String) (value : α) :
    ofList (pairs ++ [(name, value)]) = (ofList pairs).set name value := by
  simp [ofList, update]

theorem get?_ofList (pairs : List (String × α)) (name : String) :
    (ofList pairs).get? name = get? pairs.reverse name := by
  induction pairs using List.reverseRecOn with
  | nil => rfl
  | append_singleton pairs pair ih =>
      obtain ⟨bound, value⟩ := pair
      rw [ofList_concat, List.reverse_concat, get?_cons]
      by_cases h : bound = name
      · rw [if_pos h, ← h, get?_set_self]
      · rw [if_neg h, get?_set_of_ne _ _ h, ih]

theorem names_ofList (pairs : List (String × α)) :
    (ofList pairs).names = (pairs.map Prod.fst).eraseDups := by
  induction pairs using List.reverseRecOn with
  | nil => rfl
  | append_singleton pairs pair ih =>
      rw [ofList_concat, names_set, ih, List.map_append, List.eraseDups_append]
      by_cases h : pair.1 ∈ pairs.map Prod.fst
      · simp [h, List.removeAll]
      · simp [h, List.removeAll, List.eraseDups_cons]

theorem nodup_names_ofList (pairs : List (String × α)) : (ofList pairs).names.Nodup := by
  induction pairs using List.reverseRecOn with
  | nil => exact List.nodup_nil
  | append_singleton pairs pair ih =>
      rw [ofList_concat]
      exact nodup_names_set ih _ _

theorem ordered_ofList (pairs : List (String × α)) :
    (ofList pairs).names.Pairwise fun first second =>
      (pairs.map Prod.fst).idxOf first < (pairs.map Prod.fst).idxOf second := by
  induction pairs using List.reverseRecOn with
  | nil => exact .nil
  | append_singleton pairs last ih =>
      have hmem {name : String} (h : name ∈ (ofList pairs).names) : name ∈ pairs.map Prod.fst := by
        rwa [names_ofList, List.mem_eraseDups] at h
      have hold : (ofList pairs).names.Pairwise fun first second =>
          ((pairs ++ [last]).map Prod.fst).idxOf first <
            ((pairs ++ [last]).map Prod.fst).idxOf second := by
        refine ih.imp_of_mem fun hfirst hsecond hlt => ?_
        rwa [List.map_append, List.idxOf_append_of_mem (hmem hfirst),
          List.idxOf_append_of_mem (hmem hsecond)]
      rw [ofList_concat, names_set]
      split
      · exact hold
      · rename_i hfresh
        refine List.pairwise_append.mpr ⟨hold, List.pairwise_singleton _ _, ?_⟩
        intro first hfirst second hsecond
        obtain rfl := List.mem_singleton.mp hsecond
        have hnew : last.1 ∉ pairs.map Prod.fst := by
          rwa [names_ofList, List.mem_eraseDups] at hfresh
        rw [List.map_append, List.idxOf_append_of_mem (hmem hfirst),
          List.idxOf_append_of_notMem hnew]
        exact Nat.lt_add_right _ (List.idxOf_lt_length_of_mem (hmem hfirst))

/-- The later bindings come from the earlier ones by binding names of `allowed` only. No name is
lost or moved, and every other name keeps its value. -/
structure Grows (allowed : List String) (before after : Bindings α) : Prop where
  names_prefix : before.names <+: after.names
  get?_eq : ∀ name, name ∉ allowed → after.get? name = before.get? name

namespace Grows

variable {allowed : List String} {before middle after : Bindings α}

theorem refl (allowed : List String) (bindings : Bindings α) : Grows allowed bindings bindings :=
  ⟨List.prefix_rfl, fun _ _ => rfl⟩

theorem trans (first : Grows allowed before middle) (second : Grows allowed middle after) :
    Grows allowed before after where
  names_prefix := first.names_prefix.trans second.names_prefix
  get?_eq name h := (second.get?_eq name h).trans (first.get?_eq name h)

theorem set (bindings : Bindings α) {name : String} (value : α) (h : name ∈ allowed) :
    Grows allowed bindings (bindings.set name value) where
  names_prefix := by
    rw [names_set]
    split
    · exact List.prefix_rfl
    · exact List.prefix_append _ _
  get?_eq other hother := by
    apply get?_set_of_ne
    rintro rfl
    exact hother h

end Grows

end JsonExpr.Bindings
