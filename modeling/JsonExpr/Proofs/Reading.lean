import JsonExpr.Expr.Reader
import JsonExpr.Expr.Writer
import JsonExpr.Proofs.Bindings
import Mathlib.Data.List.Forall2

namespace JsonExpr

variable {α β : Type}

theorem bind_eq_ok_iff {ε : Type} {part : Except ε α} {next : α → Except ε β} {result : β} :
    part >>= next = .ok result ↔ ∃ value, part = .ok value ∧ next value = .ok result := by
  cases part with
  | error e => simp [bind, Except.bind]
  | ok value => simp [bind, Except.bind]

theorem bind_eq_error_iff {ε : Type} {part : Except ε α} {next : α → Except ε β} {err : ε} :
    part >>= next = .error err ↔
      part = .error err ∨ ∃ value, part = .ok value ∧ next value = .error err := by
  cases part with
  | error e => simp [bind, Except.bind]
  | ok value => simp [bind, Except.bind]

theorem map_eq_ok_iff {ε : Type} {part : Except ε α} {f : α → β} {result : β} :
    part.map f = .ok result ↔ ∃ value, part = .ok value ∧ f value = result := by
  cases part <;> simp [Except.map]

theorem map_eq_error_iff {ε : Type} {part : Except ε α} {f : α → β} {err : ε} :
    part.map f = .error err ↔ part = .error err := by
  cases part <;> simp [Except.map]

theorem mapError_eq_ok_iff {ε δ : Type} {part : Except ε α} {f : ε → δ} {result : α} :
    part.mapError f = .ok result ↔ part = .ok result := by
  cases part <;> simp [Except.mapError]

theorem mapError_eq_error_iff {ε δ : Type} {part : Except ε α} {f : ε → δ} {err : δ} :
    part.mapError f = .error err ↔ ∃ raised, part = .error raised ∧ f raised = err := by
  cases part <;> simp [Except.mapError]

theorem exists_of_isOk {ε : Type} {part : Except ε α} (h : part.isOk = true) :
    ∃ result, part = .ok result := by
  cases part with
  | error e => cases h
  | ok result => exact ⟨result, rfl⟩

theorem mapM_eq_ok_iff {ε : Type} {f : α → Except ε β} {items : List α} {results : List β} :
    items.mapM f = .ok results ↔
      List.Forall₂ (fun item result => f item = .ok result) items results := by
  induction items generalizing results with
  | nil => cases results <;> simp [pure, Except.pure]
  | cons item rest ih =>
      simp only [List.mapM_cons, bind_eq_ok_iff, ih]
      constructor
      · rintro ⟨first, hfirst, others, hothers, h⟩
        cases h
        exact .cons hfirst hothers
      · rintro (_ | ⟨hfirst, hothers⟩)
        exact ⟨_, hfirst, _, hothers, rfl⟩

theorem exists_of_forall₂ {R : α → β → Prop} {items : List α} {results : List β}
    (h : List.Forall₂ R items results) {result : β} (hmem : result ∈ results) :
    ∃ item, R item result := by
  induction h with
  | nil => cases hmem
  | cons hfirst _ ih =>
      rcases List.mem_cons.mp hmem with rfl | hmem
      · exact ⟨_, hfirst⟩
      · exact ih hmem

theorem exists_right_of_forall₂ {R : α → β → Prop} {items : List α} {results : List β}
    (h : List.Forall₂ R items results) {item : α} (hmem : item ∈ items) :
    ∃ result, R item result :=
  exists_of_forall₂ h.flip hmem

theorem exists_forall₂ {R : α → β → Prop} {items : List α}
    (h : ∀ item ∈ items, ∃ result, R item result) : ∃ results, List.Forall₂ R items results := by
  induction items with
  | nil => exact ⟨[], .nil⟩
  | cons item rest ih =>
      obtain ⟨result, hresult⟩ := h item List.mem_cons_self
      obtain ⟨results, hresults⟩ := ih fun other hmem => h other (List.mem_cons_of_mem _ hmem)
      exact ⟨result :: results, .cons hresult hresults⟩

theorem exists_mapM_eq_ok_iff {ε : Type} {f : α → Except ε β} {items : List α} :
    (∃ results, items.mapM f = .ok results) ↔ ∀ item ∈ items, ∃ result, f item = .ok result := by
  simp only [mapM_eq_ok_iff]
  constructor
  · rintro ⟨results, hresults⟩ item hitem
    exact exists_right_of_forall₂ hresults hitem
  · exact exists_forall₂

theorem located_eq_ok_iff {token : String} {part : Except Violation α} {result : α} :
    located token part = .ok result ↔ part = .ok result :=
  mapError_eq_ok_iff

@[simp]
theorem refuse_ne_ok {reason : Reason} {value : Json} {result : α} :
    refuse reason value ≠ .ok result := by
  simp [refuse]

namespace Json

/-- The values that stand directly in an array or an object. -/
def parts : Json → List Json
  | .scalar _ => []
  | .arr items => items
  | .obj members => members.map Prod.snd

theorem sizeOf_lt_of_mem_parts {value part : Json} (h : part ∈ value.parts) :
    sizeOf part < sizeOf value := by
  cases value with
  | scalar value => cases h
  | arr items =>
      have hlt : sizeOf part < sizeOf items := List.sizeOf_lt_of_mem h
      rw [arr.sizeOf_spec]
      omega
  | obj members =>
      obtain ⟨entry, hentry, rfl⟩ := List.mem_map.mp h
      have hlt := List.sizeOf_lt_of_mem hentry
      have hvalue : sizeOf entry = 1 + sizeOf entry.1 + sizeOf entry.2 := Prod.mk.sizeOf_spec _ _
      rw [obj.sizeOf_spec]
      omega

theorem inductionOnParts {motive : Json → Prop}
    (step : ∀ value, (∀ part ∈ value.parts, motive part) → motive value) (value : Json) :
    motive value :=
  step value fun part h =>
    have := sizeOf_lt_of_mem_parts h
    inductionOnParts step part
termination_by sizeOf value

theorem mem_parts_of_get? {members : Bindings Json} {name : String} {value : Json}
    (h : members.get? name = some value) : value ∈ (Json.obj members).parts :=
  List.mem_map_of_mem (Bindings.mem_of_get? h)

theorem itemsFitWithin_iff {limit : Nat} {items : List Json} :
    itemsFitWithin limit items = true ↔ ∀ item ∈ items, item.fitsWithin limit = true := by
  induction items with
  | nil => simp [itemsFitWithin]
  | cons item rest ih => simp [itemsFitWithin, ih]

theorem membersFitWithin_iff {limit : Nat} {members : List (String × Json)} :
    membersFitWithin limit members = true ↔ ∀ entry ∈ members, entry.2.fitsWithin limit = true := by
  induction members with
  | nil => simp [membersFitWithin]
  | cons entry rest ih =>
      obtain ⟨key, value⟩ := entry
      simp only [membersFitWithin, Bool.and_eq_true, ih, List.forall_mem_cons]

theorem fitsWithin_mono {limit larger : Nat} {value : Json} (h : value.fitsWithin limit = true)
    (hle : limit ≤ larger) : value.fitsWithin larger = true := by
  induction limit generalizing larger value with
  | zero =>
      cases value with
      | scalar => rw [fitsWithin]
      | arr | obj => rw [fitsWithin] at h; cases h
  | succ limit ih =>
      obtain ⟨larger, rfl⟩ : ∃ inner, larger = inner + 1 := ⟨larger - 1, by omega⟩
      have hwithin {value : Json} (hvalue : value.fitsWithin limit = true) :=
        ih hvalue (Nat.le_of_succ_le_succ hle)
      cases value with
      | scalar => rw [fitsWithin]
      | arr items =>
          rw [fitsWithin, itemsFitWithin_iff] at h ⊢
          exact fun item hitem => hwithin (h item hitem)
      | obj members =>
          rw [fitsWithin, membersFitWithin_iff] at h ⊢
          exact fun entry hentry => hwithin (h entry hentry)

theorem asString_eq_ok_iff {role : String} {value : Json} {s : String} :
    value.asString role = .ok s ↔ value = .str s := by
  cases value with
  | scalar scalar => cases scalar <;> simp [asString]
  | arr items => simp [asString]
  | obj members => simp [asString]

theorem asArray_eq_ok_iff {role : String} {value : Json} {items : List Json} :
    value.asArray role = .ok items ↔ value = .arr items := by
  cases value <;> simp [asArray]

theorem eachItem_eq_ok_iff {read : Json → Except Violation α} {items : List Json}
    {results : List α} (index : Nat) :
    eachItem read index items = .ok results ↔
      List.Forall₂ (fun value result => read value = .ok result) items results := by
  induction items generalizing results index with
  | nil => cases results <;> simp [eachItem]
  | cons item rest ih =>
      simp only [eachItem, bind_eq_ok_iff, located_eq_ok_iff, ih]
      constructor
      · rintro ⟨first, hfirst, others, hothers, h⟩
        cases h
        exact .cons hfirst hothers
      · rintro (_ | ⟨hfirst, hothers⟩)
        exact ⟨_, hfirst, _, hothers, rfl⟩

theorem eachItem_eq_ok_iff_map {read : Json → Except Violation α} {write : α → Json}
    (h : ∀ value result, read value = .ok result ↔ value = write result) {items : List Json}
    {results : List α} (index : Nat) :
    eachItem read index items = .ok results ↔ items = results.map write := by
  simp only [eachItem_eq_ok_iff, h]
  constructor
  · intro hitems
    induction hitems with
    | nil => rfl
    | cons hfirst _ ih => rw [hfirst, ih, List.map_cons]
  · rintro rfl
    induction results with
    | nil => exact .nil
    | cons first rest ih => exact .cons rfl ih

end Json

theorem Param.ofJson_eq_ok_iff {value : Json} {param : Param} :
    Param.ofJson value = .ok param ↔ value = param.toJson := by
  obtain ⟨name, typeName⟩ := param
  unfold Param.ofJson
  split
  · cases typeName <;> simp [toJson]
  · cases typeName <;> simp [toJson]
  · rename_i hname htyped
    constructor
    · intro h
      exact absurd h refuse_ne_ok
    · rintro rfl
      cases typeName with
      | none => exact absurd rfl (hname name)
      | some typeName => exact absurd rfl (htyped name typeName)

theorem Bindings.find?_absent_eq_none_iff {bindings : Bindings α} {keys : List String} :
    (keys.find? fun key => ! bindings.has key) = none ↔ ∀ key ∈ keys, key ∈ bindings.names := by
  simp only [List.find?_eq_none, has, ← get?_isSome_iff, Bool.not_eq_true', Bool.not_eq_false]

namespace Shape

theorem check_eq_ok_iff {shape : Shape} {members : Bindings Json} {result : Unit} :
    shape.check members = .ok result ↔
      (∀ key ∈ shape.required, key ∈ members.names) ∧
        ∀ key ∈ members.names, key ∈ shape.required ++ shape.optional := by
  rw [← Bindings.find?_absent_eq_none_iff]
  unfold check
  split
  · rename_i key hmissing
    simp [hmissing]
  · rename_i hpresent
    split
    · rename_i key hunknown
      refine ⟨nofun, fun ⟨_, hallowed⟩ => ?_⟩
      have hmem := hallowed key (List.mem_of_find?_eq_some hunknown)
      have hforeign := List.find?_some hunknown
      simp [hmem] at hforeign
    · rename_i hknown
      refine ⟨fun _ => ⟨hpresent, fun key hkey => ?_⟩, fun _ => rfl⟩
      rw [List.mem_append, or_iff_not_imp_left]
      simpa using List.find?_eq_none.mp hknown key hkey

theorem require_eq_ok_iff {shape : Shape} {key : String} {members : Bindings Json}
    {part : Option (Except Violation α)} {result : α} :
    shape.require key members part = .ok result ↔ part = some (.ok result) := by
  cases part <;> simp [require]

theorem member_eq_ok_iff {shape : Shape} {key : String} {members : Bindings Json}
    {read : Json → Except Violation α} {result : α} :
    shape.member key members read = .ok result ↔
      ∃ value, members.get? key = some value ∧ read value = .ok result := by
  rw [member, require_eq_ok_iff, Option.map_eq_some_iff]
  simp only [located_eq_ok_iff]

end Shape

end JsonExpr
