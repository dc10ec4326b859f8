import JsonExpr.Proofs.Spelling
import Mathlib.Data.List.Nodup

namespace JsonExpr

namespace Reserved

/-- The forms whose value is a record of named members. -/
def hasRecord : Reserved → Bool
  | .ref => false
  | .sequence => false
  | _ => true

end Reserved

namespace Json

/-- Equal but for the order of the members in the records of reserved forms, which are looked for
in the items under a key and in the members of such records themselves. -/
inductive Rearranged : Json → Json → Prop
  | same (value : Json) : Rearranged value value
  | items {key : String} {items written : List Json} :
      items.length = written.length →
      (∀ {a b}, (a, b) ∈ items.zip written → Rearranged a b) →
      Rearranged (.obj [(key, .arr items)]) (.obj [(key, .arr written)])
  | record {form : Reserved} {members arranged written : List (String × Json)} :
      form.hasRecord = true → members.Perm arranged →
      arranged.map Prod.fst = written.map Prod.fst →
      (∀ {a b}, (a, b) ∈ arranged.zip written → Rearranged a.2 b.2) →
      Rearranged (.obj [(form.key, .obj members)]) (.obj [(form.key, .obj written)])

mutual

/-- No object in the value has a key twice. -/
def distinctKeys : Json → Bool
  | .scalar _ => true
  | .arr items => itemsDistinctKeys items
  | .obj members => decide (members.map Prod.fst).Nodup && membersDistinctKeys members

def itemsDistinctKeys : List Json → Bool
  | [] => true
  | item :: rest => distinctKeys item && itemsDistinctKeys rest

def membersDistinctKeys : List (String × Json) → Bool
  | [] => true
  | (_, value) :: rest => distinctKeys value && membersDistinctKeys rest

end

theorem distinctKeys_of_mem {items : List Json} (h : (Json.arr items).distinctKeys = true)
    {item : Json} (hitem : item ∈ items) : item.distinctKeys = true := by
  rw [distinctKeys] at h
  induction items with
  | nil => cases hitem
  | cons first rest ih =>
      rw [itemsDistinctKeys, Bool.and_eq_true] at h
      rcases List.mem_cons.mp hitem with rfl | hitem
      · exact h.1
      · exact ih h.2 hitem

theorem nodup_of_distinctKeys {members : Bindings Json}
    (h : (Json.obj members).distinctKeys = true) : members.names.Nodup := by
  rw [distinctKeys, Bool.and_eq_true, decide_eq_true_eq] at h
  exact h.1

theorem distinctKeys_of_get? {members : Bindings Json}
    (h : (Json.obj members).distinctKeys = true) {key : String} {value : Json}
    (hget : members.get? key = some value) : value.distinctKeys = true := by
  rw [distinctKeys, Bool.and_eq_true] at h
  have hmembers := h.2
  clear h
  induction members with
  | nil => cases hget
  | cons first rest ih =>
      obtain ⟨name, held⟩ := first
      rw [membersDistinctKeys, Bool.and_eq_true] at hmembers
      rw [Bindings.get?_cons] at hget
      by_cases hname : name = key
      · rw [if_pos hname] at hget
        cases hget
        exact hmembers.1
      · rw [if_neg hname] at hget
        exact ih hget hmembers.2

theorem distinctKeys_body {key : String} {body : Json}
    (h : (Json.obj [(key, body)]).distinctKeys = true) : body.distinctKeys = true := by
  have hget : Bindings.get? [(key, body)] key = some body := by
    rw [Bindings.get?_cons, if_pos rfl]
  exact distinctKeys_of_get? h hget

end Json

namespace Bindings

variable {α : Type}

theorem get?_of_mem {bindings : Bindings α} (hnodup : bindings.names.Nodup) {name : String}
    {value : α} (h : (name, value) ∈ bindings) : bindings.get? name = some value := by
  induction bindings with
  | nil => cases h
  | cons entry rest ih =>
      obtain ⟨bound, old⟩ := entry
      simp only [names, List.map_cons, List.nodup_cons] at hnodup
      rw [get?_cons]
      rcases List.mem_cons.mp h with heq | hrest
      · cases heq
        exact if_pos rfl
      · have hne : bound ≠ name := by
          rintro rfl
          exact hnodup.1 (List.mem_map_of_mem hrest)
        rw [if_neg hne]
        exact ih hnodup.2 hrest

theorem mem_iff_get? {bindings : Bindings α} (hnodup : bindings.names.Nodup) {entry : String × α} :
    entry ∈ bindings ↔ bindings.get? entry.1 = some entry.2 :=
  ⟨get?_of_mem hnodup, mem_of_get?⟩

theorem perm_arranged {bindings : Bindings α} (hnodup : bindings.names.Nodup)
    {keys : List String} (hkeys : keys.Nodup) (hall : ∀ name ∈ bindings.names, name ∈ keys) :
    bindings.Perm (keys.filterMap fun key => (bindings.get? key).map (Prod.mk key)) := by
  rw [List.perm_ext_iff_of_nodup (List.Nodup.of_map _ hnodup)]
  · rintro ⟨name, value⟩
    rw [List.mem_filterMap]
    constructor
    · intro h
      refine ⟨name, hall name (List.mem_map_of_mem h), ?_⟩
      rw [get?_of_mem hnodup h, Option.map_some]
    · rintro ⟨key, _, h⟩
      obtain ⟨found, hfound, heq⟩ := Option.map_eq_some_iff.mp h
      cases heq
      exact mem_of_get? hfound
  · apply List.Nodup.filterMap _ hkeys
    rintro key other ⟨name, value⟩ hkey hother
    obtain ⟨_, _, hfirst⟩ := Option.map_eq_some_iff.mp hkey
    obtain ⟨_, _, hsecond⟩ := Option.map_eq_some_iff.mp hother
    exact (congrArg Prod.fst hfirst).trans (congrArg Prod.fst hsecond).symm

end Bindings

namespace Json

/-- The members that the shape names, in its order. -/
def arrange (shape : Shape) (members : Bindings Json) : List (String × Json) :=
  (shape.required ++ shape.optional).filterMap fun key => (members.get? key).map (Prod.mk key)

/-- A member of a record and what is written for it. -/
def Rewritten (member written : String × Json) : Prop :=
  member.1 = written.1 ∧ Rearranged member.2 written.2

theorem Rearranged.ofRecord (form : Reserved) {shape : Shape} {members : Bindings Json}
    {written : List (String × Json)} (hform : form.hasRecord = true)
    (hdistinct : (Json.obj [(form.key, .obj members)]).distinctKeys = true)
    (hallows : shape.Allows members)
    (hwritten : List.Forall₂ Rewritten (arrange shape members) written) :
    Rearranged (.obj [(form.key, .obj members)]) (.obj [(form.key, .obj written)]) := by
  have hnodup : members.names.Nodup := nodup_of_distinctKeys (distinctKeys_body hdistinct)
  have hshape : (shape.required ++ shape.optional).Nodup := by
    cases shape <;> decide
  have hnames : (arrange shape members).map Prod.fst = written.map Prod.fst := by
    rw [← List.forall₂_eq_eq_eq, List.forall₂_map_left_iff, List.forall₂_map_right_iff]
    exact hwritten.imp fun _ _ h => h.1
  refine .record hform (Bindings.perm_arranged hnodup hshape hallows) hnames fun hmem => ?_
  exact ((List.forall₂_iff_zip.mp hwritten).2 hmem).2

end Json

namespace Expr

theorem itemsToJson_eq_map (items : List Expr) : itemsToJson items = items.map toJson := by
  induction items with
  | nil => rw [itemsToJson, List.map_nil]
  | cons e rest ih => rw [itemsToJson, ih, List.map_cons]

theorem eq_toJson_of_mem_zip {items : List Expr} {written : Json} {e : Expr}
    (h : (written, e) ∈ (itemsToJson items).zip items) : e ∈ items ∧ written = e.toJson := by
  rw [itemsToJson_eq_map] at h
  obtain ⟨index, hindex, heq⟩ := List.mem_iff_getElem.mp h
  rw [List.getElem_zip, List.getElem_map] at heq
  cases heq
  exact ⟨List.getElem_mem _, rfl⟩

/-- No invocation in a value that is read targets a reserved key: the key would have been taken for
the form it names. -/
theorem key_notMem_targets_of_spells {value : Json} {e : Expr} (h : value.Spells e)
    (form : Reserved) : form.key ∉ e.targets := by
  have hitems {items : List Json} {body : List Expr} (hlength : items.length = body.length)
      (ih : ∀ {item e}, (item, e) ∈ items.zip body → form.key ∉ e.targets) :
      form.key ∉ targetsOfItems body := by
    rw [mem_targetsOfItems]
    rintro ⟨e, he, htarget⟩
    obtain ⟨_, hnot⟩ := exists_of_forall₂ (List.forall₂_iff_zip.mpr ⟨hlength, ih⟩) he
    exact hnot htarget
  have hbranch {key : String} {members : Bindings Json} {branch : Option Expr}
      (hsome : (members.get? key).isSome = branch.isSome)
      (ih : ∀ {value e}, members.get? key = some value → branch = some e →
        form.key ∉ e.targets) : form.key ∉ targetsOfBranch branch := by
    cases branch with
    | none => simp [targetsOfBranch]
    | some e =>
        obtain ⟨value, hvalue⟩ := Option.isSome_iff_exists.mp hsome
        exact ih hvalue rfl
  induction h with
  | literal | ref | imports => simp [targets]
  | binding _ _ _ _ ih => simpa only [targets] using ih
  | sequence hlength _ ih => simpa only [targets] using hitems hlength ih
  | conditional _ _ _ hsomeTrue _ hsomeFalse _ ihCondition ihTrue ihFalse =>
      simp only [targets, List.mem_append, not_or]
      exact ⟨⟨ihCondition, hbranch hsomeTrue ihTrue⟩, hbranch hsomeFalse ihFalse⟩
  | function _ _ _ _ _ ih => simpa only [targets] using ih
  | macroDef _ _ _ _ _ ih => simpa only [targets] using ih
  | call htarget hlength _ ih =>
      simp only [targets, List.mem_cons, not_or]
      exact ⟨Reserved.ofKey?_eq_none_iff.mp htarget form, hitems hlength ih⟩
  | record fields htarget =>
      simpa only [targets, List.mem_singleton] using Reserved.ofKey?_eq_none_iff.mp htarget form

theorem get?_true_branchToJson (condition : Json) (whenTrue whenFalse : Option Expr) :
    Bindings.get? (("condition", condition) ::
      (branchToJson "true" whenTrue ++ branchToJson "false" whenFalse)) "true" =
        whenTrue.map toJson := by
  cases whenTrue <;> cases whenFalse <;> simp [branchToJson, Bindings.get?_cons]

theorem get?_false_branchToJson (condition : Json) (whenTrue whenFalse : Option Expr) :
    Bindings.get? (("condition", condition) ::
      (branchToJson "true" whenTrue ++ branchToJson "false" whenFalse)) "false" =
        whenFalse.map toJson := by
  cases whenTrue <;> cases whenFalse <;> simp [branchToJson, Bindings.get?_cons]

theorem spells_toJson {e : Expr} (h : ∀ form : Reserved, form.key ∉ e.targets) :
    e.toJson.Spells e := by
  induction e using inductionOnChildren with
  | step e ih =>
      have hchild : ∀ child ∈ e.children, child.toJson.Spells child := by
        intro child hmem
        refine ih child hmem fun form htarget => h form ?_
        exact mem_targets.mpr (.inr ⟨child, hmem, htarget⟩)
      have htarget : ∀ target, e.target? = some target → Reserved.ofKey? target = none := by
        intro target heq
        refine Reserved.ofKey?_eq_none_iff.mpr fun form hkey => h form ?_
        exact mem_targets.mpr (.inl (hkey ▸ heq))
      cases e with
      | literal value => exact .literal value
      | ref name => exact .ref name
      | binding name value =>
          have hallows : Shape.letBinding.Allows [("name", .str name), ("value", value.toJson)] :=
            fun _ hkey => hkey
          exact .binding hallows rfl rfl (hchild value (by simp [children]))
      | sequence body =>
          refine .sequence (by rw [itemsToJson_eq_map, List.length_map]) fun hmem => ?_
          obtain ⟨hitem, rfl⟩ := eq_toJson_of_mem_zip hmem
          exact hchild _ hitem
      | conditional condition whenTrue whenFalse =>
          refine .conditional ?_ rfl (hchild condition (by simp [children])) ?_ ?_ ?_ ?_
          · cases whenTrue <;> cases whenFalse <;>
              simp [Shape.Allows, Shape.required, Shape.optional, Bindings.names, branchToJson]
          · rw [get?_true_branchToJson, Option.isSome_map]
          · rintro value e hvalue rfl
            rw [get?_true_branchToJson, Option.map_some, Option.some_inj] at hvalue
            exact hvalue ▸ hchild e (by simp [children])
          · rw [get?_false_branchToJson, Option.isSome_map]
          · rintro value e hvalue rfl
            rw [get?_false_branchToJson, Option.map_some, Option.some_inj] at hvalue
            exact hvalue ▸ hchild e (by simp [children])
      | function name params body =>
          exact .function (fun _ hkey => hkey) rfl rfl rfl (hchild body (by simp [children]))
      | macroDef name params body =>
          exact .macroDef (fun _ hkey => hkey) rfl rfl rfl (hchild body (by simp [children]))
      | imports source symbols => exact .imports (fun _ hkey => hkey) rfl rfl
      | call target args =>
          refine .call (htarget target rfl) (by rw [itemsToJson_eq_map, List.length_map])
            fun hmem => ?_
          obtain ⟨hitem, rfl⟩ := eq_toJson_of_mem_zip hmem
          exact hchild _ hitem
      | record target fields => exact .record fields (htarget target rfl)

theorem forall₂_rewritten_branchToJson {key : String} {members : Bindings Json}
    {branch : Option Expr} (hsome : (members.get? key).isSome = branch.isSome)
    (h : ∀ {value e}, members.get? key = some value → branch = some e →
      value.Rearranged e.toJson) :
    List.Forall₂ Json.Rewritten ((members.get? key).map (Prod.mk key)).toList
      (branchToJson key branch) := by
  cases hget : members.get? key with
  | none =>
      obtain rfl : branch = none := by simpa [hget] using hsome
      exact .nil
  | some value =>
      obtain ⟨e, rfl⟩ := Option.isSome_iff_exists.mp (hsome.symm.trans (by rw [hget]; rfl))
      exact .cons ⟨rfl, h hget rfl⟩ .nil

theorem rearranged_items {key : String} {items : List Json} {body : List Expr}
    (hlength : items.length = body.length)
    (hdistinct : (Json.obj [(key, .arr items)]).distinctKeys = true)
    (h : ∀ {item e}, (item, e) ∈ items.zip body → item.distinctKeys = true →
      item.Rearranged e.toJson) :
    (Json.obj [(key, .arr items)]).Rearranged (.obj [(key, .arr (itemsToJson body))]) := by
  rw [itemsToJson_eq_map]
  refine .items (by rw [hlength, List.length_map]) ?_
  intro item written hmem
  rw [List.zip_map_right, List.mem_map] at hmem
  obtain ⟨⟨_, e⟩, hmem, heq⟩ := hmem
  cases heq
  have hitem := Json.distinctKeys_of_mem (Json.distinctKeys_body hdistinct)
    (List.of_mem_zip hmem).1
  exact h hmem hitem

theorem rearranged_definition (form : Reserved) {shape : Shape} {members : Bindings Json}
    {name : String} {params : List Param} {value : Json} {body : Expr}
    (hform : form.hasRecord = true)
    (hshape : shape.required ++ shape.optional = ["name", "params", "body"])
    (hdistinct : (Json.obj [(form.key, .obj members)]).distinctKeys = true)
    (hallows : shape.Allows members) (hname : members.get? "name" = some (.str name))
    (hparams : members.get? "params" = some (.arr (params.map Param.toJson)))
    (hvalue : members.get? "body" = some value)
    (h : value.distinctKeys = true → value.Rearranged body.toJson) :
    (Json.obj [(form.key, .obj members)]).Rearranged
      (definitionToJson form.key name params body.toJson) := by
  have harrange : Json.arrange shape members =
      [("name", .str name), ("params", .arr (params.map Param.toJson)), ("body", value)] := by
    simp [Json.arrange, hshape, hname, hparams, hvalue]
  have hread := Json.distinctKeys_of_get? (Json.distinctKeys_body hdistinct) hvalue
  refine Json.Rearranged.ofRecord form hform hdistinct hallows ?_
  rw [harrange]
  exact .cons ⟨rfl, .same _⟩ (.cons ⟨rfl, .same _⟩ (.cons ⟨rfl, h hread⟩ .nil))

theorem rearranged_toJson_of_spells {value : Json} {e : Expr} (h : value.Spells e)
    (hdistinct : value.distinctKeys = true) : value.Rearranged e.toJson := by
  induction h with
  | literal value => exact .same _
  | ref name => exact .same _
  | @binding members name value e hallows hname hvalue _ ih =>
      have harrange : Json.arrange .letBinding members =
          [("name", .str name), ("value", value)] := by
        simp [Json.arrange, Shape.required, Shape.optional, hname, hvalue]
      have hread := Json.distinctKeys_of_get? (Json.distinctKeys_body hdistinct) hvalue
      refine Json.Rearranged.ofRecord .binding rfl hdistinct hallows ?_
      rw [harrange]
      exact .cons ⟨rfl, .same _⟩ (.cons ⟨rfl, ih hread⟩ .nil)
  | sequence hlength _ ih => exact rearranged_items hlength hdistinct ih
  | @conditional members tested condition whenTrue whenFalse hallows htested _ hsomeTrue _
      hsomeFalse _ ihCondition ihTrue ihFalse =>
      have harrange : Json.arrange .ifDef members =
          ("condition", tested) :: (((members.get? "true").map (Prod.mk "true")).toList ++
            ((members.get? "false").map (Prod.mk "false")).toList) := by
        cases htrue : members.get? "true" <;> cases hfalse : members.get? "false" <;>
          simp [Json.arrange, Shape.required, Shape.optional, htested, htrue, hfalse]
      have hread {key : String} {value : Json} (hvalue : members.get? key = some value) :
          value.distinctKeys = true :=
        Json.distinctKeys_of_get? (Json.distinctKeys_body hdistinct) hvalue
      refine Json.Rearranged.ofRecord .conditional rfl hdistinct hallows ?_
      rw [harrange]
      refine .cons ⟨rfl, ihCondition (hread htested)⟩ (List.rel_append ?_ ?_)
      · exact forall₂_rewritten_branchToJson hsomeTrue fun hvalue hbranch =>
          ihTrue hvalue hbranch (hread hvalue)
      · exact forall₂_rewritten_branchToJson hsomeFalse fun hvalue hbranch =>
          ihFalse hvalue hbranch (hread hvalue)
  | function hallows hname hparams hvalue _ ih =>
      exact rearranged_definition .function rfl rfl hdistinct hallows hname hparams hvalue ih
  | macroDef hallows hname hparams hvalue _ ih =>
      exact rearranged_definition .macroDef rfl rfl hdistinct hallows hname hparams hvalue ih
  | @imports members source symbols hallows hsource hsymbols =>
      have harrange : Json.arrange .importDef members =
          [("module", .str source), ("symbols", .arr (symbols.map .str))] := by
        simp [Json.arrange, Shape.required, Shape.optional, hsource, hsymbols]
      refine Json.Rearranged.ofRecord .imports rfl hdistinct hallows ?_
      rw [harrange]
      exact .cons ⟨rfl, .same _⟩ (.cons ⟨rfl, .same _⟩ .nil)
  | call _ hlength _ ih => exact rearranged_items hlength hdistinct ih
  | record fields _ => exact .same _

theorem ofJson_toJson_eq_ok_iff {e : Expr} :
    ofJson e.toJson = .ok e ↔ ∀ form : Reserved, form.key ∉ e.targets := by
  rw [ofJson_eq_ok_iff]
  exact ⟨key_notMem_targets_of_spells, spells_toJson⟩

/-- Reading and writing are inverse to each other: a value that is read, none of whose objects has a
key twice, is written again as it was but for the order of the members of a reserved form's record,
and reads as the same expression; and exactly the expressions in which no invocation targets a
reserved key are read back from what is written. -/
theorem toJson_inverse_ofJson :
    (∀ (value : Json) (path : String) (e : Expr), value.distinctKeys = true →
      (ofJson value).mapError (Error.ofViolation path) = .ok e →
        value.Rearranged e.toJson ∧
          ∀ base, (ofJson e.toJson).mapError (Error.ofViolation base) = .ok e) ∧
      ∀ e : Expr, ofJson e.toJson = .ok e ↔ ∀ form : Reserved, form.key ∉ e.targets := by
  refine ⟨?_, fun e => ofJson_toJson_eq_ok_iff⟩
  intro value path e hdistinct hread
  have hspells : value.Spells e := ofJson_eq_ok_iff.mp (mapError_eq_ok_iff.mp hread)
  refine ⟨rearranged_toJson_of_spells hspells hdistinct, fun base => ?_⟩
  rw [mapError_eq_ok_iff, ofJson_toJson_eq_ok_iff]
  exact key_notMem_targets_of_spells hspells

/-- A binding and a conditional with their members out of order; the record of the invocation keeps
its own order. -/
theorem toJson_inverse_ofJson_shuffled :
    let document : Json := .obj [("let", .obj
      [("value", .obj [("if", .obj
        [("false", .obj [("m", .obj [("b", .null), ("a", .arr [])])]),
          ("condition", .obj [("ref", .str "x")])])]),
        ("name", .str "y")])]
    let e : Expr := .binding "y"
      (.conditional (.ref "x") none (some (.record "m" [("b", .null), ("a", .arr [])])))
    (ofJson document).mapError (Error.ofViolation "/program/0") = .ok e ∧ document ≠ e.toJson ∧
      document.Rearranged e.toJson ∧
      ∀ base, (ofJson e.toJson).mapError (Error.ofViolation base) = .ok e := by
  refine ⟨rfl, by simp [toJson], ?_⟩
  exact toJson_inverse_ofJson.1 _ "/program/0" _ (by decide) rfl

end Expr

end JsonExpr
