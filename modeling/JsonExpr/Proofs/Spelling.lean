import JsonExpr.Proofs.Expr
import JsonExpr.Proofs.Reading

namespace JsonExpr

/-- No members but those of the shape. -/
def Shape.Allows (shape : Shape) (members : Bindings Json) : Prop :=
  ∀ key ∈ members.names, key ∈ shape.required ++ shape.optional

namespace Json

inductive Spells : Json → Expr → Prop
  | literal (value : Scalar) : Spells (.scalar value) (.literal value)
  | ref (name : String) : Spells (.obj [("ref", .str name)]) (.ref name)
  | binding {members : Bindings Json} {name : String} {value : Json} {e : Expr} :
      Shape.letBinding.Allows members → members.get? "name" = some (.str name) →
      members.get? "value" = some value → Spells value e →
      Spells (.obj [("let", .obj members)]) (.binding name e)
  | sequence {items : List Json} {body : List Expr} :
      items.length = body.length → (∀ {item e}, (item, e) ∈ items.zip body → Spells item e) →
      Spells (.obj [("do", .arr items)]) (.sequence body)
  | conditional {members : Bindings Json} {tested : Json} {condition : Expr}
      {whenTrue whenFalse : Option Expr} :
      Shape.ifDef.Allows members → members.get? "condition" = some tested →
      Spells tested condition →
      (members.get? "true").isSome = whenTrue.isSome →
      (∀ {value e}, members.get? "true" = some value → whenTrue = some e → Spells value e) →
      (members.get? "false").isSome = whenFalse.isSome →
      (∀ {value e}, members.get? "false" = some value → whenFalse = some e → Spells value e) →
      Spells (.obj [("if", .obj members)]) (.conditional condition whenTrue whenFalse)
  | function {members : Bindings Json} {name : String} {params : List Param} {value : Json}
      {body : Expr} :
      Shape.functionDef.Allows members → members.get? "name" = some (.str name) →
      members.get? "params" = some (.arr (params.map Param.toJson)) →
      members.get? "body" = some value → Spells value body →
      Spells (.obj [("function", .obj members)]) (.function name params body)
  | macroDef {members : Bindings Json} {name : String} {params : List Param} {value : Json}
      {body : Expr} :
      Shape.macroDef.Allows members → members.get? "name" = some (.str name) →
      members.get? "params" = some (.arr (params.map Param.toJson)) →
      members.get? "body" = some value → Spells value body →
      Spells (.obj [("macro", .obj members)]) (.macroDef name params body)
  | imports {members : Bindings Json} {source : String} {symbols : List String} :
      Shape.importDef.Allows members → members.get? "module" = some (.str source) →
      members.get? "symbols" = some (.arr (symbols.map .str)) →
      Spells (.obj [("import", .obj members)]) (.imports source symbols)
  | call {target : String} {items : List Json} {args : List Expr} :
      Reserved.ofKey? target = none →
      items.length = args.length → (∀ {item e}, (item, e) ∈ items.zip args → Spells item e) →
      Spells (.obj [(target, .arr items)]) (.call target args)
  | record {target : String} (fields : List (String × Json)) :
      Reserved.ofKey? target = none →
      Spells (.obj [(target, .obj fields)]) (.record target fields)

end Json

namespace Reserved

@[simp]
theorem ofKey?_key (form : Reserved) : ofKey? form.key = some form := by
  cases form <;> decide

theorem key_of_ofKey? {key : String} {form : Reserved} (h : ofKey? key = some form) :
    key = form.key := by
  have hkey := List.find?_some h
  simpa using Eq.symm (of_decide_eq_true hkey)

theorem ofKey?_eq_none_iff {key : String} :
    ofKey? key = none ↔ ∀ form : Reserved, form.key ≠ key := by
  rw [ofKey?, List.find?_eq_none]
  constructor
  · intro h form
    have hmem : form ∈ all := by cases form <;> decide
    simpa using h form hmem
  · intro h form _
    simpa using h form

end Reserved

namespace Expr

theorem ofMember?_eq (key : String) (members : Bindings Json) :
    ofMember? key members = (members.get? key).map fun value => located key (ofJson value) := by
  induction members with
  | nil => simp [ofMember?]
  | cons entry rest ih =>
      obtain ⟨name, value⟩ := entry
      rw [ofMember?, Bindings.get?_cons]
      by_cases h : name = key
      · simp [h]
      · simpa [h] using ih

theorem ofItems_eq_eachItem (index : Nat) (items : List Json) :
    ofItems index items = Json.eachItem ofJson index items := by
  induction items generalizing index with
  | nil => simp [ofItems, Json.eachItem]
  | cons item rest ih => simp [ofItems, Json.eachItem, ih]

theorem ofItems_eq_ok_iff {index : Nat} {items : List Json} {body : List Expr} :
    ofItems index items = .ok body ↔
      items.length = body.length ∧
        ∀ {item e}, (item, e) ∈ items.zip body → ofJson item = .ok e := by
  rw [ofItems_eq_eachItem, Json.eachItem_eq_ok_iff, List.forall₂_iff_zip]

theorem require_ofMember?_eq_ok_iff {shape : Shape} {key : String} {members : Bindings Json}
    {e : Expr} :
    shape.require key members (ofMember? key members) = .ok e ↔
      ∃ value, members.get? key = some value ∧ ofJson value = .ok e := by
  rw [Shape.require_eq_ok_iff, ofMember?_eq, Option.map_eq_some_iff]
  simp only [located_eq_ok_iff]

theorem mapM_ofMember?_eq_ok_iff {key : String} {members : Bindings Json} {branch : Option Expr} :
    (ofMember? key members).mapM id = .ok branch ↔
      (members.get? key).isSome = branch.isSome ∧
        ∀ {value e}, members.get? key = some value → branch = some e → ofJson value = .ok e := by
  rw [ofMember?_eq]
  cases hget : members.get? key with
  | none => cases branch <;> simp [pure, Except.pure]
  | some value =>
      have hmap : ((some value).map fun value => located key (ofJson value)).mapM id =
          (located key (ofJson value)).map some := by
        change some <$> located key (ofJson value) = _
        cases located key (ofJson value) <;> rfl
      rw [hmap, map_eq_ok_iff]
      simp only [located_eq_ok_iff]
      constructor
      · rintro ⟨e, he, rfl⟩
        exact ⟨rfl, fun hvalue hbranch => by cases hvalue; cases hbranch; exact he⟩
      · rintro ⟨hsome, h⟩
        obtain ⟨e, rfl⟩ := Option.isSome_iff_exists.mp hsome.symm
        exact ⟨e, h rfl rfl, rfl⟩

theorem signatureOf_eq_ok_iff {shape : Shape} {members : Bindings Json} {name : String}
    {params : List Param} :
    signatureOf shape members = .ok (name, params) ↔
      (∀ key ∈ shape.required, key ∈ members.names) ∧ shape.Allows members ∧
        members.get? "name" = some (.str name) ∧
        members.get? "params" = some (.arr (params.map Param.toJson)) := by
  simp only [signatureOf, bind_eq_ok_iff, Shape.check_eq_ok_iff, Shape.member_eq_ok_iff,
    Json.asString_eq_ok_iff, Json.asArray_eq_ok_iff,
    Json.eachItem_eq_ok_iff_map fun _ _ => Param.ofJson_eq_ok_iff]
  constructor
  · rintro ⟨_, ⟨hrequired, hallows⟩, _, ⟨_, hname, rfl⟩, _, ⟨_, hparams, _, rfl, rfl⟩, h⟩
    cases h
    exact ⟨hrequired, hallows, hname, hparams⟩
  · rintro ⟨hrequired, hallows, hname, hparams⟩
    exact ⟨(), ⟨hrequired, hallows⟩, name, ⟨_, hname, rfl⟩, params, ⟨_, hparams, _, rfl, rfl⟩, rfl⟩

theorem ofJson_reserved (form : Reserved) (body : Json) :
    ofJson (.obj [(form.key, body)]) = located form.key (ofBody form body) := by
  rw [ofJson.eq_def]
  simp only [Reserved.ofKey?_key]

theorem ofJson_of_ofBody (form : Reserved) {body : Json} {e : Expr}
    (h : ofBody form body = .ok e) : ofJson (.obj [(form.key, body)]) = .ok e := by
  rw [ofJson_reserved, located_eq_ok_iff]
  exact h

theorem ofJson_invocation {target : String} (h : Reserved.ofKey? target = none) (body : Json) :
    ofJson (.obj [(target, body)]) =
      match body with
      | .arr args => (located target (ofItems 0 args)).map (Expr.call target)
      | .obj fields => .ok (.record target fields)
      | .scalar value => refuse .notExpression (.obj [(target, .scalar value)]) := by
  rw [ofJson.eq_def]
  cases body <;> simp only [h]

theorem ofBody_binding_eq_ok_iff {members : Bindings Json} {e : Expr} :
    ofBody .binding (.obj members) = .ok e ↔
      ∃ name value parsed, Shape.letBinding.Allows members ∧
        members.get? "name" = some (.str name) ∧ members.get? "value" = some value ∧
        ofJson value = .ok parsed ∧ e = .binding name parsed := by
  simp only [ofBody, bind_eq_ok_iff, Shape.check_eq_ok_iff, Shape.member_eq_ok_iff,
    Json.asString_eq_ok_iff, require_ofMember?_eq_ok_iff]
  constructor
  · rintro ⟨_, ⟨_, hallows⟩, name, ⟨_, hname, rfl⟩, parsed, ⟨value, hvalue, hparsed⟩, h⟩
    cases h
    exact ⟨name, value, parsed, hallows, hname, hvalue, hparsed, rfl⟩
  · rintro ⟨name, value, parsed, hallows, hname, hvalue, hparsed, rfl⟩
    have hrequired : ∀ key ∈ Shape.letBinding.required, key ∈ members.names := by
      simpa [Shape.required] using
        ⟨Bindings.mem_names_of_get? hname, Bindings.mem_names_of_get? hvalue⟩
    exact ⟨(), ⟨hrequired, hallows⟩, name, ⟨_, hname, rfl⟩, parsed, ⟨value, hvalue, hparsed⟩, rfl⟩

theorem ofBody_conditional_eq_ok_iff {members : Bindings Json} {e : Expr} :
    ofBody .conditional (.obj members) = .ok e ↔
      ∃ tested condition whenTrue whenFalse, Shape.ifDef.Allows members ∧
        members.get? "condition" = some tested ∧ ofJson tested = .ok condition ∧
        (ofMember? "true" members).mapM id = .ok whenTrue ∧
        (ofMember? "false" members).mapM id = .ok whenFalse ∧
        e = .conditional condition whenTrue whenFalse := by
  simp only [ofBody, bind_eq_ok_iff, Shape.check_eq_ok_iff, require_ofMember?_eq_ok_iff]
  constructor
  · rintro ⟨_, ⟨_, hallows⟩, whenTrue, htrue, whenFalse, hfalse, condition,
      ⟨tested, htested, hcondition⟩, h⟩
    cases h
    exact ⟨tested, condition, whenTrue, whenFalse, hallows, htested, hcondition, htrue, hfalse, rfl⟩
  · rintro ⟨tested, condition, whenTrue, whenFalse, hallows, htested, hcondition, htrue, hfalse,
      rfl⟩
    have hrequired : ∀ key ∈ Shape.ifDef.required, key ∈ members.names := by
      simpa [Shape.required] using Bindings.mem_names_of_get? htested
    exact ⟨(), ⟨hrequired, hallows⟩, whenTrue, htrue, whenFalse, hfalse, condition,
      ⟨tested, htested, hcondition⟩, rfl⟩

theorem definition_eq_ok_iff {shape : Shape} (build : String → List Param → Expr → Expr)
    (hshape : shape.required = ["name", "params", "body"]) {members : Bindings Json} {e : Expr} :
    (do
      let (name, params) ← signatureOf shape members
      let body ← shape.require "body" members (ofMember? "body" members)
      return build name params body) = .ok e ↔
      ∃ name params value body, shape.Allows members ∧
        members.get? "name" = some (.str name) ∧
        members.get? "params" = some (.arr (params.map Param.toJson)) ∧
        members.get? "body" = some value ∧ ofJson value = .ok body ∧
        e = build name params body := by
  simp only [bind_eq_ok_iff, Prod.exists, signatureOf_eq_ok_iff, require_ofMember?_eq_ok_iff]
  constructor
  · rintro ⟨name, params, ⟨_, hallows, hname, hparams⟩, body, ⟨value, hvalue, hbody⟩, h⟩
    cases h
    exact ⟨name, params, value, body, hallows, hname, hparams, hvalue, hbody, rfl⟩
  · rintro ⟨name, params, value, body, hallows, hname, hparams, hvalue, hbody, rfl⟩
    have hrequired : ∀ key ∈ shape.required, key ∈ members.names := by
      simpa [hshape] using ⟨Bindings.mem_names_of_get? hname,
        Bindings.mem_names_of_get? hparams, Bindings.mem_names_of_get? hvalue⟩
    exact ⟨name, params, ⟨hrequired, hallows, hname, hparams⟩, body, ⟨value, hvalue, hbody⟩, rfl⟩

theorem importsOf_eq_ok_iff {members : Bindings Json} {e : Expr} :
    importsOf members = .ok e ↔
      ∃ source symbols, Shape.importDef.Allows members ∧
        members.get? "module" = some (.str source) ∧
        members.get? "symbols" = some (.arr (symbols.map .str)) ∧ e = .imports source symbols := by
  simp only [importsOf, bind_eq_ok_iff, Shape.check_eq_ok_iff, Shape.member_eq_ok_iff,
    Json.asArray_eq_ok_iff, Json.asString_eq_ok_iff, located_eq_ok_iff,
    Json.eachItem_eq_ok_iff_map fun _ _ => Json.asString_eq_ok_iff]
  constructor
  · rintro ⟨_, ⟨_, hallows⟩, _, ⟨_, hsymbols, rfl⟩, source, ⟨_, hsource, rfl⟩, symbols, rfl, h⟩
    cases h
    exact ⟨source, symbols, hallows, hsource, hsymbols, rfl⟩
  · rintro ⟨source, symbols, hallows, hsource, hsymbols, rfl⟩
    have hrequired : ∀ key ∈ Shape.importDef.required, key ∈ members.names := by
      simpa [Shape.required] using
        ⟨Bindings.mem_names_of_get? hsource, Bindings.mem_names_of_get? hsymbols⟩
    exact ⟨(), ⟨hrequired, hallows⟩, _, ⟨_, hsymbols, rfl⟩, source, ⟨_, hsource, rfl⟩, symbols,
      rfl, rfl⟩

theorem sizeOf_lt_of_get? {members : Bindings Json} {key : String} {value : Json}
    (h : members.get? key = some value) : sizeOf value < sizeOf (Json.obj members) := by
  have hmember := List.sizeOf_lt_of_mem (Bindings.mem_of_get? h)
  simp only [Prod.mk.sizeOf_spec, Json.obj.sizeOf_spec] at hmember ⊢
  omega

theorem sizeOf_lt_of_mem_zip {items : List Json} {body : List Expr} {item : Json} {e : Expr}
    (h : (item, e) ∈ items.zip body) : sizeOf item < sizeOf (Json.arr items) := by
  have hitem := List.sizeOf_lt_of_mem (List.of_mem_zip h).1
  simp only [Json.arr.sizeOf_spec]
  omega

theorem spells_of_ofBody {form : Reserved} {body : Json} {e : Expr}
    (ih : ∀ value e, sizeOf value < sizeOf body → ofJson value = .ok e → value.Spells e)
    (h : ofBody form body = .ok e) : (Json.obj [(form.key, body)]).Spells e := by
  cases body with
  | scalar value =>
      cases form with
      | ref =>
          cases value with
          | str name =>
              obtain rfl : Expr.ref name = e := by simpa [ofBody] using h
              exact .ref name
          | _ => simp [ofBody] at h
      | _ => simp [ofBody] at h
  | arr items =>
      cases form with
      | sequence =>
          rw [ofBody, map_eq_ok_iff] at h
          obtain ⟨body, hbody, rfl⟩ := h
          obtain ⟨hlength, hitems⟩ := ofItems_eq_ok_iff.mp hbody
          exact .sequence hlength fun hmem => ih _ _ (sizeOf_lt_of_mem_zip hmem) (hitems hmem)
      | _ => simp [ofBody] at h
  | obj members =>
      cases form with
      | ref => simp [ofBody] at h
      | sequence => simp [ofBody] at h
      | binding =>
          obtain ⟨name, value, parsed, hallows, hname, hvalue, hparsed, rfl⟩ :=
            ofBody_binding_eq_ok_iff.mp h
          exact .binding hallows hname hvalue (ih _ _ (sizeOf_lt_of_get? hvalue) hparsed)
      | conditional =>
          obtain ⟨tested, condition, whenTrue, whenFalse, hallows, htested, hcondition, htrue,
            hfalse, rfl⟩ := ofBody_conditional_eq_ok_iff.mp h
          obtain ⟨hsomeTrue, hreadTrue⟩ := mapM_ofMember?_eq_ok_iff.mp htrue
          obtain ⟨hsomeFalse, hreadFalse⟩ := mapM_ofMember?_eq_ok_iff.mp hfalse
          refine .conditional hallows htested (ih _ _ (sizeOf_lt_of_get? htested) hcondition)
            hsomeTrue ?_ hsomeFalse ?_
          · intro value e hvalue hbranch
            exact ih _ _ (sizeOf_lt_of_get? hvalue) (hreadTrue hvalue hbranch)
          · intro value e hvalue hbranch
            exact ih _ _ (sizeOf_lt_of_get? hvalue) (hreadFalse hvalue hbranch)
      | function =>
          obtain ⟨name, params, value, body, hallows, hname, hparams, hvalue, hbody, rfl⟩ :=
            (definition_eq_ok_iff Expr.function rfl).mp h
          exact .function hallows hname hparams hvalue (ih _ _ (sizeOf_lt_of_get? hvalue) hbody)
      | macroDef =>
          obtain ⟨name, params, value, body, hallows, hname, hparams, hvalue, hbody, rfl⟩ :=
            (definition_eq_ok_iff Expr.macroDef rfl).mp h
          exact .macroDef hallows hname hparams hvalue (ih _ _ (sizeOf_lt_of_get? hvalue) hbody)
      | imports =>
          obtain ⟨source, symbols, hallows, hsource, hsymbols, rfl⟩ := importsOf_eq_ok_iff.mp h
          exact .imports hallows hsource hsymbols

theorem spells_of_ofJson {value : Json} {e : Expr} (h : ofJson value = .ok e) :
    value.Spells e := by
  induction hsize : sizeOf value using Nat.strongRecOn generalizing value e with
  | _ size ih =>
      subst hsize
      match value with
      | .scalar scalar =>
          obtain rfl : Expr.literal scalar = e := by simpa [ofJson] using h
          exact .literal scalar
      | .arr items => simp [ofJson] at h
      | .obj [] => simp [ofJson] at h
      | .obj (_ :: _ :: _) => simp [ofJson] at h
      | .obj [(key, body)] =>
          have hbody : sizeOf body < sizeOf (Json.obj [(key, body)]) := by
            simp
            omega
          have ihBody (part : Json) (e : Expr) (hpart : sizeOf part < sizeOf body)
              (hread : ofJson part = .ok e) : part.Spells e :=
            ih _ (Nat.lt_trans hpart hbody) hread rfl
          cases hkey : Reserved.ofKey? key with
          | some form =>
              obtain rfl := Reserved.key_of_ofKey? hkey
              rw [ofJson_reserved, located_eq_ok_iff] at h
              exact spells_of_ofBody ihBody h
          | none =>
              rw [ofJson_invocation hkey] at h
              cases body with
              | scalar scalar => exact absurd h refuse_ne_ok
              | arr items =>
                  simp only [map_eq_ok_iff, located_eq_ok_iff] at h
                  obtain ⟨args, hargs, rfl⟩ := h
                  obtain ⟨hlength, hitems⟩ := ofItems_eq_ok_iff.mp hargs
                  exact .call hkey hlength fun hmem =>
                    ihBody _ _ (sizeOf_lt_of_mem_zip hmem) (hitems hmem)
              | obj fields =>
                  cases h
                  exact .record fields hkey

theorem ofJson_of_spells {value : Json} {e : Expr} (h : value.Spells e) :
    ofJson value = .ok e := by
  induction h with
  | literal value => simp [ofJson]
  | ref name =>
      apply ofJson_of_ofBody .ref
      simp [ofBody]
  | binding hallows hname hvalue _ ih =>
      apply ofJson_of_ofBody .binding
      rw [ofBody_binding_eq_ok_iff]
      exact ⟨_, _, _, hallows, hname, hvalue, ih, rfl⟩
  | sequence hlength _ ih =>
      apply ofJson_of_ofBody .sequence
      rw [ofBody, map_eq_ok_iff]
      exact ⟨_, ofItems_eq_ok_iff.mpr ⟨hlength, ih⟩, rfl⟩
  | conditional hallows htested _ hsomeTrue _ hsomeFalse _ ihCondition ihTrue ihFalse =>
      apply ofJson_of_ofBody .conditional
      rw [ofBody_conditional_eq_ok_iff]
      exact ⟨_, _, _, _, hallows, htested, ihCondition,
        mapM_ofMember?_eq_ok_iff.mpr ⟨hsomeTrue, ihTrue⟩,
        mapM_ofMember?_eq_ok_iff.mpr ⟨hsomeFalse, ihFalse⟩, rfl⟩
  | function hallows hname hparams hvalue _ ih =>
      apply ofJson_of_ofBody .function
      refine (definition_eq_ok_iff Expr.function rfl).mpr ?_
      exact ⟨_, _, _, _, hallows, hname, hparams, hvalue, ih, rfl⟩
  | macroDef hallows hname hparams hvalue _ ih =>
      apply ofJson_of_ofBody .macroDef
      refine (definition_eq_ok_iff Expr.macroDef rfl).mpr ?_
      exact ⟨_, _, _, _, hallows, hname, hparams, hvalue, ih, rfl⟩
  | imports hallows hsource hsymbols =>
      apply ofJson_of_ofBody .imports
      exact importsOf_eq_ok_iff.mpr ⟨_, _, hallows, hsource, hsymbols, rfl⟩
  | call htarget hlength _ ih =>
      rw [ofJson_invocation htarget]
      simp only [map_eq_ok_iff, located_eq_ok_iff]
      exact ⟨_, ofItems_eq_ok_iff.mpr ⟨hlength, ih⟩, rfl⟩
  | record fields htarget => rw [ofJson_invocation htarget]

theorem ofJson_eq_ok_iff {value : Json} {e : Expr} :
    ofJson value = .ok e ↔ value.Spells e :=
  ⟨spells_of_ofJson, ofJson_of_spells⟩

end Expr

end JsonExpr
