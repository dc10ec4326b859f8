import JsonExpr.Proofs.ExpandedText

/-!
Substitution in the JSON form of an expression. There a reference is recognised by its form alone,
and two other things have the same form: a parameter called `ref`, which maps to its type, and the
fields of an invocation whose only argument is called `ref` and is a text. Where none of these names
is bound, substituting in the JSON form and reading the result is substituting in the expression;
otherwise it is not, unless the name is bound to the reference that stands there already.
-/

namespace JsonExpr

/-- The name is bound, if at all, to the reference to itself. -/
def Bindings.Fixes (bound : Bindings Expr) (name : String) : Prop :=
  ∀ arg, bound.get? name = some arg → arg = .ref name

/-- The name that an object of these members refers to, if it has the form of a reference. -/
def Json.referred? : List (String × Json) → Option String
  | [("ref", .str name)] => some name
  | _ => none

/-- The name that the JSON form of a parameter refers to, if it has the form of a reference. -/
def Param.lookalike? (param : Param) : Option String :=
  if param.name = "ref" then param.type? else none

namespace Expr

mutual

/-- The names that the JSON form of an expression refers to where the expression does not: there is
something else of the same form. What stands in the fields of an invocation is JSON in the
expression itself. -/
def lookalikes : Expr → List String
  | .binding _ value => lookalikes value
  | .sequence body => lookalikesOfItems body
  | .conditional condition whenTrue whenFalse =>
      lookalikes condition ++ lookalikesOfBranch whenTrue ++ lookalikesOfBranch whenFalse
  | .function _ params body => params.filterMap Param.lookalike? ++ lookalikes body
  | .macroDef _ params body => params.filterMap Param.lookalike? ++ lookalikes body
  | .call _ args => lookalikesOfItems args
  | .record _ fields => (Json.referred? fields).toList
  | _ => []

def lookalikesOfItems : List Expr → List String
  | [] => []
  | e :: rest => lookalikes e ++ lookalikesOfItems rest

def lookalikesOfBranch : Option Expr → List String
  | none => []
  | some e => lookalikes e

end

/-- Nothing that only looks like a reference is replaced when the bound names are substituted in the
JSON form of the expression. -/
def Undisturbed (e : Expr) (bound : Bindings Expr) : Prop :=
  ∀ name ∈ e.lookalikes, bound.Fixes name

theorem forall_mem_lookalikesOfItems {p : String → Prop} {items : List Expr} :
    (∀ name ∈ lookalikesOfItems items, p name) ↔ ∀ e ∈ items, ∀ name ∈ e.lookalikes, p name := by
  induction items with
  | nil => simp [lookalikesOfItems]
  | cons e rest ih =>
      simp only [lookalikesOfItems, List.forall_mem_append, ih, List.forall_mem_cons]

theorem forall_mem_lookalikesOfBranch {p : String → Prop} {branch : Option Expr} :
    (∀ name ∈ lookalikesOfBranch branch, p name) ↔
      ∀ e, branch = some e → ∀ name ∈ e.lookalikes, p name := by
  cases branch with
  | none => simp [lookalikesOfBranch]
  | some e => simp [lookalikesOfBranch]

theorem toJson_eq_ref_iff {e : Expr} {name : String} :
    e.toJson = .obj [("ref", .str name)] ↔ e = .ref name := by
  cases e <;> simp [toJson, definitionToJson]

end Expr

namespace Json

variable (bound : Bindings Expr)

theorem substituteItems_eq_map (items : List Json) :
    substituteItems bound items = items.map (substitute bound) := by
  induction items with
  | nil => rw [substituteItems, List.map_nil]
  | cons item rest ih => rw [substituteItems, ih, List.map_cons]

theorem names_substituteMembers (members : Bindings Json) :
    Bindings.names (substituteMembers bound members) = members.names := by
  induction members with
  | nil => rw [substituteMembers]
  | cons entry rest ih =>
      obtain ⟨key, value⟩ := entry
      rw [substituteMembers, Bindings.names, List.map_cons]
      exact congrArg _ ih

theorem get?_substituteMembers (members : Bindings Json) (key : String) :
    Bindings.get? (substituteMembers bound members) key =
      (members.get? key).map (substitute bound) := by
  induction members with
  | nil => rw [substituteMembers, Bindings.get?_nil, Option.map_none]
  | cons entry rest ih =>
      obtain ⟨bound, value⟩ := entry
      rw [substituteMembers, Bindings.get?_cons, Bindings.get?_cons, ih]
      split <;> rfl

theorem referred?_eq_some_iff {members : List (String × Json)} {name : String} :
    referred? members = some name ↔ members = [("ref", .str name)] := by
  unfold referred?
  split
  · simp
  · rename_i hother
    constructor
    · intro h
      cases h
    · rintro rfl
      exact absurd rfl (hother name)

theorem boundRef?_eq (members : List (String × Json)) :
    boundRef? bound members = (referred? members).bind bound.get? := by
  unfold boundRef?
  split
  · rfl
  · rename_i hother
    cases hreferred : referred? members with
    | none => rfl
    | some name => exact absurd (referred?_eq_some_iff.mp hreferred) (hother name)

theorem substitute_obj_eq_iff {members : List (String × Json)} :
    substitute bound (.obj members) = .obj (substituteMembers bound members) ↔
      ∀ name ∈ referred? members, bound.Fixes name := by
  rw [substitute, boundRef?_eq]
  cases hreferred : referred? members with
  | none => simp
  | some name =>
      obtain rfl := referred?_eq_some_iff.mp hreferred
      have hmembers : substituteMembers bound [("ref", .str name)] = [("ref", .str name)] := by
        simp only [substituteMembers, substitute]
      rw [hmembers, Option.bind_some]
      cases hget : bound.get? name with
      | none => simp [Bindings.Fixes, hget]
      | some arg => simp [Bindings.Fixes, hget, Expr.toJson_eq_ref_iff]

theorem substitute_obj_of_get? {members : Bindings Json} {key : String} {value : Json}
    (hget : members.get? key = some value) (hkey : key ≠ "ref") :
    substitute bound (.obj members) = .obj (substituteMembers bound members) := by
  rw [substitute_obj_eq_iff]
  intro name hname
  obtain rfl := referred?_eq_some_iff.mp hname
  rw [Bindings.get?_cons, if_neg (Ne.symm hkey)] at hget
  cases hget

theorem substitute_member {key : String} (hkey : key ≠ "ref") (body : Json) :
    substitute bound (.obj [(key, body)]) = .obj [(key, substitute bound body)] := by
  have hget : Bindings.get? [(key, body)] key = some body := by
    rw [Bindings.get?_cons, if_pos rfl]
  rw [substitute_obj_of_get? bound hget hkey]
  simp only [substituteMembers]

theorem substitute_items {key : String} (hkey : key ≠ "ref") (items : List Json) :
    substitute bound (.obj [(key, .arr items)]) =
      .obj [(key, .arr (items.map (substitute bound)))] := by
  rw [substitute_member bound hkey, substitute, substituteItems_eq_map]

/-- The record of a reserved form is substituted into member by member, since one of its members is
not called `ref`. -/
theorem substitute_record {key member : String} (hkey : key ≠ "ref") {members : Bindings Json}
    {value : Json} (hget : members.get? member = some value) (hmember : member ≠ "ref") :
    substitute bound (.obj [(key, .obj members)]) =
      .obj [(key, .obj (substituteMembers bound members))] := by
  rw [substitute_member bound hkey, substitute_obj_of_get? bound hget hmember]

theorem substitute_symbols (symbols : List String) :
    (symbols.map Json.str).map (substitute bound) = symbols.map .str := by
  rw [List.map_map]
  refine List.map_congr_left fun symbol _ => ?_
  simp only [Function.comp_apply, substitute]

end Json

theorem Shape.allows_substituteMembers {shape : Shape} (bound : Bindings Expr)
    (members : Bindings Json) :
    shape.Allows (Json.substituteMembers bound members) ↔ shape.Allows members := by
  rw [Allows, Json.names_substituteMembers, Allows]

theorem Param.substitute_toJson_eq_iff (bound : Bindings Expr) (param : Param) :
    param.toJson.substitute bound = param.toJson ↔
      ∀ name ∈ param.lookalike?, bound.Fixes name := by
  obtain ⟨name, typeName⟩ := param
  cases typeName with
  | none => simp [toJson, lookalike?, Json.substitute]
  | some typeName =>
      have hmembers : Json.substituteMembers bound [(name, .str typeName)] =
          [(name, .str typeName)] := by
        simp only [Json.substituteMembers, Json.substitute]
      have hreferred : Json.referred? [(name, .str typeName)] =
          if name = "ref" then some typeName else none := by
        by_cases hname : name = "ref"
        · rw [if_pos hname, Json.referred?_eq_some_iff, hname]
        · rw [if_neg hname]
          by_contra hsome
          obtain ⟨other, hother⟩ := Option.ne_none_iff_exists'.mp hsome
          cases Json.referred?_eq_some_iff.mp hother
          exact hname rfl
      rw [toJson, lookalike?, ← hreferred, ← Json.substitute_obj_eq_iff, hmembers]

theorem substitute_params_eq_iff (bound : Bindings Expr) (params : List Param) :
    (Json.arr (params.map Param.toJson)).substitute bound = .arr (params.map Param.toJson) ↔
      ∀ name ∈ params.filterMap Param.lookalike?, bound.Fixes name := by
  rw [Json.substitute, Json.substituteItems_eq_map, Json.arr.injEq, List.map_map, List.map_inj_left]
  simp only [Function.comp_apply, Param.substitute_toJson_eq_iff, List.mem_filterMap]
  constructor
  · rintro h name ⟨param, hparam, hname⟩
    exact h param hparam name hname
  · intro h param hparam name hname
    exact h name ⟨param, hparam, hname⟩

namespace Expr

variable {bound : Bindings Expr}

theorem ofJson_reserved_eq_ok_iff (form : Reserved) {body : Json} {e : Expr} :
    ofJson (.obj [(form.key, body)]) = .ok e ↔ ofBody form body = .ok e := by
  rw [ofJson_reserved, located_eq_ok_iff]

/-- Reading the value of a part after substitution agrees with substituting in the part. -/
def Agrees (bound : Bindings Expr) (value : Json) (e : Expr) : Prop :=
  ofJson (value.substitute bound) = .ok (e.substitute bound)

theorem ofItems_substitute_iff {items : List Json} {body : List Expr} (index : Nat)
    (hlength : items.length = body.length)
    (h : ∀ {item e}, (item, e) ∈ items.zip body → (Agrees bound item e ↔ e.Undisturbed bound)) :
    ofItems index (items.map (Json.substitute bound)) = .ok (body.map (substitute bound)) ↔
      ∀ e ∈ body, e.Undisturbed bound := by
  rw [ofItems_eq_eachItem, Json.eachItem_eq_ok_iff, List.forall₂_map_left_iff,
    List.forall₂_map_right_iff]
  have hitems := List.forall₂_iff_zip.mpr ⟨hlength, h⟩
  clear h hlength
  induction hitems with
  | nil => simp
  | cons hfirst _ ih =>
      rw [List.forall₂_cons, List.forall_mem_cons]
      exact and_congr hfirst ih

theorem branch_substitute_iff {key : String} {members : Bindings Json} {branch : Option Expr}
    (hsome : (members.get? key).isSome = branch.isSome)
    (h : ∀ {value e}, members.get? key = some value → branch = some e →
      (Agrees bound value e ↔ e.Undisturbed bound)) :
    (ofMember? key (Json.substituteMembers bound members)).mapM id =
        .ok (substituteBranch bound branch) ↔
      ∀ e, branch = some e → e.Undisturbed bound := by
  rw [mapM_ofMember?_eq_ok_iff, Json.get?_substituteMembers, Option.isSome_map, hsome]
  cases branch with
  | none => simp [substituteBranch]
  | some e =>
      obtain ⟨value, hvalue⟩ := Option.isSome_iff_exists.mp hsome
      simp only [substituteBranch, hvalue, Option.map_some, Option.some_inj, Option.isSome_some,
        true_and, forall_eq', ← h hvalue rfl, Agrees]
      constructor
      · intro hread
        exact hread rfl rfl
      · rintro hread _ _ rfl rfl
        exact hread

theorem definition_substitute_iff {shape : Shape} (build : String → List Param → Expr → Expr)
    (hbuild : ∀ {name other params others body again},
      build name params body = build other others again →
        name = other ∧ params = others ∧ body = again)
    (hshape : shape.required = ["name", "params", "body"]) {members : Bindings Json}
    {name : String} {params : List Param} {value : Json} {body : Expr}
    (hallows : shape.Allows members) (hname : members.get? "name" = some (.str name))
    (hparams : members.get? "params" = some (.arr (params.map Param.toJson)))
    (hvalue : members.get? "body" = some value)
    (h : Agrees bound value body ↔ body.Undisturbed bound) :
    (do
      let (name, params) ← signatureOf shape (Json.substituteMembers bound members)
      let body ← shape.require "body" (Json.substituteMembers bound members)
        (ofMember? "body" (Json.substituteMembers bound members))
      return build name params body) = .ok (build name params (body.substitute bound)) ↔
      (∀ name ∈ params.filterMap Param.lookalike?, bound.Fixes name) ∧
        body.Undisturbed bound := by
  rw [definition_eq_ok_iff build hshape, ← substitute_params_eq_iff, ← h]
  simp only [Shape.allows_substituteMembers, Json.get?_substituteMembers, hname, hparams, hvalue,
    Option.map_some, Option.some_inj]
  constructor
  · rintro ⟨_, _, _, _, _, _, hsame, rfl, hbody, heq⟩
    obtain ⟨rfl, rfl, rfl⟩ := hbuild heq
    exact ⟨hsame, hbody⟩
  · rintro ⟨hsame, hbody⟩
    exact ⟨name, params, _, _, hallows, by rw [Json.substitute], hsame, rfl, hbody, rfl⟩

theorem ofJson_eq_record_iff {target : String} (hkey : Reserved.ofKey? target = none) {body : Json}
    {fields : List (String × Json)} :
    ofJson (.obj [(target, body)]) = .ok (.record target fields) ↔ body = .obj fields := by
  rw [ofJson_invocation hkey]
  constructor
  · intro h
    cases body with
    | scalar value => exact absurd h refuse_ne_ok
    | arr items =>
        obtain ⟨_, _, hcall⟩ := map_eq_ok_iff.mp h
        cases hcall
    | obj members =>
        cases h
        rfl
  · rintro rfl
    rfl

/-- Substituting in a value and reading the result is reading the value and substituting in the
expression, exactly when nothing is disturbed that only looks like a reference. -/
theorem agrees_iff_of_spells {value : Json} {e : Expr} (h : value.Spells e)
    (hbound : ∀ entry ∈ bound, entry.2.Readable) :
    Agrees bound value e ↔ e.Undisturbed bound := by
  -- A target is no reserved key, so an invocation is not taken for a reference.
  have htarget {target : String} (h : Reserved.ofKey? target = none) : target ≠ "ref" :=
    (Reserved.ofKey?_eq_none_iff.mp h .ref).symm
  induction h with
  | literal value => simp [Agrees, Json.substitute, substitute, ofJson, Undisturbed, lookalikes]
  | ref name =>
      have hread : Agrees bound (.obj [("ref", .str name)]) (.ref name) := by
        simp only [Agrees, Json.substitute, Json.boundRef?, substitute]
        cases hget : bound.get? name with
        | none => exact ofJson_of_spells (.ref name)
        | some arg => exact ofJson_toJson_iff_readable.mpr (hbound _ (Bindings.mem_of_get? hget))
      simp [hread, Undisturbed, lookalikes]
  | @binding members name value e hallows hname hvalue _ ih =>
      rw [Agrees, Json.substitute_record bound (by decide) hname (by decide), substitute]
      refine (ofJson_reserved_eq_ok_iff .binding).trans ?_
      rw [ofBody_binding_eq_ok_iff, Undisturbed, lookalikes]
      simp only [Shape.allows_substituteMembers, Json.get?_substituteMembers, hname, hvalue,
        Option.map_some, Option.some_inj, binding.injEq]
      refine Iff.trans ?_ ih
      constructor
      · rintro ⟨_, _, _, _, _, rfl, hread, rfl, rfl⟩
        exact hread
      · intro hread
        exact ⟨name, _, _, hallows, by rw [Json.substitute], rfl, hread, rfl, rfl⟩
  | sequence hlength _ ih =>
      rw [Agrees, Json.substitute_items bound (by decide), substitute, substituteItems_eq_map]
      refine (ofJson_reserved_eq_ok_iff .sequence).trans ?_
      rw [ofBody, map_eq_ok_iff, Undisturbed, lookalikes, forall_mem_lookalikesOfItems]
      simp only [sequence.injEq, exists_eq_right]
      exact ofItems_substitute_iff 0 hlength ih
  | @conditional members tested condition whenTrue whenFalse hallows htested _ hsomeTrue _
      hsomeFalse _ ihCondition ihTrue ihFalse =>
      rw [Agrees, Json.substitute_record bound (by decide) htested (by decide), substitute]
      refine (ofJson_reserved_eq_ok_iff .conditional).trans ?_
      rw [ofBody_conditional_eq_ok_iff, Undisturbed, lookalikes]
      simp only [List.forall_mem_append, forall_mem_lookalikesOfBranch]
      simp only [Shape.allows_substituteMembers, Json.get?_substituteMembers, htested,
        Option.map_some, Option.some_inj, conditional.injEq]
      refine Iff.trans ?_ (and_congr (and_congr ihCondition
        (branch_substitute_iff hsomeTrue ihTrue)) (branch_substitute_iff hsomeFalse ihFalse))
      constructor
      · rintro ⟨_, _, _, _, _, rfl, hcondition, htrue, hfalse, rfl, rfl, rfl⟩
        exact ⟨⟨hcondition, htrue⟩, hfalse⟩
      · rintro ⟨⟨hcondition, htrue⟩, hfalse⟩
        exact ⟨_, _, _, _, hallows, rfl, hcondition, htrue, hfalse, rfl, rfl, rfl⟩
  | function hallows hname hparams hvalue _ ih =>
      rw [Agrees, Json.substitute_record bound (by decide) hname (by decide), substitute]
      refine (ofJson_reserved_eq_ok_iff .function).trans ?_
      rw [Undisturbed, lookalikes, List.forall_mem_append]
      exact definition_substitute_iff Expr.function function.inj rfl hallows hname hparams hvalue ih
  | macroDef hallows hname hparams hvalue _ ih =>
      rw [Agrees, Json.substitute_record bound (by decide) hname (by decide), substitute]
      refine (ofJson_reserved_eq_ok_iff .macroDef).trans ?_
      rw [Undisturbed, lookalikes, List.forall_mem_append]
      exact definition_substitute_iff Expr.macroDef macroDef.inj rfl hallows hname hparams hvalue ih
  | @imports members source symbols hallows hsource hsymbols =>
      have hread : Agrees bound (.obj [("import", .obj members)]) (.imports source symbols) := by
        rw [Agrees, Json.substitute_record bound (by decide) hsource (by decide), substitute]
        refine ofJson_of_spells (.imports ?_ ?_ ?_)
        · exact (Shape.allows_substituteMembers bound members).mpr hallows
        · rw [Json.get?_substituteMembers, hsource, Option.map_some, Json.substitute]
        · rw [Json.get?_substituteMembers, hsymbols, Option.map_some, Json.substitute,
            Json.substituteItems_eq_map, Json.substitute_symbols]
      simp [hread, Undisturbed, lookalikes]
  | call hkey hlength _ ih =>
      rw [Agrees, Json.substitute_items bound (htarget hkey), substitute, substituteItems_eq_map,
        ofJson_invocation hkey]
      simp only [map_eq_ok_iff, located_eq_ok_iff, call.injEq, true_and, exists_eq_right]
      rw [Undisturbed, lookalikes, forall_mem_lookalikesOfItems]
      exact ofItems_substitute_iff 0 hlength ih
  | record fields hkey =>
      rw [Agrees, Json.substitute_member bound (htarget hkey), substitute, Undisturbed, lookalikes]
      simp only [Option.mem_toList]
      exact (ofJson_eq_record_iff hkey).trans (Json.substitute_obj_eq_iff bound)

theorem agrees_iff_undisturbed {value : Json} {e : Expr} (hread : ofJson value = .ok e)
    (hbound : ∀ entry ∈ bound, ∃ value, ofJson value = .ok entry.2) :
    Agrees bound value e ↔ e.Undisturbed bound := by
  refine agrees_iff_of_spells (ofJson_eq_ok_iff.mp hread) ?_
  intro entry hentry
  obtain ⟨_, hvalue⟩ := hbound entry hentry
  exact readable_of_ofJson hvalue

theorem fieldArguments_singleton (target : String) (param : Param) (value : Json) :
    Macros.fieldArguments target [param] [(param.name, value)] =
      (located param.name (ofJson value)).map fun arg => [(param.name, arg)] := by
  have hget : Bindings.get? [(param.name, value)] param.name = some value := by
    rw [Bindings.get?_cons, if_pos rfl]
  have hargument : Macros.fieldArgument target [(param.name, value)] param.name =
      located param.name (ofJson value) := by
    rw [Macros.fieldArgument, hget]
  simp only [Macros.fieldArguments, paramNames, List.map_cons, List.map_nil, List.find?_cons,
    List.find?_nil, Bindings.has, hget, List.contains_cons, beq_self_eq_true, Bool.true_or,
    Bool.not_true, Option.isSome_some, List.mapM_cons, List.mapM_nil, hargument]
  cases located param.name (ofJson value) <;> rfl

theorem arguments_substitute_eq_iff {value : Json} {e : Expr} (target : String) (param : Param)
    (body : Expr) :
    Macros.arguments target { params := [param], body }
        ((Expr.record target [(param.name, value)]).substitute bound) =
      Macros.arguments target { params := [param], body }
        ((Expr.call target [e]).substitute bound) ↔
      Agrees bound value e := by
  have hposition : Macros.arguments target { params := [param], body }
      ((Expr.call target [e]).substitute bound) = .ok [(param.name, e.substitute bound)] := by
    simp only [substitute, substituteItems, Macros.arguments, bindArguments, paramNames]
    rfl
  rw [hposition, substitute, Json.substituteMembers, Json.substituteMembers, Macros.arguments,
    mapError_eq_ok_iff, located_eq_ok_iff, fieldArguments_singleton]
  simp only [map_eq_ok_iff, located_eq_ok_iff, List.cons.injEq, Prod.mk.injEq, true_and, and_true,
    exists_eq_right, Agrees]

/-- Substituting in the JSON form of an expression and reading the result gives the substituted
expression exactly when nothing that only looks like a reference is replaced, and it is then that an
argument passed by name is the argument passed by position. -/
theorem substitution_agrees_iff_undisturbed {value : Json} {e : Expr} (hread : ofJson value = .ok e)
    (hbound : ∀ entry ∈ bound, ∃ value, ofJson value = .ok entry.2) :
    (ofJson (e.toJson.substitute bound) = .ok (e.substitute bound) ↔ e.Undisturbed bound) ∧
      ∀ target (param : Param) body,
        Macros.arguments target { params := [param], body }
            ((Expr.record target [(param.name, value)]).substitute bound) =
          Macros.arguments target { params := [param], body }
            ((Expr.call target [e]).substitute bound) ↔
        e.Undisturbed bound := by
  have hwritten : ofJson e.toJson = .ok e :=
    ofJson_toJson_iff_readable.mpr (readable_of_ofJson hread)
  refine ⟨agrees_iff_undisturbed hwritten hbound, fun target param body => ?_⟩
  rw [arguments_substitute_eq_iff]
  exact agrees_iff_undisturbed hread hbound

/-- The definition of a function whose parameter is called `ref` and has the type `T`. -/
def refParam : Expr :=
  .function "f" [{ name := "ref", type? := some "T" }] (.ref "x")

theorem ofJson_refParam : ofJson refParam.toJson = .ok refParam :=
  ofJson_toJson_iff_readable.mpr (by simp [refParam, Readable, targets])

/-- What is bound to another name than the type is put into the body. -/
theorem substitution_agrees_iff_undisturbed_refParam :
    ofJson refParam.toJson = .ok refParam ∧ refParam.Undisturbed [("x", .literal .null)] ∧
      ofJson (refParam.toJson.substitute [("x", .literal .null)]) =
        .ok (refParam.substitute [("x", .literal .null)]) := by
  have hbound : ∀ entry ∈ [("x", Expr.literal .null)], ∃ value, ofJson value = .ok entry.2 := by
    simp only [List.forall_mem_singleton]
    exact ⟨.null, rfl⟩
  have hundisturbed : refParam.Undisturbed [("x", .literal .null)] := by
    simp [Undisturbed, refParam, lookalikes, Param.lookalike?, Bindings.Fixes, Bindings.get?_cons,
      Bindings.get?_nil]
  have hagrees := substitution_agrees_iff_undisturbed ofJson_refParam hbound
  exact ⟨ofJson_refParam, hundisturbed, hagrees.1.mpr hundisturbed⟩

/-- What is bound to the name of the type is put in the place of the parameter. -/
theorem refParam_unreadable :
    ofJson refParam.toJson = .ok refParam ∧
      ¬ (ofJson (refParam.toJson.substitute [("T", .literal .null)])).isOk :=
  ⟨ofJson_refParam, by decide +kernel⟩

end Expr

end JsonExpr
