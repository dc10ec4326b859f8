import JsonExpr.Proofs.Grammar
import JsonExpr.Proofs.Pointer
import JsonExpr.Proofs.RoundTrip

namespace JsonExpr

namespace Violation

/-- How a violation says where in the input it was found. -/
inductive PointsInto (input : Json) : Violation → Prop
  | value {location : List String} {reason : Reason} {refused : Json} :
      input.at? location = some refused → PointsInto input ⟨location, reason, refused⟩
  | unknownProperty {outer : List String} {shape : Shape} {key : String} {members : Bindings Json} :
      input.at? outer = some (.obj members) → key ∈ members.names →
      PointsInto input ⟨outer ++ [key], .unknownProperty shape key, .obj members⟩
  | missingProperty {outer : List String} {key : String} {members : Bindings Json} :
      input.at? outer = some (.obj members) → key ∉ members.names →
      PointsInto input ⟨outer ++ [key], .missingProperty .program key, .obj members⟩

theorem PointsInto.within {input part : Json} {token : String} {v : Violation}
    (hpart : input.part? token = some part) (h : v.PointsInto part) :
    (v.within token).PointsInto input := by
  have hinput (location : List String) : input.at? (token :: location) = part.at? location :=
    Json.at?_cons hpart location
  cases h with
  | value h => exact .value ((hinput _).trans h)
  | unknownProperty h hkey => exact .unknownProperty ((hinput _).trans h) hkey
  | missingProperty h hkey => exact .missingProperty ((hinput _).trans h) hkey

end Violation

/-- Whatever the reading refuses, it says where in the input. -/
def Reports {α : Type} (input : Json) (reading : Except Violation α) : Prop :=
  ∀ v, reading = .error v → v.PointsInto input

section Rules

variable {α β : Type} {input : Json}

theorem reports_ok (result : α) : Reports input (.ok result) := by
  intro v h
  cases h

theorem reports_refuse (reason : Reason) (input : Json) :
    Reports input (refuse reason input : Except Violation α) := by
  intro v h
  cases h
  exact .value rfl

theorem reports_bind {part : Except Violation α} {next : α → Except Violation β}
    (hpart : Reports input part)
    (hnext : ∀ result, part = .ok result → Reports input (next result)) :
    Reports input (part >>= next) := by
  intro v h
  rcases bind_eq_error_iff.mp h with hfirst | ⟨result, hresult, hlater⟩
  · exact hpart v hfirst
  · exact hnext result hresult v hlater

theorem reports_map {part : Except Violation α} (f : α → β) (h : Reports input part) :
    Reports input (part.map f) := by
  intro v hv
  exact h v (map_eq_error_iff.mp hv)

theorem reports_located {part : Json} {token : String} {reading : Except Violation α}
    (hpart : input.part? token = some part) (h : Reports part reading) :
    Reports input (located token reading) := by
  intro v hv
  obtain ⟨inner, hinner, rfl⟩ := mapError_eq_error_iff.mp hv
  exact (h inner hinner).within hpart

end Rules

namespace Json

variable {α : Type}

theorem reports_asString (role : String) (value : Json) : Reports value (value.asString role) := by
  unfold asString
  split
  · exact reports_ok _
  · exact reports_refuse _ _

theorem reports_asArray (role : String) (value : Json) : Reports value (value.asArray role) := by
  unfold asArray
  split
  · exact reports_ok _
  · exact reports_refuse _ _

theorem reports_asObject (role : String) (value : Json) : Reports value (value.asObject role) := by
  unfold asObject
  split
  · exact reports_ok _
  · exact reports_refuse _ _

theorem part?_body (key : String) (body : Json) :
    (Json.obj [(key, body)]).part? key = some body := by
  rw [part?, Bindings.get?_cons, if_pos rfl]

theorem part?_item (before : List Json) (item : Json) (rest : List Json) :
    (Json.arr (before ++ item :: rest)).part? (toString before.length) = some item := by
  rw [part?, Pointer.index?_toString, Option.bind_some]
  simp

theorem reports_eachItem {read : Json → Except Violation α} (before items : List Json)
    (h : ∀ item ∈ items, Reports item (read item)) :
    Reports (.arr (before ++ items)) (eachItem read before.length items) := by
  induction items generalizing before with
  | nil => exact reports_ok _
  | cons item rest ih =>
      rw [List.forall_mem_cons] at h
      apply reports_bind
      · exact reports_located (part?_item before item rest) h.1
      · intro first _
        apply reports_bind
        -- The item that has been read joins those before, so the rest starts one index later.
        · have hrest := ih (before ++ [item]) h.2
          rwa [List.append_assoc, List.singleton_append, List.length_append] at hrest
        · intro others _
          exact reports_ok _

theorem reports_arrayItems {read : Json → Except Violation α} {items : List Json}
    (h : ∀ item ∈ items, Reports item (read item)) :
    Reports (.arr items) (eachItem read 0 items) :=
  reports_eachItem [] items h

end Json

namespace Shape

variable {α : Type} {shape : Shape} {members : Bindings Json} {key : String}

theorem reports_check : Reports (.obj members) (shape.check members) := by
  unfold check
  split
  · exact reports_refuse _ _
  · split
    · rename_i key hunknown
      rintro _ ⟨rfl⟩
      have hself : (Json.obj members).at? [] = some (.obj members) := rfl
      exact .unknownProperty hself (List.mem_of_find?_eq_some hunknown)
    · exact reports_ok _

theorem reports_require {part : Option (Except Violation α)}
    (h : ∀ reading, part = some reading → Reports (.obj members) reading) :
    Reports (.obj members) (shape.require key members part) := by
  cases part with
  | none => exact reports_refuse _ _
  | some reading => exact h reading rfl

theorem reports_member {read : Json → Except Violation α}
    (h : ∀ value, members.get? key = some value → Reports value (read value)) :
    Reports (.obj members) (shape.member key members read) := by
  apply reports_require
  intro reading hreading
  obtain ⟨value, hvalue, rfl⟩ := Option.map_eq_some_iff.mp hreading
  exact reports_located hvalue (h value hvalue)

end Shape

theorem Param.reports_ofJson (value : Json) : Reports value (Param.ofJson value) := by
  unfold Param.ofJson
  split
  · exact reports_ok _
  · exact reports_ok _
  · exact reports_refuse _ _

namespace Expr

variable {members : Bindings Json}

theorem reports_signatureOf (shape : Shape) :
    Reports (.obj members) (signatureOf shape members) := by
  apply reports_bind Shape.reports_check
  intro _ _
  apply reports_bind
  · exact Shape.reports_member fun value _ => value.reports_asString _
  intro name _
  apply reports_bind
  · apply Shape.reports_member
    intro value _
    apply reports_bind (value.reports_asArray _)
    intro params hparams
    rw [Json.asArray_eq_ok_iff.mp hparams]
    exact Json.reports_arrayItems fun param _ => Param.reports_ofJson param
  intro params _
  exact reports_ok _

theorem reports_importsOf : Reports (.obj members) (importsOf members) := by
  apply reports_bind Shape.reports_check
  intro _ _
  apply reports_bind
  · exact Shape.reports_member fun value _ => value.reports_asArray _
  intro symbols hsymbols
  apply reports_bind
  · exact Shape.reports_member fun value _ => value.reports_asString _
  intro source _
  -- The symbols are read only now, but where they stand was settled when they were found.
  obtain ⟨value, hvalue, harray⟩ := Shape.member_eq_ok_iff.mp hsymbols
  rw [Json.asArray_eq_ok_iff.mp harray] at hvalue
  apply reports_bind
  · exact reports_located hvalue (Json.reports_arrayItems fun symbol _ => symbol.reports_asString _)
  intro names _
  exact reports_ok _

section Members

variable (hmembers : ∀ part ∈ (Json.obj members).parts, Reports part (ofJson part))
include hmembers

theorem reports_ofMember? {key : String} {reading : Except Violation Expr}
    (h : ofMember? key members = some reading) : Reports (.obj members) reading := by
  rw [ofMember?_eq] at h
  obtain ⟨value, hvalue, rfl⟩ := Option.map_eq_some_iff.mp h
  exact reports_located hvalue (hmembers value (Json.mem_parts_of_get? hvalue))

theorem reports_branch (key : String) :
    Reports (.obj members) ((ofMember? key members).mapM id) := by
  cases hbranch : ofMember? key members with
  | none => exact reports_ok _
  | some reading =>
      have hreading := reports_ofMember? hmembers hbranch
      exact reports_bind hreading fun _ _ => reports_ok _

theorem reports_definition (shape : Shape) (build : String → List Param → Expr → Expr) :
    Reports (.obj members) (do
      let (name, params) ← signatureOf shape members
      let body ← shape.require "body" members (ofMember? "body" members)
      return build name params body) := by
  apply reports_bind (reports_signatureOf shape)
  rintro ⟨name, params⟩ _
  apply reports_bind
  · exact Shape.reports_require fun _ => reports_ofMember? hmembers
  intro body _
  exact reports_ok _

end Members

theorem reports_ofItems {items : List Json} (h : ∀ item ∈ items, Reports item (ofJson item)) :
    Reports (.arr items) (ofItems 0 items) := by
  rw [ofItems_eq_eachItem]
  exact Json.reports_arrayItems h

theorem reports_ofBody (form : Reserved) {body : Json}
    (h : ∀ part ∈ body.parts, Reports part (ofJson part)) : Reports body (ofBody form body) := by
  cases body with
  | scalar value =>
      rw [ofBody.eq_def]
      simp only
      split
      · exact reports_ok _
      · exact reports_refuse _ _
  | arr items =>
      cases form with
      | sequence =>
          rw [ofBody]
          exact reports_map _ (reports_ofItems h)
      | ref | binding | conditional | function | macroDef | imports =>
          rw [ofBody.eq_def]
          exact reports_refuse _ _
  | obj members =>
      cases form with
      | binding =>
          rw [ofBody]
          apply reports_bind Shape.reports_check
          intro _ _
          apply reports_bind
          · exact Shape.reports_member fun value _ => value.reports_asString _
          intro name _
          apply reports_bind
          · exact Shape.reports_require fun _ => reports_ofMember? h
          intro value _
          exact reports_ok _
      | conditional =>
          rw [ofBody]
          apply reports_bind Shape.reports_check
          intro _ _
          apply reports_bind (reports_branch h "true")
          intro whenTrue _
          apply reports_bind (reports_branch h "false")
          intro whenFalse _
          apply reports_bind
          · exact Shape.reports_require fun _ => reports_ofMember? h
          intro condition _
          exact reports_ok _
      | function =>
          rw [ofBody]
          exact reports_definition h .functionDef Expr.function
      | macroDef =>
          rw [ofBody]
          exact reports_definition h .macroDef Expr.macroDef
      | imports =>
          rw [ofBody]
          exact reports_importsOf
      | ref | sequence =>
          rw [ofBody.eq_def]
          exact reports_refuse _ _

theorem reports_invocation {target : String} (htarget : Reserved.ofKey? target = none) {body : Json}
    (h : ∀ part ∈ body.parts, Reports part (ofJson part)) :
    Reports (.obj [(target, body)]) (ofJson (.obj [(target, body)])) := by
  rw [ofJson_invocation htarget]
  cases body with
  | scalar value => exact reports_refuse _ _
  | arr args =>
      exact reports_map _ (reports_located (Json.part?_body _ _) (reports_ofItems h))
  | obj fields => exact reports_ok _

/-- The value of a key is read by its own parts, so the induction carries the parts along. -/
theorem reports_ofJson_and_parts (value : Json) :
    Reports value (ofJson value) ∧ ∀ part ∈ value.parts, Reports part (ofJson part) := by
  induction value using Json.inductionOnParts with
  | step value ih =>
      refine ⟨?_, fun part hpart => (ih part hpart).1⟩
      rcases value with value | items | (_ | ⟨⟨key, body⟩, _ | ⟨second, rest⟩⟩)
      · rw [ofJson]
        exact reports_ok _
      · rw [ofJson]
        exact reports_refuse _ _
      · rw [ofJson.eq_def]
        exact reports_refuse _ _
      · have hbody := (ih body List.mem_cons_self).2
        cases hkey : Reserved.ofKey? key with
        | none => exact reports_invocation hkey hbody
        | some form =>
            obtain rfl := Reserved.key_of_ofKey? hkey
            rw [ofJson_reserved]
            exact reports_located (Json.part?_body _ _) (reports_ofBody form hbody)
      · rw [ofJson.eq_def]
        exact reports_refuse _ _

theorem reports_ofJson (value : Json) : Reports value (ofJson value) :=
  (reports_ofJson_and_parts value).1

end Expr

theorem reports_typesOf {value : Json} (h : value.distinctKeys = true) :
    Reports value (typesOf value) := by
  apply reports_bind (value.reports_asObject _)
  intro types htypes
  rw [Json.asObject_eq_ok_iff.mp htypes] at h ⊢
  split
  · rename_i name document hfound
    have hget := Bindings.get?_of_mem (Json.nodup_of_distinctKeys h)
      (List.mem_of_find?_eq_some hfound)
    exact reports_located hget (reports_refuse _ _)
  · exact reports_ok _

theorem reports_typesMember {members : Bindings Json}
    (h : (Json.obj members).distinctKeys = true) :
    Reports (.obj members) (typesMember members) := by
  unfold typesMember
  split
  · rename_i value hvalue
    exact reports_located hvalue (reports_typesOf (Json.distinctKeys_of_get? h hvalue))
  · exact reports_ok _

theorem reports_expressionsAt {shape : Shape} {members : Bindings Json} {key role : String}
    {items : List Json} (h : shape.member key members (Json.asArray role) = .ok items) :
    Reports (.obj members) (located key (Expr.ofItems 0 items)) := by
  obtain ⟨value, hvalue, harray⟩ := Shape.member_eq_ok_iff.mp h
  rw [Json.asArray_eq_ok_iff.mp harray] at hvalue
  exact reports_located hvalue (Expr.reports_ofItems fun item _ => Expr.reports_ofJson item)

namespace Module

theorem reports_ofJson {value : Json} (h : value.distinctKeys = true) :
    Reports value (Module.ofJson value) := by
  cases value with
  | scalar value => exact reports_refuse _ _
  | arr items => exact reports_refuse _ _
  | obj members =>
      apply reports_bind Shape.reports_check
      intro _ _
      apply reports_bind
      · exact Shape.reports_member fun value _ => value.reports_asArray _
      intro exports hexports
      apply reports_bind (reports_typesMember h)
      intro types _
      apply reports_bind (reports_expressionsAt hexports)
      intro body _
      exact reports_ok _

theorem reports_eachOfJson {modules entries : Bindings Json}
    (h : ∀ entry ∈ entries, modules.get? entry.1 = some entry.2 ∧ entry.2.distinctKeys = true) :
    Reports (.obj modules) (eachOfJson entries) := by
  induction entries with
  | nil => exact reports_ok _
  | cons entry rest ih =>
      obtain ⟨⟨hget, hdistinct⟩, hrest⟩ := List.forall_mem_cons.mp h
      apply reports_bind
      · exact reports_located hget (reports_ofJson hdistinct)
      intro first _
      apply reports_bind (ih hrest)
      intro others _
      exact reports_ok _

end Module

namespace Program

theorem reports_requireKeys (members : Bindings Json) :
    Reports (.obj members) (requireKeys members) := by
  unfold requireKeys
  split
  · rename_i key hmissing
    rintro _ ⟨rfl⟩
    have hself : (Json.obj members).at? [] = some (.obj members) := rfl
    refine .missingProperty hself fun hkey => ?_
    have habsent := List.find?_some hmissing
    simp [Bindings.has, Bindings.get?_isSome_iff.mpr hkey] at habsent
  · exact reports_ok _

theorem reports_checkVersion (value : Json) : Reports value (checkVersion value) := by
  unfold checkVersion
  split
  · split
    · exact reports_ok _
    · exact reports_refuse _ _
  · exact reports_refuse _ _

theorem reports_modulesMember {members : Bindings Json}
    (h : (Json.obj members).distinctKeys = true) :
    Reports (.obj members) (modulesMember members) := by
  unfold modulesMember
  split
  · rename_i value hvalue
    have hdistinct := Json.distinctKeys_of_get? h hvalue
    refine reports_located hvalue ?_
    apply reports_bind (value.reports_asObject _)
    intro modules hmodules
    rw [Json.asObject_eq_ok_iff.mp hmodules] at hdistinct ⊢
    apply Module.reports_eachOfJson
    intro entry hentry
    have hget := Bindings.get?_of_mem (Json.nodup_of_distinctKeys hdistinct) hentry
    exact ⟨hget, Json.distinctKeys_of_get? hdistinct hget⟩
  · exact reports_ok _

theorem reports_ofJson {document : Json} (h : document.distinctKeys = true) :
    Reports document (Program.ofJson document) := by
  cases document with
  | scalar value => exact reports_refuse _ _
  | arr items => exact reports_refuse _ _
  | obj members =>
      apply reports_bind (reports_requireKeys members)
      intro _ _
      apply reports_bind
      · exact Shape.reports_member fun value _ => reports_checkVersion value
      intro _ _
      apply reports_bind
      · exact Shape.reports_member fun value _ => value.reports_asString _
      intro name _
      apply reports_bind
      · exact Shape.reports_member fun value _ => value.reports_asArray _
      intro items hitems
      apply reports_bind (reports_typesMember h)
      intro types _
      apply reports_bind (reports_modulesMember h)
      intro modules _
      apply reports_bind (reports_expressionsAt hitems)
      intro body _
      exact reports_ok _

end Program

theorem exists_pointer_of_reports {α : Type} {input : Json} {reading : Except Violation α}
    (h : Reports input reading) {base : String} {err : Error}
    (herr : reading.mapError (Error.ofViolation base) = .error err) :
    ∃ pointer tokens reason refused,
      Pointer.decode pointer = some tokens ∧
        Violation.PointsInto input ⟨tokens, reason, refused⟩ ∧
        err = .violation (base ++ pointer) reason refused ∧
        ∀ start, reading.mapError (Error.ofViolation start) =
          .error (.violation (start ++ pointer) reason refused) := by
  obtain ⟨v, hv, rfl⟩ := mapError_eq_error_iff.mp herr
  have hpath (start : String) : Error.ofViolation start v =
      .violation (start ++ Pointer.extend "" v.location) v.reason v.value := by
    rw [Error.ofViolation, Violation.path, Pointer.extend_eq_append]
  refine ⟨Pointer.extend "" v.location, v.location, v.reason, v.value,
    Pointer.decode_extend _, h v hv, hpath base, fun start => ?_⟩
  rw [hv, Except.mapError, hpath]

/-- An error of the grammar names the place of what it refuses. Its path is that of the value being
read and a pointer into it, and the pointer, the reason and the value shown are the same wherever
the value being read stands. -/
theorem violation_points_at_refused :
    (∀ (value : Json) (base : String) (err : Error),
      (Expr.ofJson value).mapError (Error.ofViolation base) = .error err →
      ∃ pointer tokens reason refused,
        Pointer.decode pointer = some tokens ∧
          Violation.PointsInto value ⟨tokens, reason, refused⟩ ∧
          err = .violation (base ++ pointer) reason refused ∧
          ∀ start, (Expr.ofJson value).mapError (Error.ofViolation start) =
            .error (.violation (start ++ pointer) reason refused)) ∧
      ∀ (document : Json) (err : Error), document.distinctKeys = true →
        Interpreter.readProgram document = .error err →
        ∃ pointer tokens reason refused,
          Pointer.decode pointer = some tokens ∧
            Violation.PointsInto document ⟨tokens, reason, refused⟩ ∧
            err = .violation pointer reason refused := by
  constructor
  · intro value base err herr
    exact exists_pointer_of_reports (Expr.reports_ofJson value) herr
  · intro document err hdistinct herr
    obtain ⟨pointer, tokens, reason, refused, hdecode, hpoints, herr, _⟩ :=
      exists_pointer_of_reports (Program.reports_ofJson hdistinct) herr
    rw [String.empty_append] at herr
    exact ⟨pointer, tokens, reason, refused, hdecode, hpoints, herr⟩

/-- A program whose one module, of a name that has to be escaped, exports what is no expression. -/
def misplacedArray : Json :=
  .obj [("jexl_version", .str "v0.1"), ("name", .str "main"), ("program", .arr []),
    ("modules", .obj [("a/b~c", .obj [("exports", .arr [.null, .arr []])])])]

/-- The members of a binding, with one that it does not accept. -/
def misplacedMember : Bindings Json :=
  [("name", .str "x"), ("a/b", .null), ("value", .null)]

def misplacedMemberInSequence : Json :=
  .obj [("do", .arr [.null, .obj [("let", .obj misplacedMember)]])]

theorem violation_points_at_refused_escaped :
    ((Expr.ofJson misplacedMemberInSequence).mapError (Error.ofViolation "/program/0") =
        .error (.violation "/program/0/do/1/let/a~1b" (.unknownProperty .letBinding "a/b")
          (.obj misplacedMember)) ∧
      ∃ pointer tokens, "/program/0/do/1/let/a~1b" = "/program/0" ++ pointer ∧
        Pointer.decode pointer = some tokens ∧
        Violation.PointsInto misplacedMemberInSequence
          ⟨tokens, .unknownProperty .letBinding "a/b", .obj misplacedMember⟩) ∧
      misplacedArray.distinctKeys = true ∧
      Interpreter.readProgram misplacedArray =
        .error (.violation "/modules/a~1b~0c/exports/1" .notExpression (.arr [])) ∧
      ∃ tokens, Pointer.decode "/modules/a~1b~0c/exports/1" = some tokens ∧
        Violation.PointsInto misplacedArray ⟨tokens, .notExpression, .arr []⟩ := by
  constructor
  · have hread : (Expr.ofJson misplacedMemberInSequence).mapError
        (Error.ofViolation "/program/0") =
        .error (.violation "/program/0/do/1/let/a~1b" (.unknownProperty .letBinding "a/b")
          (.obj misplacedMember)) := rfl
    obtain ⟨pointer, tokens, _, _, hdecode, hpoints, herr, _⟩ :=
      violation_points_at_refused.1 misplacedMemberInSequence "/program/0" _ hread
    injection herr with hpath hreason hrefused
    subst hreason hrefused
    exact ⟨hread, pointer, tokens, hpath, hdecode, hpoints⟩
  · have hdistinct : misplacedArray.distinctKeys = true := by decide
    have hread : Interpreter.readProgram misplacedArray =
        .error (.violation "/modules/a~1b~0c/exports/1" .notExpression (.arr [])) := rfl
    refine ⟨hdistinct, hread, ?_⟩
    obtain ⟨_, tokens, _, _, hdecode, hpoints, herr⟩ :=
      violation_points_at_refused.2 misplacedArray _ hdistinct hread
    cases herr
    exact ⟨tokens, hdecode, hpoints⟩

end JsonExpr
