import JsonExpr.Interpreter
import JsonExpr.Proofs.Spelling

namespace JsonExpr

namespace Grammar

/-- The keys that cannot be invoked. -/
def reservedKeys : List String :=
  ["ref", "let", "do", "if", "function", "macro", "import"]

/-- A bare name, or an object from the one name to the name of its type. -/
inductive Parameter : Json → Prop
  | bare (name : String) : Parameter (.str name)
  | typed (name typeName : String) : Parameter (.obj [(name, .str typeName)])

inductive Expression : Json → Prop
  | scalar (value : Scalar) : Expression (.scalar value)
  | ref (name : String) : Expression (.obj [("ref", .str name)])
  | binding {members : Bindings Json} {name : String} {value : Json} :
      members.names ⊆ ["name", "value"] → members.get? "name" = some (.str name) →
      members.get? "value" = some value → Expression value →
      Expression (.obj [("let", .obj members)])
  | sequence {items : List Json} :
      (∀ item ∈ items, Expression item) → Expression (.obj [("do", .arr items)])
  /-- The condition and whichever branches there are. -/
  | conditional {members : Bindings Json} :
      members.names ⊆ ["condition", "true", "false"] → "condition" ∈ members.names →
      (∀ key value, members.get? key = some value → Expression value) →
      Expression (.obj [("if", .obj members)])
  | definition {key : String} {members : Bindings Json} {name : String} {params : List Json}
      {body : Json} :
      key ∈ ["function", "macro"] → members.names ⊆ ["name", "params", "body"] →
      members.get? "name" = some (.str name) → members.get? "params" = some (.arr params) →
      (∀ param ∈ params, Parameter param) → members.get? "body" = some body → Expression body →
      Expression (.obj [(key, .obj members)])
  | imports {members : Bindings Json} {source : String} {symbols : List String} :
      members.names ⊆ ["module", "symbols"] → members.get? "module" = some (.str source) →
      members.get? "symbols" = some (.arr (symbols.map .str)) →
      Expression (.obj [("import", .obj members)])
  | call {target : String} {items : List Json} :
      target ∉ reservedKeys → (∀ item ∈ items, Expression item) →
      Expression (.obj [(target, .arr items)])
  | record {target : String} (fields : List (String × Json)) :
      target ∉ reservedKeys → Expression (.obj [(target, .obj fields)])

/-- Named documents, each of them an object. -/
inductive Types : Json → Prop
  | intro {types : Bindings Json} :
      (∀ entry ∈ types, ∃ members, entry.2 = .obj members) → Types (.obj types)

inductive Module : Json → Prop
  | intro {members : Bindings Json} {exports : List Json} :
      members.names ⊆ ["exports", "types"] → members.get? "exports" = some (.arr exports) →
      (∀ item ∈ exports, Expression item) →
      (∀ types, members.get? "types" = some types → Types types) → Module (.obj members)

inductive Modules : Json → Prop
  | intro {modules : Bindings Json} : (∀ entry ∈ modules, Module entry.2) → Modules (.obj modules)

/-- A program may have members that the grammar says nothing about. -/
inductive Program : Json → Prop
  | intro {members : Bindings Json} {name : String} {body : List Json} :
      members.get? "jexl_version" = some (.str "v0.1") → members.get? "name" = some (.str name) →
      members.get? "program" = some (.arr body) → (∀ item ∈ body, Expression item) →
      (∀ types, members.get? "types" = some types → Types types) →
      (∀ modules, members.get? "modules" = some modules → Modules modules) →
      Program (.obj members)

theorem notMem_reservedKeys_iff {key : String} :
    key ∉ reservedKeys ↔ Reserved.ofKey? key = none := by
  rw [Reserved.ofKey?_eq_none_iff]
  constructor
  · intro h form hkey
    subst hkey
    exact h (by cases form <;> decide)
  · intro h hmem
    simp only [reservedKeys, List.mem_cons, List.not_mem_nil, or_false] at hmem
    rcases hmem with rfl | rfl | rfl | rfl | rfl | rfl | rfl
    · exact h .ref rfl
    · exact h .binding rfl
    · exact h .sequence rfl
    · exact h .conditional rfl
    · exact h .function rfl
    · exact h .macroDef rfl
    · exact h .imports rfl

theorem parameter_iff {value : Json} : Parameter value ↔ ∃ param : Param, value = param.toJson := by
  constructor
  · rintro (⟨name⟩ | ⟨name, typeName⟩)
    · exact ⟨{ name }, rfl⟩
    · exact ⟨{ name, type? := some typeName }, rfl⟩
  · rintro ⟨⟨name, type?⟩, rfl⟩
    cases type? with
    | none => exact .bare name
    | some typeName => exact .typed name typeName

theorem parameters_iff {values : List Json} :
    (∀ value ∈ values, Parameter value) ↔
      ∃ params : List Param, values = params.map Param.toJson := by
  simp only [parameter_iff]
  constructor
  · intro h
    obtain ⟨params, hparams⟩ := exists_forall₂ h
    refine ⟨params, ?_⟩
    rw [← List.forall₂_eq_eq_eq, List.forall₂_map_right_iff]
    exact hparams
  · rintro ⟨params, rfl⟩ value hvalue
    obtain ⟨param, _, rfl⟩ := List.mem_map.mp hvalue
    exact ⟨param, rfl⟩

theorem expression_of_spells {value : Json} {e : Expr} (h : value.Spells e) : Expression value := by
  have hitems {items : List Json} {body : List Expr} (hlength : items.length = body.length)
      (ih : ∀ {item e}, (item, e) ∈ items.zip body → Expression item) :
      ∀ item ∈ items, Expression item := by
    intro item hitem
    obtain ⟨_, hexpression⟩ :=
      exists_right_of_forall₂ (List.forall₂_iff_zip.mpr ⟨hlength, ih⟩) hitem
    exact hexpression
  induction h with
  | literal value => exact .scalar value
  | ref name => exact .ref name
  | binding hallows hname hvalue _ ih => exact .binding hallows hname hvalue ih
  | sequence hlength _ ih => exact .sequence (hitems hlength ih)
  | @conditional members tested condition whenTrue whenFalse hallows htested _ hsomeTrue _
      hsomeFalse _ ihCondition ihTrue ihFalse =>
      refine .conditional hallows (Bindings.mem_names_of_get? htested) fun key value hvalue => ?_
      have hkey := hallows key (Bindings.mem_names_of_get? hvalue)
      simp only [Shape.required, Shape.optional, List.cons_append, List.nil_append, List.mem_cons,
        List.not_mem_nil, or_false] at hkey
      rcases hkey with rfl | rfl | rfl
      · obtain rfl := Option.some.inj (htested.symm.trans hvalue)
        exact ihCondition
      · rw [hvalue] at hsomeTrue
        obtain ⟨branch, hbranch⟩ := Option.isSome_iff_exists.mp hsomeTrue.symm
        exact ihTrue hvalue hbranch
      · rw [hvalue] at hsomeFalse
        obtain ⟨branch, hbranch⟩ := Option.isSome_iff_exists.mp hsomeFalse.symm
        exact ihFalse hvalue hbranch
  | function hallows hname hparams hvalue _ ih =>
      exact .definition (by decide) hallows hname hparams (parameters_iff.mpr ⟨_, rfl⟩) hvalue ih
  | macroDef hallows hname hparams hvalue _ ih =>
      exact .definition (by decide) hallows hname hparams (parameters_iff.mpr ⟨_, rfl⟩) hvalue ih
  | imports hallows hsource hsymbols => exact .imports hallows hsource hsymbols
  | call htarget hlength _ ih =>
      exact .call (notMem_reservedKeys_iff.mpr htarget) (hitems hlength ih)
  | record fields htarget => exact .record fields (notMem_reservedKeys_iff.mpr htarget)

theorem exists_branch {members : Bindings Json} (key : String)
    (h : ∀ value, members.get? key = some value → ∃ e, value.Spells e) :
    ∃ branch : Option Expr, (members.get? key).isSome = branch.isSome ∧
      ∀ {value e}, members.get? key = some value → branch = some e → value.Spells e := by
  cases hget : members.get? key with
  | none => exact ⟨none, rfl, nofun⟩
  | some value =>
      obtain ⟨e, he⟩ := h value hget
      refine ⟨some e, rfl, ?_⟩
      rintro _ _ ⟨⟩ ⟨⟩
      exact he

theorem exists_spells_of_expression {value : Json} (h : Expression value) :
    ∃ e, value.Spells e := by
  have hitems {items : List Json} (ih : ∀ item ∈ items, ∃ e : Expr, item.Spells e) :
      ∃ body : List Expr, items.length = body.length ∧
        ∀ {item e}, (item, e) ∈ items.zip body → item.Spells e := by
    obtain ⟨body, hbody⟩ := exists_forall₂ ih
    exact ⟨body, List.forall₂_iff_zip.mp hbody⟩
  induction h with
  | scalar value => exact ⟨_, .literal value⟩
  | ref name => exact ⟨_, .ref name⟩
  | binding hnames hname hvalue _ ih =>
      obtain ⟨e, he⟩ := ih
      exact ⟨_, .binding hnames hname hvalue he⟩
  | sequence _ ih =>
      obtain ⟨body, hlength, hbody⟩ := hitems ih
      exact ⟨_, .sequence hlength hbody⟩
  | @conditional members hnames hcondition _ ih =>
      obtain ⟨tested, htested⟩ :=
        Option.isSome_iff_exists.mp (Bindings.get?_isSome_iff.mpr hcondition)
      obtain ⟨condition, hspells⟩ := ih "condition" tested htested
      obtain ⟨whenTrue, hsomeTrue, htrue⟩ := exists_branch "true" (ih "true")
      obtain ⟨whenFalse, hsomeFalse, hfalse⟩ := exists_branch "false" (ih "false")
      exact ⟨_, .conditional hnames htested hspells hsomeTrue htrue hsomeFalse hfalse⟩
  | definition hkey hnames hname hparams hparameters hbody _ ih =>
      obtain ⟨e, he⟩ := ih
      obtain ⟨params, rfl⟩ := parameters_iff.mp hparameters
      simp only [List.mem_cons, List.not_mem_nil, or_false] at hkey
      rcases hkey with rfl | rfl
      · exact ⟨_, .function hnames hname hparams hbody he⟩
      · exact ⟨_, .macroDef hnames hname hparams hbody he⟩
  | imports hnames hsource hsymbols => exact ⟨_, .imports hnames hsource hsymbols⟩
  | call htarget _ ih =>
      obtain ⟨args, hlength, hargs⟩ := hitems ih
      exact ⟨_, .call (notMem_reservedKeys_iff.mp htarget) hlength hargs⟩
  | record fields htarget => exact ⟨_, .record fields (notMem_reservedKeys_iff.mp htarget)⟩

theorem exists_ofJson_iff {value : Json} : (∃ e, Expr.ofJson value = .ok e) ↔ Expression value := by
  simp only [Expr.ofJson_eq_ok_iff]
  constructor
  · rintro ⟨e, he⟩
    exact expression_of_spells he
  · exact exists_spells_of_expression

theorem exists_ofItems_iff (index : Nat) {items : List Json} :
    (∃ body, Expr.ofItems index items = .ok body) ↔ ∀ item ∈ items, Expression item := by
  simp only [Expr.ofItems_eq_eachItem, Json.eachItem_eq_ok_iff, ← exists_ofJson_iff]
  constructor
  · rintro ⟨body, hbody⟩ item hitem
    exact exists_right_of_forall₂ hbody hitem
  · exact exists_forall₂

end Grammar

theorem Json.asObject_eq_ok_iff {role : String} {value : Json} {members : Bindings Json} :
    value.asObject role = .ok members ↔ value = .obj members := by
  cases value <;> simp [asObject]

theorem Json.isObject_iff {value : Json} :
    value.isObject = true ↔ ∃ members, value = .obj members := by
  cases value <;> simp [isObject]

theorem typesOf_eq_ok_iff {value : Json} {types : Bindings Json} :
    typesOf value = .ok types ↔
      value = .obj types ∧ ∀ entry ∈ types, entry.2.isObject = true := by
  simp only [typesOf, bind_eq_ok_iff, Json.asObject_eq_ok_iff]
  constructor
  · rintro ⟨found, rfl, h⟩
    split at h
    · rw [located_eq_ok_iff] at h
      exact absurd h refuse_ne_ok
    · rename_i hnone
      cases h
      exact ⟨rfl, by simpa using hnone⟩
  · rintro ⟨rfl, hobjects⟩
    refine ⟨types, rfl, ?_⟩
    have hnone : (types.find? fun entry => ! entry.2.isObject) = none := by
      rw [List.find?_eq_none]
      intro entry hentry
      simp [hobjects entry hentry]
    rw [hnone]
    rfl

namespace Grammar

theorem exists_typesOf_iff {value : Json} : (∃ types, typesOf value = .ok types) ↔ Types value := by
  simp only [typesOf_eq_ok_iff, Json.isObject_iff]
  constructor
  · rintro ⟨types, rfl, hobjects⟩
    exact .intro hobjects
  · rintro ⟨hobjects⟩
    exact ⟨_, rfl, hobjects⟩

theorem exists_typesMember_iff {members : Bindings Json} :
    (∃ types, typesMember members = .ok types) ↔
      ∀ value, members.get? "types" = some value → Types value := by
  unfold typesMember
  cases members.get? "types" with
  | none => simp
  | some value => simpa [located_eq_ok_iff] using exists_typesOf_iff

end Grammar

theorem Module.ofJson_eq_ok_iff {value : Json} {declared : Module} :
    Module.ofJson value = .ok declared ↔
      ∃ (members : Bindings Json) (items : List Json), value = .obj members ∧
        Shape.moduleDef.Allows members ∧ members.get? "exports" = some (.arr items) ∧
        typesMember members = .ok declared.types ∧
        Expr.ofItems 0 items = .ok declared.exports := by
  cases value with
  | scalar | arr => simp [Module.ofJson]
  | obj members =>
      simp only [Module.ofJson, bind_eq_ok_iff, Shape.check_eq_ok_iff, Shape.member_eq_ok_iff,
        Json.asArray_eq_ok_iff, located_eq_ok_iff]
      constructor
      · rintro ⟨_, ⟨_, hallows⟩, items, ⟨_, hitems, rfl⟩, types, htypes, exports, hexports, h⟩
        cases h
        exact ⟨members, items, rfl, hallows, hitems, htypes, hexports⟩
      · rintro ⟨_, items, ⟨⟩, hallows, hitems, htypes, hexports⟩
        have hrequired : ∀ key ∈ Shape.moduleDef.required, key ∈ Bindings.names members := by
          simpa [Shape.required] using Bindings.mem_names_of_get? hitems
        exact ⟨(), ⟨hrequired, hallows⟩, items, ⟨_, hitems, rfl⟩, _, htypes, _, hexports, rfl⟩

theorem Module.eachOfJson_eq_ok_iff {entries : Bindings Json} {modules : Bindings Module} :
    Module.eachOfJson entries = .ok modules ↔
      List.Forall₂ (fun entry declared => declared.1 = entry.1 ∧
        Module.ofJson entry.2 = .ok declared.2) entries modules := by
  induction entries generalizing modules with
  | nil => cases modules <;> simp [eachOfJson]
  | cons entry rest ih =>
      obtain ⟨name, value⟩ := entry
      simp only [eachOfJson, bind_eq_ok_iff, located_eq_ok_iff, ih]
      constructor
      · rintro ⟨first, hfirst, others, hothers, h⟩
        cases h
        exact .cons ⟨rfl, hfirst⟩ hothers
      · rintro (_ | @⟨_, ⟨_, first⟩, _, _, ⟨rfl, hfirst⟩, hothers⟩)
        exact ⟨first, hfirst, _, hothers, rfl⟩

namespace Grammar

theorem exists_module_iff {value : Json} :
    (∃ declared, JsonExpr.Module.ofJson value = .ok declared) ↔ Module value := by
  simp only [JsonExpr.Module.ofJson_eq_ok_iff]
  constructor
  · rintro ⟨declared, members, items, rfl, hallows, hitems, htypes, hexports⟩
    exact .intro hallows hitems ((exists_ofItems_iff 0).mp ⟨_, hexports⟩)
      (exists_typesMember_iff.mp ⟨_, htypes⟩)
  · rintro @⟨members, items, hnames, hitems, hexpressions, htypes⟩
    obtain ⟨exports, hexports⟩ := (exists_ofItems_iff 0).mpr hexpressions
    obtain ⟨types, htypes⟩ := exists_typesMember_iff.mpr htypes
    exact ⟨{ exports, types }, members, items, rfl, hnames, hitems, htypes, hexports⟩

theorem exists_modulesMember_iff {members : Bindings Json} :
    (∃ modules, JsonExpr.Program.modulesMember members = .ok modules) ↔
      ∀ value, members.get? "modules" = some value → Modules value := by
  unfold JsonExpr.Program.modulesMember
  cases members.get? "modules" with
  | none => simp
  | some value =>
      simp only [located_eq_ok_iff, bind_eq_ok_iff, Json.asObject_eq_ok_iff,
        JsonExpr.Module.eachOfJson_eq_ok_iff, Option.some.injEq, forall_eq']
      constructor
      · rintro ⟨modules, entries, rfl, hentries⟩
        refine .intro fun entry hentry => ?_
        obtain ⟨declared, _, hdeclared⟩ := exists_right_of_forall₂ hentries hentry
        exact exists_module_iff.mp ⟨_, hdeclared⟩
      · rintro @⟨entries, hentries⟩
        have hread : ∀ entry ∈ entries, ∃ declared : String × JsonExpr.Module,
            declared.1 = entry.1 ∧ JsonExpr.Module.ofJson entry.2 = .ok declared.2 := by
          intro entry hentry
          obtain ⟨declared, hdeclared⟩ := exists_module_iff.mpr (hentries entry hentry)
          exact ⟨(entry.1, declared), rfl, hdeclared⟩
        obtain ⟨modules, hmodules⟩ := exists_forall₂ hread
        exact ⟨modules, entries, rfl, hmodules⟩

end Grammar

namespace Program

theorem requireKeys_eq_ok_iff {members : Bindings Json} {result : Unit} :
    requireKeys members = .ok result ↔ ∀ key ∈ Shape.program.required, key ∈ members.names := by
  rw [← Bindings.find?_absent_eq_none_iff, requireKeys]
  cases Shape.program.required.find? fun key => ! members.has key <;> simp

theorem checkVersion_eq_ok_iff {value : Json} {result : Unit} :
    checkVersion value = .ok result ↔ value = .str supportedVersion := by
  unfold checkVersion
  split
  · split
    · simp_all
    · simp_all
  · rename_i hnot
    refine ⟨fun h => absurd h refuse_ne_ok, ?_⟩
    rintro rfl
    exact absurd rfl (hnot supportedVersion)

theorem ofJson_eq_ok_iff {document : Json} {program : Program} :
    ofJson document = .ok program ↔
      ∃ (members : Bindings Json) (items : List Json), document = .obj members ∧
        members.get? "jexl_version" = some (.str supportedVersion) ∧
        members.get? "name" = some (.str program.name) ∧
        members.get? "program" = some (.arr items) ∧ typesMember members = .ok program.types ∧
        modulesMember members = .ok program.modules ∧
        Expr.ofItems 0 items = .ok program.body := by
  cases document with
  | scalar | arr => simp [ofJson]
  | obj members =>
      simp only [ofJson, bind_eq_ok_iff, requireKeys_eq_ok_iff, Shape.member_eq_ok_iff,
        checkVersion_eq_ok_iff, Json.asString_eq_ok_iff, Json.asArray_eq_ok_iff, located_eq_ok_iff]
      constructor
      · rintro ⟨_, _, _, ⟨_, hversion, rfl⟩, name, ⟨_, hname, rfl⟩, items, ⟨_, hitems, rfl⟩, types,
          htypes, modules, hmodules, body, hbody, h⟩
        cases h
        exact ⟨members, items, rfl, hversion, hname, hitems, htypes, hmodules, hbody⟩
      · rintro ⟨_, items, ⟨⟩, hversion, hname, hitems, htypes, hmodules, hbody⟩
        have hrequired : ∀ key ∈ Shape.program.required, key ∈ Bindings.names members := by
          simpa [Shape.required] using ⟨Bindings.mem_names_of_get? hversion,
            Bindings.mem_names_of_get? hname, Bindings.mem_names_of_get? hitems⟩
        exact ⟨(), hrequired, (), ⟨_, hversion, rfl⟩, _, ⟨_, hname, rfl⟩, items, ⟨_, hitems, rfl⟩,
          _, htypes, _, hmodules, _, hbody, rfl⟩

theorem violations_eq_nil_iff {document : Json} :
    violations document = [] ↔ ∃ program, ofJson document = .ok program := by
  unfold violations
  cases ofJson document <;> simp

end Program

namespace Grammar

theorem exists_program_iff {document : Json} :
    (∃ program, JsonExpr.Program.ofJson document = .ok program) ↔ Program document := by
  simp only [JsonExpr.Program.ofJson_eq_ok_iff]
  constructor
  · rintro ⟨program, members, items, rfl, hversion, hname, hitems, htypes, hmodules, hbody⟩
    exact .intro hversion hname hitems ((exists_ofItems_iff 0).mp ⟨_, hbody⟩)
      (exists_typesMember_iff.mp ⟨_, htypes⟩) (exists_modulesMember_iff.mp ⟨_, hmodules⟩)
  · rintro @⟨members, name, items, hversion, hname, hitems, hexpressions, htypes, hmodules⟩
    obtain ⟨body, hbody⟩ := (exists_ofItems_iff 0).mpr hexpressions
    obtain ⟨types, htypes⟩ := exists_typesMember_iff.mpr htypes
    obtain ⟨modules, hmodules⟩ := exists_modulesMember_iff.mpr hmodules
    exact ⟨{ name, body, types, modules }, members, items, rfl, hversion, hname, hitems, htypes,
      hmodules, hbody⟩

end Grammar

/-- A value is read as an expression, wherever it stands, exactly when it is one by the grammar; and
a document is read as a program exactly when it is one by the grammar, which is when there is no
violation to report. -/
theorem reader_accepts_grammar :
    (∀ (value : Json) (path : String),
      (∃ e, (Expr.ofJson value).mapError (Error.ofViolation path) = .ok e) ↔
        Grammar.Expression value) ∧
      ∀ document : Json,
        ((∃ program, Interpreter.readProgram document = .ok program) ↔ Grammar.Program document) ∧
          (Program.violations document = [] ↔ Grammar.Program document) ∧
          (Program.isProgram document = true ↔ Grammar.Program document) := by
  refine ⟨fun value path => ?_, fun document => ⟨?_, ?_, ?_⟩⟩
  · simp only [mapError_eq_ok_iff]
    exact Grammar.exists_ofJson_iff
  · simp only [Interpreter.readProgram, mapError_eq_ok_iff]
    exact Grammar.exists_program_iff
  · rw [Program.violations_eq_nil_iff]
    exact Grammar.exists_program_iff
  · rw [Program.isProgram, List.isEmpty_iff, Program.violations_eq_nil_iff]
    exact Grammar.exists_program_iff

end JsonExpr
