import JsonExpr.Proofs.Grammar
import JsonExpr.Proofs.Pointer
import JsonExpr.Proofs.RoundTrip
import JsonExpr.Proofs.Session

namespace JsonExpr

/-- The declarations of one place. -/
def declarationsOf (source : Option String) (types : Bindings Json) :
    List (Option String × String × Json) :=
  types.map fun (name, document) => (source, name, document)

namespace Json

/-- What stands under a key is an object with the given members, or nothing stands there and there
are none. -/
inductive Holds (members : Bindings Json) (key : String) : Bindings Json → Prop
  | absent : members.get? key = none → Holds members key []
  | present {entries : Bindings Json} :
      members.get? key = some (.obj entries) → Holds members key entries

/-- The members of the object under a key, if one stands there. -/
def membersAt (value : Json) (key : String) : Bindings Json :=
  match value.part? key with
  | some (.obj members) => members
  | _ => []

/-- The types that a document declares, in the order of the document: those of the program, then
those of each module. -/
def declaredTypes (document : Json) : List (Option String × String × Json) :=
  declarationsOf none (document.membersAt "types") ++
    (document.membersAt "modules").flatMap fun entry =>
      declarationsOf (some entry.1) (entry.2.membersAt "types")

/-- Where in a document a type is declared. -/
def typeLocation : Option String → String → List String
  | none, name => ["types", name]
  | some source, name => ["modules", source, "types", name]

namespace Holds

variable {members entries : Bindings Json} {key : String}

theorem entriesAt_eq (h : Holds members key entries) : entriesAt members key = .ok entries := by
  cases h with
  | absent h => simp only [entriesAt, h]
  | present h => simp only [entriesAt, h]

theorem membersAt_eq (h : Holds members key entries) : (obj members).membersAt key = entries := by
  cases h with
  | absent h => simp only [membersAt, part?, h]
  | present h => simp only [membersAt, part?, h]

theorem distinctKeys (h : Holds members key entries)
    (hdistinct : (obj members).distinctKeys = true) : (obj entries).distinctKeys = true := by
  cases h with
  | absent _ => rfl
  | present h => exact distinctKeys_of_get? hdistinct h

theorem at?_eq (h : Holds members key entries) (name : String) (rest : List String) :
    (obj members).at? (key :: name :: rest) = (obj entries).at? (name :: rest) := by
  cases h with
  | absent h => simp [at?, part?, h]
  | present h =>
      have hpart : (obj members).part? key = some (obj entries) := h
      exact at?_cons hpart _

theorem mem_iff_at? (h : Holds members key entries) (hdistinct : (obj members).distinctKeys = true)
    {name : String} {value : Json} :
    (name, value) ∈ entries ↔ (obj members).at? [key, name] = some value := by
  rw [h.at?_eq, Bindings.mem_iff_get? (nodup_of_distinctKeys (h.distinctKeys hdistinct))]
  simp [at?, part?]

end Holds

end Json

theorem holds_of_typesMember {members types : Bindings Json} (h : typesMember members = .ok types) :
    Json.Holds members "types" types := by
  unfold typesMember at h
  split at h
  · rename_i value hvalue
    rw [located_eq_ok_iff, typesOf_eq_ok_iff] at h
    exact .present (h.1 ▸ hvalue)
  · rename_i habsent
    cases h
    exact .absent habsent

/-- A member of the object of modules, and the module that was read from it. -/
structure Module.ReadFrom (declared : String × Module) (entry : String × Json) : Prop where
  name_eq : declared.1 = entry.1
  holds : ∃ members, entry.2 = .obj members ∧ Json.Holds members "types" declared.2.types

theorem holds_of_modulesMember {members : Bindings Json} {modules : Bindings Module}
    (h : Program.modulesMember members = .ok modules) :
    ∃ entries, Json.Holds members "modules" entries ∧
      List.Forall₂ Module.ReadFrom modules entries := by
  unfold Program.modulesMember at h
  split at h
  · rename_i value hvalue
    obtain ⟨entries, hobject, heach⟩ := bind_eq_ok_iff.mp (located_eq_ok_iff.mp h)
    rw [Json.asObject_eq_ok_iff.mp hobject] at hvalue
    refine ⟨entries, .present hvalue, ?_⟩
    refine ((Module.eachOfJson_eq_ok_iff.mp heach).imp fun entry declared hread => ?_).flip
    obtain ⟨held, items, hentry, _, _, htypes, _⟩ := Module.ofJson_eq_ok_iff.mp hread.2
    exact ⟨hread.1, held, hentry, holds_of_typesMember htypes⟩
  · rename_i habsent
    cases h
    exact ⟨[], .absent habsent, .nil⟩

theorem holds_of_program {document : Json} {program : Program}
    (h : Program.ofJson document = .ok program) :
    ∃ members entries, document = .obj members ∧ Json.Holds members "types" program.types ∧
      Json.Holds members "modules" entries ∧
      List.Forall₂ Module.ReadFrom program.modules entries := by
  obtain ⟨members, items, rfl, _, _, _, htypes, hmodules, _⟩ := Program.ofJson_eq_ok_iff.mp h
  obtain ⟨entries, hentries, hread⟩ := holds_of_modulesMember hmodules
  exact ⟨members, entries, rfl, holds_of_typesMember htypes, hentries, hread⟩

def Module.declarations (declared : String × Module) : List (Option String × String × Json) :=
  declarationsOf (some declared.1) declared.2.types

theorem Program.declaredTypes_eq (program : Program) :
    program.declaredTypes =
      declarationsOf none program.types ++ program.modules.flatMap Module.declarations :=
  rfl

theorem flatMap_declarations_eq {modules : Bindings Module} {entries : Bindings Json}
    (h : List.Forall₂ Module.ReadFrom modules entries) :
    (entries.flatMap fun entry => declarationsOf (some entry.1) (entry.2.membersAt "types")) =
      modules.flatMap Module.declarations := by
  induction h with
  | nil => rfl
  | cons hfirst _ ih =>
      obtain ⟨hname, held, hentry, htypes⟩ := hfirst
      rw [List.flatMap_cons, List.flatMap_cons, ih, Module.declarations, hname, hentry,
        htypes.membersAt_eq]

theorem declaredTypes_eq_of_ofJson {document : Json} {program : Program}
    (h : Program.ofJson document = .ok program) :
    document.declaredTypes = program.declaredTypes := by
  obtain ⟨members, entries, rfl, htypes, hmodules, hread⟩ := holds_of_program h
  rw [Json.declaredTypes, htypes.membersAt_eq, hmodules.membersAt_eq, Program.declaredTypes_eq,
    flatMap_declarations_eq hread]

/-- Whether none of some declared types is found invalid. -/
def noneInvalid (faultOf : TypeCheck) (declared : List (Option String × String × Json)) :
    Except Error Bool :=
  (Program.firstInvalid? faultOf declared).map Option.isNone

section Walks

variable (faultOf : TypeCheck)

theorem noneInvalid_cons (source : Option String) (name : String) (document : Json)
    (rest : List (Option String × String × Json)) :
    noneInvalid faultOf ((source, name, document) :: rest) =
      faultOf document >>= fun fault =>
        if fault.isNone then noneInvalid faultOf rest else .ok false := by
  rw [noneInvalid, Program.firstInvalid?]
  rcases faultOf document with e | (_ | reason) <;> rfl

theorem noneInvalid_append (first second : List (Option String × String × Json)) :
    noneInvalid faultOf (first ++ second) =
      noneInvalid faultOf first >>= fun valid =>
        if valid then noneInvalid faultOf second else .ok false := by
  induction first with
  | nil => rfl
  | cons declared rest ih =>
      obtain ⟨source, name, document⟩ := declared
      rw [List.cons_append, noneInvalid_cons, noneInvalid_cons, ih]
      rcases faultOf document with e | (_ | reason) <;> rfl

theorem allValid_eq_noneInvalid (source : Option String) (types : Bindings Json) :
    Json.allValid faultOf types = noneInvalid faultOf (declarationsOf source types) := by
  induction types with
  | nil => rfl
  | cons entry rest ih =>
      obtain ⟨name, document⟩ := entry
      rw [declarationsOf, List.map_cons, noneInvalid_cons, Json.allValid, ih]
      rfl

theorem moduleTypesValid_eq_noneInvalid {modules : Bindings Module} {entries : Bindings Json}
    (h : List.Forall₂ Module.ReadFrom modules entries) :
    Json.moduleTypesValid faultOf entries =
      noneInvalid faultOf (modules.flatMap Module.declarations) := by
  induction h with
  | nil => rfl
  | @cons declared entry modules entries hfirst _ ih =>
      obtain ⟨source, value⟩ := entry
      obtain ⟨_, members, rfl, htypes⟩ := hfirst
      rw [Json.moduleTypesValid, htypes.entriesAt_eq, List.flatMap_cons, noneInvalid_append,
        Module.declarations, ← allValid_eq_noneInvalid, ← ih]
      rfl

/-- The two walks agree, also on where a check that itself fails stops them. -/
theorem typesValid_eq_of_ofJson {document : Json} {program : Program}
    (h : Program.ofJson document = .ok program) :
    document.typesValid faultOf = program.typesValid faultOf := by
  obtain ⟨members, entries, rfl, htypes, hmodules, hread⟩ := holds_of_program h
  have hprogram : program.typesValid faultOf = noneInvalid faultOf program.declaredTypes := by
    rw [Program.typesValid, Program.invalidType?, noneInvalid]
    cases Program.firstInvalid? faultOf program.declaredTypes <;> rfl
  rw [hprogram, Program.declaredTypes_eq, noneInvalid_append, ← allValid_eq_noneInvalid,
    ← moduleTypesValid_eq_noneInvalid faultOf hread, Json.typesValid, htypes.entriesAt_eq,
    hmodules.entriesAt_eq]
  rfl

end Walks

section Locations

theorem mem_declarationsOf_iff {source declaring : Option String} {types : Bindings Json}
    {name : String} {document : Json} :
    (declaring, name, document) ∈ declarationsOf source types ↔
      declaring = source ∧ (name, document) ∈ types := by
  rw [declarationsOf, List.mem_map]
  constructor
  · rintro ⟨entry, hentry, heq⟩
    cases heq
    exact ⟨rfl, hentry⟩
  · rintro ⟨rfl, hentry⟩
    exact ⟨_, hentry, rfl⟩

theorem map_declarationsOf (source : Option String) (types : Bindings Json) :
    ((declarationsOf source types).map fun declared => (declared.1, declared.2.1)) =
      types.names.map (Prod.mk source) := by
  rw [declarationsOf, Bindings.names, List.map_map, List.map_map]
  rfl

theorem nodup_places {source : Option String} {types : Bindings Json}
    (h : (Json.obj types).distinctKeys = true) : (types.names.map (Prod.mk source)).Nodup :=
  (Json.nodup_of_distinctKeys h).map fun _ _ heq => (Prod.mk.inj heq).2

theorem exists_holds_of_mem {modules : Bindings Module} {entries : Bindings Json}
    (hread : List.Forall₂ Module.ReadFrom modules entries)
    (hdistinct : (Json.obj entries).distinctKeys = true) {entry : String × Json}
    (hentry : entry ∈ entries) :
    ∃ held types, entry.2 = .obj held ∧ (Json.obj held).distinctKeys = true ∧
      Json.Holds held "types" types := by
  obtain ⟨_, _, held, hheld, hholds⟩ := exists_of_forall₂ hread hentry
  have hget := Bindings.get?_of_mem (Json.nodup_of_distinctKeys hdistinct) hentry
  exact ⟨held, _, hheld, Json.distinctKeys_of_get? hdistinct (hheld ▸ hget), hholds⟩

variable {document : Json} {program : Program}

theorem mem_declaredTypes_iff (hread : Program.ofJson document = .ok program)
    (hdistinct : document.distinctKeys = true) {source : Option String} {name : String}
    {declared : Json} :
    (source, name, declared) ∈ document.declaredTypes ↔
      document.at? (Json.typeLocation source name) = some declared := by
  obtain ⟨members, entries, rfl, htypes, hmodules, hentries⟩ := holds_of_program hread
  rw [Json.declaredTypes, htypes.membersAt_eq, hmodules.membersAt_eq, List.mem_append,
    mem_declarationsOf_iff, List.mem_flatMap]
  simp only [mem_declarationsOf_iff]
  cases source with
  | none => simp [Json.typeLocation, htypes.mem_iff_at? hdistinct]
  | some source =>
      have hinner := hmodules.distinctKeys hdistinct
      have hmodule {entry : String × Json} (hentry : entry ∈ entries) :
          (name, declared) ∈ entry.2.membersAt "types" ↔
            entry.2.at? ["types", name] = some declared := by
        obtain ⟨held, types, hheld, hheldDistinct, hholds⟩ :=
          exists_holds_of_mem hentries hinner hentry
        rw [hheld, hholds.membersAt_eq, hholds.mem_iff_at? hheldDistinct]
      rw [Json.typeLocation, hmodules.at?_eq, Json.at?, Option.bind_eq_some_iff]
      simp only [reduceCtorEq, false_and, false_or, Option.some_inj]
      constructor
      · rintro ⟨entry, hentry, rfl, hmem⟩
        have hget := Bindings.get?_of_mem (Json.nodup_of_distinctKeys hinner) hentry
        exact ⟨entry.2, hget, (hmodule hentry).mp hmem⟩
      · rintro ⟨value, hget, hat⟩
        have hentry : (source, value) ∈ entries := Bindings.mem_of_get? hget
        exact ⟨_, hentry, rfl, (hmodule hentry).mpr hat⟩

theorem nodup_declaredTypes (hread : Program.ofJson document = .ok program)
    (hdistinct : document.distinctKeys = true) :
    (document.declaredTypes.map fun declared => (declared.1, declared.2.1)).Nodup := by
  obtain ⟨members, entries, rfl, htypes, hmodules, hentries⟩ := holds_of_program hread
  have hinner := hmodules.distinctKeys hdistinct
  rw [Json.declaredTypes, htypes.membersAt_eq, hmodules.membersAt_eq, List.map_append,
    List.map_flatMap]
  simp only [map_declarationsOf]
  rw [List.nodup_append]
  refine ⟨?_, ?_, ?_⟩
  · exact nodup_places (htypes.distinctKeys hdistinct)
  · rw [List.nodup_flatMap]
    constructor
    · intro entry hentry
      obtain ⟨held, types, hheld, hheldDistinct, hholds⟩ :=
        exists_holds_of_mem hentries hinner hentry
      rw [hheld, hholds.membersAt_eq]
      exact nodup_places (hholds.distinctKeys hheldDistinct)
    -- A place names its module, so modules of different names have none in common.
    · refine (List.pairwise_map.mp (Json.nodup_of_distinctKeys hinner)).imp fun hne => ?_
      intro place hfirst hsecond
      obtain ⟨_, _, rfl⟩ := List.mem_map.mp hfirst
      obtain ⟨_, _, heq⟩ := List.mem_map.mp hsecond
      exact hne (Option.some_inj.mp (Prod.mk.inj heq).1).symm
  · intro place hplace other hother heq
    obtain ⟨_, _, rfl⟩ := List.mem_map.mp hplace
    obtain ⟨_, _, hother⟩ := List.mem_flatMap.mp hother
    obtain ⟨_, _, rfl⟩ := List.mem_map.mp hother
    cases heq

end Locations

/-- A check that comes to an answer on every document. -/
def TypeCheck.total (fault? : Json → Option String) : TypeCheck := fun document =>
  .ok (fault? document)

/-- What is reported of a declared type, if anything is wrong with it. -/
def InvalidType.of? (fault? : Json → Option String) (declared : Option String × String × Json) :
    Option InvalidType :=
  (fault? declared.2.2).map fun reason =>
    { source := declared.1, name := declared.2.1, reason }

section Total

variable (fault? : Json → Option String)

theorem firstInvalid?_total (declared : List (Option String × String × Json)) :
    Program.firstInvalid? (.total fault?) declared =
      .ok (declared.filterMap (InvalidType.of? fault?)).head? := by
  induction declared with
  | nil => rfl
  | cons first rest ih =>
      obtain ⟨source, name, document⟩ := first
      rw [Program.firstInvalid?, ih, List.filterMap_cons, TypeCheck.total, InvalidType.of?]
      cases fault? document <;> rfl

theorem invalidTypes_total (program : Program) :
    program.invalidTypes (.total fault?) =
      .ok (program.declaredTypes.filterMap (InvalidType.of? fault?)) := by
  rw [Program.invalidTypes]
  induction program.declaredTypes with
  | nil => rfl
  | cons first rest ih =>
      obtain ⟨source, name, document⟩ := first
      rw [List.filterMapM_cons, ih, List.filterMap_cons, InvalidType.of?]
      simp only [TypeCheck.total]
      cases fault? document <;> rfl

theorem map_filterMap_sublist (declared : List (Option String × String × Json)) :
    ((declared.filterMap (InvalidType.of? fault?)).map fun invalid =>
      (invalid.source, invalid.name)).Sublist
      (declared.map fun declared => (declared.1, declared.2.1)) := by
  induction declared with
  | nil => exact .slnil
  | cons first rest ih =>
      rw [List.filterMap_cons, List.map_cons, InvalidType.of?]
      cases fault? first.2.2 with
      | none => exact ih.cons _
      | some reason => exact ih.cons_cons _

theorem mem_filterMap_iff {declared : List (Option String × String × Json)}
    {invalid : InvalidType} :
    invalid ∈ declared.filterMap (InvalidType.of? fault?) ↔
      ∃ document, (invalid.source, invalid.name, document) ∈ declared ∧
        fault? document = some invalid.reason := by
  simp only [List.mem_filterMap, InvalidType.of?, Option.map_eq_some_iff]
  constructor
  · rintro ⟨⟨source, name, document⟩, hmem, reason, hreason, rfl⟩
    exact ⟨document, hmem, hreason⟩
  · rintro ⟨document, hmem, hreason⟩
    exact ⟨_, hmem, _, hreason, rfl⟩

end Total

theorem Interpreter.load_of_invalid {interpreter : Interpreter} {document : Json}
    {program : Program} {invalid : InvalidType}
    (hfits : document.fitsWithin interpreter.stack = true)
    (hread : readProgram document = .ok program)
    (hinvalid : program.invalidType? interpreter.faultOf = .ok (some invalid)) :
    interpreter.load document = .error invalid.toError := by
  simp only [load, onDocument, if_pos hfits, hread, bind, Except.bind, hinvalid]
  rfl

/-- The document and the program read from it are checked alike. For every check that always comes
to an answer, both are valid exactly if nothing is wrong with any type that stands in the document,
and otherwise the types reported are those with a fault, each once and in the order of the document;
loading stops at the first. -/
theorem type_checks_agree {document : Json} {program : Program}
    (hread : Interpreter.readProgram document = .ok program)
    (hdistinct : document.distinctKeys = true) :
    (∀ faultOf : TypeCheck, document.typesValid faultOf = program.typesValid faultOf) ∧
      ∀ fault? : Json → Option String, ∃ invalids valid,
        document.typesValid (.total fault?) = .ok valid ∧
          program.typesValid (.total fault?) = .ok valid ∧
          (valid = true ↔ ∀ source name declared,
            document.at? (Json.typeLocation source name) = some declared →
              fault? declared = none) ∧
          program.invalidTypes (.total fault?) = .ok invalids ∧
          invalids = document.declaredTypes.filterMap (InvalidType.of? fault?) ∧
          (∀ invalid, invalid ∈ invalids ↔ ∃ declared,
            document.at? (Json.typeLocation invalid.source invalid.name) = some declared ∧
              fault? declared = some invalid.reason) ∧
          (invalids.map fun invalid => (invalid.source, invalid.name)).Nodup ∧
          ∀ interpreter : Interpreter, interpreter.faultOf = .total fault? →
            document.fitsWithin interpreter.stack = true →
            (interpreter.load document = .ok program ↔ invalids = []) ∧
              ∀ first, invalids.head? = some first →
                interpreter.load document =
                  .error (.invalidType first.name first.source first.reason) := by
  have hofJson : Program.ofJson document = .ok program := mapError_eq_ok_iff.mp hread
  have hsame (faultOf : TypeCheck) := typesValid_eq_of_ofJson faultOf hofJson
  refine ⟨hsame, fun fault? => ?_⟩
  have hdeclared := declaredTypes_eq_of_ofJson hofJson
  have hinvalids := invalidTypes_total fault? program
  have hfirst : program.invalidType? (.total fault?) = _ := firstInvalid?_total fault? _
  rw [← hdeclared] at hfirst hinvalids
  have hvalid : program.typesValid (.total fault?) =
      .ok (document.declaredTypes.filterMap (InvalidType.of? fault?)).head?.isNone := by
    rw [Program.typesValid, hfirst]
    rfl
  refine ⟨_, _, (hsame _).trans hvalid, hvalid, ?_, hinvalids, rfl, ?_, ?_, ?_⟩
  · simp only [Option.isNone_iff_eq_none, List.head?_eq_none_iff, List.filterMap_eq_nil_iff,
      Prod.forall, InvalidType.of?, Option.map_eq_none_iff, mem_declaredTypes_iff hofJson hdistinct]
  · intro invalid
    simp only [mem_filterMap_iff, mem_declaredTypes_iff hofJson hdistinct]
  · exact (nodup_declaredTypes hofJson hdistinct).sublist (map_filterMap_sublist fault? _)
  · intro interpreter hfaultOf hfits
    rw [← hfaultOf] at hfirst
    constructor
    · simp only [Interpreter.load_eq_ok_iff, hfits, hofJson, hfirst, true_and, Except.ok.injEq,
        List.head?_eq_none_iff]
    · intro first hhead
      rw [hhead] at hfirst
      exact Interpreter.load_of_invalid hfits hread hfirst

/-- A document whose modules stand before its types. -/
def declaringDocument : Json :=
  .obj [("jexl_version", .str "v0.1"), ("name", .str "main"), ("program", .arr []),
    ("modules", .obj [("m", .obj [("types", .obj [("T", .obj [("x", .null)])]),
      ("exports", .arr [])])]),
    ("types", .obj [("T", .obj []), ("U", .obj [("y", .null)])])]

def declaringProgram : Program where
  name := "main"
  body := []
  types := [("T", .obj []), ("U", .obj [("y", .null)])]
  modules := [("m", { exports := [], types := [("T", .obj [("x", .null)])] })]

def notEmpty? (document : Json) : Option String :=
  if document.isEmptyValue then none else some "not empty"

theorem type_checks_agree_declaringDocument :
    Interpreter.readProgram declaringDocument = .ok declaringProgram ∧
      declaringDocument.distinctKeys = true ∧
      declaringProgram.invalidTypes (.total notEmpty?) =
        .ok [⟨none, "U", "not empty"⟩, ⟨some "m", "T", "not empty"⟩] ∧
      Interpreter.load { maxCallDepth := 1, faultOf := .total notEmpty?, stack := 8 }
        declaringDocument = .error (.invalidType "U" none "not empty") := by
  have hread : Interpreter.readProgram declaringDocument = .ok declaringProgram := rfl
  have hdistinct : declaringDocument.distinctKeys = true := by decide
  have hdeclared : declaringDocument.declaredTypes.filterMap (InvalidType.of? notEmpty?) =
      [⟨none, "U", "not empty"⟩, ⟨some "m", "T", "not empty"⟩] := rfl
  obtain ⟨invalids, _, _, _, _, hinvalids, hlist, _, _, hload⟩ :=
    (type_checks_agree hread hdistinct).2 notEmpty?
  rw [hdeclared] at hlist
  subst hlist
  exact ⟨hread, hdistinct, hinvalids, (hload _ rfl (by decide)).2 _ rfl⟩

end JsonExpr
