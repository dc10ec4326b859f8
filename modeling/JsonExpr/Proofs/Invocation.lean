import JsonExpr.Proofs.Expansion
import JsonExpr.Proofs.RoundTrip

namespace JsonExpr

/-- The last argument that is given by position for a parameter name. -/
def lastArgument? {α : Type} (params : List Param) (args : List α) (name : String) : Option α :=
  Bindings.get? ((paramNames params).zip args).reverse name

section Arguments

variable {α : Type} {params : List Param} {args : List α}

theorem map_fst_zip_paramNames (hlength : args.length = params.length) :
    ((paramNames params).zip args).map Prod.fst = paramNames params :=
  List.map_fst_zip (by rw [paramNames, List.length_map, hlength])

theorem lastArgument?_isSome_iff (hlength : args.length = params.length) {name : String} :
    (lastArgument? params args name).isSome ↔ name ∈ paramNames params := by
  rw [lastArgument?, Bindings.get?_isSome_iff, Bindings.names, List.map_reverse,
    map_fst_zip_paramNames hlength, List.mem_reverse]

theorem mem_of_lastArgument? {name : String} {arg : α}
    (h : lastArgument? params args name = some arg) : arg ∈ args :=
  (List.of_mem_zip (List.mem_reverse.mp (Bindings.mem_of_get? h))).2

theorem ofList_zip_eq {others : List α} (hlength : args.length = params.length)
    (h : List.Forall₂ (fun name other => lastArgument? params args name = some other)
      (paramNames params) others) :
    Bindings.ofList ((paramNames params).zip others) =
      Bindings.ofList ((paramNames params).zip args) := by
  have hothers : others.length = params.length := by
    rw [← h.length_eq, paramNames, List.length_map]
  have hnames := map_fst_zip_paramNames hothers
  refine Bindings.eq_of_get?_eq (Bindings.nodup_names_ofList _) ?_ fun name => ?_
  · rw [Bindings.names_ofList, Bindings.names_ofList, hnames, map_fst_zip_paramNames hlength]
  · rw [Bindings.get?_ofList, Bindings.get?_ofList]
    change lastArgument? params others name = lastArgument? params args name
    cases hother : lastArgument? params others name with
    | some other =>
        have hmem := List.mem_reverse.mp (Bindings.mem_of_get? hother)
        exact ((List.forall₂_iff_zip.mp h).2 hmem).symm
    | none =>
        have hnot : ¬ (lastArgument? params args name).isSome := by
          rw [lastArgument?_isSome_iff hlength, ← lastArgument?_isSome_iff hothers, hother]
          simp
        exact (Option.not_isSome_iff_eq_none.mp hnot).symm

end Arguments

namespace Macros

/-- The record gives each parameter, and nothing else, the JSON form of its last argument. -/
def PassesByName (params : List Param) (args : List Expr) (fields : Bindings Json) : Prop :=
  ∀ name, fields.get? name = (lastArgument? params args name).map Expr.toJson

variable {macros : Macros} {target : String} {params : List Param} {args : List Expr}
  {fields : Bindings Json}

namespace PassesByName

theorem mem_names_iff (h : PassesByName params args fields)
    (hlength : args.length = params.length) {name : String} :
    name ∈ fields.names ↔ name ∈ paramNames params := by
  rw [← Bindings.get?_isSome_iff, h name, Option.isSome_map, lastArgument?_isSome_iff hlength]

/-- The last argument of a parameter is read from its field, because what was read once is read back
from what is written for it. -/
theorem fieldArgument_eq (h : PassesByName params args fields)
    (hargs : ∀ arg ∈ args, ∃ value, Expr.ofJson value = .ok arg) {name : String} {arg : Expr}
    (harg : lastArgument? params args name = some arg) :
    fieldArgument target fields name = .ok arg := by
  obtain ⟨value, hvalue⟩ := hargs arg (mem_of_lastArgument? harg)
  have hread : Expr.ofJson arg.toJson = .ok arg :=
    Expr.ofJson_toJson_eq_ok_iff.mpr
      (Expr.key_notMem_targets_of_spells (Expr.ofJson_eq_ok_iff.mp hvalue))
  have hfield : fields.get? name = some arg.toJson := by
    rw [h name, harg, Option.map_some]
  rw [fieldArgument, hfield]
  exact located_eq_ok_iff.mpr hread

theorem fieldArguments_eq (h : PassesByName params args fields)
    (hlength : args.length = params.length)
    (hargs : ∀ arg ∈ args, ∃ value, Expr.ofJson value = .ok arg) :
    fieldArguments target params fields = .ok (.ofList ((paramNames params).zip args)) := by
  have hknown : (fields.find? fun field => ! (paramNames params).contains field.1) = none := by
    rw [List.find?_eq_none]
    intro field hfield
    have hname := (h.mem_names_iff hlength).mp (List.mem_map_of_mem hfield)
    simpa using hname
  have hgiven : ((paramNames params).find? fun name => ! fields.has name) = none :=
    Bindings.find?_absent_eq_none_iff.mpr fun name hname => (h.mem_names_iff hlength).mpr hname
  -- The record is read name by name, a repeated one each time as the same last argument.
  have hlast : ∀ name ∈ paramNames params, ∃ arg, lastArgument? params args name = some arg :=
    fun name hname => Option.isSome_iff_exists.mp ((lastArgument?_isSome_iff hlength).mpr hname)
  obtain ⟨others, hothers⟩ := exists_forall₂ hlast
  have hread : (paramNames params).mapM (fieldArgument target fields) = .ok others :=
    mapM_eq_ok_iff.mpr (hothers.imp fun _ _ harg => h.fieldArgument_eq hargs harg)
  rw [fieldArguments, hknown, hgiven, hread, ← ofList_zip_eq hlength hothers]
  rfl

end PassesByName

variable {definition : Macro}

theorem invoked?_of_get? {e : Expr} (htarget : e.target? = some target)
    (hdefined : macros.table.get? target = some definition) :
    macros.invoked? e = some (target, definition) := by
  simp [invoked?, htarget, hdefined]

theorem expandOnce_of_arguments {e : Expr} {bound : Bindings Expr}
    (hinvoked : macros.invoked? e = some (target, definition))
    (harguments : arguments target definition e = .ok bound) :
    macros.expandOnce e = .ok (definition.body.substitute bound) := by
  rw [expandOnce, hinvoked]
  simp only [harguments]
  rfl

theorem expand_eq_of_expandOnce_eq {e other once : Expr} {found : String × Macro}
    (he : macros.invoked? e = some found) (hother : macros.invoked? other = some found)
    (honce : macros.expandOnce e = .ok once) (hotherOnce : macros.expandOnce other = .ok once)
    (stack : Nat) (depth : Int) :
    macros.expand stack depth e = macros.expand stack depth other := by
  cases stack with
  | zero => rfl
  | succ stack =>
      by_cases hdepth : depth ≤ macros.maxDepth
      · rw [expand_of_invoked hdepth he, expand_of_invoked hdepth hother, honce, hotherOnce]
      · have hexceeded := Int.not_le.mp hdepth
        rw [expand_of_exceeded hexceeded, expand_of_exceeded hexceeded]

/-- A macro that is given as many arguments as it has parameters, each of them an expression that
was read, is expanded alike by position and by name: whatever the stack, and with an outcome that
both come to. -/
theorem invocation_by_name_eq_by_position (hdefined : macros.table.get? target = some definition)
    (hlength : args.length = definition.params.length)
    (hargs : ∀ arg ∈ args, ∃ value, Expr.ofJson value = .ok arg)
    (hfields : PassesByName definition.params args fields) (depth : Int) :
    (∀ stack, macros.expand stack depth (.call target args) =
        macros.expand stack depth (.record target fields)) ∧
      ∃ outcome, macros.Settles depth (.call target args) outcome ∧
        macros.Settles depth (.record target fields) outcome := by
  have hcall : macros.invoked? (.call target args) = some (target, definition) :=
    invoked?_of_get? rfl hdefined
  have hrecord : macros.invoked? (.record target fields) = some (target, definition) :=
    invoked?_of_get? rfl hdefined
  have hposition : arguments target definition (.call target args) =
      .ok (.ofList ((paramNames definition.params).zip args)) := by
    rw [arguments, bindArguments, if_pos hlength]
  have hname : arguments target definition (.record target fields) =
      .ok (.ofList ((paramNames definition.params).zip args)) := by
    rw [arguments, hfields.fieldArguments_eq hlength hargs]
    rfl
  have hsame (stack : Nat) : macros.expand stack depth (.call target args) =
      macros.expand stack depth (.record target fields) :=
    expand_eq_of_expandOnce_eq hcall hrecord (expandOnce_of_arguments hcall hposition)
      (expandOnce_of_arguments hrecord hname) stack depth
  have hlevels : macros.maxDepth - depth < (macros.maxDepth - depth + 1).toNat := by omega
  obtain ⟨stack, hstack⟩ := exists_expand_ne_exhausted _ hlevels (.call target args)
  exact ⟨hsame, _, settles_of_expand rfl hstack, settles_of_expand (hsame stack).symm hstack⟩

/-- A macro with the parameter `a` twice, whose body invokes another macro by name. The first of its
arguments is lost both ways. -/
theorem invocation_by_name_eq_by_position_repeatedParam :
    let macros : Macros :=
      { table :=
          [("twice", { params := [⟨"x", none⟩], body := .call "list" [.ref "x", .ref "x"] }),
            ("pick", { params := [⟨"a", none⟩, ⟨"b", some "T"⟩, ⟨"a", none⟩],
                       body := .sequence [.record "twice" [("x", .obj [("ref", .str "a")])],
                         .ref "b"] })],
        maxDepth := 3 }
    let args : List Expr :=
      [.literal .null, .binding "y" (.ref "z"), .call "twice" [.literal (.str "s")]]
    let fields : Bindings Json :=
      [("b", .obj [("let", .obj [("name", .str "y"), ("value", .obj [("ref", .str "z")])])]),
        ("a", .obj [("twice", .arr [.str "s"])])]
    let pair : Expr := .call "list" [.literal (.str "s"), .literal (.str "s")]
    let expanded : Expr := .sequence [.call "list" [pair, pair], .binding "y" (.ref "z")]
    macros.Settles 0 (.call "pick" args) (.ok expanded) ∧
      macros.Settles 0 (.record "pick" fields) (.ok expanded) ∧
      ∀ depth stack, macros.expand stack depth (.call "pick" args) =
        macros.expand stack depth (.record "pick" fields) := by
  intro macros args fields pair expanded
  have hread : ∀ arg ∈ args, ∃ value, Expr.ofJson value = .ok arg := by
    simp only [args, List.forall_mem_cons]
    exact ⟨⟨.null, rfl⟩, ⟨.obj [("let", .obj [("value", .obj [("ref", .str "z")]),
      ("name", .str "y")])], rfl⟩, ⟨.obj [("twice", .arr [.str "s"])], rfl⟩, by simp⟩
  have hfields : PassesByName [⟨"a", none⟩, ⟨"b", some "T"⟩, ⟨"a", none⟩] args fields := by
    intro name
    by_cases ha : "a" = name
    · subst ha
      rfl
    by_cases hb : "b" = name
    · subst hb
      rfl
    simp [lastArgument?, fields, args, paramNames, Bindings.get?_cons, ha, hb]
  have hdefined : macros.table.get? "pick" = some _ := rfl
  have hdepth (depth : Int) :=
    invocation_by_name_eq_by_position hdefined rfl hread hfields depth
  obtain ⟨_, outcome, hcall, hrecord⟩ := hdepth 0
  have hrun : macros.expand 9 0 (.call "pick" args) = .ok expanded := rfl
  obtain rfl : .ok expanded = outcome := by
    rcases hcall.always 9 with h | h
    · exact hrun ▸ h
    · rw [hrun] at h
      cases h
  exact ⟨hcall, hrecord, fun depth => (hdepth depth).1⟩

end Macros

end JsonExpr
