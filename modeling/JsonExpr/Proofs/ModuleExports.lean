import JsonExpr.Proofs.Repetition
import JsonExpr.Proofs.Termination

/-!
What a module exports is determined by its declaration. The load of a module is compared with the
load of the same module in another session: both begin in an empty frame and evaluate the same
expressions. Where they import, one may find a module loaded that the other has to load; but by the
time either goes on the module is loaded in both, and as fewer modules had been loaded then, it
exports the same in both by induction.
-/

namespace JsonExpr

/-- Two interpreters with the same builtins, the same limit on calls and the same settings, and
programs that declare the same modules. -/
structure SameModules (first second : Interpreter) (modules others : Bindings Module) : Prop where
  builtins_eq : second.builtins = first.builtins
  maxCallDepth_eq : second.maxCallDepth = first.maxCallDepth
  settings_eq : second.settings = first.settings
  modules_eq : ∀ name, others.get? name = modules.get? name

namespace SameModules

variable {first second : Interpreter} {modules others : Bindings Module} {env away : FrameId}
  {store twin : Store}

theorem baseFrame_eq (h : SameModules first second modules others) :
    second.baseFrame = first.baseFrame := by
  rw [Interpreter.baseFrame, h.builtins_eq, h.maxCallDepth_eq, Interpreter.baseFrame]

theorem moduleExports_eq (h : SameModules first second modules others) {stack room : Nat}
    {declared : Module} {exported again : Macros × List Expr}
    (hexported : Eval.moduleExports stack first.settings declared = .ok exported)
    (hagain : Eval.moduleExports room second.settings declared = .ok again) : again = exported := by
  have hle {stack room : Nat} {exported again : Macros × List Expr}
      (hexported : Eval.moduleExports stack first.settings declared = .ok exported)
      (hagain : Eval.moduleExports room first.settings declared = .ok again) (hle : stack ≤ room) :
      again = exported := by
    have hne : Eval.moduleExports stack first.settings declared ≠ .error .stackExhausted := by
      rw [hexported]
      simp
    rw [Eval.moduleExports_eq_of_le hne hle, hexported] at hagain
    exact (Except.ok.inj hagain).symm
  rw [h.settings_eq] at hagain
  rcases Nat.le_total stack room with hstack | hroom
  · exact hle hexported hagain hstack
  · exact (hle hagain hexported hroom).symm

theorem opening (h : SameModules first second modules others)
    (hleft : first.Traced modules store env) (hright : second.Traced others twin away)
    {stack room : Nat} {name : String} {opening again : Opening}
    (hopen : store.findModule stack env name = .ok (.inr opening))
    (hagain : twin.findModule room away name = .ok (.inr again)) :
    again.macros = opening.macros ∧ again.exports = opening.exports ∧
      Twinned first second modules others opening.frame again.frame opening.store
        again.store := by
  have hopened := hleft.opening hopen
  have hreopened := hright.opening hagain
  obtain ⟨declared, macros, exports, _, hdeclared, _, hexports, rfl⟩ :=
    hleft.active.sound.findModule_eq_opening hleft.active.lt_size hopen
  obtain ⟨same, _, _, _, hsame, _, hexpanded, rfl⟩ :=
    hright.active.sound.findModule_eq_opening hright.active.lt_size hagain
  rw [h.modules_eq, hdeclared] at hsame
  cases hsame
  cases h.moduleExports_eq hexports hexpanded
  refine ⟨rfl, rfl, hopened, hreopened, ?_, ?_⟩
  · rw [Store.openModule_frame]
    exact Nat.succ_ne_zero _
  · have hbase : Store.rootFrame 0 store.registry.builtins (some first.maxCallDepth) =
        first.baseFrame := by
      rw [hleft.active.sound.registry_eq]
      rfl
    have hcopy : Store.rootFrame 0 twin.registry.builtins (some second.maxCallDepth) =
        first.baseFrame := by
      rw [hright.active.sound.registry_eq, ← h.baseFrame_eq]
      rfl
    rw [Store.openModule_frame, Store.openModule_frame]
    refine .inner Store.frame_openModule_inner Store.frame_openModule_inner rfl rfl
      (Nat.lt_succ_self _) (Nat.lt_succ_self _) ⟨rfl, .nil⟩ (.base ?_ ?_)
    · rw [Store.frame_openModule_base, hbase]
    · rw [Store.frame_openModule_base, hcopy]

theorem scoped_of_alike (h : SameModules first second modules others)
    (hleft : first.Traced modules store env) (hright : second.Traced others twin away)
    {name : String} {entry again : LoadedModule}
    (hentry : store.registry.loaded.get? name = some entry)
    (hagain : twin.registry.loaded.get? name = some again) {frame copy : Frame}
    (hframe : store.frames[entry.frame]? = some frame)
    (hcopy : twin.frames[again.frame]? = some copy)
    (halike : frame.Alike (store.Home twin entry.frame again.frame) copy) :
    store.Scoped first.baseFrame twin entry.frame again.frame := by
  obtain ⟨found, base, hfound, hlink, hlt, _, hbase⟩ := hleft.exists_base hentry
  obtain ⟨same, root, hsame, haround, hless, _, hroot⟩ := hright.exists_base hagain
  obtain rfl := Option.some.inj (hframe.symm.trans hfound)
  obtain rfl := Option.some.inj (hcopy.symm.trans hsame)
  rw [h.baseFrame_eq] at hroot
  exact .inner hframe hcopy hlink haround hlt hless halike (.base hbase hroot)

theorem scoped_of_origin (h : SameModules first second modules others)
    (hleft : first.Traced modules store env) (hright : second.Traced others twin away)
    {count : Nat} (hloaded : LoadedAlike first second modules others count)
    (hcount : store.registry.loaded.names.length ≤ count + 1) {name : String}
    {entry again : LoadedModule} (hentry : store.registry.loaded.get? name = some entry)
    (hagain : twin.registry.loaded.get? name = some again) :
    store.Scoped first.baseFrame twin entry.frame again.frame := by
  obtain @⟨before, _, stack, _, opening, final, _, hbefore, horigin, hopen, hrun, hkept⟩ :=
    hleft.origin name entry hentry
  obtain @⟨prior, _, room, _, reopening, ended, _, hprior, hhistory, hreopen, hrerun, hlasting⟩ :=
    hright.origin name again hagain
  obtain ⟨_, hexports, htwinned⟩ := h.opening ⟨hbefore, horigin⟩ ⟨hprior, hhistory⟩ hopen hreopen
  rw [hexports] at hrerun
  obtain ⟨hlast, hinner⟩ := htwinned.left.active.runAll_ok hrun
  obtain ⟨hagainLast, hagainInner⟩ := htwinned.right.active.runAll_ok hrerun
  have hfinish := (hbefore.advances_finish hopen hlast hinner).trans hkept
  have hrefinish := (hprior.advances_finish hreopen hagainLast hagainInner).trans hlasting
  -- The module itself is one of those that have been loaded since.
  have hlength : final.registry.loaded.names.length ≤ count := by
    have hnot : name ∉ final.registry.loaded.names := by
      rw [← Bindings.get?_isSome_iff, hbefore.not_loaded_within hopen hlast hinner]
      exact Bool.false_ne_true
    have hnames := hkept.names_kept.length_le
    rw [hbefore.registry_finish hopen hlast hinner] at hnames
    simp only [Bindings.names_set, if_neg hnot, List.length_append, List.length_singleton] at hnames
    omega
  obtain ⟨_, hfinal⟩ := (Repeats.runAll hloaded stack room opening.exports opening.frame
    reopening.frame).same htwinned hrun hrerun hlength
  obtain ⟨frame, copy, hframe, hcopy, halike⟩ := hfinal.alike.contents
  have hset := hbefore.registry_finish hopen hlast hinner
  have hreset := hprior.registry_finish hreopen hagainLast hagainInner
  refine h.scoped_of_alike hleft hright hentry hagain ?_ ?_
    (halike.mono fun _ _ hhome => hhome.advances hfinish hrefinish)
  · refine (hkept.kept name opening.loaded ?_).2.trans hframe
    rw [hset]
    exact Bindings.get?_set_self _ _ _
  · refine (hlasting.kept name reopening.loaded ?_).2.trans hcopy
    rw [hreset]
    exact Bindings.get?_set_self _ _ _

/-- The modules that have been loaded in both sessions look the same, by induction on how many have
been loaded in the first. -/
theorem loadedAlike (h : SameModules first second modules others) (count : Nat) :
    LoadedAlike first second modules others count := by
  induction count with
  | zero =>
      intro store twin env away hleft hright hcount i j htwins
      obtain ⟨name, entry, _, hentry, _, _, _⟩ := htwins
      have hname := Bindings.mem_names_of_get? hentry
      rw [List.eq_nil_of_length_eq_zero (Nat.le_zero.mp hcount)] at hname
      cases hname
  | succ count ih =>
      intro store twin env away hleft hright hcount i j htwins
      obtain ⟨name, entry, again, hentry, hagain, rfl, rfl⟩ := htwins
      exact h.scoped_of_origin hleft hright ih hcount hentry hagain

theorem macros_eq (h : SameModules first second modules others)
    (hleft : first.Traced modules store env) (hright : second.Traced others twin away)
    {name : String} {entry again : LoadedModule}
    (hentry : store.registry.loaded.get? name = some entry)
    (hagain : twin.registry.loaded.get? name = some again) : again.macros = entry.macros := by
  obtain ⟨hbefore, horigin, hopen, _, _⟩ := hleft.origin name entry hentry
  obtain ⟨hprior, hhistory, hreopen, _, _⟩ := hright.origin name again hagain
  exact (h.opening ⟨hbefore, horigin⟩ ⟨hprior, hhistory⟩ hopen hreopen).1

end SameModules

namespace Interpreter

variable {first second : Interpreter} {modules others : Bindings Module} {store twin : Store}

/-- A module that has been loaded in two sessions exports the same in both: its frames hold the same
variables with the same values, and the same functions, which were defined in the module itself or
in a module that has been loaded in both. The sessions have their builtins, their settings, their
limit on calls and their modules in common; what else the programs do, and when they import the
module, makes no difference. -/
theorem exports_independent_of_importer (h : SameModules first second modules others)
    (hstore : first.Reachable modules store) (htwin : second.Reachable others twin) {name : String}
    {entry again : LoadedModule} (hentry : store.registry.loaded.get? name = some entry)
    (hagain : twin.registry.loaded.get? name = some again) :
    again.macros = entry.macros ∧
      ∃ frame copy, store.frames[entry.frame]? = some frame ∧
        twin.frames[again.frame]? = some copy ∧
        frame.Alike (store.Home twin entry.frame again.frame) copy := by
  obtain ⟨_, env, hleft⟩ := (invariant_traced first).reachable hstore
  obtain ⟨_, away, hright⟩ := (invariant_traced second).reachable htwin
  have hscoped := h.loadedAlike _ hleft hright (Nat.le_refl _) entry.frame again.frame
    ⟨name, entry, again, hentry, hagain, rfl, rfl⟩
  exact ⟨h.macros_eq hleft hright hentry hagain, hscoped.contents⟩

/-- A program with two modules. The function `f` of the one imports the other, which imports `k`
from the first to compute what it exports. -/
def lazyImport (program : List Json) : Json :=
  .obj [("jexl_version", .str "v0.1"), ("name", .str "test"),
    ("modules", .obj
      [("a", .obj [("exports", .arr
        [.obj [("function", .obj [("name", .str "k"), ("params", .arr []), ("body", .str "x")])],
          .obj [("function", .obj [("name", .str "f"), ("params", .arr []),
            ("body", .obj [("import", .obj [("module", .str "b"), ("symbols", .arr [])])])])]])]),
       ("b", .obj [("exports", .arr
        [.obj [("import", .obj [("module", .str "a"), ("symbols", .arr [.str "k"])])],
          .obj [("let", .obj [("name", .str "v"), ("value", .obj [("k", .arr [])])])]])])]),
    ("program", .arr program)]

/-- The program of the first session comes to `b` in a call, when `a` has been loaded. The second
imports `b` only after its program has ended, and `a` is loaded within. -/
theorem exports_independent_of_importer_lazyImport :
    let first : Interpreter := { maxCallDepth := 100 }
    let second : Interpreter := { maxCallDepth := 100, stack := 500 }
    let calling : Json := lazyImport
      [.obj [("import", .obj [("module", .str "a"), ("symbols", .arr [.str "f"])])],
        .obj [("f", .arr [])]]
    let importing : Json := .obj [("import", .obj [("module", .str "b"), ("symbols", .arr [])])]
    let store := (first.after (first.initial { maxDepth := 100 }) [.run calling]).store
    let twin := (second.after (second.initial { maxDepth := 100 })
      [.run (lazyImport []), .eval importing]).store
    ∃ entry again frame copy, store.registry.loaded.get? "b" = some entry ∧
      twin.registry.loaded.get? "b" = some again ∧ entry.frame ≠ again.frame ∧
      store.frames[entry.frame]? = some frame ∧ twin.frames[again.frame]? = some copy ∧
      frame.vars.names = ["v"] ∧ frame.functions.names = ["k"] ∧
      frame.Alike (store.Home twin entry.frame again.frame) copy := by
  intro first second calling importing store twin
  have hloaded : (store.registry.loaded.get? "b").map LoadedModule.frame = some 5 := by
    decide +kernel
  have hreloaded : (twin.registry.loaded.get? "b").map LoadedModule.frame = some 2 := by
    decide +kernel
  have hnames : (store.frames[5]?.map fun frame => (frame.vars.names, frame.functions.names)) =
      some (["v"], ["k"]) := by
    decide +kernel
  obtain ⟨entry, hentry, hfive⟩ := Option.map_eq_some_iff.mp hloaded
  obtain ⟨again, hagain, htwo⟩ := Option.map_eq_some_iff.mp hreloaded
  have hsame : SameModules first second (first.declared [.run calling])
      (second.declared [.run (lazyImport []), .eval importing]) := ⟨rfl, rfl, rfl, fun _ => rfl⟩
  obtain ⟨_, frame, copy, hframe, hcopy, halike⟩ := exports_independent_of_importer hsame
    (.rest { maxDepth := 100 } [.run calling])
    (.rest { maxDepth := 100 } [.run (lazyImport []), .eval importing]) hentry hagain
  rw [← hfive, hframe] at hnames
  obtain ⟨hvars, hfunctions⟩ := Prod.mk.inj (Option.some.inj hnames)
  refine ⟨entry, again, frame, copy, hentry, hagain, ?_, hframe, hcopy, hvars, hfunctions, halike⟩
  rw [hfive, htwo]
  decide

end Interpreter

end JsonExpr
