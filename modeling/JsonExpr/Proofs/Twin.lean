import JsonExpr.Proofs.Registry
import Mathlib.Data.List.Forall2

namespace JsonExpr

/-- Functions that do the same if the frames they were defined in do. -/
inductive Function.Alike (home : FrameId → FrameId → Prop) : Function → Function → Prop
  | builtin (builtin : Builtin) : Alike home (.builtin builtin) (.builtin builtin)
  | user {closure other : Closure} : other.name = closure.name → other.params = closure.params →
      other.body = closure.body → home closure.frame other.frame →
      Alike home (.user closure) (.user other)
  | value (value : Json) : Alike home (.value value) (.value value)

/-- Bindings of the same names, in the same order, to functions that do the same. -/
def Bindings.Alike (home : FrameId → FrameId → Prop) (functions others : Bindings Function) :
    Prop :=
  List.Forall₂ (fun bound again => again.1 = bound.1 ∧ bound.2.Alike home again.2) functions others

/-- Frames with the same variables, in the same order, and with functions that do the same. -/
structure Frame.Alike (home : FrameId → FrameId → Prop) (frame other : Frame) : Prop where
  vars_eq : other.vars = frame.vars
  functions : frame.functions.Alike home other.functions

section Alike

variable {home wider : FrameId → FrameId → Prop} {functions others : Bindings Function}

theorem Function.Alike.mono {function other : Function} (h : function.Alike home other)
    (hhome : ∀ i j, home i j → wider i j) : function.Alike wider other := by
  cases h with
  | builtin builtin => exact .builtin builtin
  | user hname hparams hbody hframe => exact .user hname hparams hbody (hhome _ _ hframe)
  | value value => exact .value value

theorem Frame.Alike.mono {frame other : Frame} (h : frame.Alike home other)
    (hhome : ∀ i j, home i j → wider i j) : frame.Alike wider other where
  vars_eq := h.vars_eq
  functions := h.functions.imp fun _ _ hbound => ⟨hbound.1, hbound.2.mono hhome⟩

theorem Bindings.Alike.get? (h : functions.Alike home others) (name : String) :
    Option.Rel (Function.Alike home) (functions.get? name) (others.get? name) := by
  induction h with
  | nil => exact .none
  | @cons bound again rest more hbound _ ih =>
      obtain ⟨hname, halike⟩ := hbound
      rw [Bindings.get?_cons, Bindings.get?_cons, hname]
      split
      · exact .some halike
      · exact ih

theorem Bindings.Alike.set (h : functions.Alike home others) (name : String)
    {function other : Function} (halike : function.Alike home other) :
    (functions.set name function).Alike home (others.set name other) := by
  induction h with
  | nil => exact .cons ⟨rfl, halike⟩ .nil
  | @cons bound again rest more hbound hrest ih =>
      obtain ⟨hname, hold⟩ := hbound
      simp only [Bindings.set, hname]
      split
      · exact .cons ⟨rfl, halike⟩ hrest
      · exact .cons ⟨rfl, hold⟩ ih

end Alike

namespace Store

/-- The frames of a module that has been loaded in both stores. -/
def Twins (store twin : Store) (i j : FrameId) : Prop :=
  ∃ name entry again, store.registry.loaded.get? name = some entry ∧
    twin.registry.loaded.get? name = some again ∧ i = entry.frame ∧ j = again.frame

/-- Where a function that is bound in one of two frames may have been defined. -/
def Home (store twin : Store) (own away i j : FrameId) : Prop :=
  i = own ∧ j = away ∨ store.Twins twin i j

/-- Frames that look the same, up to root frames that have not been written to. -/
inductive Scoped (base : Frame) (store twin : Store) : FrameId → FrameId → Prop
  | base {i j} : store.frames[i]? = some base → twin.frames[j]? = some base →
      Scoped base store twin i j
  | inner {i j outer around frame copy} : store.frames[i]? = some frame →
      twin.frames[j]? = some copy → frame.link = .inside outer → copy.link = .inside around →
      outer < i → around < j → frame.Alike (store.Home twin i j) copy →
      Scoped base store twin outer around → Scoped base store twin i j

variable {store twin after again : Store} {i j env away : FrameId}

theorem Twins.advances (h : store.Twins twin i j) (hafter : store.Advances after)
    (hagain : twin.Advances again) : after.Twins again i j := by
  obtain ⟨name, entry, copy, hentry, hcopy, hi, hj⟩ := h
  exact ⟨name, entry, copy, (hafter.kept name entry hentry).1, (hagain.kept name copy hcopy).1, hi,
    hj⟩

theorem Home.advances {own other : FrameId} (h : store.Home twin own other i j)
    (hafter : store.Advances after) (hagain : twin.Advances again) :
    after.Home again own other i j :=
  h.imp_right fun htwins => htwins.advances hafter hagain

end Store

theorem Interpreter.alike_baseFrame (interpreter : Interpreter) (home : FrameId → FrameId → Prop) :
    interpreter.baseFrame.Alike home interpreter.baseFrame where
  vars_eq := rfl
  functions := by
    refine List.forall₂_same.mpr fun bound hbound => ⟨rfl, ?_⟩
    obtain ⟨entry, _, rfl⟩ := List.mem_map.mp (Bindings.mem_ofList hbound)
    exact .builtin entry.2

namespace Store.Scoped

variable {interpreter : Interpreter} {store twin after again : Store} {i j env away : FrameId}

theorem contents (h : Scoped interpreter.baseFrame store twin i j) :
    ∃ frame copy, store.frames[i]? = some frame ∧ twin.frames[j]? = some copy ∧
      frame.Alike (store.Home twin i j) copy := by
  cases h with
  | base hframe hcopy => exact ⟨_, _, hframe, hcopy, interpreter.alike_baseFrame _⟩
  | inner hframe hcopy _ _ _ _ halike _ => exact ⟨_, _, hframe, hcopy, halike⟩

theorem var?_eq (h : Scoped interpreter.baseFrame store twin i j) (name : String) :
    twin.var? j name = store.var? i name := by
  induction h with
  | base hframe hcopy =>
      rw [var?, var?, chain_of_root hframe rfl, chain_of_root hcopy rfl]
      simp only [List.findSome?_cons, hframe, hcopy, List.findSome?_nil]
  | inner hframe hcopy hlink hcopied hlt hless halike _ ih =>
      rw [var?, var?] at ih
      rw [var?, var?, chain_of_inside hframe hlink hlt, chain_of_inside hcopy hcopied hless]
      simp only [List.findSome?_cons, hframe, hcopy, Option.bind_some, halike.vars_eq, ih]

theorem function? (h : Scoped interpreter.baseFrame store twin i j) (name : String) :
    Option.Rel (Function.Alike fun a b =>
        Scoped interpreter.baseFrame store twin a b ∨ store.Twins twin a b)
      (store.function? i name) (twin.function? j name) := by
  induction h with
  | base hframe hcopy =>
      have hget := (interpreter.alike_baseFrame fun _ _ => False).functions.get? name
      rw [Store.function?, Store.function?, chain_of_root hframe rfl, chain_of_root hcopy rfl]
      simp only [List.findSome?_cons, hframe, hcopy, List.findSome?_nil, Option.bind_some]
      revert hget
      generalize interpreter.baseFrame.functions.get? name = found
      intro hget
      cases hget with
      | none => exact .none
      | some hfunction => exact .some (hfunction.mono fun _ _ => False.elim)
  | @inner i j _ _ frame copy hframe hcopy hlink hcopied hlt hless halike houter ih =>
      have hget := halike.functions.get? name
      rw [Store.function?, Store.function?] at ih
      rw [Store.function?, Store.function?, chain_of_inside hframe hlink hlt,
        chain_of_inside hcopy hcopied hless]
      simp only [List.findSome?_cons, hframe, hcopy, Option.bind_some]
      revert hget
      generalize frame.functions.get? name = found, copy.functions.get? name = same
      intro hget
      cases hget with
      | none => exact ih
      | some hfunction =>
          refine .some (hfunction.mono ?_)
          rintro a b (⟨rfl, rfl⟩ | htwins)
          · exact .inl (.inner hframe hcopy hlink hcopied hlt hless halike houter)
          · exact .inr htwins

theorem transport {bound limit : Nat} (h : Scoped interpreter.baseFrame store twin i j)
    (hi : i < bound) (hj : j < limit)
    (hframes : ∀ (k : FrameId) (frame : Frame), k < bound → store.frames[k]? = some frame →
      after.frames[k]? = some frame)
    (hcopies : ∀ (k : FrameId) (frame : Frame), k < limit → twin.frames[k]? = some frame →
      again.frames[k]? = some frame)
    (hafter : store.Advances after) (hagain : twin.Advances again) :
    Scoped interpreter.baseFrame after again i j := by
  induction h with
  | base hframe hcopy => exact .base (hframes _ _ hi hframe) (hcopies _ _ hj hcopy)
  | inner hframe hcopy hlink hcopied hlt hless halike _ ih =>
      exact .inner (hframes _ _ hi hframe) (hcopies _ _ hj hcopy) hlink hcopied hlt hless
        (halike.mono fun _ _ hhome => hhome.advances hafter hagain)
        (ih (Nat.lt_trans hlt hi) (Nat.lt_trans hless hj))

theorem write (h : Scoped interpreter.baseFrame store twin env away) {outer : FrameId}
    {frame copy later last : Frame} (hframe : store.frames[env]? = some frame)
    (hcopy : twin.frames[away]? = some copy) (hinner : frame.link = .inside outer)
    (hlater : after.frames[env]? = some later) (hlast : again.frames[away]? = some last)
    (hlink : later.link = frame.link) (hcopied : last.link = copy.link)
    (hothers : ∀ (k : FrameId) (found : Frame), k < env → store.frames[k]? = some found →
      after.frames[k]? = some found)
    (hcopies : ∀ (k : FrameId) (found : Frame), k < away → twin.frames[k]? = some found →
      again.frames[k]? = some found)
    (hafter : store.Advances after) (hagain : twin.Advances again)
    (halike : later.Alike (after.Home again env away) last) :
    Scoped interpreter.baseFrame after again env away := by
  cases h with
  | base hbase _ =>
      rw [hframe] at hbase
      cases hbase
      cases hinner
  | inner hfound hsame hinside haround hlt hless _ houter =>
      obtain rfl := Option.some.inj (hframe.symm.trans hfound)
      obtain rfl := Option.some.inj (hcopy.symm.trans hsame)
      refine .inner hlater hlast (hlink.trans hinside) (hcopied.trans haround) hlt hless halike ?_
      exact houter.transport hlt hless hothers hcopies hafter hagain

theorem setVar (h : Scoped interpreter.baseFrame store twin env away) {frame : Frame}
    {outer : FrameId} (hframe : store.frames[env]? = some frame)
    (hinner : frame.link = .inside outer) (name : String) (value : Json)
    (hafter : store.Advances (store.setVar env name value))
    (hagain : twin.Advances (twin.setVar away name value)) :
    Scoped interpreter.baseFrame (store.setVar env name value) (twin.setVar away name value) env
      away := by
  obtain ⟨found, copy, hfound, hcopy, halike⟩ := h.contents
  obtain rfl := Option.some.inj (hframe.symm.trans hfound)
  have hset (store : Store) (env : FrameId) (frame : Frame)
      (hframe : store.frames[env]? = some frame) :
      (store.setVar env name value).frames[env]? =
        some { frame with vars := frame.vars.set name value } := by
    rw [frame_setVar, if_pos rfl, hframe, Option.map_some]
  have hothers (store : Store) (env k : FrameId) (found : Frame) (hk : k < env)
      (hfound : store.frames[k]? = some found) :
      (store.setVar env name value).frames[k]? = some found := by
    rw [frame_setVar, if_neg (Nat.ne_of_gt hk)]
    exact hfound
  refine h.write hframe hcopy hinner (hset store env frame hframe) (hset twin away copy hcopy) rfl
    rfl (hothers store env) (hothers twin away) hafter hagain ⟨?_, ?_⟩
  · simp only [halike.vars_eq]
  · exact (halike.mono fun _ _ hhome => hhome.advances hafter hagain).functions

theorem setFunction (h : Scoped interpreter.baseFrame store twin env away) {frame : Frame}
    {outer : FrameId} (hframe : store.frames[env]? = some frame)
    (hinner : frame.link = .inside outer) (name : String) {function other : Function}
    (hfunction : function.Alike (store.Home twin env away) other)
    (hafter : store.Advances (store.setFunction env name function))
    (hagain : twin.Advances (twin.setFunction away name other)) :
    Scoped interpreter.baseFrame (store.setFunction env name function)
      (twin.setFunction away name other) env away := by
  obtain ⟨found, copy, hfound, hcopy, halike⟩ := h.contents
  obtain rfl := Option.some.inj (hframe.symm.trans hfound)
  have hset (store : Store) (env : FrameId) (frame : Frame) (function : Function)
      (hframe : store.frames[env]? = some frame) :
      (store.setFunction env name function).frames[env]? =
        some { frame with functions := frame.functions.set name function } := by
    rw [frame_setFunction, if_pos rfl, hframe, Option.map_some]
  have hothers (store : Store) (env : FrameId) (function : Function) (k : FrameId) (found : Frame)
      (hk : k < env) (hfound : store.frames[k]? = some found) :
      (store.setFunction env name function).frames[k]? = some found := by
    rw [frame_setFunction, if_neg (Nat.ne_of_gt hk)]
    exact hfound
  refine h.write hframe hcopy hinner (hset store env frame function hframe)
    (hset twin away copy other hcopy) rfl rfl (hothers store env function)
    (hothers twin away other) hafter hagain ⟨halike.vars_eq, ?_⟩
  have hhome (a b : FrameId) (hhome : store.Home twin env away a b) :=
    hhome.advances hafter hagain
  exact (halike.mono hhome).functions.set name (hfunction.mono hhome)

end Store.Scoped

end JsonExpr
