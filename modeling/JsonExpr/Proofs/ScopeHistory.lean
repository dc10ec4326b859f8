import JsonExpr.Proofs.Bindings
import JsonExpr.Proofs.Store
import Mathlib.Data.List.Find

namespace JsonExpr

/-- A name that was bound in a frame. -/
structure Write (α : Type) where
  frame : FrameId
  name : String
  value : α

namespace Write

variable {α : Type}

/-- The latest value that was bound to a name in a frame. -/
def latest? (writes : List (Write α)) (frame : FrameId) (name : String) : Option α :=
  (writes.reverse.find? fun write => write.frame = frame ∧ write.name = name).map Write.value

/-- The latest value in the first frame of a chain in which the name was ever bound. -/
def nearest? (writes : List (Write α)) (chain : List FrameId) (name : String) : Option α :=
  chain.findSome? fun frame => latest? writes frame name

/-- The name was bound in one frame of a chain and in none that is nearer, and the value is the
latest that it was bound to there. -/
def Visible (writes : List (Write α)) (chain : List FrameId) (name : String) (value : α) : Prop :=
  ∃ nearer frame farther earlier later,
    chain = nearer ++ frame :: farther ∧
    (∀ write ∈ writes, write.name = name → write.frame ∉ nearer) ∧
    writes = earlier ++ ⟨frame, name, value⟩ :: later ∧
    ∀ write ∈ later, write.name = name → write.frame ≠ frame

/-- The writes to the frames of a chain, in their order. -/
def within (chain : List FrameId) (writes : List (Write α)) : List (Write α) :=
  writes.filter fun write => write.frame ∈ chain

variable {writes : List (Write α)} {frame : FrameId} {chain : List FrameId} {name : String}
  {value : α}

theorem latest?_concat (writes : List (Write α)) (write : Write α) (frame : FrameId)
    (name : String) :
    latest? (writes ++ [write]) frame name =
      if write.frame = frame ∧ write.name = name then some write.value
      else latest? writes frame name := by
  rw [latest?, List.reverse_concat, List.find?_cons]
  by_cases h : write.frame = frame ∧ write.name = name
  · simp [h]
  · simp [h, latest?]

theorem latest?_eq_none_iff :
    latest? writes frame name = none ↔
      ∀ write ∈ writes, write.name = name → write.frame ≠ frame := by
  rw [latest?, Option.map_eq_none_iff, List.find?_eq_none]
  constructor
  · intro h write hwrite hname hframe
    exact h write (List.mem_reverse.mpr hwrite) (decide_eq_true ⟨hframe, hname⟩)
  · intro h write hwrite hsets
    obtain ⟨hframe, hname⟩ := of_decide_eq_true hsets
    exact h write (List.mem_reverse.mp hwrite) hname hframe

theorem latest?_eq_some_iff :
    latest? writes frame name = some value ↔
      ∃ earlier later, writes = earlier ++ ⟨frame, name, value⟩ :: later ∧
        ∀ write ∈ later, write.name = name → write.frame ≠ frame := by
  constructor
  · intro h
    obtain ⟨write, hfound, rfl⟩ := Option.map_eq_some_iff.mp h
    obtain ⟨hsets, later, earlier, hreverse, hlater⟩ := List.find?_eq_some_iff_append.mp hfound
    obtain ⟨rfl, rfl⟩ := of_decide_eq_true hsets
    refine ⟨earlier.reverse, later.reverse, ?_, ?_⟩
    · rw [List.reverse_eq_append_iff.mp hreverse, List.reverse_cons, List.append_assoc]
      rfl
    · intro other hother hname hframe
      have hkept := hlater other (List.mem_reverse.mp hother)
      simp [hname, hframe] at hkept
  · rintro ⟨earlier, later, rfl, hlater⟩
    -- The later writes are taken away from the end, since none of them binds the name there.
    induction later using List.reverseRecOn with
    | nil => rw [latest?_concat, if_pos ⟨rfl, rfl⟩]
    | append_singleton later last ih =>
        have hlast := hlater last (List.mem_append_right _ (List.mem_singleton_self last))
        rw [← List.cons_append, ← List.append_assoc, latest?_concat,
          if_neg fun hsets => hlast hsets.2 hsets.1]
        exact ih fun write hwrite => hlater write (List.mem_append_left _ hwrite)

theorem nearest?_eq_some_iff :
    nearest? writes chain name = some value ↔ Visible writes chain name value := by
  rw [nearest?, List.findSome?_eq_some_iff]
  constructor
  · rintro ⟨nearer, frame, farther, hchain, hlatest, hnearer⟩
    obtain ⟨earlier, later, hwrites, hlater⟩ := latest?_eq_some_iff.mp hlatest
    refine ⟨nearer, frame, farther, earlier, later, hchain, ?_, hwrites, hlater⟩
    intro write hwrite hname hmem
    exact latest?_eq_none_iff.mp (hnearer write.frame hmem) write hwrite hname rfl
  · rintro ⟨nearer, frame, farther, earlier, later, hchain, hnearer, hwrites, hlater⟩
    refine ⟨nearer, frame, farther, hchain, ?_, ?_⟩
    · exact latest?_eq_some_iff.mpr ⟨earlier, later, hwrites, hlater⟩
    · intro near hnear
      rw [latest?_eq_none_iff]
      rintro write hwrite hname rfl
      exact hnearer write hwrite hname hnear

theorem nearest?_eq_none_iff :
    nearest? writes chain name = none ↔
      ∀ write ∈ writes, write.name = name → write.frame ∉ chain := by
  rw [nearest?, List.findSome?_eq_none_iff]
  constructor
  · intro h write hwrite hname hmem
    exact latest?_eq_none_iff.mp (h write.frame hmem) write hwrite hname rfl
  · intro h frame hframe
    rw [latest?_eq_none_iff]
    rintro write hwrite hname rfl
    exact h write hwrite hname hframe

theorem latest?_within (h : frame ∈ chain) :
    latest? (within chain writes) frame name = latest? writes frame name := by
  rw [latest?, latest?, within, ← List.filter_reverse, List.find?_filter]
  congr 1
  apply List.find?_congr
  intro write _
  by_cases hsets : write.frame = frame ∧ write.name = name
  · simp [hsets, h]
  · simp [hsets]

theorem nearest?_within (writes : List (Write α)) (chain : List FrameId) (name : String) :
    nearest? (within chain writes) chain name = nearest? writes chain name := by
  rw [nearest?, nearest?, ← List.head?_filterMap, ← List.head?_filterMap]
  exact congrArg List.head? (List.filterMap_congr fun frame hframe => latest?_within hframe)

end Write

namespace Store

variable {α : Type} {store : Store} {field : Frame → Bindings α}

/-- What a frame itself binds to a name, in one of the two namespaces. -/
def bound? (store : Store) (field : Frame → Bindings α) (i : FrameId) (name : String) : Option α :=
  store.frames[i]?.bind fun frame => (field frame).get? name

theorem var?_eq (store : Store) (id : FrameId) (name : String) :
    store.var? id name = (store.chain id).findSome? fun i => store.bound? Frame.vars i name := rfl

theorem function?_eq (store : Store) (id : FrameId) (name : String) :
    store.function? id name =
      (store.chain id).findSome? fun i => store.bound? Frame.functions i name := rfl

theorem any_has_eq (store : Store) (field : Frame → Bindings α) (ids : List FrameId)
    (name : String) :
    (ids.any fun i => store.frames[i]?.any fun frame => (field frame).has name) =
      (ids.findSome? fun i => store.bound? field i name).isSome := by
  rw [Bool.eq_iff_iff, List.any_eq_true, List.findSome?_isSome_iff]
  simp only [bound?, Option.isSome_bind, Bindings.has]

theorem bound?_addFrame {frame : Frame} (h : field frame = []) (i : FrameId) (name : String) :
    (store.addFrame frame).bound? field i name = store.bound? field i name := by
  rw [bound?, bound?, frame_addFrame]
  by_cases hi : i = store.frames.size
  · rw [if_pos hi, Option.bind_some, h, hi, Array.getElem?_size]
    rfl
  · rw [if_neg hi]

/-- Changes one frame. -/
def modifyFrame (store : Store) (id : FrameId) (change : Frame → Frame) : Store :=
  { store with frames := store.frames.modify id change }

section ModifyFrame

variable {id : FrameId} {change : Frame → Frame}

theorem frame_modifyFrame (i : FrameId) :
    (store.modifyFrame id change).frames[i]? =
      if id = i then store.frames[i]?.map change else store.frames[i]? :=
  Array.getElem?_modify

theorem map_modifyFrame_of_kept {β : Type} {view : Frame → β}
    (hview : ∀ frame, view (change frame) = view frame) (i : FrameId) :
    (store.modifyFrame id change).frames[i]?.map view = store.frames[i]?.map view := by
  rw [frame_modifyFrame]
  split
  · simp only [Option.map_map, Function.comp_def, hview]
  · rfl

theorem chain_modifyFrame (hlink : ∀ frame, (change frame).link = frame.link) (env : FrameId) :
    (store.modifyFrame id change).chain env = store.chain env :=
  chain_eq_of_links (map_modifyFrame_of_kept hlink) env

theorem bound?_modifyFrame_of_kept (hfield : ∀ frame, field (change frame) = field frame)
    (i : FrameId) (name : String) :
    (store.modifyFrame id change).bound? field i name = store.bound? field i name := by
  have hmap : (store.modifyFrame id change).frames[i]?.map field = store.frames[i]?.map field :=
    map_modifyFrame_of_kept hfield i
  have hkept := congrArg (fun found => found.bind fun bindings : Bindings α => bindings.get? name)
    hmap
  simpa only [bound?, Option.bind_map, Function.comp_def] using hkept

theorem bound?_modifyFrame_of_set {bound : String} {value : α}
    (hfield : ∀ frame, field (change frame) = (field frame).set bound value)
    (hid : id < store.frames.size) (i : FrameId) (name : String) :
    (store.modifyFrame id change).bound? field i name =
      if id = i ∧ bound = name then some value else store.bound? field i name := by
  rw [bound?, bound?, frame_modifyFrame]
  by_cases hi : id = i
  · subst hi
    obtain ⟨frame, hframe⟩ := exists_frame hid
    simp only [hframe, if_true, true_and, Option.map_some, Option.bind_some, hfield]
    by_cases hname : bound = name
    · rw [if_pos hname, hname, Bindings.get?_set_self]
    · rw [if_neg hname, Bindings.get?_set_of_ne _ _ hname]
  · rw [if_neg hi, if_neg fun h => hi h.1]

end ModifyFrame

section Writes

variable {id : FrameId} (bound : String) (value : Json) (function : Function) (i : FrameId)
  (name : String)

theorem bound?_vars_setVar (hid : id < store.frames.size) :
    (store.setVar id bound value).bound? Frame.vars i name =
      if id = i ∧ bound = name then some value else store.bound? Frame.vars i name :=
  bound?_modifyFrame_of_set (fun _ => rfl) hid i name

theorem bound?_functions_setVar :
    (store.setVar id bound value).bound? Frame.functions i name =
      store.bound? Frame.functions i name := by
  apply bound?_modifyFrame_of_kept
  intro frame
  rfl

theorem bound?_functions_setFunction (hid : id < store.frames.size) :
    (store.setFunction id bound function).bound? Frame.functions i name =
      if id = i ∧ bound = name then some function else store.bound? Frame.functions i name :=
  bound?_modifyFrame_of_set (fun _ => rfl) hid i name

theorem bound?_vars_setFunction :
    (store.setFunction id bound function).bound? Frame.vars i name =
      store.bound? Frame.vars i name := by
  apply bound?_modifyFrame_of_kept
  intro frame
  rfl

theorem chain_setVar : (store.setVar id bound value).chain i = store.chain i := by
  apply chain_modifyFrame
  intro frame
  rfl

theorem chain_setFunction : (store.setFunction id bound function).chain i = store.chain i := by
  apply chain_modifyFrame
  intro frame
  rfl

end Writes

end Store

/-- What has been done to the frames of a store, of which there are `count`. Only a frame that has
been created can be used. -/
inductive History : Nat → Type
  | start : History 0
  | root {count : Nat} (before : History count) (depth : Int) (maxCallDepth : Option Int) :
      History (count + 1)
  | child {count : Nat} (before : History count) (outer : Fin count) (depth : Option Int) :
      History (count + 1)
  | setVar {count : Nat} (before : History count) (frame : Fin count) (name : String)
      (value : Json) : History count
  | setFunction {count : Nat} (before : History count) (frame : Fin count) (name : String)
      (function : Function) : History count

namespace History

/-- The store after the history. -/
def store : {count : Nat} → History count → Store
  | _, .start => {}
  | _, .root before depth maxCallDepth => before.store.addRoot depth maxCallDepth
  | _, .child before outer depth => before.store.addChild outer depth
  | _, .setVar before frame name value => before.store.setVar frame name value
  | _, .setFunction before frame name function => before.store.setFunction frame name function

/-- A frame, the frame that it was created inside of, and so on outwards. -/
def chain : {count : Nat} → History count → FrameId → List FrameId
  | _, .start, _ => []
  | count + 1, .root before _ _, frame =>
      if frame = count then [frame] else before.chain frame
  | count + 1, .child before outer _, frame =>
      if frame = count then frame :: before.chain outer else before.chain frame
  | _, .setVar before _ _ _, frame => before.chain frame
  | _, .setFunction before _ _ _, frame => before.chain frame

/-- The variables that were set, in their order. -/
def vars : {count : Nat} → History count → List (Write Json)
  | _, .start => []
  | _, .root before _ _ => before.vars
  | _, .child before _ _ => before.vars
  | _, .setVar before frame name value => before.vars ++ [⟨frame, name, value⟩]
  | _, .setFunction before _ _ _ => before.vars

/-- The functions that were defined, in their order. -/
def functions : {count : Nat} → History count → List (Write Function)
  | _, .start => []
  | _, .root before _ _ => before.functions
  | _, .child before _ _ => before.functions
  | _, .setVar before _ _ _ => before.functions
  | _, .setFunction before frame name function => before.functions ++ [⟨frame, name, function⟩]

variable {count : Nat}

theorem size_store (history : History count) : history.store.frames.size = count := by
  induction history with
  | start => rfl
  | root before depth maxCallDepth ih => exact (Store.size_addFrame _ _).trans (congrArg _ ih)
  | child before outer depth ih => exact (Store.size_addFrame _ _).trans (congrArg _ ih)
  | setVar before frame name value ih => exact (Store.size_setVar _ _ _ _).trans ih
  | setFunction before frame name function ih => exact (Store.size_setFunction _ _ _ _).trans ih

theorem bound?_vars (history : History count) (i : FrameId) (name : String) :
    history.store.bound? Frame.vars i name = Write.latest? history.vars i name := by
  induction history with
  | start => rfl
  | root before depth maxCallDepth ih => exact (Store.bound?_addFrame rfl i name).trans ih
  | child before outer depth ih => exact (Store.bound?_addFrame rfl i name).trans ih
  | setVar before frame bound value ih =>
      have hframe : frame < before.store.frames.size := before.size_store.symm ▸ frame.isLt
      rw [store, Store.bound?_vars_setVar _ _ _ _ hframe, ih, vars, Write.latest?_concat]
  | setFunction before frame bound function ih =>
      rw [store, Store.bound?_vars_setFunction, ih, vars]

theorem bound?_functions (history : History count) (i : FrameId) (name : String) :
    history.store.bound? Frame.functions i name = Write.latest? history.functions i name := by
  induction history with
  | start => rfl
  | root before depth maxCallDepth ih => exact (Store.bound?_addFrame rfl i name).trans ih
  | child before outer depth ih => exact (Store.bound?_addFrame rfl i name).trans ih
  | setVar before frame bound value ih =>
      rw [store, Store.bound?_functions_setVar, ih, functions]
  | setFunction before frame bound function ih =>
      have hframe : frame < before.store.frames.size := before.size_store.symm ▸ frame.isLt
      rw [store, Store.bound?_functions_setFunction _ _ _ _ hframe, ih, functions,
        Write.latest?_concat]

/-- The frames that are seen from a frame are those it was created inside of: no later operation
links a frame anew. -/
theorem chain_store (history : History count) (frame : FrameId) :
    history.store.chain frame = history.chain frame := by
  induction history generalizing frame with
  | start =>
      rw [Store.chain]
      rfl
  -- A frame that is created stands at the end, and only its own chain is new.
  | @root count before depth maxCallDepth ih =>
      have hsize : (before.store.addRealm {}).frames.size = count := before.size_store
      rw [store, chain, Store.addRoot]
      by_cases hnew : frame = count
      · rw [if_pos hnew]
        obtain rfl := hnew.trans hsize.symm
        exact Store.chain_addFrame_root rfl
      · rw [if_neg hnew, Store.chain_addFrame_of_ne (hsize.symm ▸ hnew), ← ih]
        apply Store.chain_eq_of_links
        intro i
        rfl
  | @child count before outer depth ih =>
      have hsize : before.store.frames.size = count := before.size_store
      rw [store, chain, Store.addChild]
      by_cases hnew : frame = count
      · rw [if_pos hnew, ← ih]
        obtain rfl := hnew.trans hsize.symm
        exact Store.chain_addFrame_inside rfl (hsize.symm ▸ outer.isLt)
      · rw [if_neg hnew, Store.chain_addFrame_of_ne (hsize.symm ▸ hnew), ih]
  | setVar before target name value ih =>
      rw [store, Store.chain_setVar, ih, chain]
  | setFunction before target name function ih =>
      rw [store, Store.chain_setFunction, ih, chain]

theorem var?_store (history : History count) (frame : FrameId) (name : String) :
    history.store.var? frame name = Write.nearest? history.vars (history.chain frame) name := by
  rw [Store.var?_eq, chain_store, Write.nearest?]
  simp only [bound?_vars]

theorem function?_store (history : History count) (frame : FrameId) (name : String) :
    history.store.function? frame name =
      Write.nearest? history.functions (history.chain frame) name := by
  rw [Store.function?_eq, chain_store, Write.nearest?]
  simp only [bound?_functions]

theorem hasVar_store (history : History count) (frame : FrameId) (name : String) :
    history.store.hasVar frame name =
      (Write.nearest? history.vars (history.chain frame) name).isSome := by
  rw [← var?_store]
  exact Store.any_has_eq history.store Frame.vars _ name

theorem hasFunction_store (history : History count) (frame : FrameId) (name : String) :
    history.store.hasFunction frame name =
      (Write.nearest? history.functions (history.chain frame) name).isSome := by
  rw [← function?_store]
  exact Store.any_has_eq history.store Frame.functions _ name

end History

/-- Lookups of one kind of names in a store answer according to what was written to the frames of a
chain: a name that is visible there gives its value and is present, and any other is unbound. -/
structure Answers {α : Type} (store : Store) (kind : NameKind) (lookup : String → Eval α)
    (present : String → Bool) (writes : List (Write α)) (chain : List FrameId) : Prop where
  returns_iff : ∀ name value,
    lookup name store = .ok value store ↔ Write.Visible writes chain name value
  unbound_iff : ∀ name, lookup name store = .error (.unbound kind name) store ↔
    ∀ write ∈ writes, write.name = name → write.frame ∉ chain
  present_iff : ∀ name, present name ↔ ∃ value, lookup name store = .ok value store

theorem Answers.of_nearest? {α : Type} {store : Store} {kind : NameKind} {lookup : String → Eval α}
    {present : String → Bool} {writes : List (Write α)} {chain : List FrameId}
    (hsome : ∀ name value, Write.nearest? writes chain name = some value →
      lookup name store = .ok value store)
    (hnone : ∀ name, Write.nearest? writes chain name = none →
      lookup name store = .error (.unbound kind name) store)
    (hpresent : ∀ name, present name = (Write.nearest? writes chain name).isSome) :
    Answers store kind lookup present writes chain := by
  have hreturns (name : String) (value : α) :
      lookup name store = .ok value store ↔ Write.nearest? writes chain name = some value := by
    refine ⟨fun h => ?_, hsome name value⟩
    cases hnearest : Write.nearest? writes chain name with
    | none =>
        rw [hnone name hnearest] at h
        cases h
    | some found =>
        rw [hsome name found hnearest] at h
        cases h
        rfl
  refine ⟨fun name value => ?_, fun name => ?_, fun name => ?_⟩
  · rw [hreturns, Write.nearest?_eq_some_iff]
  · rw [← Write.nearest?_eq_none_iff]
    refine ⟨fun h => ?_, hnone name⟩
    cases hnearest : Write.nearest? writes chain name with
    | none => rfl
    | some found =>
        rw [hsome name found hnearest] at h
        cases h
  · simp only [hreturns, hpresent, Option.isSome_iff_exists]

namespace History

variable {count : Nat}

/-- After any history, a variable that is looked up from a frame is the latest that was set by its
name in the nearest frame outwards in which it was ever set. It is unbound if there is no such
frame. Functions are found in the same way. A lookup depends on the writes of its own kind to the
frames of the chain and on nothing else. -/
theorem lookup_reads_history (history : History count) (frame : Fin count) :
    Answers history.store .variable (Eval.var frame) (history.store.hasVar frame) history.vars
        (history.chain frame) ∧
      Answers history.store .function (Eval.function frame) (history.store.hasFunction frame)
        history.functions (history.chain frame) ∧
      ∀ {more : Nat} (other : History more), other.chain frame = history.chain frame →
        (Write.within (history.chain frame) other.vars =
            Write.within (history.chain frame) history.vars →
          ∀ name, other.store.var? frame name = history.store.var? frame name ∧
            other.store.hasVar frame name = history.store.hasVar frame name) ∧
        (Write.within (history.chain frame) other.functions =
            Write.within (history.chain frame) history.functions →
          ∀ name, other.store.function? frame name = history.store.function? frame name ∧
            other.store.hasFunction frame name = history.store.hasFunction frame name) := by
  refine ⟨.of_nearest? ?_ ?_ (history.hasVar_store frame),
    .of_nearest? ?_ ?_ (history.hasFunction_store frame), ?_⟩
  · intro name value hnearest
    rw [Eval.var_apply, var?_store, hnearest]
  · intro name hnearest
    rw [Eval.var_apply, var?_store, hnearest]
  · intro name function hnearest
    rw [Eval.function_apply, function?_store, hnearest]
  · intro name hnearest
    rw [Eval.function_apply, function?_store, hnearest]
  · intro more other hchain
    refine ⟨fun hwithin name => ?_, fun hwithin name => ?_⟩
    · rw [var?_store, var?_store, hasVar_store, hasVar_store, hchain, ← Write.nearest?_within,
        hwithin, Write.nearest?_within]
      exact ⟨rfl, rfl⟩
    · rw [function?_store, function?_store, hasFunction_store, hasFunction_store, hchain,
        ← Write.nearest?_within, hwithin, Write.nearest?_within]
      exact ⟨rfl, rfl⟩

/-- A variable is set anew in a frame between two others. A function of the same name and a variable
of another root frame make no difference to it. -/
theorem lookup_reads_history_shadowed :
    let inner : History 3 :=
      .setVar (.child (.setVar (.child (.setVar (.root .start 0 none) 0 "x" (.str "outer")) 0 none)
        1 "x" (.str "first")) 1 none) 1 "x" (.str "second")
    let history : History 4 :=
      .setVar (.root (.setFunction inner 0 "x" (.value .null)) 0 none) 3 "x" (.str "elsewhere")
    Eval.var 2 "x" history.store = .ok (.str "second") history.store ∧
      Eval.var 2 "y" history.store = .error (.unbound .variable "y") history.store ∧
      history.store.hasVar 2 "x" ∧
      Eval.function 2 "x" history.store = .ok (.value .null) history.store ∧
      ∀ name, inner.store.var? 2 name = history.store.var? 2 name := by
  intro inner history
  obtain ⟨hvars, hfunctions, hothers⟩ := lookup_reads_history history 2
  have hvar : Eval.var 2 "x" history.store = .ok (.str "second") history.store := by
    refine (hvars.returns_iff "x" (.str "second")).mpr ?_
    exact ⟨[2], 1, [0], [⟨0, "x", .str "outer"⟩, ⟨1, "x", .str "first"⟩],
      [⟨3, "x", .str "elsewhere"⟩], rfl, by decide, rfl, by decide⟩
  refine ⟨hvar, (hvars.unbound_iff "y").mpr ?_, (hvars.present_iff "x").mpr ⟨_, hvar⟩, ?_, ?_⟩
  · decide
  · refine (hfunctions.returns_iff "x" (.value .null)).mpr ?_
    exact ⟨[2, 1], 0, [], [], [], rfl, by decide, rfl, by decide⟩
  · intro name
    exact ((hothers inner rfl).1 rfl name).1

end History

end JsonExpr
