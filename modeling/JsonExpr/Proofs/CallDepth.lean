import JsonExpr.Proofs.Limited
import JsonExpr.Proofs.Session
import Mathlib.Algebra.Order.Ring.Int

namespace JsonExpr

namespace Pending

/-- The calls that are pending. -/
def activations : List Pending → Nat
  | [] => 0
  | .call _ :: rest => activations rest + 1
  | .load _ :: rest => activations rest

/-- The loads that are pending. -/
def loads : List Pending → Nat
  | [] => 0
  | .call _ :: rest => loads rest
  | .load _ :: rest => loads rest + 1

/-- The calls that are pending since the innermost pending load began. -/
def sinceLoad : List Pending → Nat
  | [] => 0
  | .call _ :: rest => sinceLoad rest + 1
  | .load _ :: _ => 0

/-- The calls below a pending load: those within which it began. -/
def belowLoad : List Pending → Nat
  | [] => 0
  | .call _ :: rest => belowLoad rest
  | .load _ :: rest => activations rest

theorem activations_eq (pending : List Pending) :
    activations pending = sinceLoad pending + belowLoad pending := by
  induction pending with
  | nil => rfl
  | cons entered rest ih =>
      cases entered with
      | call closure =>
          simp only [activations, sinceLoad, belowLoad, ih]
          omega
      | load source => simp only [activations, sinceLoad, belowLoad, Nat.zero_add]

end Pending

namespace Store

/-- The store is under the limit and the frame is at the given depth. -/
structure AtDepth (limit depth : Int) (store : Store) (env : FrameId) : Prop where
  limited : store.Limited limit
  depth_eq : ∃ frame, store.frames[env]? = some frame ∧ frame.depth = depth

namespace AtDepth

variable {limit depth : Int} {store : Store} {env : FrameId}

theorem lt_size (h : store.AtDepth limit depth env) : env < store.frames.size := by
  obtain ⟨frame, hframe, _⟩ := h.depth_eq
  exact lt_size_of_frame hframe

theorem effect (h : store.AtDepth limit depth env) {may : Namespace → List String} {after : Store}
    (heffect : Effect env may store after) : after.AtDepth limit depth env := by
  refine ⟨h.limited.effect h.lt_size heffect, ?_⟩
  obtain ⟨frame, hframe, hdepth⟩ := h.depth_eq
  obtain ⟨later, hlater, hgrows⟩ := (framed_of_effect heffect).own frame hframe
  exact ⟨later, hlater, hgrows.depth.trans hdepth⟩

theorem exceeded?_eq (h : store.AtDepth limit depth env) :
    store.exceeded? env = if limit < depth + 1 then some limit else none := by
  obtain ⟨frame, hframe, hdepth⟩ := h.depth_eq
  rw [exceeded?, h.limited.maxCallDepth h.lt_size]
  simp only [Store.depth, hframe, hdepth]

theorem enter (h : store.AtDepth limit depth env) {target : String} {closure : Closure}
    {args : List Json} {callee : FrameId} {entered : Store}
    (hfunction : store.function? env target = some (.user closure))
    (henter : Eval.enter closure args env store = .ok callee entered) :
    depth + 1 ≤ limit ∧ entered.AtDepth limit (depth + 1) callee := by
  have hlimited := h.limited.enter hfunction henter
  obtain ⟨hexceeded, vars, _, rfl, rfl⟩ := Eval.enter_eq_ok henter
  obtain ⟨frame, hframe, hdepth⟩ := h.depth_eq
  constructor
  · rw [h.exceeded?_eq] at hexceeded
    split at hexceeded
    · cases hexceeded
    · omega
  · refine ⟨hlimited, _, (frame_addFrame _ _ _).trans (if_pos rfl), ?_⟩
    simp only [innerFrame, Store.depth, hframe, hdepth]

theorem openModule (h : store.AtDepth limit depth env) {stack : Nat} {source : String}
    {opening : Opening} (hopen : store.findModule stack env source = .ok (.inr opening)) :
    opening.store.AtDepth limit 0 opening.frame :=
  ⟨h.limited.openModule h.lt_size hopen, frame_of_findModule hopen⟩

end AtDepth

end Store

/-- What holds at every moment: the frame is at the depth of the calls since the innermost load,
which are within the limit, as they were below each load. -/
structure Store.Bounded (limit : Int) (pending : List Pending) (store : Store) (env : FrameId) :
    Prop where
  atDepth : store.AtDepth limit (Pending.sinceLoad pending) env
  sinceLoad_le : (Pending.sinceLoad pending : Int) ≤ limit
  belowLoad_le : (Pending.belowLoad pending : Int) ≤ limit * Pending.loads pending

theorem Store.Bounded.openModule {limit : Int} {pending : List Pending} {store : Store}
    {env : FrameId} (h : store.Bounded limit pending env) {stack : Nat} {source : String}
    {opening : Opening} (hopen : store.findModule stack env source = .ok (.inr opening))
    (hlimit : 0 ≤ limit) :
    opening.store.Bounded limit (.load source :: pending) opening.frame := by
  refine ⟨h.atDepth.openModule hopen, hlimit, ?_⟩
  -- The calls that were counted so far are now below a load, which allows for one more limit.
  have htotal := Pending.activations_eq pending
  have hsince := h.sinceLoad_le
  have hbelow := h.belowLoad_le
  simp only [Pending.belowLoad, Pending.loads]
  push_cast
  rw [mul_add]
  omega

namespace Eval

theorem outcome_of_applies {left : Nat} {task : Task} {closure : Closure} {values : List Json}
    {ready : Store} (h : Applies (evaluate left) task closure values ready) :
    outcome (evaluate (left + 1)) task =
      applyClosure (evaluate left) closure values task.frame ready := by
  obtain ⟨hvalues, hfunction⟩ := h
  simp only [outcome, evaluate, step, bind_apply, hvalues, function_apply, hfunction, apply]

variable {limit depth : Int} {store : Store} {caller : FrameId} {closure : Closure}
  {values : List Json}

theorem enter_of_limit (h : store.AtDepth limit depth caller) (hdepth : depth = limit) :
    enter closure values caller store =
      .error (.depthExceeded (some limit) "call") store := by
  have hexceeded : store.exceeded? caller = some limit := by
    rw [h.exceeded?_eq, if_pos (by omega)]
  rw [enter_apply, hexceeded]

theorem exists_enter_of_lt (h : store.AtDepth limit depth caller) (hdepth : depth < limit)
    (hlength : values.length = closure.params.length) :
    ∃ callee entered, enter closure values caller store = .ok callee entered := by
  have hexceeded : store.exceeded? caller = none := by
    rw [h.exceeded?_eq, if_neg (by omega)]
  rw [enter_apply, hexceeded, bindArguments, if_pos hlength]
  exact ⟨_, _, rfl⟩

end Eval

namespace Interpreter

theorem atDepth_freshStore (interpreter : Interpreter) (modules : Bindings Module) :
    (interpreter.freshStore modules).AtDepth interpreter.maxCallDepth 0 0 := by
  refine ⟨?_, _, rfl, rfl⟩
  intro i frame hframe
  obtain ⟨hlt, rfl⟩ := Array.getElem?_eq_some_iff.mp hframe
  obtain rfl : i = 0 := Nat.lt_one_iff.mp hlt
  exact Store.limited_rootFrame _ _ 0 interpreter.builtins

theorem invariant_bounded {interpreter : Interpreter} (hlimit : 0 ≤ interpreter.maxCallDepth) :
    interpreter.Invariant fun _ pending store env =>
      store.Bounded interpreter.maxCallDepth pending env where
  fresh modules :=
    ⟨interpreter.atDepth_freshStore modules, hlimit, by simp [Pending.belowLoad, Pending.loads]⟩
  output _ h :=
    ⟨⟨h.atDepth.limited.of_frames_eq rfl, h.atDepth.depth_eq⟩, h.sinceLoad_le, h.belowLoad_le⟩
  effect h heffect := ⟨h.atDepth.effect heffect, h.sinceLoad_le, h.belowLoad_le⟩
  enter h hfunction henter := by
    obtain ⟨hle, hentered⟩ := h.atDepth.enter hfunction henter
    exact ⟨hentered, hle, h.belowLoad_le⟩
  opening h hopen := h.openModule hopen hlimit

/-- At every moment of every request of a session, the calls that are pending are within the limit,
those below a pending load not counted; and a call that would make them exceed it is refused,
instead of being entered, and no other call is. So the limit bounds the nesting of all calls as long
as none of them is below a load, and in general each load that is pending allows for as many calls
again. -/
theorem activations_bounded (interpreter : Interpreter) (hlimit : 0 ≤ interpreter.maxCallDepth)
    (macros : Macros) (requests : List Request) {request : Request} {pending : List Pending}
    {left : Nat} {task : Task}
    (h : interpreter.Moment (interpreter.after (interpreter.initial macros) requests) request
      pending left task) :
    (Pending.activations pending : Int) ≤
        interpreter.maxCallDepth + Pending.belowLoad pending ∧
      (Pending.belowLoad pending : Int) ≤ interpreter.maxCallDepth * Pending.loads pending ∧
      ∀ below closure values ready, left = below + 1 →
        Eval.Applies (Eval.evaluate below) task closure values ready →
        ((Pending.activations pending : Int) =
            interpreter.maxCallDepth + Pending.belowLoad pending →
          Eval.outcome (Eval.evaluate left) task =
            .error (.depthExceeded (some interpreter.maxCallDepth) "call") ready) ∧
        ((Pending.activations pending : Int) <
            interpreter.maxCallDepth + Pending.belowLoad pending →
          values.length = closure.params.length →
          ∃ callee entered, Eval.enter closure values task.frame ready = .ok callee entered) := by
  have hbounded := (invariant_bounded hlimit).moment h
  have htotal := Pending.activations_eq pending
  have hsince := hbounded.sinceLoad_le
  refine ⟨by omega, hbounded.belowLoad_le, ?_⟩
  rintro below closure values ready rfl happlies
  have hready := hbounded.atDepth.effect
    (Eval.effect_applies (Eval.evaluate_effect below) happlies)
  constructor
  · intro hreached
    rw [Eval.outcome_of_applies happlies, Eval.applyClosure, Eval.bind_apply,
      Eval.enter_of_limit hready (by omega)]
  · intro hbelow hlength
    exact Eval.exists_enter_of_lt hready (by omega) hlength

/-- A program whose function `f` imports the module `m`, which calls its own function `g` while it
is being evaluated. -/
def importInCall : Json :=
  .obj [("jexl_version", .str "v0.1"), ("name", .str "test"),
    ("modules", .obj [("m", .obj [("exports", .arr
      [.obj [("function", .obj [("name", .str "g"), ("params", .arr []), ("body", .null)])],
        .obj [("let", .obj [("name", .str "v"), ("value", .obj [("g", .arr [])])])]])])]),
    ("program", .arr
      [.obj [("function", .obj [("name", .str "f"), ("params", .arr []),
          ("body", .obj [("import", .obj [("module", .str "m"), ("symbols", .arr [])])])])],
        .obj [("f", .arr [])]])]

/-- With a limit of one call, `g` is about to be entered while `f` is pending. -/
theorem moment_importInCall (macros : Macros) :
    let interpreter : Interpreter := { maxCallDepth := 1 }
    let f : Closure := { name := "f", params := [], body := .imports "m" [], frame := 0 }
    let g : Closure := { name := "g", params := [], body := .literal .null, frame := 3 }
    ∃ store callee entered, interpreter.Moment (interpreter.initial macros) (.run importInCall)
      [.load "m", .call f] 997 ⟨.call "g" [], 3, store⟩ ∧
        Eval.Applies (Eval.evaluate 996) ⟨.call "g" [], 3, store⟩ g [] store ∧
        Eval.enter g [] 3 store = .ok callee entered := by
  intro interpreter f g
  let modules : Bindings Module :=
    [("m", { exports := [.function "g" [] (.literal .null), .binding "v" (.call "g" [])] })]
  let defined : Store := (interpreter.freshStore modules).setFunction 0 "f" (.user f)
  let entered : Store := defined.addFrame (defined.innerFrame 0 1 [])
  have hcomes : Eval.Comes (Eval.evaluate 1000) 0
      [.function "f" [] (.imports "m" []), .call "f" []] (interpreter.freshStore modules)
      (.call "f" []) defined := .later rfl .here
  have hstarts : interpreter.Starts (interpreter.initial macros) (.run importInCall)
      ⟨.call "f" [], 0, defined⟩ := .run rfl rfl rfl rfl hcomes
  have hf : defined.function? 0 "f" = some (.user f) := by
    rw [Store.function?, Store.chain_of_root rfl rfl]
    rfl
  have hcall : Eval.Begins (Eval.evaluate 999) 999 ⟨.call "f" [], 0, defined⟩ [.call f]
      ⟨.imports "m" [], 1, entered⟩ := .body (.intro rfl hf) rfl
  let realm : Realm :=
    { builtins := interpreter.builtins, settings := interpreter.settings, modules }
  let opening : Opening := entered.openModule 0 realm (some 1) "m" []
    [.function "g" [] (.literal .null), .binding "v" (.call "g" [])]
  have hopen : entered.findModule 998 1 "m" = .ok (.inr opening) := by
    have hchain : entered.chain 1 = [1, 0] := by
      rw [Store.chain_of_inside rfl rfl Nat.zero_lt_one, Store.chain_of_root rfl rfl]
    simp only [Store.findModule, Store.realmOf?, Store.root, hchain]
    rfl
  let store : Store := opening.store.setFunction 3 "g" (.user g)
  have hload : Eval.Begins (Eval.evaluate 998) 998 ⟨.imports "m" [], 1, entered⟩ [.load "m"]
      ⟨.binding "v" (.call "g" []), 3, store⟩ := .exported hopen (.later rfl .here)
  have hg : store.function? 3 "g" = some (.user g) := by
    rw [Store.function?, Store.chain_of_inside rfl rfl (Nat.lt_succ_self 2)]
    rfl
  have hmoment : Eval.During 1000 ⟨.call "f" [], 0, defined⟩ [.load "m", .call f] 997
      ⟨.call "g" [], 3, store⟩ := .next (.next (.next .start hcall) hload) .value
  exact ⟨store, _, _, ⟨_, hstarts, hmoment⟩, .intro rfl hg, rfl⟩

/-- The call of `g` is entered, although as many calls are pending as the limit allows. -/
theorem activations_bounded_importInCall :
    let interpreter : Interpreter := { maxCallDepth := 1 }
    ∃ pending left task closure ready,
      interpreter.Moment (interpreter.initial { maxDepth := 100 }) (.run importInCall) pending
        (left + 1) task ∧
      Eval.Applies (Eval.evaluate left) task closure [] ready ∧
      (Pending.activations pending : Int) = interpreter.maxCallDepth ∧
      ∃ callee entered, Eval.enter closure [] task.frame ready = .ok callee entered := by
  intro interpreter
  obtain ⟨store, _, _, hmoment, happlies, _⟩ := moment_importInCall { maxDepth := 100 }
  refine ⟨_, 996, _, _, store, hmoment, happlies, rfl, ?_⟩
  obtain ⟨_, _, hcalls⟩ :=
    activations_bounded interpreter (by decide) { maxDepth := 100 } [] hmoment
  exact (hcalls 996 _ [] store rfl happlies).2 (by decide) rfl

/-- So the limit does not bound the nesting of all calls. -/
theorem activations_exceed_limit :
    let interpreter : Interpreter := { maxCallDepth := 1 }
    ∃ pending left task,
      interpreter.Moment (interpreter.initial { maxDepth := 100 }) (.run importInCall) pending left
        task ∧
      interpreter.maxCallDepth < Pending.activations pending := by
  intro interpreter
  obtain ⟨store, callee, entered, ⟨start, hstarts, hduring⟩, happlies, henter⟩ :=
    moment_importInCall { maxDepth := 100 }
  exact ⟨_, 996, _, ⟨start, hstarts, hduring.next (.body happlies henter)⟩, by decide⟩

end Interpreter

end JsonExpr
