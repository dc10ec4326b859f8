import JsonExpr.Proofs.Expansion
import JsonExpr.Proofs.Limited
import JsonExpr.Proofs.Session

namespace JsonExpr

theorem shallow_foldlM {α β : Type} {f : β → α → Except Error β}
    (h : ∀ state item, Shallow (f state item)) (items : List α) (initial : β) :
    Shallow (items.foldlM f initial) := by
  induction items generalizing initial with
  | nil => exact shallow_ok _
  | cons item rest ih =>
      rw [List.foldlM_cons]
      exact shallow_bind (h initial item) fun state => ih state

theorem Json.shallow_checkedText (value : Json) : Shallow value.checkedText := by
  unfold checkedText
  split
  · exact shallow_ok _
  · exact shallow_error rfl

namespace Builtin

theorem shallow_twoNumbers (name : String) (args : List Json) : Shallow (twoNumbers name args) := by
  unfold twoNumbers
  split
  · exact shallow_ok _
  · refine shallow_bind (Json.shallow_checkedText _) fun _ => ?_
    exact shallow_bind (Json.shallow_checkedText _) fun _ => shallow_error rfl
  · exact shallow_error rfl

theorem shallow_texts (args : List Json) : Shallow (texts args) := by
  intro err h
  obtain ⟨arg, _, harg⟩ := exists_of_mapM_eq_error h
  exact Json.shallow_checkedText arg err harg

theorem shallow_addPair (members : Bindings Json) (pair : Json) :
    Shallow (addPair members pair) := by
  unfold addPair
  split
  · exact shallow_ok _
  · exact shallow_bind (Json.shallow_checkedText _) fun _ => shallow_error rfl

theorem shallow_number (result : Except Number.Fault Number) :
    Shallow (do return Json.num (← result.mapError Error.arithmetic)) := by
  refine shallow_bind (fun err h => ?_) fun _ => shallow_ok _
  obtain ⟨_, _, rfl⟩ := mapError_eq_error_iff.mp h
  rfl

theorem shallow_value {builtin : Builtin} (hown : ∀ value printed, builtin ≠ .host value printed)
    (args : List Json) : Shallow (builtin.value args) := by
  cases builtin with
  | add | subtract | multiply =>
      exact shallow_bind (shallow_twoNumbers _ args) fun _ => shallow_number _
  | divide =>
      refine shallow_bind (shallow_twoNumbers _ args) fun (a, b) => ?_
      dsimp only
      split
      · exact shallow_error rfl
      · exact shallow_number _
  | less | greater =>
      exact shallow_bind (shallow_twoNumbers _ args) fun _ => shallow_ok _
  | equals | not =>
      simp only [value]
      split
      · exact shallow_ok _
      · exact shallow_error rfl
  | print | concat =>
      exact shallow_bind (shallow_texts args) fun _ => shallow_ok _
  | list => exact shallow_ok _
  | tuple =>
      refine shallow_bind ?_ fun _ => shallow_ok _
      unfold expectArity
      split
      · exact shallow_ok _
      · exact shallow_error rfl
  | object =>
      exact shallow_bind (shallow_foldlM shallow_addPair args []) fun _ => shallow_ok _
  | host value printed => exact absurd rfl (hown value printed)

/-- The function never fails with the error. -/
def Avoids (builtin : Builtin) (err : Error) : Prop :=
  ∀ args, builtin.value args ≠ .error err

theorem Avoids.apply_ne {builtin : Builtin} {err : Error} (h : builtin.Avoids err)
    (args : List Json) : builtin.apply args ≠ .error err := by
  intro happly
  rcases bind_eq_error_iff.mp happly with hvalue | ⟨_, _, hreturn⟩
  · exact h args hvalue
  · cases hreturn

theorem avoids_of_ne_host {builtin : Builtin} {err : Error}
    (hown : ∀ value printed, builtin ≠ .host value printed)
    (hnesting : err.reportsNesting = true) : builtin.Avoids err := by
  intro args herror
  have hshallow := shallow_value hown args err herror
  rw [hnesting] at hshallow
  cases hshallow

end Builtin

namespace Store

/-- The builtins that a store holds, in its frames and for the modules of its realms, are all
allowed. -/
structure Confined (allowed : Builtin → Prop) (store : Store) : Prop where
  functions : ∀ (i : FrameId) (frame : Frame), store.frames[i]? = some frame →
    ∀ name builtin, (name, Function.builtin builtin) ∈ frame.functions → allowed builtin
  builtins : ∀ (i : RealmId) (realm : Realm), store.realms[i]? = some realm →
    ∀ name builtin, (name, builtin) ∈ realm.builtins → allowed builtin

theorem builtin_of_mem_rootFrame {id : RealmId} {builtins : Bindings Builtin} {limit : Option Int}
    {name : String} {builtin : Builtin}
    (h : (name, Function.builtin builtin) ∈ (rootFrame id builtins limit).functions) :
    (name, builtin) ∈ builtins := by
  obtain ⟨⟨bound, found⟩, hmem, heq⟩ := List.mem_map.mp (Bindings.mem_ofList h)
  cases heq
  exact hmem

namespace Confined

variable {allowed : Builtin → Prop} {store : Store}

theorem allowed_of_function? (h : store.Confined allowed) {env : FrameId} {name : String}
    {builtin : Builtin} (hfunction : store.function? env name = some (.builtin builtin)) :
    allowed builtin := by
  obtain ⟨i, frame, hframe, hget⟩ := exists_frame_of_function? hfunction
  exact h.functions i frame hframe name builtin (Bindings.mem_of_get? hget)

theorem setVar (h : store.Confined allowed) (env : FrameId) (name : String) (value : Json) :
    (store.setVar env name value).Confined allowed where
  functions i found hfound := by
    rw [frame_setVar] at hfound
    split at hfound
    · obtain ⟨frame, hframe, rfl⟩ := Option.map_eq_some_iff.mp hfound
      exact h.functions i frame hframe
    · exact h.functions i found hfound
  builtins := h.builtins

theorem setFunction (h : store.Confined allowed) (env : FrameId) (name : String)
    {function : Function} (hfunction : ∀ builtin, function = .builtin builtin → allowed builtin) :
    (store.setFunction env name function).Confined allowed where
  functions i found hfound bound builtin hmem := by
    rw [frame_setFunction] at hfound
    split at hfound
    · obtain ⟨frame, hframe, rfl⟩ := Option.map_eq_some_iff.mp hfound
      rcases Bindings.mem_set hmem with heq | hbefore
      · exact hfunction builtin (congrArg Prod.snd heq).symm
      · exact h.functions i frame hframe bound builtin hbefore
    · exact h.functions i found hfound bound builtin hmem
  builtins := h.builtins

theorem addFrame (h : store.Confined allowed) {frame : Frame}
    (hframe : ∀ name builtin, (name, Function.builtin builtin) ∈ frame.functions →
      allowed builtin) : (store.addFrame frame).Confined allowed where
  functions i found hfound := by
    rw [frame_addFrame] at hfound
    split at hfound
    · cases hfound
      exact hframe
    · exact h.functions i found hfound
  builtins := h.builtins

theorem addInner (h : store.Confined allowed) (outer : FrameId) (depth : Int)
    (vars : Bindings Json) :
    (store.addFrame (store.innerFrame outer depth vars)).Confined allowed := by
  apply h.addFrame
  intro _ _ hmem
  cases hmem

theorem modifyRealm (h : store.Confined allowed) (id : RealmId) {f : Realm → Realm}
    (hf : ∀ realm, (f realm).builtins = realm.builtins) :
    (store.modifyRealm id f).Confined allowed where
  functions := h.functions
  builtins i found hfound := by
    rw [realm_modifyRealm] at hfound
    split at hfound
    · obtain ⟨realm, hrealm, rfl⟩ := Option.map_eq_some_iff.mp hfound
      rw [hf]
      exact h.builtins i realm hrealm
    · exact h.builtins i found hfound

theorem enter (h : store.Confined allowed) {closure : Closure} {args : List Json}
    {caller callee : FrameId} {entered : Store}
    (henter : Eval.enter closure args caller store = .ok callee entered) :
    entered.Confined allowed := by
  obtain ⟨_, vars, _, _, rfl⟩ := Eval.enter_eq_ok henter
  exact h.addInner _ _ vars

theorem openModule (h : store.Confined allowed) {stack : Nat} {importer : FrameId}
    {source : String} {opening : Opening}
    (hopen : store.findModule stack importer source = .ok (.inr opening)) :
    opening.store.Confined allowed := by
  obtain ⟨id, realm, _, _, _, _, hrealm, _, _, _, _, rfl⟩ := findModule_eq_opening hopen
  have hbased (limit : Option Int) :
      (store.addFrame (rootFrame id realm.builtins limit)).Confined allowed :=
    h.addFrame fun name builtin hmem =>
      h.builtins id realm hrealm name builtin (builtin_of_mem_rootFrame hmem)
  exact ((hbased _).addInner _ 0 []).modifyRealm id fun _ => rfl

theorem close (h : store.Confined allowed) (opening : Opening) :
    (opening.close store).Confined allowed :=
  h.modifyRealm _ fun _ => rfl

theorem finish (h : store.Confined allowed) (opening : Opening) :
    (opening.finish store).Confined allowed :=
  (h.close opening).modifyRealm _ fun _ => rfl

theorem effect {env : FrameId} {may : Namespace → List String} {before after : Store}
    (h : before.Confined allowed) (heffect : Effect env may before after) :
    after.Confined allowed := by
  induction heffect with
  | none => exact h
  | next _ _ ihFirst ihSecond => exact ihSecond (ihFirst h)
  | printed text => exact ⟨h.functions, h.builtins⟩
  | assigned value _ => exact h.setVar _ _ value
  | defined params body _ => exact h.setFunction _ _ fun _ heq => by cases heq
  | @imported env may store symbol source frame function _ hframe hfunction =>
      refine h.setFunction _ _ fun builtin heq => ?_
      subst heq
      exact h.functions source frame hframe symbol builtin (Bindings.mem_of_get? hfunction)
  | call _ henter _ ih => exact ih (h.enter henter)
  | failedLoad hopen _ ih => exact (ih (h.openModule hopen)).close _
  | load hopen _ _ ih => exact (ih (h.openModule hopen)).finish _

end Confined

end Store

namespace Interpreter

variable {interpreter : Interpreter} {allowed : Builtin → Prop}

theorem confined_freshStore
    (h : ∀ name builtin, (name, builtin) ∈ interpreter.builtins → allowed builtin)
    (modules : Bindings Module) : (interpreter.freshStore modules).Confined allowed where
  functions i frame hframe name builtin hmem := by
    obtain ⟨hlt, rfl⟩ := Array.getElem?_eq_some_iff.mp hframe
    obtain rfl : i = 0 := Nat.lt_one_iff.mp hlt
    exact h name builtin (Store.builtin_of_mem_rootFrame hmem)
  builtins i realm hrealm := by
    obtain ⟨hlt, rfl⟩ := Array.getElem?_eq_some_iff.mp hrealm
    obtain rfl : i = 0 := Nat.lt_one_iff.mp hlt
    exact h

theorem invariant_confined
    (h : ∀ name builtin, (name, builtin) ∈ interpreter.builtins → allowed builtin) :
    interpreter.Invariant fun _ _ store _ => store.Confined allowed where
  fresh := confined_freshStore h
  output _ h := ⟨h.functions, h.builtins⟩
  effect h heffect := h.effect heffect
  enter h _ henter := h.enter henter
  opening h hopen := h.openModule hopen

/-- No function of the embedding application fails with the error. -/
def HostAvoids (interpreter : Interpreter) (err : Error) : Prop :=
  ∀ name value printed, (name, Builtin.host value printed) ∈ interpreter.builtins →
    ∀ args, value args ≠ .error err

theorem HostAvoids.avoids {err : Error} (h : interpreter.HostAvoids err)
    (hnesting : err.reportsNesting = true) (name : String) (builtin : Builtin)
    (hmem : (name, builtin) ∈ interpreter.builtins) : builtin.Avoids err := by
  by_cases hhost : ∃ value printed, builtin = .host value printed
  · obtain ⟨value, printed, rfl⟩ := hhost
    exact h name value printed hmem
  · refine Builtin.avoids_of_ne_host (fun value printed heq => ?_) hnesting
    exact hhost ⟨value, printed, heq⟩

theorem hostAvoids_of_standard (h : interpreter.builtins = Builtin.standard) (err : Error) :
    interpreter.HostAvoids err := by
  intro name value printed hmem
  rw [h] at hmem
  simp [Builtin.standard] at hmem

end Interpreter

end JsonExpr
