import JsonExpr.Proofs.LoadHistory
import JsonExpr.Proofs.ModuleRegistry
import JsonExpr.Proofs.Twin

/-!
Evaluation repeated in another session. When the same expression is evaluated in two sessions, in
frames that look the same, and both evaluations succeed, they have the same value and leave frames
that look the same. What else the sessions hold need not agree: where one imports a module that it
has loaded before, the other may load it only then. It is enough that the modules which have been
loaded in both look the same.
-/

namespace JsonExpr

/-- Evaluation goes on in two sessions, in frames that look the same. -/
structure Twinned (first second : Interpreter) (modules others : Bindings Module)
    (env away : FrameId) (store twin : Store) : Prop where
  left : first.Traced modules store env
  right : second.Traced others twin away
  ne_zero : env ≠ 0
  alike : store.Scoped first.baseFrame twin env away

/-- Modules that have been loaded in two sessions have frames that look the same, as long as not
more than `count` modules have been loaded in the first. -/
def LoadedAlike (first second : Interpreter) (modules others : Bindings Module) (count : Nat) :
    Prop :=
  ∀ {store twin env away}, first.Traced modules store env → second.Traced others twin away →
    store.registry.loaded.names.length ≤ count → ∀ i j, store.Twins twin i j →
    store.Scoped first.baseFrame twin i j

variable {first second : Interpreter} {modules others : Bindings Module} {env away : FrameId}
  {store twin : Store}

namespace Twinned

theorem exists_inner (h : Twinned first second modules others env away store twin) :
    ∃ frame outer, store.frames[env]? = some frame ∧ frame.link = .inside outer :=
  h.left.active.inner.resolve_left h.ne_zero

theorem kept (h : Twinned first second modules others env away store twin) {after again : Store}
    (hleft : first.Traced modules after env) (hright : second.Traced others again away)
    (hframes : ∀ (k : FrameId) (frame : Frame), store.frames[k]? = some frame →
      after.frames[k]? = some frame)
    (hcopies : ∀ (k : FrameId) (frame : Frame), twin.frames[k]? = some frame →
      again.frames[k]? = some frame)
    (hafter : store.Advances after) (hagain : twin.Advances again) :
    Twinned first second modules others env away after again :=
  ⟨hleft, hright, h.ne_zero, h.alike.transport (Nat.lt_succ_self env) (Nat.lt_succ_self away)
    (fun k frame _ => hframes k frame) (fun k frame _ => hcopies k frame) hafter hagain⟩

theorem setVar (h : Twinned first second modules others env away store twin) (name : String)
    (value : Json) :
    Twinned first second modules others env away (store.setVar env name value)
      (twin.setVar away name value) := by
  have hleft : Effect env (fun _ => [name]) store (store.setVar env name value) :=
    .assigned value List.mem_cons_self
  have hright : Effect away (fun _ => [name]) twin (twin.setVar away name value) :=
    .assigned value List.mem_cons_self
  obtain ⟨frame, outer, hframe, hlink⟩ := h.exists_inner
  exact ⟨h.left.effect hleft, h.right.effect hright, h.ne_zero,
    h.alike.setVar hframe hlink name value (h.left.active.effect hleft).2.toAdvances
      (h.right.active.effect hright).2.toAdvances⟩

theorem setFunction (h : Twinned first second modules others env away store twin) {name : String}
    {function other : Function} (hfunction : function.Alike (store.Home twin env away) other)
    {may : Namespace → List String}
    (hleft : Effect env may store (store.setFunction env name function))
    (hright : Effect away may twin (twin.setFunction away name other)) :
    Twinned first second modules others env away (store.setFunction env name function)
      (twin.setFunction away name other) := by
  obtain ⟨frame, outer, hframe, hlink⟩ := h.exists_inner
  exact ⟨h.left.effect hleft, h.right.effect hright, h.ne_zero,
    h.alike.setFunction hframe hlink name hfunction (h.left.active.effect hleft).2.toAdvances
      (h.right.active.effect hright).2.toAdvances⟩

theorem bindExport (h : Twinned first second modules others env away store twin) {source : String}
    {loaded copied : LoadedModule} (hloaded : store.registry.loaded.get? source = some loaded)
    (hcopied : twin.registry.loaded.get? source = some copied)
    (hscoped : store.Scoped first.baseFrame twin loaded.frame copied.frame) (symbol : String)
    {final ended : Store}
    (hfinal : Eval.bindExport source loaded env symbol store = .ok () final)
    (hended : Eval.bindExport source copied away symbol twin = .ok () ended) :
    Twinned first second modules others env away final ended := by
  obtain ⟨frame, copy, hframe, hcopy, halike⟩ := hscoped.contents
  have hget := halike.functions.get? symbol
  rw [Eval.bindExport_apply, hframe] at hfinal
  rw [Eval.bindExport_apply, hcopy] at hended
  simp only [halike.vars_eq] at hfinal hended
  have hhome (i j : FrameId) (hhome : store.Home twin loaded.frame copied.frame i j) :
      store.Home twin env away i j := by
    rcases hhome with ⟨rfl, rfl⟩ | htwins
    · exact .inr ⟨source, loaded, copied, hloaded, hcopied, rfl, rfl⟩
    · exact .inr htwins
  generalize hfunction : frame.functions.get? symbol = found at hget hfinal
  generalize hother : copy.functions.get? symbol = same at hget hended
  cases hget with
  | some hsame =>
      cases hfinal
      cases hended
      have hleft : Effect env (fun _ => [symbol]) store _ :=
        .imported List.mem_cons_self hframe hfunction
      exact h.setFunction (hsame.mono hhome) hleft (.imported List.mem_cons_self hcopy hother)
  | none =>
      cases hvar : frame.vars.get? symbol with
      | some value =>
          rw [hvar] at hfinal hended
          cases hfinal
          cases hended
          exact h.setVar symbol value
      | none =>
          rw [hvar] at hfinal
          simp only at hfinal
          split at hfinal
          · cases hfinal
          · cases hfinal

theorem bindExports (h : Twinned first second modules others env away store twin) {count : Nat}
    (halike : LoadedAlike first second modules others count) {source : String}
    {loaded copied : LoadedModule} (hloaded : store.registry.loaded.get? source = some loaded)
    (hcopied : twin.registry.loaded.get? source = some copied) {symbols : List String}
    {final ended : Store}
    (hfinal : symbols.forM (Eval.bindExport source loaded env) store = .ok () final)
    (hended : symbols.forM (Eval.bindExport source copied away) twin = .ok () ended)
    (hcount : final.registry.loaded.names.length ≤ count) :
    Twinned first second modules others env away final ended := by
  have heffect (loaded : LoadedModule) (env : FrameId) (symbol : String) (store : Store) :
      Effect env (fun _ => [symbol]) store
        (Eval.finalStore (Eval.bindExport source loaded env symbol) store) :=
    Eval.effect_bindExport source loaded (fun _ => List.mem_cons_self) store
  induction symbols generalizing store twin with
  | nil =>
      cases hfinal
      cases hended
      exact h
  | cons symbol rest ih =>
      have hwhole : Effect env (fun _ => symbol :: rest) store (Eval.finalStore
          ((symbol :: rest).forM (Eval.bindExport source loaded env)) store) :=
        .forM (fun _ hsymbol => Eval.effect_bindExport source loaded fun _ => hsymbol) store
      have hlength := (h.left.active.of_ok hwhole hfinal).2.names_kept.length_le
      obtain ⟨_, middle, hmiddle, hrest⟩ := Eval.bind_eq_ok.mp hfinal
      obtain ⟨_, half, hhalf, hmore⟩ := Eval.bind_eq_ok.mp hended
      have hscoped := halike h.left h.right (Nat.le_trans hlength hcount) loaded.frame copied.frame
        ⟨source, loaded, copied, hloaded, hcopied, rfl, rfl⟩
      have hadvances := (h.left.active.of_ok (heffect loaded env symbol store) hmiddle).2
      have hfollows := (h.right.active.of_ok (heffect copied away symbol twin) hhalf).2
      exact ih (h.bindExport hloaded hcopied hscoped symbol hmiddle hhalf)
        (hadvances.kept source loaded hloaded).1 (hfollows.kept source copied hcopied).1 hrest hmore

theorem enter (h : Twinned first second modules others env away store twin) {target : String}
    {closure other : Closure} (hfunction : store.function? env target = some (.user closure))
    (hother : twin.function? away target = some (.user other)) (hname : other.name = closure.name)
    (hparams : other.params = closure.params)
    (hhome : store.Scoped first.baseFrame twin closure.frame other.frame) {args : List Json}
    {callee landing : FrameId} {entered landed : Store}
    (henter : Eval.enter closure args env store = .ok callee entered)
    (hland : Eval.enter other args away twin = .ok landing landed) :
    Twinned first second modules others callee landing entered landed := by
  have hleft := h.left.enter hfunction henter
  have hright := h.right.enter hother hland
  have hentered := (h.left.active.enter hfunction henter).2.toAdvances
  have hlanded := (h.right.active.enter hother hland).2.toAdvances
  have hlt := h.left.active.sound.limited.closure_lt hfunction
  have hless := h.right.active.sound.limited.closure_lt hother
  obtain ⟨_, vars, hvars, rfl, rfl⟩ := Eval.enter_eq_ok henter
  obtain ⟨_, same, hsame, rfl, rfl⟩ := Eval.enter_eq_ok hland
  rw [hname, hparams, hvars] at hsame
  cases hsame
  refine ⟨hleft, hright, Nat.ne_of_gt (Nat.zero_lt_of_lt hlt), ?_⟩
  refine .inner ((Store.frame_addFrame _ _ _).trans (if_pos rfl))
    ((Store.frame_addFrame _ _ _).trans (if_pos rfl)) rfl rfl hlt hless ⟨rfl, .nil⟩ ?_
  exact hhome.transport hlt hless (fun _ _ _ => Store.frame_addFrame_of_some)
    (fun _ _ _ => Store.frame_addFrame_of_some) hentered hlanded

end Twinned

/-- Two computations, one in each session, that come to the same in frames that look the same,
provided that both succeed and that not more than `count` modules have been loaded then. -/
structure Repeats {α : Type} (first second : Interpreter) (modules others : Bindings Module)
    (count : Nat) (env away : FrameId) (work again : Eval α) : Prop where
  advances : ∀ {store value final}, first.Traced modules store env →
    work store = .ok value final → first.Traced modules final env ∧ store.Advances final
  same : ∀ {store twin value result final ended},
    Twinned first second modules others env away store twin → work store = .ok value final →
    again twin = .ok result ended → final.registry.loaded.names.length ≤ count →
    result = value ∧ Twinned first second modules others env away final ended

namespace Repeats

variable {α β : Type} {count : Nat}

theorem of_effect {may : Namespace → List String} {work again : Eval α}
    (heffect : ∀ store, Effect env may store (Eval.finalStore work store))
    (hsame : ∀ {store twin value result final ended},
      Twinned first second modules others env away store twin → work store = .ok value final →
      again twin = .ok result ended → final.registry.loaded.names.length ≤ count →
      result = value ∧ Twinned first second modules others env away final ended) :
    Repeats first second modules others count env away work again where
  advances h hwork :=
    ⟨h.of_ok (heffect _) hwork, (h.active.of_ok (heffect _) hwork).2.toAdvances⟩
  same := hsame

theorem pure (value : α) :
    Repeats first second modules others count env away (Pure.pure value) (Pure.pure value) := by
  have heffect (store : Store) :
      Effect env (fun _ => []) store (Eval.finalStore (Pure.pure value : Eval α) store) := .none
  refine of_effect heffect ?_
  intro store twin value result final ended h hwork hagain _
  cases hwork
  cases hagain
  exact ⟨rfl, h⟩

theorem of_error {may : Namespace → List String} {work again : Eval α}
    (heffect : ∀ store, Effect env may store (Eval.finalStore work store))
    (herror : ∀ twin, ∃ e ended, again twin = .error e ended) :
    Repeats first second modules others count env away work again := by
  refine of_effect heffect ?_
  intro store twin value result final ended _ _ hagain _
  obtain ⟨e, failed, hfailed⟩ := herror twin
  rw [hfailed] at hagain
  cases hagain

theorem bind {work again : Eval α} {next follow : α → Eval β}
    (hwork : Repeats first second modules others count env away work again)
    (hnext : ∀ value,
      Repeats first second modules others count env away (next value) (follow value)) :
    Repeats first second modules others count env away (work >>= next) (again >>= follow) where
  advances h hfinal := by
    obtain ⟨value, middle, hvalue, hrest⟩ := Eval.bind_eq_ok.mp hfinal
    obtain ⟨hmiddle, hfirst⟩ := hwork.advances h hvalue
    obtain ⟨htraced, hsecond⟩ := (hnext value).advances hmiddle hrest
    exact ⟨htraced, hfirst.trans hsecond⟩
  same h hfinal hended hcount := by
    obtain ⟨value, middle, hvalue, hrest⟩ := Eval.bind_eq_ok.mp hfinal
    obtain ⟨result, half, hresult, hleft⟩ := Eval.bind_eq_ok.mp hended
    -- The bound is on the modules loaded at the end, and what comes second only adds to them.
    obtain ⟨hmiddle, _⟩ := hwork.advances h.left hvalue
    have hkept := ((hnext value).advances hmiddle hrest).2.names_kept.length_le
    obtain ⟨rfl, htwinned⟩ := hwork.same h hvalue hresult (Nat.le_trans hkept hcount)
    exact (hnext result).same htwinned hrest hleft hcount

theorem mapM {work again : α → Eval β} (items : List α)
    (h : ∀ item, Repeats first second modules others count env away (work item) (again item)) :
    Repeats first second modules others count env away (items.mapM work) (items.mapM again) := by
  induction items with
  | nil => exact .pure []
  | cons item rest ih =>
      rw [List.mapM_cons, List.mapM_cons]
      exact (h item).bind fun value => ih.bind fun values => .pure (value :: values)

theorem foldlM {work again : β → α → Eval β} (items : List α)
    (h : ∀ value item,
      Repeats first second modules others count env away (work value item) (again value item))
    (value : β) :
    Repeats first second modules others count env away (items.foldlM work value)
      (items.foldlM again value) := by
  induction items generalizing value with
  | nil => exact .pure value
  | cons item rest ih =>
      rw [List.foldlM_cons, List.foldlM_cons]
      exact (h value item).bind ih

theorem var (name : String) :
    Repeats first second modules others count env away (Eval.var env name)
      (Eval.var away name) := by
  have heffect (store : Store) :
      Effect env (fun _ => []) store (Eval.finalStore (Eval.var env name) store) := by
    rw [Eval.finalStore, Eval.var_apply]
    cases store.var? env name <;> exact .none
  refine of_effect heffect ?_
  intro store twin value result final ended h hwork hagain _
  rw [Eval.var_apply] at hwork hagain
  rw [h.alike.var?_eq] at hagain
  cases hvar : store.var? env name with
  | none =>
      rw [hvar] at hwork
      cases hwork
  | some found =>
      rw [hvar] at hwork hagain
      cases hwork
      cases hagain
      exact ⟨rfl, h⟩

theorem setVar (name : String) (value : Json) :
    Repeats first second modules others count env away
      (modify fun store => store.setVar env name value : Eval Unit)
      (modify fun store => store.setVar away name value) := by
  have heffect (store : Store) : Effect env (fun _ => [name]) store
      (Eval.finalStore (modify fun store => store.setVar env name value : Eval Unit) store) :=
    .assigned value List.mem_cons_self
  refine of_effect heffect ?_
  intro store twin _ _ final ended h hwork hagain _
  cases hwork
  cases hagain
  exact ⟨rfl, h.setVar name value⟩

theorem define (name : String) (params : List Param) (body : Expr) :
    Repeats first second modules others count env away
      (modify fun store =>
        store.setFunction env name (.user { name, params, body, frame := env }) : Eval Unit)
      (modify fun store =>
        store.setFunction away name (.user { name, params, body, frame := away })) := by
  have heffect (env : FrameId) (store : Store) : Effect env (fun _ => [name]) store
      (store.setFunction env name (.user { name, params, body, frame := env })) :=
    .defined params body List.mem_cons_self
  refine of_effect (heffect env) ?_
  intro store twin _ _ final ended h hwork hagain _
  cases hwork
  cases hagain
  exact ⟨rfl, h.setFunction (.user rfl rfl rfl (.inl ⟨rfl, rfl⟩)) (heffect env store)
    (heffect away twin)⟩

theorem applyBuiltin (builtin : Builtin) (args : List Json) :
    Repeats first second modules others count env away (Eval.applyBuiltin builtin args)
      (Eval.applyBuiltin builtin args) := by
  have heffect (env : FrameId) (store : Store) : Effect env (fun _ => []) store
      (Eval.finalStore (Eval.applyBuiltin builtin args) store) := by
    rw [Eval.finalStore, Eval.applyBuiltin_apply]
    cases builtin.apply args with
    | ok outcome => exact .printed outcome.printed
    | error e => exact .none
  refine of_effect (heffect env) ?_
  intro store twin value result final ended h hwork hagain _
  have hleft := h.left.of_ok (heffect env store) hwork
  have hright := h.right.of_ok (heffect away twin) hagain
  rw [Eval.applyBuiltin_apply] at hwork hagain
  cases happly : builtin.apply args with
  | error e =>
      rw [happly] at hwork
      cases hwork
  | ok outcome =>
      rw [happly] at hwork hagain
      cases hwork
      cases hagain
      exact ⟨rfl, h.kept hleft hright (fun _ _ => id) (fun _ _ => id) (.withOutput _ _)
        (.withOutput _ _)⟩

section Step

variable {stack room : Nat}

theorem applyClosure (hself : ∀ e env away, Repeats first second modules others count env away
      (Eval.evaluate stack e env) (Eval.evaluate room e away))
    (h : Twinned first second modules others env away store twin) {target : String}
    {closure other : Closure} (hfunction : store.function? env target = some (.user closure))
    (hother : twin.function? away target = some (.user other)) (hname : other.name = closure.name)
    (hparams : other.params = closure.params) (hbody : other.body = closure.body)
    (hhome : store.Scoped first.baseFrame twin closure.frame other.frame) {args : List Json}
    {value result : Json} {final ended : Store}
    (hwork : Eval.applyClosure (Eval.evaluate stack) closure args env store = .ok value final)
    (hagain : Eval.applyClosure (Eval.evaluate room) other args away twin = .ok result ended)
    (hcount : final.registry.loaded.names.length ≤ count) :
    result = value ∧ Twinned first second modules others env away final ended := by
  have heffect : Effect env (fun _ => []) store _ :=
    Eval.effect_applyClosure (Eval.evaluate_effect stack) args hfunction
  have hmirror : Effect away (fun _ => []) twin _ :=
    Eval.effect_applyClosure (Eval.evaluate_effect room) args hother
  have hkeeps := Eval.keeps_applyClosure stack closure args env store
  have hkept := Eval.keeps_applyClosure room other args away twin
  rw [Eval.finalStore_of_ok hwork] at heffect hkeeps
  rw [Eval.finalStore_of_ok hagain] at hmirror hkept
  constructor
  · obtain ⟨callee, entered, henter, hvalue⟩ := Eval.bind_eq_ok.mp hwork
    obtain ⟨landing, landed, hland, hresult⟩ := Eval.bind_eq_ok.mp hagain
    rw [hbody] at hresult
    have hcalled := h.enter hfunction hother hname hparams hhome henter hland
    exact ((hself closure.body callee landing).same hcalled hvalue hresult hcount).1
  · exact h.kept (h.left.effect heffect) (h.right.effect hmirror) hkeeps.frame_eq hkept.frame_eq
      (h.left.active.effect heffect).2.toAdvances (h.right.active.effect hmirror).2.toAdvances

theorem invoke (hself : ∀ e env away, Repeats first second modules others count env away
      (Eval.evaluate stack e env) (Eval.evaluate room e away))
    (hloaded : LoadedAlike first second modules others count) (target : String)
    (args : List Json) :
    Repeats first second modules others count env away
      (do Eval.apply (Eval.evaluate stack) (← Eval.function env target) args env)
      (do Eval.apply (Eval.evaluate room) (← Eval.function away target) args away) := by
  have heffect (store : Store) : Effect env (fun _ => []) store (Eval.finalStore
      (do Eval.apply (Eval.evaluate stack) (← Eval.function env target) args env) store) :=
    Eval.effect_invoke (Eval.evaluate_effect stack) target args store
  refine of_effect heffect ?_
  intro store twin value result final ended h hwork hagain hcount
  have hlength := (h.left.active.of_ok (heffect store) hwork).2.names_kept.length_le
  have hget := h.alike.function? target
  rw [Eval.bind_apply, Eval.function_apply] at hwork hagain
  generalize hfunction : store.function? env target = found at hget hwork
  generalize hother : twin.function? away target = same at hget hagain
  cases hget with
  | none => cases hwork
  | some hsame =>
      cases hsame with
      | value value => cases hwork
      | builtin builtin => exact (applyBuiltin builtin args).same h hwork hagain hcount
      | user hname hparams hbody hhome =>
          have hscoped := hhome.elim id
            (hloaded h.left h.right (Nat.le_trans hlength hcount) _ _)
          exact applyClosure hself h hfunction hother hname hparams hbody hscoped hwork hagain
            hcount

theorem imports (hloaded : LoadedAlike first second modules others count) (source : String)
    (symbols : List String) :
    Repeats first second modules others count env away
      (Eval.evaluate (stack + 1) (.imports source symbols) env)
      (Eval.evaluate (room + 1) (.imports source symbols) away) := by
  refine of_effect (Eval.evaluate_effect (stack + 1) (.imports source symbols) env) ?_
  intro store twin value result final ended h hwork hagain hcount
  obtain ⟨loaded, middle, hload, hrest⟩ := Eval.bind_eq_ok.mp hwork
  obtain ⟨copied, half, hcopy, hmore⟩ := Eval.bind_eq_ok.mp hagain
  have hentry := h.left.active.loaded_loadModule stack source
  have hcopied := h.right.active.loaded_loadModule room source
  have hkeeps := Eval.keeps_loadModule stack env source store
  have hkept := Eval.keeps_loadModule room away source twin
  rw [Eval.finalStore_of_ok hload, hload] at hentry
  rw [Eval.finalStore_of_ok hcopy, hcopy] at hcopied
  rw [Eval.finalStore_of_ok hload] at hkeeps
  rw [Eval.finalStore_of_ok hcopy] at hkept
  have heffect (stack : Nat) (env : FrameId) (store : Store) : Effect env (fun _ => []) store
      (Eval.finalStore (Eval.loadModule (Eval.evaluate stack) stack env source) store) :=
    Eval.effect_loadModule (Eval.evaluate_effect stack) source store
  have hmiddle : Twinned first second modules others env away middle half :=
    h.kept (h.left.of_ok (heffect stack env store) hload)
      (h.right.of_ok (heffect room away twin) hcopy) hkeeps.frame_eq hkept.frame_eq
      (h.left.active.of_ok (heffect stack env store) hload).2.toAdvances
      (h.right.active.of_ok (heffect room away twin) hcopy).2.toAdvances
  obtain ⟨_, _, hbind, hnull⟩ := Eval.bind_eq_ok.mp hrest
  obtain ⟨_, _, hbound, hagainNull⟩ := Eval.bind_eq_ok.mp hmore
  cases hnull
  cases hagainNull
  exact ⟨rfl, hmiddle.bindExports hloaded hentry hcopied hbind hbound hcount⟩

theorem branch (hself : ∀ e, Repeats first second modules others count env away
      (Eval.evaluate stack e env) (Eval.evaluate room e away)) (branch : Option Expr) :
    Repeats first second modules others count env away
      (match branch with
      | some chosen => Eval.evaluate stack chosen env
      | none => return .null)
      (match branch with
      | some chosen => Eval.evaluate room chosen away
      | none => return .null) := by
  cases branch with
  | none => exact .pure Json.null
  | some chosen => exact hself chosen

end Step

/-- Evaluation is repeated, however much stack there is for it. -/
theorem evaluate (hloaded : LoadedAlike first second modules others count) (stack room : Nat)
    (e : Expr) (env away : FrameId) :
    Repeats first second modules others count env away (Eval.evaluate stack e env)
      (Eval.evaluate room e away) := by
  -- The stacks have nothing to do with each other: the induction is on the first, for any second.
  induction stack generalizing room e env away with
  | zero =>
      refine of_effect (Eval.evaluate_effect 0 e env) ?_
      intro store twin value result final ended _ hwork
      cases hwork
  | succ stack ih =>
      have heffect := Eval.evaluate_effect (stack + 1) e env
      cases room with
      | zero => exact .of_error heffect fun twin => ⟨_, _, rfl⟩
      | succ room =>
          cases e with
          | literal value => exact .pure _
          | ref name => exact .var name
          | binding name value =>
              exact (ih room value env away).bind fun result =>
                (setVar name result).bind fun _ => .pure result
          | sequence body => exact .foldlM body (fun _ e => ih room e env away) .null
          | conditional condition whenTrue whenFalse =>
              exact (ih room condition env away).bind fun value =>
                .branch (fun e => ih room e env away) _
          | function name params body =>
              exact (define name params body).bind fun _ => .pure Json.null
          | macroDef name params body => exact .of_error heffect fun twin => ⟨_, _, rfl⟩
          | imports source symbols => exact .imports hloaded source symbols
          | call target args =>
              exact (mapM args fun e => ih room e env away).bind fun values =>
                .invoke (ih room) hloaded target values
          | record target fields => exact .of_error heffect fun twin => ⟨_, _, rfl⟩

theorem runAll (hloaded : LoadedAlike first second modules others count) (stack room : Nat)
    (exprs : List Expr) (env away : FrameId) :
    Repeats first second modules others count env away
      (Eval.runAll (Eval.evaluate stack) env exprs)
      (Eval.runAll (Eval.evaluate room) away exprs) := by
  induction exprs with
  | nil => exact .pure ()
  | cons e rest ih =>
      exact ((evaluate hloaded stack room e env away).bind fun _ => .pure ()).bind fun _ => ih

end Repeats

end JsonExpr
