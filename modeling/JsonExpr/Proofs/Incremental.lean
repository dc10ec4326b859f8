import JsonExpr.Proofs.Grammar
import JsonExpr.Proofs.Session
import JsonExpr.Proofs.Simulation
import JsonExpr.Proofs.Store

namespace JsonExpr

namespace Store

/-- The same store, but with `text` printed before all else. -/
def printedBefore (text : String) (store : Store) : Store :=
  { store with output := text ++ store.output }

theorem printedBefore_output (store : Store) :
    ({ store with output := "" } : Store).printedBefore store.output = store := by
  simp only [printedBefore, String.append_empty]

theorem link_printedBefore (text : String) (store : Store) (i : FrameId) :
    (store.printedBefore text).frames[i]?.map Frame.link = store.frames[i]?.map Frame.link := rfl

theorem exceeded?_printedBefore (text : String) (store : Store) (env : FrameId) :
    (store.printedBefore text).exceeded? env = store.exceeded? env := rfl

theorem simulation_printedBefore (text : String) :
    Simulation (fun _ => False) (fun store other => other = store.printedBefore text)
      fun _ => True where
  chain_eq := by
    rintro store _ env rfl _
    exact chain_eq_of_links (link_printedBefore text store) env
  chain_live _ _ _ _ := trivial
  vars_eq := by
    rintro store _ i rfl _
    rfl
  functions_eq := by
    rintro store _ i rfl _
    rfl
  closure_live _ _ _ _ := trivial
  setVar := by
    rintro store _ env name value rfl _
    rfl
  setFunction := by
    rintro store _ env function name rfl _ _
    rfl
  print := by
    rintro store _ printed rfl
    simp only [printedBefore, String.append_assoc]
  enter := by
    rintro store _ env closure args rfl _ _
    rw [Eval.enter_apply, Eval.enter_apply, exceeded?_printedBefore]
    cases store.exceeded? env with
    | some limit => exact .error rfl
    | none =>
        cases bindArguments closure.name closure.params args with
        | error e => exact .error rfl
        | ok vars => exact .ok trivial rfl
  find := by
    rintro store _ env stack source rfl _
    have hlinks := link_printedBefore text store
    refine .of_realms_eq (realmOf?_eq_of_links hlinks env) rfl ?_ (fun _ _ _ _ _ _ => trivial) ?_
    · rw [root_eq_of_links hlinks]
      rfl
    · refine fun id realm macros exports _ => ⟨rfl, rfl, trivial, rfl, ?_, ?_⟩
      · rintro final _ rfl
        rfl
      · rintro final _ rfl
        rfl

end Store

/-- Goes on after a reply that has a value. What is printed is put together. -/
def Reply.andThen {α β : Type} (reply : Reply α) (next : Session → α → Reply β) : Reply β :=
  match reply.outcome with
  | .error e => { outcome := .error e, output := reply.output, session := reply.session }
  | .ok value =>
      let later := next reply.session value
      { later with output := reply.output ++ later.output }

theorem Reply.andThen_congr {α β : Type} {reply : Reply α} {next onward : Session → α → Reply β}
    (h : ∀ value, next reply.session value = onward reply.session value) :
    reply.andThen next = reply.andThen onward := by
  unfold andThen
  simp only [h]

theorem Reply.andThen_of_silent {α β : Type} (value : α) (session : Session)
    (next : Session → α → Reply β) :
    ({ outcome := .ok value, session } : Reply α).andThen next = next session value := by
  simp only [andThen, String.empty_append]

theorem Reply.map_map {α β γ : Type} (reply : Reply α) (f : α → β) (g : β → γ) :
    (reply.map f).map g = reply.map (g ∘ f) := by
  unfold map
  cases reply.outcome <;> rfl

theorem Reply.map_id {α : Type} (reply : Reply α) : reply.map id = reply := by
  unfold map
  obtain ⟨outcome, _, _⟩ := reply
  cases outcome <;> rfl

namespace Json

theorem fitsWithin_of_get? {limit : Nat} {members : Bindings Json} {key : String}
    {items : List Json} (h : (Json.obj members).fitsWithin limit = true)
    (hitems : members.get? key = some (.arr items)) :
    (Json.obj (members.set key (.arr []))).fitsWithin limit = true ∧
      ∀ item ∈ items, item.fitsWithin limit = true := by
  rcases limit with _ | _ | limit
  · rw [fitsWithin] at h
    cases h
  · rw [fitsWithin, membersFitWithin_iff] at h
    have hkey := h _ (Bindings.mem_of_get? hitems)
    rw [fitsWithin] at hkey
    cases hkey
  · rw [fitsWithin, membersFitWithin_iff] at h ⊢
    have hkey := h _ (Bindings.mem_of_get? hitems)
    rw [fitsWithin, itemsFitWithin_iff] at hkey
    refine ⟨fun entry hentry => ?_, fun item hitem => ?_⟩
    · rcases Bindings.mem_set hentry with rfl | hentry
      · rfl
      · exact h entry hentry
    · exact fitsWithin_mono (hkey item hitem) (by omega)

/-- The expressions of a program document. -/
def programItems : Json → List Json
  | .obj members =>
      match Bindings.get? members "program" with
      | some (.arr items) => items
      | _ => []
  | _ => []

/-- A program document with none of its expressions. -/
def withoutItems : Json → Json
  | .obj members => .obj (Bindings.set members "program" (.arr []))
  | document => document

/-- The form of a macro definition. -/
def isMacroForm : Json → Bool
  | .obj [(key, _)] => key == "macro"
  | _ => false

theorem isMacroForm_eq {value : Json} {e : Expr} (h : Expr.ofJson value = .ok e) :
    value.isMacroForm = e.isMacroDef := by
  have hinvoked {target : String} (htarget : Reserved.ofKey? target = none) :
      (target == "macro") = false := by
    rw [beq_eq_false_iff_ne]
    exact (Reserved.ofKey?_eq_none_iff.mp htarget .macroDef).symm
  cases Expr.ofJson_eq_ok_iff.mp h with
  | call htarget => exact hinvoked htarget
  | record _ htarget => exact hinvoked htarget
  | _ => rfl

end Json

namespace Interpreter

/-- Evaluates single expressions one after another, up to the first error. -/
def evalAll (interpreter : Interpreter) (session : Session) : List Json → Reply (List Json)
  | [] => { outcome := .ok [], session }
  | document :: rest =>
      (interpreter.eval session document).andThen fun session value =>
        (interpreter.evalAll session rest).map (value :: ·)

/-- Feeds a program to the interpreter: sets it up with an empty body, evaluates its macro
definitions and then the rest of its expressions, and gives the values of the latter. -/
def feed (interpreter : Interpreter) (session : Session) (document : Json) : Reply (List Json) :=
  let macros := document.programItems.filter Json.isMacroForm
  let others := document.programItems.filter fun item => ! item.isMacroForm
  (interpreter.run session document.withoutItems).andThen fun session _ =>
    (interpreter.evalAll session (macros ++ others)).map (List.drop macros.length)

theorem evaluating_bind {α β : Type} (session : Session) (work : Eval α) {next : α → Eval β}
    (hnext : ∀ value text store, Corresponds (fun _ => False)
      (fun store other => other = store.printedBefore text) (fun _ => True)
      (next value store) (next value (store.printedBefore text))) :
    evaluating session (work >>= next) =
      (evaluating session work).andThen fun session value => evaluating session (next value) := by
  unfold evaluating
  rw [Eval.bind_apply]
  cases work { session.store with output := "" } with
  | error e final => rfl
  | ok value final =>
      -- On the left the second part goes on with the text of the first, on the right without it.
      have hlater := hnext value final.output { final with output := "" }
      rw [Store.printedBefore_output] at hlater
      dsimp only [Reply.andThen]
      revert hlater
      generalize next value { final with output := "" } = first, next value final = second
      intro hlater
      cases hlater with
      | ok _ h =>
          subst h
          rfl
      | error h =>
          subst h
          rfl
      | excused h => exact h.elim

theorem evaluating_map {α β : Type} (session : Session) (work : Eval α) (f : α → β) :
    evaluating session (work >>= fun value => pure (f value)) =
      (evaluating session work).map f := by
  unfold evaluating
  rw [Eval.bind_apply]
  cases work { session.store with output := "" } <;> rfl

theorem evaluating_cons (session : Session) (stack : Nat) (first : Expr) (rest : List Expr)
    (env : FrameId) :
    evaluating session ((first :: rest).mapM fun e => Eval.evaluate stack e env) =
      (evaluating session (Eval.evaluate stack first env)).andThen fun session value =>
        (evaluating session (rest.mapM fun e => Eval.evaluate stack e env)).map (value :: ·) := by
  rw [List.mapM_cons, evaluating_bind]
  · exact Reply.andThen_congr fun value => evaluating_map _ _ _
  · intro value text store
    refine .bind ((Store.simulation_printedBefore text).evaluateAll stack rest env trivial rfl) ?_
    exact fun _ _ _ _ hfinal => .ok trivial hfinal

section Feed

variable {interpreter : Interpreter} {items : List Json} {exprs : List Expr}

theorem evalAll_macros (hread : List.Forall₂ (fun item e => Expr.ofJson item = .ok e) items exprs)
    (hfits : ∀ item ∈ items, item.fitsWithin interpreter.stack = true)
    (hmacros : ∀ e ∈ exprs, e.isMacroDef = true) (session : Session) (rest : List Json) :
    (interpreter.evalAll session (items ++ rest)).map (List.drop items.length) =
      interpreter.evalAll { session with macros := exprs.foldl Macros.learn session.macros }
        rest := by
  induction hread generalizing session with
  | nil => exact Reply.map_id _
  | @cons item e items exprs hfirst _ ih =>
      rw [List.forall_mem_cons] at hfits hmacros
      rw [List.cons_append, evalAll, eval_of_macroDef hfits.1 hfirst hmacros.1,
        Reply.andThen_of_silent, Reply.map_map]
      exact ih hfits.2 hmacros.2 _

/-- Other expressions are evaluated as they are expanded, since evaluation leaves the macros and the
root alone. -/
theorem evalAll_expanded
    (hread : List.Forall₂ (fun item e => Expr.ofJson item = .ok e) items exprs)
    (hfits : ∀ item ∈ items, item.fitsWithin interpreter.stack = true)
    (hmacros : ∀ e ∈ exprs, e.isMacroDef = false) {session : Session} {body : List Expr}
    (hexpand : session.macros.expandAll interpreter.stack exprs = .ok body)
    (hstore : session.store.output = "") :
    interpreter.evalAll session items =
      evaluating session (body.mapM fun e => Eval.evaluate interpreter.stack e session.root) := by
  rw [Macros.expandAll, mapM_eq_ok_iff] at hexpand
  induction hread generalizing session body with
  | nil =>
      cases hexpand
      obtain ⟨⟨frames, realms, output⟩, root, macros⟩ := session
      subst hstore
      rfl
  | @cons item e items exprs hfirst _ ih =>
      rw [List.forall_mem_cons] at hfits hmacros
      cases hexpand with
      | @cons _ expanded _ body hexpanded hrest =>
          rw [evaluating_cons, evalAll, eval_of_expand hfits.1 hfirst hmacros.1 hexpanded]
          refine Reply.andThen_congr fun value => congrArg (Reply.map (value :: ·)) ?_
          -- The session that is handed on has another store but the same macros and root.
          rw [session_evaluating]
          refine ih hfits.2 hmacros.2 ?_ rfl
          exact hrest

theorem load_withoutItems {document : Json} {program : Program}
    (h : interpreter.load document = .ok program) :
    interpreter.load document.withoutItems = .ok { program with body := [] } ∧
      List.Forall₂ (fun item e => Expr.ofJson item = .ok e) document.programItems program.body ∧
      ∀ item ∈ document.programItems, item.fitsWithin interpreter.stack = true := by
  obtain ⟨hfits, hread, hvalid⟩ := load_eq_ok_iff.mp h
  obtain ⟨members, items, rfl, hversion, hname, hitems, htypes, hmodules, hbody⟩ :=
    Program.ofJson_eq_ok_iff.mp hread
  have hprogram : (Json.obj members).programItems = items := by
    simp only [Json.programItems, hitems]
  obtain ⟨hwithout, heach⟩ := Json.fitsWithin_of_get? hfits hitems
  rw [hprogram]
  refine ⟨load_eq_ok_iff.mpr ⟨hwithout, ?_, hvalid⟩, ?_, heach⟩
  · rw [Program.ofJson_eq_ok_iff]
    have hkept {key : String} (hkey : "program" ≠ key) :
        (members.set "program" (.arr [])).get? key = members.get? key :=
      Bindings.get?_set_of_ne _ _ hkey
    refine ⟨_, [], rfl, ?_, ?_, Bindings.get?_set_self _ _ _, ?_, ?_, rfl⟩
    · rw [hkept (by decide), hversion]
    · rw [hkept (by decide), hname]
    · rw [typesMember, hkept (by decide)]
      exact htypes
    · rw [Program.modulesMember, hkept (by decide)]
      exact hmodules
  · rwa [Expr.ofItems_eq_eachItem, Json.eachItem_eq_ok_iff] at hbody

theorem foldl_learn_filter (macros : Macros) (exprs : List Expr) :
    (exprs.filter Expr.isMacroDef).foldl Macros.learn macros =
      exprs.foldl Macros.learn macros := by
  induction exprs generalizing macros with
  | nil => rfl
  | cons e rest ih =>
      cases e with
      | macroDef => exact ih _
      | _ => exact ih macros

end Feed

/-- Every expression of the program that is no macro definition expands without an error under the
macros that the program defines. -/
def BodyExpands (interpreter : Interpreter) (program : Program) : Prop :=
  ∀ maxDepth, interpreter.expansionLimit = .ok maxDepth →
    ∀ e ∈ program.body, e.isMacroDef = false →
      ∃ expanded, (program.body.foldl Macros.learn { maxDepth }).expand interpreter.stack 0 e =
        .ok expanded

/-- Running a program is feeding it to the interpreter one expression at a time, macro definitions
first: the values are the same or the first error, and so are what is printed and the session that
is left. -/
theorem run_eq_feed {interpreter : Interpreter} {document : Json} {program : Program}
    (hload : interpreter.load document = .ok program) (hexpands : interpreter.BodyExpands program)
    (session : Session) :
    interpreter.run session document = interpreter.feed session document := by
  obtain ⟨hempty, hread, hfits⟩ := load_withoutItems hload
  unfold feed
  cases hlimit : interpreter.expansionLimit with
  | error e =>
      rw [run_of_limit_error hload hlimit, run_of_limit_error hempty hlimit]
      rfl
  | ok maxDepth =>
      have hothers : ∀ e ∈ program.body.filter fun e => ! e.isMacroDef, ∃ expanded,
          (program.body.foldl Macros.learn { maxDepth }).expand interpreter.stack 0 e =
            .ok expanded := by
        intro e he
        obtain ⟨hmem, hnot⟩ := List.mem_filter.mp he
        exact hexpands maxDepth hlimit e hmem (by simpa using hnot)
      obtain ⟨body, hbody⟩ := exists_mapM_eq_ok_iff.mpr hothers
      have hstart : interpreter.run session document.withoutItems =
          { outcome := .ok [],
            session := { store := interpreter.freshStore program.modules, root := 0,
                         macros := { maxDepth } } } :=
        run_of_expand hempty hlimit rfl rfl session
      have hdefinitions := List.rel_filter (p := Json.isMacroForm) (q := Expr.isMacroDef)
        (fun _ _ h => Bool.eq_iff_iff.mp (Json.isMacroForm_eq h)) hread
      have hexpressions := List.rel_filter (p := fun item => ! item.isMacroForm)
        (q := fun e => ! e.isMacroDef)
        (fun _ _ h => Bool.eq_iff_iff.mp (congrArg Bool.not (Json.isMacroForm_eq h))) hread
      rw [run_of_expand hload hlimit rfl hbody, hstart, Reply.andThen_of_silent,
        evalAll_macros hdefinitions, foldl_learn_filter]
      · refine (evalAll_expanded hexpressions ?_ ?_ ?_ rfl).symm
        · exact fun item hitem => hfits item (List.mem_of_mem_filter hitem)
        · exact fun e he => by simpa using (List.mem_filter.mp he).2
        · exact hbody
      · exact fun item hitem => hfits item (List.mem_of_mem_filter hitem)
      · exact fun e he => (List.mem_filter.mp he).2

/-- A program with a macro that is used before it is defined and defined twice, which fails before
its last expression. -/
def definesLate : Json :=
  let say (text : Json) : Json := .obj [("print", .arr [text])]
  let echo (body : Json) : Json :=
    .obj [("macro", .obj [("name", .str "echo"), ("params", .arr [.str "x"]), ("body", body)])]
  .obj [("jexl_version", .str "v0.1"), ("name", .str "test"),
    ("program", .arr
      [say (.str "a"), .obj [("echo", .arr [.str "b"])], echo (.obj [("ref", .str "x")]),
        .obj [("let", .obj [("name", .str "v"), ("value", .str "c")])],
        echo (.obj [("do", .arr [say (.obj [("ref", .str "x")]), say (.obj [("ref", .str "x")])])]),
        .obj [("ref", .str "missing")], say (.str "d")])]

/-- Both ways the later definition is the one that is used, and the program ends at its error. -/
theorem run_eq_feed_definesLate :
    let interpreter : Interpreter := { maxCallDepth := 50 }
    let session := interpreter.initial { maxDepth := 3 }
    let reply := interpreter.run session definesLate
    reply.outcome.isOk = false ∧ reply.output = "a\nb\nb\n" ∧
      reply.session.macros.names = ["echo"] ∧ reply.session.vars.names = ["v"] ∧
      reply = interpreter.feed session definesLate := by
  intro interpreter session reply
  refine ⟨by decide +kernel, by decide +kernel, by decide +kernel, by decide +kernel, ?_⟩
  obtain ⟨body, hexpands⟩ : ∃ body, (interpreter.load definesLate >>= fun program =>
      (program.body.foldl Macros.learn { maxDepth := 100 }).expandAll interpreter.stack
        (program.body.filter fun e => ! e.isMacroDef)) = .ok body :=
    exists_of_isOk (by decide +kernel)
  obtain ⟨program, hload, hbody⟩ := bind_eq_ok_iff.mp hexpands
  refine run_eq_feed hload (fun maxDepth hlimit e he hnot => ?_) session
  obtain rfl : 100 = maxDepth := Except.ok.inj hlimit
  exact exists_mapM_eq_ok_iff.mp ⟨body, hbody⟩ e (List.mem_filter.mpr ⟨he, by simp [hnot]⟩)

end Interpreter

end JsonExpr
