import JsonExpr.Proofs.Failure

namespace JsonExpr

def Request.document : Request → Json
  | .run document => document
  | .eval document => document
  | .load document => document
  | .macroexpand document => document

/-- Whether the document is to be a program and not a single expression. -/
def Request.isProgram : Request → Bool
  | .run _ => true
  | .load _ => true
  | .eval _ => false
  | .macroexpand _ => false

/-- What comes before evaluation. -/
inductive Phase where
  | reading
  | checking
  | expanding

namespace Interpreter

/-- A request fails in a phase before evaluation, with an error. -/
inductive Fails (interpreter : Interpreter) (session : Session) : Request → Phase → Error → Prop
  | tooDeep {request} : request.document.fitsWithin interpreter.stack = false →
      Fails interpreter session request .reading (.depthExceeded none "nesting")
  | notProgram {request violation} : request.isProgram = true →
      request.document.fitsWithin interpreter.stack = true →
      Program.ofJson request.document = .error violation →
      Fails interpreter session request .reading (.ofViolation "" violation)
  | notExpression {request violation} : request.isProgram = false →
      request.document.fitsWithin interpreter.stack = true →
      Expr.ofJson request.document = .error violation →
      Fails interpreter session request .reading (.ofViolation "" violation)
  | uncheckable {request program err} : request.isProgram = true →
      request.document.fitsWithin interpreter.stack = true →
      Program.ofJson request.document = .ok program →
      program.invalidType? interpreter.faultOf = .error err →
      Fails interpreter session request .checking (err.whenExhausted "nesting")
  | invalidType {request program invalid} : request.isProgram = true →
      request.document.fitsWithin interpreter.stack = true →
      Program.ofJson request.document = .ok program →
      program.invalidType? interpreter.faultOf = .ok (some invalid) →
      Fails interpreter session request .checking invalid.toError
  | body {document program maxDepth macros rest err} :
      interpreter.load document = .ok program → interpreter.expansionLimit = .ok maxDepth →
      Macros.collect { maxDepth } program.body = (macros, rest) →
      macros.expandAll interpreter.stack rest = .error err →
      Fails interpreter session (.run document) .expanding (err.whenExhausted "nesting")
  | evaluated {document e err} : document.fitsWithin interpreter.stack = true →
      Expr.ofJson document = .ok e → e.isMacroDef = false →
      session.macros.expand interpreter.stack 0 e = .error err →
      Fails interpreter session (.eval document) .expanding (err.whenExhausted "nesting")
  | shown {document e err} : document.fitsWithin interpreter.stack = true →
      Expr.ofJson document = .ok e → session.macros.expand interpreter.stack 0 e = .error err →
      Fails interpreter session (.macroexpand document) .expanding (err.whenExhausted "nesting")

variable {interpreter : Interpreter} {session : Session} {request : Request} {document : Json}
  {phase : Phase} {err : Error}

theorem onDocument_eq_error_iff {α : Type} {work : Except Error α} :
    interpreter.onDocument document work = .error err ↔
      document.fitsWithin interpreter.stack = false ∧ err = .depthExceeded none "nesting" ∨
        document.fitsWithin interpreter.stack = true ∧
          ∃ raised, work = .error raised ∧ raised.whenExhausted "nesting" = err := by
  unfold onDocument
  rcases document.fitsWithin interpreter.stack with _ | _
  · simp [eq_comm]
  · simp [mapError_eq_error_iff]

theorem onDocument_readExpr_eq_error_iff (request : Request) (h : request.isProgram = false) :
    interpreter.onDocument request.document (readExpr request.document) = .error err ↔
      interpreter.Fails session request .reading err := by
  rw [onDocument_eq_error_iff]
  simp only [readExpr, mapError_eq_error_iff]
  constructor
  · rintro (⟨hfits, rfl⟩ | ⟨hfits, _, ⟨violation, hread, rfl⟩, rfl⟩)
    · exact .tooDeep hfits
    · exact .notExpression h hfits hread
  · intro hfails
    cases hfails with
    | tooDeep hfits => exact .inl ⟨hfits, rfl⟩
    | notProgram hprogram => simp [h] at hprogram
    | notExpression _ hfits hread => exact .inr ⟨hfits, _, ⟨_, hread, rfl⟩, rfl⟩

theorem load_eq_error_iff (request : Request) (h : request.isProgram = true) :
    interpreter.load request.document = .error err ↔
      interpreter.Fails session request .reading err ∨
        interpreter.Fails session request .checking err := by
  rw [load, onDocument_eq_error_iff]
  simp only [bind_eq_error_iff, readProgram, mapError_eq_error_iff, mapError_eq_ok_iff]
  constructor
  · rintro (⟨hfits, rfl⟩ | ⟨hfits, _, ⟨violation, hread, rfl⟩ | ⟨program, hread, hcheck⟩, rfl⟩)
    · exact .inl (.tooDeep hfits)
    · exact .inl (.notProgram h hfits hread)
    · rcases hcheck with hcheck | ⟨_ | invalid, hcheck, hinvalid⟩
      · exact .inr (.uncheckable h hfits hread hcheck)
      · cases hinvalid
      · cases hinvalid
        exact .inr (.invalidType h hfits hread hcheck)
  · rintro (hfails | hfails)
    · cases hfails with
      | tooDeep hfits => exact .inl ⟨hfits, rfl⟩
      | notProgram _ hfits hread => exact .inr ⟨hfits, _, .inl ⟨_, hread, rfl⟩, rfl⟩
      | notExpression hnot => simp [h] at hnot
    · cases hfails with
      | uncheckable _ hfits hread hcheck =>
          exact .inr ⟨hfits, _, .inr ⟨_, hread, .inl hcheck⟩, rfl⟩
      | invalidType _ hfits hread hcheck =>
          exact .inr ⟨hfits, _, .inr ⟨_, hread, .inr ⟨_, hcheck, rfl⟩⟩, rfl⟩

theorem macroexpand_eq_error_iff :
    interpreter.macroexpand session document = .error err ↔
      interpreter.onDocument document (readExpr document) = .error err ∨
        ∃ e raised, document.fitsWithin interpreter.stack = true ∧ Expr.ofJson document = .ok e ∧
          session.macros.expand interpreter.stack 0 e = .error raised ∧
          raised.whenExhausted "nesting" = err := by
  rw [macroexpand, onDocument_eq_error_iff, onDocument_eq_error_iff, or_assoc]
  refine or_congr_right ?_
  simp only [bind_eq_error_iff, readExpr_eq_ok_iff]
  constructor
  · rintro ⟨hfits, raised, hread | ⟨e, hread, hexpand | ⟨_, _, hlast⟩⟩, rfl⟩
    · exact .inl ⟨hfits, raised, hread, rfl⟩
    · exact .inr ⟨e, raised, hfits, hread, hexpand, rfl⟩
    · cases hlast
  · rintro (⟨hfits, raised, hread, rfl⟩ | ⟨e, raised, hfits, hread, hexpand, rfl⟩)
    · exact ⟨hfits, raised, .inl hread, rfl⟩
    · exact ⟨hfits, raised, .inr ⟨e, hread, .inl hexpand⟩, rfl⟩

namespace Fails

theorem load_eq (h : interpreter.Fails session request phase err)
    (hprogram : request.isProgram = true) (hphase : phase ≠ .expanding) :
    interpreter.load request.document = .error err := by
  cases phase with
  | reading => exact (load_eq_error_iff request hprogram).mpr (.inl h)
  | checking => exact (load_eq_error_iff request hprogram).mpr (.inr h)
  | expanding => exact absurd rfl hphase

theorem read_eq (h : interpreter.Fails session request phase err)
    (hprogram : request.isProgram = false) (hphase : phase ≠ .expanding) :
    interpreter.onDocument request.document (readExpr request.document) = .error err := by
  cases phase with
  | reading => exact (onDocument_readExpr_eq_error_iff request hprogram).mpr h
  | checking =>
      cases h with
      | uncheckable hnot => simp [hprogram] at hnot
      | invalidType hnot => simp [hprogram] at hnot
  | expanding => exact absurd rfl hphase

theorem not_starts (h : interpreter.Fails session request phase err) (task : Task) :
    ¬ interpreter.Starts session request task := by
  intro hstarts
  by_cases hphase : phase = .expanding
  · subst hphase
    cases hstarts with
    | run hload hlimit hcollect hexpand _ =>
        cases h with
        | body hagain hsame hsplit herror =>
            rw [hload] at hagain
            cases hagain
            rw [hlimit] at hsame
            cases hsame
            rw [hcollect] at hsplit
            cases hsplit
            rw [hexpand] at herror
            cases herror
    | eval hread _ hexpand =>
        cases h with
        | evaluated hfits hagain _ herror =>
            rw [onDocument_eq_ok_iff, readExpr_eq_ok_iff, hagain] at hread
            cases hread.2
            rw [hexpand] at herror
            cases herror
  · cases hstarts with
    | run hload _ _ _ _ =>
        have herror := h.load_eq rfl hphase
        simp only [Request.document, hload] at herror
        cases herror
    | eval hread _ _ =>
        have herror := h.read_eq rfl hphase
        simp only [Request.document, hread] at herror
        cases herror

end Fails

/-- What a program leaves of a session when it has been accepted and nothing has been evaluated. -/
def accepted (interpreter : Interpreter) (maxDepth : Int) (program : Program) : Session :=
  { store :=
      { frames := #[interpreter.baseFrame], realms := #[interpreter.realm program.modules [] []] }
    root := 0
    macros := program.body.foldl Macros.learn { maxDepth } }

theorem Fails.perform_eq (h : interpreter.Fails session request phase err) {maxDepth : Int}
    (hlimit : interpreter.expansionLimit = .ok maxDepth) :
    ∃ left, interpreter.perform session request = { outcome := .error err, session := left } ∧
      ((phase ≠ .expanding ∨ ∀ document, request ≠ .run document) ∧ left = session ∨
        phase = .expanding ∧ ∃ document program, request = .run document ∧
          interpreter.load document = .ok program ∧
          left = interpreter.accepted maxDepth program) := by
  by_cases hphase : phase = .expanding
  · subst hphase
    cases h with
    | body hload hsame hcollect herror =>
        rw [hlimit] at hsame
        cases hsame
        refine ⟨_, ?_, .inr ⟨rfl, _, _, rfl, hload, rfl⟩⟩
        rw [perform, run_of_expand_error hload hlimit hcollect herror]
        cases hcollect
        rfl
    | evaluated hfits hread hmacro herror =>
        refine ⟨session, ?_, .inl ⟨.inr (by simp), rfl⟩⟩
        have hdocument := onDocument_eq_ok_iff.mpr ⟨hfits, readExpr_eq_ok_iff.mpr hread⟩
        simp only [perform, eval, hdocument, hmacro, herror, Bool.false_eq_true, if_false]
        rfl
    | shown hfits hread herror =>
        refine ⟨session, ?_, .inl ⟨.inr (by simp), rfl⟩⟩
        rw [perform, macroexpand_eq_error_iff.mpr (.inr ⟨_, _, hfits, hread, herror, rfl⟩)]
        rfl
  · refine ⟨session, ?_, .inl ⟨.inl hphase, rfl⟩⟩
    cases request with
    | run document =>
        have hload : interpreter.load document = .error err := h.load_eq rfl hphase
        rw [perform, run_of_load_error hload]
        rfl
    | load document =>
        have hload : interpreter.load document = .error err := h.load_eq rfl hphase
        rw [perform, hload]
        rfl
    | eval document =>
        have hread : interpreter.onDocument document (readExpr document) = .error err :=
          h.read_eq rfl hphase
        simp only [perform, eval, hread]
        rfl
    | macroexpand document =>
        have hread : interpreter.onDocument document (readExpr document) = .error err :=
          h.read_eq rfl hphase
        rw [perform, macroexpand_eq_error_iff.mpr (.inl hread)]
        rfl

/-- A request fails in evaluation, with an error. -/
def FailsLate (interpreter : Interpreter) (session : Session) (request : Request) (err : Error) :
    Prop :=
  ∃ task raised final, interpreter.Starts session request task ∧
    Eval.outcome (Eval.evaluate interpreter.stack) task = .error raised final ∧
    raised.whenExhausted "call" = err

theorem outcome_evaluating_eq_error_iff {α : Type} {work : Eval α} :
    (evaluating session work).outcome = .error err ↔
      ∃ raised final, work { session.store with output := "" } = .error raised final ∧
        raised.whenExhausted "call" = err := by
  rw [evaluating]
  rcases work { session.store with output := "" } with ⟨value, final⟩ | ⟨raised, final⟩
  · simp
  · simp

theorem FailsLate.outcome_eq (h : interpreter.FailsLate session request err) :
    (interpreter.perform session request).outcome = .error err := by
  obtain ⟨task, raised, final, hstarts, herror, hraised⟩ := h
  cases hstarts with
  | run hload hlimit hcollect hexpand hcomes =>
      rw [perform, Reply.map, run_of_expand hload hlimit hcollect hexpand, map_eq_error_iff,
        outcome_evaluating_eq_error_iff]
      exact ⟨raised, final, hcomes.mapM_eq_error herror, hraised⟩
  | eval hread hmacro hexpand =>
      obtain ⟨hfits, hread⟩ := onDocument_eq_ok_iff.mp hread
      rw [perform, Reply.map, eval_of_expand hfits (readExpr_eq_ok_iff.mp hread) hmacro hexpand,
        map_eq_error_iff, outcome_evaluating_eq_error_iff]
      exact ⟨raised, final, herror, hraised⟩

theorem fails_of_run (h : (interpreter.run session document).outcome = .error err) :
    interpreter.expansionLimit = .error err ∨
      (∃ phase, interpreter.Fails session (.run document) phase err) ∨
        interpreter.FailsLate session (.run document) err := by
  rcases hload : interpreter.load document with e | program
  · rw [run_of_load_error hload] at h
    cases h
    rcases (load_eq_error_iff (.run document) rfl).mp hload with hfails | hfails
    · exact .inr (.inl ⟨_, hfails⟩)
    · exact .inr (.inl ⟨_, hfails⟩)
  rcases hlimit : interpreter.expansionLimit with e | maxDepth
  · simp only [run, hload, hlimit] at h
    cases h
    exact .inl rfl
  rcases hcollect : Macros.collect { maxDepth } program.body with ⟨macros, rest⟩
  rcases hexpand : macros.expandAll interpreter.stack rest with e | body
  · rw [run_of_expand_error hload hlimit hcollect hexpand] at h
    cases h
    exact .inr (.inl ⟨_, .body hload hlimit hcollect hexpand⟩)
  · rw [run_of_expand hload hlimit hcollect hexpand, outcome_evaluating_eq_error_iff] at h
    obtain ⟨raised, final, hbody, hraised⟩ := h
    obtain ⟨e, reached, hcomes, herror⟩ :=
      Eval.exists_comes_of_runAll_error (Eval.runAll_of_mapM_error hbody)
    exact .inr (.inr
      ⟨_, raised, final, .run hload hlimit hcollect hexpand hcomes, herror, hraised⟩)

theorem fails_of_eval (h : (interpreter.eval session document).outcome = .error err) :
    (∃ phase, interpreter.Fails session (.eval document) phase err) ∨
      interpreter.FailsLate session (.eval document) err := by
  rcases hread : interpreter.onDocument document (readExpr document) with e | e
  · simp only [eval, hread] at h
    cases h
    exact .inl ⟨_, (onDocument_readExpr_eq_error_iff (.eval document) rfl).mp hread⟩
  · obtain ⟨hfits, hexpr⟩ := onDocument_eq_ok_iff.mp hread
    rw [readExpr_eq_ok_iff] at hexpr
    rcases hmacro : e.isMacroDef with _ | _
    · rcases hexpand : session.macros.expand interpreter.stack 0 e with raised | expanded
      · simp only [eval, hread, hmacro, hexpand, Bool.false_eq_true, if_false] at h
        cases h
        exact .inl ⟨_, .evaluated hfits hexpr hmacro hexpand⟩
      · rw [eval_of_expand hfits hexpr hmacro hexpand, outcome_evaluating_eq_error_iff] at h
        obtain ⟨raised, final, herror, hraised⟩ := h
        exact .inr ⟨_, raised, final, .eval hread hmacro hexpand, herror, hraised⟩
    · rw [eval_of_macroDef hfits hexpr hmacro] at h
      cases h

theorem fails_of_perform (h : (interpreter.perform session request).outcome = .error err) :
    interpreter.expansionLimit = .error err ∨
      (∃ phase, interpreter.Fails session request phase err) ∨
        interpreter.FailsLate session request err := by
  cases request with
  | run document => exact fails_of_run (map_eq_error_iff.mp h)
  | eval document => exact .inr (fails_of_eval (map_eq_error_iff.mp h))
  | load document =>
      have hload : interpreter.load document = .error err := map_eq_error_iff.mp h
      rcases (load_eq_error_iff (.load document) rfl).mp hload with hfails | hfails
      · exact .inr (.inl ⟨_, hfails⟩)
      · exact .inr (.inl ⟨_, hfails⟩)
  | macroexpand document =>
      rcases macroexpand_eq_error_iff.mp (map_eq_error_iff.mp h) with hread |
        ⟨e, raised, hfits, hread, hexpand, rfl⟩
      · exact .inr (.inl
          ⟨_, (onDocument_readExpr_eq_error_iff (.macroexpand document) rfl).mp hread⟩)
      · exact .inr (.inl ⟨_, .shown hfits hread hexpand⟩)

theorem outcome_eq_error_iff {maxDepth : Int}
    (hlimit : interpreter.expansionLimit = .ok maxDepth) :
    (interpreter.perform session request).outcome = .error err ↔
      (∃ phase, interpreter.Fails session request phase err) ∨
        interpreter.FailsLate session request err := by
  constructor
  · intro h
    rcases fails_of_perform h with hnone | hfails
    · rw [hlimit] at hnone
      cases hnone
    · exact hfails
  · rintro (⟨phase, hfails⟩ | hlate)
    · obtain ⟨left, hreply, _⟩ := hfails.perform_eq hlimit
      rw [hreply]
    · exact hlate.outcome_eq

theorem macros_eval (session : Session) (document : Json) :
    (interpreter.eval session document).session.macros = session.macros ∨
      ∃ name params body, Expr.ofJson document = .ok (.macroDef name params body) ∧
        interpreter.eval session document =
          { outcome := .ok .null,
            session :=
              { session with macros := session.macros.define name { params, body } } } := by
  rcases hread : interpreter.onDocument document (readExpr document) with e | e
  · refine .inl ?_
    simp only [eval, hread]
  · obtain ⟨hfits, hexpr⟩ := onDocument_eq_ok_iff.mp hread
    rw [readExpr_eq_ok_iff] at hexpr
    rcases hmacro : e.isMacroDef with _ | _
    · rcases hexpand : session.macros.expand interpreter.stack 0 e with raised | expanded
      · refine .inl ?_
        simp only [eval, hread, hmacro, hexpand, Bool.false_eq_true, if_false]
      · rw [eval_of_expand hfits hexpr hmacro hexpand, session_evaluating]
        exact .inl rfl
    · cases e with
      | macroDef name params body =>
          exact .inr ⟨name, params, body, hexpr, eval_of_macroDef hfits hexpr hmacro session⟩
      | _ => cases hmacro

theorem run_eq_of_load {program : Program} {maxDepth : Int}
    (hload : interpreter.load document = .ok program)
    (hlimit : interpreter.expansionLimit = .ok maxDepth) (session other : Session) :
    interpreter.run session document = interpreter.run other document := by
  simp only [run, hload, hlimit]

theorem expansionLimit_of_create {builtins : Bindings Builtin} {settings : Settings}
    {callLimit maxExpansionDepth : Option Int}
    (h : create builtins settings callLimit maxExpansionDepth = .ok (interpreter, session)) :
    interpreter.expansionLimit = .ok session.macros.maxDepth ∧
      session = interpreter.initial { maxDepth := session.macros.maxDepth } := by
  unfold create at h
  rcases callLimit with _ | limit
  all_goals
    obtain ⟨maxCallDepth, _, hlast⟩ := bind_eq_ok_iff.mp h
    obtain ⟨maxDepth, hlimit, hpair⟩ := bind_eq_ok_iff.mp hlast
    cases hpair
    exact ⟨hlimit, rfl⟩

/-- A request fails in one of the phases before evaluation or in evaluation itself. If it fails
before, it has evaluated and printed nothing and leaves the session as it was; only a program that
fails in expansion leaves a session in which it has been accepted. Loading and expanding never
change a session or print anything, evaluating changes the macros only by defining one, and what a
program comes to does not depend on the session once its document is accepted. -/
theorem failed_phase_leaves_session {maxDepth : Int}
    (hlimit : interpreter.expansionLimit = .ok maxDepth) (session : Session) (request : Request) :
    let reply := interpreter.perform session request
    (∀ err, reply.outcome = .error err ↔
      (∃ phase, interpreter.Fails session request phase err) ∨
        interpreter.FailsLate session request err) ∧
    (∀ phase err, interpreter.Fails session request phase err →
      reply.output = "" ∧ (∀ task, ¬ interpreter.Starts session request task) ∧
      ((phase ≠ .expanding ∨ ∀ document, request ≠ .run document) ∧ reply.session = session ∨
        phase = .expanding ∧ ∃ document program, request = .run document ∧
          interpreter.load document = .ok program ∧
          reply.session = interpreter.accepted maxDepth program)) ∧
    (∀ document, request = .load document ∨ request = .macroexpand document →
      reply.session = session ∧ reply.output = "") ∧
    (∀ document, request = .eval document →
      reply.session.macros = session.macros ∨
        ∃ name params body, Expr.ofJson document = .ok (.macroDef name params body) ∧
          reply.output = "" ∧
          reply.session =
            { session with macros := session.macros.define name { params, body } }) ∧
    ∀ document program other, request = .run document →
      interpreter.load document = .ok program → interpreter.perform other request = reply := by
  intro reply
  refine ⟨fun err => outcome_eq_error_iff hlimit, ?_, ?_, ?_, ?_⟩
  · intro phase err hfails
    obtain ⟨left, hreply, hleft⟩ := hfails.perform_eq hlimit
    have hsession : reply.session = left := congrArg Reply.session hreply
    refine ⟨congrArg Reply.output hreply, hfails.not_starts, ?_⟩
    rw [hsession]
    exact hleft
  · rintro document (rfl | rfl)
    · exact ⟨rfl, rfl⟩
    · exact ⟨rfl, rfl⟩
  · rintro document rfl
    rcases macros_eval session document with hmacros | ⟨name, params, body, hread, hreply⟩
    · exact .inl hmacros
    · refine .inr ⟨name, params, body, hread, ?_, ?_⟩
      · exact congrArg Reply.output hreply
      · exact congrArg Reply.session hreply
  · rintro document program other rfl hload
    exact congrArg (Reply.map Answer.values) (run_eq_of_load hload hlimit other session)

/-- A program whose macro expands to an invocation of itself. -/
def endlessMacro : Json :=
  .obj [("jexl_version", .str "v0.1"), ("name", .str "test"),
    ("program", .arr
      [.obj [("macro", .obj [("name", .str "m"), ("params", .arr []),
          ("body", .obj [("m", .arr [])])])],
        .obj [("print", .arr [.str "before"])],
        .obj [("m", .arr [])]])]

/-- After an expression that has bound `x`, a program that fails in expansion prints nothing and
leaves a root frame that does not hold `x`. -/
theorem failed_phase_leaves_session_endlessMacro :
    let interpreter : Interpreter := { maxCallDepth := 100, maxExpansionDepth := some 0 }
    let session := interpreter.after (interpreter.initial { maxDepth := 0 })
      [.eval (.obj [("let", .obj [("name", .str "x"), ("value", .null)])])]
    let reply := interpreter.perform session (.run endlessMacro)
    interpreter.expansionLimit = .ok 0 ∧ session.vars.names = ["x"] ∧
      (∃ err, interpreter.Fails session (.run endlessMacro) .expanding err ∧
        reply.outcome = .error err) ∧
      reply.output = "" ∧ reply.session.store.frames = #[interpreter.baseFrame] := by
  intro interpreter session reply
  have hcreate : create Builtin.standard {} (some 100) (some 0) =
      .ok (interpreter, interpreter.initial { maxDepth := 0 }) := rfl
  obtain ⟨hlimit, _⟩ := expansionLimit_of_create hcreate
  have hfails : interpreter.Fails session (.run endlessMacro) .expanding
      (Error.whenExhausted "nesting" (.depthExceeded (some 0) "macro expansion")) :=
    .body rfl rfl rfl rfl
  obtain ⟨houtcome, hphase, _, _, _⟩ :=
    failed_phase_leaves_session hlimit session (.run endlessMacro)
  obtain ⟨houtput, _, hleft⟩ := hphase _ _ hfails
  refine ⟨hlimit, by decide +kernel, ⟨_, hfails, (houtcome _).mpr (.inl ⟨_, hfails⟩)⟩, houtput, ?_⟩
  rcases hleft with ⟨hneither, _⟩ | ⟨_, _, program, _, _, hsession⟩
  · rcases hneither with hphase | hrun
    · exact absurd rfl hphase
    · exact absurd rfl (hrun endlessMacro)
  · exact congrArg (fun session => session.store.frames) hsession

end Interpreter

end JsonExpr
