import Inlay.Proofs.Render.Recording
import Inlay.Proofs.Render.Reporting

/-!
# The record of a render

A render logs that it starts, then what happens in the course of the evaluation, and then how it
ends: with a text or with the report of a fault. Misuse passes through a render without being logged
(`render_recorded`). With the built-in registry, where contexts raise nothing but faults and what is
to be reported can be written, no misuse comes up but for inclusions without end, so one event
closes the record of each render.
-/

namespace Inlay

open Log

/-- The reason to stop is a fault that can be told. -/
def Stop.Told : Stop → Prop
  | .fault reported => reported.Told
  | .misuse _ => False

/-- A logger that keeps a record writes every line that it is given. -/
theorem Logger.KeepsRecord.neverStops {logger : Logger} (h : logger.KeepsRecord) :
    logger.NeverStops := by
  intro entry
  rw [write, line, h.format]
  split <;> exact ⟨_, rfl⟩

namespace Engine

open Evaluator

/-- The events that a render closes with, by how it ends. -/
inductive Closes : Ending String → List RenderEvent → Prop where
  | completed (text : String) (duration : Int) :
    Closes (.value text) [.completed duration text.length]
  | failed {fault : Fault} {report : String} (h : fault.text = .ok report) :
    Closes (.stopped (.fault fault)) [.failed report]
  /-- Misuse is not logged. -/
  | passed (misuse : Misuse) : Closes (.stopped (.misuse misuse)) []

/-- What is logged from a session on closes the record of a render that ends so. -/
def ClosedFrom (log : RenderLogger) (session : Session) (ended : Ending String × Session) : Prop :=
  ∃ closing, ended.2.lines = session.lines ++ log.record closing ∧ Closes ended.1 closing

section

variable (engine : Engine) (template : Template) (context : Context) (item : Item)
  (session : Session)

/-- The session in which the template is evaluated: the start is logged, and the clock was read. -/
def opened : Session :=
  { session with
    lines := session.lines ++ (engine.renderLog template item).record [.started]
    clock := session.clock.tail }

/-- What happens in the course of the evaluation that a render goes by. -/
def happened : List Happening :=
  happenings (engine.settings (engine.renderLog template item)) template context item.asValue
    (engine.opened template item session)

end

section

variable {engine : Engine} {template : Template} {context : Context} {item : Item}
  {session : Session} {log : RenderLogger}

/-- Misuse is not logged, so nothing closes its record. -/
theorem closedFrom_misuse (misuse : Misuse) (session : Session) :
    ClosedFrom log session (.stopped (.misuse misuse), session) :=
  ⟨[], (List.append_nil _).symm, .passed misuse⟩

/-- A fault that stops a render is logged if it can be told, and else is misuse. -/
theorem stopLogged_closes (hlog : log.logger.KeepsRecord) (fault : Fault) (session : Session) :
    ∃ reason after, (stopLogged log fault : Render String) session = (.stopped reason, after) ∧
      ClosedFrom log session (.stopped reason, after) := by
  unfold stopLogged
  cases htext : fault.text with
  | error misuse => exact ⟨_, _, rfl, closedFrom_misuse misuse session⟩
  | ok report =>
    refine ⟨.fault fault, { session with lines := session.lines ++ log.record [.failed report] },
      ?_, [.failed report], rfl, .failed htext⟩
    show (RenderLogger.note (some log) (.failed report) >>= fun _ => Render.stop (.fault fault))
      session = _
    rw [RenderLogger.note_eq hlog]
    rfl

/-- Where an evaluation does not come to a text, its report closes the record. -/
theorem reporting_closes (hlog : log.logger.KeepsRecord) (step : Render String)
    (session : Session) :
    (∃ text, engine.reporting log step session = (.value text, (step session).2)) ∨
    ∃ reason after, engine.reporting log step session = (.stopped reason, after) ∧
      ClosedFrom log (step session).2 (.stopped reason, after) := by
  unfold reporting
  rcases step session with ⟨text | failure | (fault | misuse), between⟩ <;> dsimp only
  · exact .inl ⟨text, rfl⟩
  · cases engine.reporter.reportFailure failure.code failure.messages
      (Breadcrumb.framing log.origin (.text log.item)) log.origin (.text log.item) with
    | error misuse =>
      -- a failure that no fault can be made of is not logged either
      exact .inr ⟨_, _, rfl, closedFrom_misuse misuse between⟩
    | ok fault => exact .inr (stopLogged_closes hlog fault between)
  · exact .inr (stopLogged_closes hlog _ between)
  · exact .inr ⟨_, _, rfl, closedFrom_misuse misuse between⟩

/-- A text closes the record, if the clock can tell how long it took. -/
theorem completed_closes (hlogger : engine.logger.KeepsRecord) (started : Binary64) (text : String)
    (session : Session) :
    ClosedFrom (engine.renderLog template item) session
      (engine.completed template item started text session) := by
  unfold completed
  rw [Render.bind_of_value (rfl : Render.readClock session = (.value _, _))]
  cases milliseconds started (session.clock.headD (.zero false)) with
  | error misuse => exact closedFrom_misuse misuse { session with clock := session.clock.tail }
  | ok duration =>
    show ClosedFrom _ _ ((RenderLogger.note (some (engine.renderLog template item))
      (.completed duration text.length) >>= fun _ => pure text) _)
    rw [RenderLogger.note_eq hlogger]
    exact ⟨[.completed duration text.length], rfl, .completed text duration⟩

/-- A render evaluates its template once the start is logged and the clock is read. -/
theorem render_eq (hlogger : engine.logger.KeepsRecord) :
    engine.render template context item session
      = (engine.reporting (engine.renderLog template item)
          (engine.evaluation template context item) >>= fun text =>
            engine.completed template item (session.clock.headD (.zero false)) text)
          (engine.opened template item session) := by
  show (RenderLogger.note (some (engine.renderLog template item)) .started >>= fun _ =>
      Render.readClock >>= fun started =>
      engine.reporting (engine.renderLog template item)
        (engine.evaluation template context item) >>= fun text =>
          engine.completed template item started text) session = _
  rw [RenderLogger.note_eq hlogger]
  rfl

/-- What a render adds to the log of its evaluation closes the record. -/
theorem render_closes (hlogger : engine.logger.KeepsRecord) :
    ClosedFrom (engine.renderLog template item)
      (engine.evaluation template context item (engine.opened template item session)).2
      (engine.render template context item session) := by
  have hlog : (engine.renderLog template item).logger.KeepsRecord := hlogger
  rw [render_eq hlogger]
  rcases reporting_closes hlog (engine.evaluation template context item)
    (engine.opened template item session) with ⟨text, hreported⟩ | ⟨reason, after, hreported, h⟩
  · rw [Render.bind_of_value hreported]
    exact completed_closes hlogger _ text _
  · rw [Render.bind_of_stopped hreported]
    exact h

/-- What the library itself reports of a render can be written: that inclusions are too deep for the
limit, and that a template is not trimmed. -/
structure Reportable (engine : Engine) (template : Template) (store : MemoryStore) : Prop where
  limit : ∀ limit ∈ engine.config.render.maxIncludeDepth, (Value.int limit).hasText = true
  origins : OriginsShown template store

/-- With the built-in registry, what is none of the language or was left untrimmed is reported. -/
theorem allowance_told {store : MemoryStore} (hregistry : engine.reporter.registry = .builtin)
    (hreportable : engine.Reportable template store) (log : RenderLogger) :
    Allowance (engine.settings log) Stop.Told Stop.Told True := by
  have htold : ∀ {reason : Stop}, (∃ fault, reason = .fault fault ∧ fault.trail = []) →
      reason.Told := by
    rintro _ ⟨fault, rfl, htrail⟩
    exact ⟨[], htrail⟩
  refine ⟨fun _ => id, fun _ _ => htold (Reporter.exists_internalError hregistry _),
    fun _ _ => htold (Reporter.exists_internalError hregistry _),
    fun _ _ horigin => htold (Reporter.exists_trimInvariantViolation hregistry horigin), ?_⟩
  intro limit hlimit huntold
  obtain ⟨depth, hdepth, rfl⟩ := Option.map_eq_some_iff.1 hlimit
  cases (hreportable.limit depth hdepth).symm.trans huntold

/-- No misuse comes out of a render whose context raises nothing but faults, with the built-in
registry, unless inclusions ask for more room than there is, which a limit can keep them from. -/
theorem render_ends {store : MemoryStore} (hregistry : engine.reporter.registry = .builtin)
    (hreportable : engine.Reportable template store)
    (hlogger : engine.logger.KeepsRecord) (htimed : Timed session)
    (hcontext : context.Orderly Stop.Told) (hstore : session.store = some (.memory store)) :
    let ended := (engine.render template context item session).1
    (∃ text, ended = .value text) ∨ (∃ fault, ended = .stopped (.fault fault)) ∨
      ended = .stopped (.misuse .endless) ∧
        ∀ limit ∈ engine.config.render.maxIncludeDepth, session.room < limit := by
  intro ended
  have hnote : (engine.settings (engine.renderLog template item)).Notes :=
    fun event => ⟨_, RenderLogger.note_eq hlogger event⟩
  have hended : Contract.Allows _ (fun _ => True)
      (engine.evaluation template context item session).1 :=
    evaluate_orderly hregistry (allowance_told hregistry hreportable _) hnote (.inl trivial)
      (.inl trivial) (fun _ => hreportable.origins) hcontext item hstore
  cases hending : (engine.evaluation template context item session).1 with
  | value text => exact .inl ⟨text, render_value hlogger.neverStops htimed hending⟩
  | failed failure =>
    rw [hending] at hended
    obtain ⟨messages, code⟩ := failure
    obtain ⟨texts, rfl⟩ := Failure.Told.exists_map_text hended
    obtain ⟨fault, hfault, -⟩ := render_failed hregistry hlogger.neverStops hending
    exact .inr (.inl ⟨fault, hfault⟩)
  | stopped reason =>
    rw [hending] at hended
    rcases hended with htold | ⟨rfl, hendless⟩
    · cases reason with
      | fault fault => exact .inr (.inl ⟨_, render_stopped hlogger.neverStops htold hending⟩)
      | misuse misuse => exact htold.elim
    · refine .inr (.inr ⟨render_misused hlogger.neverStops hending, fun limit hlimit => ?_⟩)
      exact Int.ofNat_lt.1 (hendless limit (Option.map_eq_some_iff.2 ⟨limit, hlimit, rfl⟩))

end

/-- It is the clock alone that tells how long a render takes. -/
theorem Timed.of_clock {session other : Session} (htimed : Timed other)
    (h : session.clock = other.clock) : Timed session := by
  rw [Timed, h]
  exact htimed

/-- An engine that keeps a record. -/
def recordingEngine : Engine :=
  { plainEngine with logger := { level := .debug, format := .json, now := default } }

/-- The engine logs down to the lowest level, and one object on each line. -/
theorem recordingEngine_keepsRecord : recordingEngine.logger.KeepsRecord := ⟨rfl, rfl, rfl⟩

/-- The guarded context raises nothing: it answers one key with a failure, and no other. -/
theorem guarded_orderly : guarded.Orderly Stop.Told := by
  refine .of_answer fun key args item => ?_
  show Failure.Told _
  exact fun message hmessage => ⟨_, List.mem_singleton.1 hmessage⟩

/-- An engine whose registry holds a form with a pattern that cannot be read. -/
def misreportingEngine : Engine :=
  { recordingEngine with
    reporter.registry := Registry.builtin.register
      { code := "NO_TITLE", category := .template, message := some "\x7b" } }

/-- The untitled context answers with a failure that can be told. -/
theorem untitled_orderly : untitled.Orderly fun _ => False := by
  refine .of_answer fun key args item => ?_
  show Failure.Told _
  exact fun message hmessage => ⟨_, List.mem_singleton.1 hmessage⟩

end Engine

end Inlay
