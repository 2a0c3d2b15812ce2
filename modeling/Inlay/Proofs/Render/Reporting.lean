import Inlay.Proofs.Fault.Reports
import Inlay.Proofs.Log.Lines
import Inlay.Proofs.Render.Failure
import Inlay.Proofs.Render.Steady
import Inlay.Render.Engine

/-!
# What an engine makes of an evaluation

A render logs and reads the clock around the evaluation of its template, and this has no part in how
the evaluation ends. What the evaluation ends in decides how the render ends: with the same text,
with the report of the failure, or with the fault that stopped it, told for the template and the
item (`render_reports`). The other ways to render find their template first and then do the same.
-/

namespace Inlay

open Log

/-- The breadcrumbs of the fault are texts, so that they can be told. -/
def Fault.Told (fault : Fault) : Prop := ∃ texts : List String, fault.trail = texts.map .text

/-- A fault that can be told has a text. -/
theorem Fault.Told.text {fault : Fault} (h : fault.Told) : ∃ text, fault.text = .ok text := by
  obtain ⟨texts, htexts⟩ := h
  unfold Fault.text
  split
  · exact ⟨_, rfl⟩
  · rw [htexts, Fault.lines_map_text]
    exact ⟨_, rfl⟩

namespace Engine

/-- The clock can tell how long a render takes that starts from the session. -/
def Timed (session : Session) : Prop :=
  ∃ duration, milliseconds (session.clock.headD (.zero false))
    (session.clock.tail.headD (.zero false)) = .ok duration

section

variable (engine : Engine) (template : Template) (context : Context) (item : Item)

/-- What the events of a render are logged with. -/
def renderLog : RenderLogger := ⟨engine.logger, template.origin, item.identifier⟩

/-- The evaluation that a render goes by. -/
def evaluation : Render String :=
  Evaluator.evaluate (engine.settings (engine.renderLog template item)) template context
    item.asValue

/-- What a render does once the template is evaluated. -/
def completed (started : Binary64) (text : String) : Render String := do
  let ended ← Render.readClock
  let duration ← Render.ofExcept (milliseconds started ended)
  RenderLogger.note (engine.renderLog template item) (.completed duration text.length)
  return text

end

section

variable {engine : Engine} {template : Template} {context : Context} {item : Item}
  {session : Session}

/-- Where the logger stops nothing, an event adds its lines to the log. -/
theorem exists_noted (hlogger : engine.logger.NeverStops) (template : Template) (item : Item)
    (event : RenderEvent) :
    ∃ lines, RenderLogger.note (engine.renderLog template item) event = Render.addLines lines := by
  have hnever : (engine.renderLog template item).logger.NeverStops := hlogger
  exact RenderLogger.exists_note_of_neverStops hnever event

/-- The evaluation of a render ends as it does without the logging and the reading of the clock
that come first. -/
theorem exists_started (hlogger : engine.logger.NeverStops) {ending : Ending String}
    {after : Session} (h : engine.evaluation template context item session = (ending, after)) :
    ∃ started between, engine.evaluation template context item started = (ending, between) ∧
      between.clock = session.clock.tail ∧
      engine.render template context item session
        = (engine.reporting (engine.renderLog template item)
            (engine.evaluation template context item) >>= fun text =>
              engine.completed template item (session.clock.headD (.zero false)) text) started := by
  obtain ⟨lines, hlines⟩ := exists_noted hlogger template item .started
  have hrender : engine.render template context item session
      = (RenderLogger.note (engine.renderLog template item) .started >>= fun _ =>
          Render.readClock >>= fun started =>
          engine.reporting (engine.renderLog template item)
            (engine.evaluation template context item) >>= fun text =>
              engine.completed template item started text) session := rfl
  rw [hlines] at hrender
  -- the clock has been read and the start logged, which the evaluation takes no notice of
  have hsteady := Evaluator.evaluate_steady (engine.settings (engine.renderLog template item))
    template context item.asValue session.clock session.clock.tail session
    { session with lines := session.lines ++ lines, clock := session.clock.tail }
    ⟨rfl, rfl, rfl, rfl, rfl⟩
  rw [← evaluation, h] at hsteady
  refine ⟨{ session with lines := session.lines ++ lines, clock := session.clock.tail }, ?_⟩
  generalize hstarted : engine.evaluation template context item
    { session with lines := session.lines ++ lines, clock := session.clock.tail } = ended at hsteady
  cases hsteady with
  | value related apart =>
    cases related
    exact ⟨_, rfl, apart.clock', hrender⟩
  | failed failure apart => exact ⟨_, rfl, apart.clock', hrender⟩
  | stopped reason apart => exact ⟨_, rfl, apart.clock', hrender⟩

/-- A fault that can be told is logged, and stops the render. -/
theorem stopLogged_eq (hlogger : engine.logger.NeverStops) (template : Template) (item : Item)
    {fault : Fault} {text : String} (htext : fault.text = .ok text) (session : Session) :
    ∃ after, (stopLogged (engine.renderLog template item) fault : Render String) session
      = (.stopped (.fault fault), after) := by
  obtain ⟨lines, hlines⟩ := exists_noted hlogger template item (.failed text)
  unfold stopLogged
  rw [htext]
  show ∃ after, (RenderLogger.note (engine.renderLog template item) (.failed text) >>= fun _ =>
    Render.stop (.fault fault)) session = _
  rw [hlines]
  exact ⟨_, rfl⟩

/-- A failure has messages, at least that of its site. -/
theorem messages_ne_nil (hregistry : engine.reporter.registry = .builtin) {failure : Failure}
    (h : (engine.evaluation template context item session).1 = .failed failure) :
    failure.messages ≠ [] := by
  have hfailed : engine.evaluation template context item session
      = (.failed failure, (engine.evaluation template context item session).2) := Prod.ext h rfl
  have hexplained : Render.Explains _ Evaluator.Trail.failure _ :=
    @Evaluator.within_explained (engine.settings (engine.renderLog template item))
      hregistry session.room ⟨context, item.asValue, template.origin, 0⟩ template.elements
  obtain ⟨trail, -, rfl⟩ := (hexplained session failure _).1 hfailed
  exact trail.failure_messages_ne_nil

/-! ## How a render ends -/

/-- A text that is evaluated to is rendered, if the clock can tell how long that took. -/
theorem render_value (hlogger : engine.logger.NeverStops) (htimed : Timed session) {text : String}
    (h : (engine.evaluation template context item session).1 = .value text) :
    (engine.render template context item session).1 = .value text := by
  obtain ⟨started, between, hstarted, hclock, hrender⟩ := exists_started hlogger (Prod.ext h rfl)
  have hreporting : engine.reporting (engine.renderLog template item)
      (engine.evaluation template context item) started = (.value text, between) := by
    rw [reporting, hstarted]
  obtain ⟨duration, hduration⟩ := htimed
  obtain ⟨lines, hlines⟩ := exists_noted hlogger template item (.completed duration text.length)
  have hread : Render.readClock between = (.value (session.clock.tail.headD (.zero false)),
      { between with clock := between.clock.tail }) := by
    rw [Render.readClock, hclock]
  rw [hrender, Render.bind_of_value hreporting, completed, Render.bind_of_value hread, hduration]
  show ((RenderLogger.note (engine.renderLog template item) (.completed duration text.length)
    >>= fun _ => pure text) _).1 = _
  rw [hlines]
  rfl

/-- A failure is reported. -/
theorem render_failed (hregistry : engine.reporter.registry = .builtin)
    (hlogger : engine.logger.NeverStops) {messages : List String} {code : String}
    (h : (engine.evaluation template context item session).1
      = .failed ⟨messages.map .text, code⟩) :
    ∃ fault, (engine.render template context item session).1 = .stopped (.fault fault) ∧
      fault.Reports template.origin item.identifier messages code := by
  have hmessages : messages ≠ [] := by simpa using messages_ne_nil hregistry h
  obtain ⟨fault, hfault, hreports⟩ := Reporter.reportFailure_reports hregistry template.origin
    item.identifier hmessages code
  obtain ⟨started, between, hstarted, -, hrender⟩ := exists_started hlogger (Prod.ext h rfl)
  obtain ⟨after, hafter⟩ := stopLogged_eq hlogger template item hreports.text between
  have hreporting : engine.reporting (engine.renderLog template item)
      (engine.evaluation template context item) started = (.stopped (.fault fault), after) := by
    rw [reporting, hstarted, ← hafter]
    show (Render.ofExcept (engine.reporter.reportFailure code (messages.map .text)
      (Breadcrumb.framing template.origin (.text item.identifier)) template.origin
      (.text item.identifier)) >>= fun fault => stopLogged _ fault) between = _
    rw [hfault]
    rfl
  rw [hrender, Render.bind_of_stopped hreporting]
  exact ⟨fault, rfl, hreports⟩

/-- A fault that stops the evaluation is told for the template and the item. -/
theorem render_stopped (hlogger : engine.logger.NeverStops) {fault : Fault} (htold : fault.Told)
    (h : (engine.evaluation template context item session).1 = .stopped (.fault fault)) :
    (engine.render template context item session).1
      = .stopped (.fault (fault.within template.origin (.text item.identifier))) := by
  obtain ⟨text, htext⟩ := htold.text
  obtain ⟨started, between, hstarted, -, hrender⟩ := exists_started hlogger (Prod.ext h rfl)
  have hwithin : (fault.within template.origin (.text item.identifier)).text = .ok text := htext
  obtain ⟨after, hafter⟩ := stopLogged_eq hlogger template item hwithin between
  have hreporting : engine.reporting (engine.renderLog template item)
      (engine.evaluation template context item) started
        = (.stopped (.fault (fault.within template.origin (.text item.identifier))), after) := by
    rw [reporting, hstarted, ← hafter]
    rfl
  rw [hrender, Render.bind_of_stopped hreporting]

/-- Misuse that stops the evaluation stops the render. -/
theorem render_misused (hlogger : engine.logger.NeverStops) {misuse : Misuse}
    (h : (engine.evaluation template context item session).1 = .stopped (.misuse misuse)) :
    (engine.render template context item session).1 = .stopped (.misuse misuse) := by
  obtain ⟨started, between, hstarted, -, hrender⟩ := exists_started hlogger (Prod.ext h rfl)
  have hreporting : engine.reporting (engine.renderLog template item)
      (engine.evaluation template context item) started
        = (.stopped (.misuse misuse), between) := by
    rw [reporting, hstarted]
  rw [hrender, Render.bind_of_stopped hreporting]

/-- To log a fault and stop by it leaves no text. -/
theorem stopLogged_ne_value {log : RenderLogger} {fault : Fault} {text : String}
    (before : Session) : ((stopLogged log fault : Render String) before).1 ≠ .value text := by
  unfold stopLogged
  cases fault.text with
  | error misuse => nofun
  | ok told =>
    show ((RenderLogger.note log (.failed told) >>= fun _ => Render.stop (.fault fault)) before).1
      ≠ _
    rcases hnote : RenderLogger.note log (.failed told) before with ⟨_ | failure | reason, between⟩
    · rw [Render.bind_of_value hnote]
      nofun
    · rw [Render.bind_of_failed hnote]
      nofun
    · rw [Render.bind_of_stopped hnote]
      nofun

/-- Where the evaluation has no text, the report ends without one. -/
theorem reporting_ne_value {log : RenderLogger} {step : Render String} {before : Session}
    (h : ∀ text, (step before).1 ≠ .value text) (text : String) :
    (engine.reporting log step before).1 ≠ .value text := by
  unfold reporting
  rcases hstep : step before with ⟨value | failure | (fault | misuse), between⟩
  · exact absurd (congrArg Prod.fst hstep) (h value)
  · dsimp only
    cases engine.reporter.reportFailure failure.code failure.messages
      (Breadcrumb.framing log.origin (.text log.item)) log.origin (.text log.item) with
    | error misuse => nofun
    | ok fault => exact stopLogged_ne_value between
  · exact stopLogged_ne_value between
  · nofun

/-- Where the evaluation has no text, nothing is rendered. -/
theorem render_ne_value (hlogger : engine.logger.NeverStops)
    (h : ∀ text, (engine.evaluation template context item session).1 ≠ .value text)
    (text : String) : (engine.render template context item session).1 ≠ .value text := by
  obtain ⟨started, between, hstarted, -, hrender⟩ := exists_started hlogger
    (Prod.eta (engine.evaluation template context item session)).symm
  have hnone : ∀ text, (engine.evaluation template context item started).1 ≠ .value text := by
    intro text
    rw [hstarted]
    exact h text
  rw [hrender]
  rcases hreported : engine.reporting (engine.renderLog template item)
    (engine.evaluation template context item) started with ⟨value | failure | reason, ended⟩
  · exact absurd (congrArg Prod.fst hreported) (reporting_ne_value hnone value)
  · rw [Render.bind_of_failed hreported]
    nofun
  · rw [Render.bind_of_stopped hreported]
    nofun

/-- A text is rendered exactly if it is evaluated to. -/
theorem render_eq_value_iff (hlogger : engine.logger.NeverStops) (htimed : Timed session)
    (text : String) :
    (engine.render template context item session).1 = .value text ↔
      (engine.evaluation template context item session).1 = .value text := by
  constructor
  · intro hrendered
    by_cases hfound : ∃ found, (engine.evaluation template context item session).1 = .value found
    · obtain ⟨found, hfound⟩ := hfound
      rw [hfound, ← render_value hlogger htimed hfound, hrendered]
    · exact absurd hrendered (render_ne_value hlogger (not_exists.1 hfound) text)
  · exact render_value hlogger htimed

end

/-! ## The other ways to render -/

section

variable {engine : Engine} {context : Context} {item : Item} {session : Session}

/-- A named template is loaded from the store of the session, and rendered as it is. -/
theorem renderNamed_eq {identifier : String} {store after : Store} {template : Template}
    {lines : List Line} (hstore : session.store = some store)
    (hload : store.load engine.reporter engine.workspace identifier
      = (.ok template, lines, after)) :
    engine.renderNamed identifier context item session = engine.render template context item
      { session with store := some after, lines := session.lines ++ lines } := by
  have hloaded : engine.load identifier session = (.value template,
      { session with store := some after, lines := session.lines ++ lines }) := by
    unfold load
    rw [hstore]
    dsimp only
    rw [Render.loadFrom, hload]
  exact Render.bind_of_value hloaded

/-- Why a named template is not loaded is why it is not rendered. -/
theorem renderNamed_of_error {identifier : String} {store after : Store} {reason : Stop}
    {lines : List Line} (hstore : session.store = some store)
    (hload : store.load engine.reporter engine.workspace identifier
      = (.error reason, lines, after)) :
    (engine.renderNamed identifier context item session).1 = .stopped reason := by
  have hloaded : engine.load identifier session = (.stopped reason,
      { session with store := some after, lines := session.lines ++ lines }) := by
    unfold load
    rw [hstore]
    dsimp only
    rw [Render.loadFrom, hload]
  rw [renderNamed, Render.bind_of_stopped hloaded]

/-- Without a store, no template has a name. -/
theorem renderNamed_of_none (identifier : String) (hstore : session.store = none) :
    (engine.renderNamed identifier context item session).1
      = .stopped (engine.reporter.stop Code.templateNotFound [
          (.text "identifier", .text identifier),
          (.text "detail", .text "No template store configured")]) := by
  have hloaded : engine.load identifier session = (.stopped (engine.reporter.stop
      Code.templateNotFound [(.text "identifier", .text identifier),
        (.text "detail", .text "No template store configured")]), session) := by
    unfold load
    rw [hstore]
    rfl
  rw [renderNamed, Render.bind_of_stopped hloaded]

/-- The body of an item is compiled under the item's own name, and rendered for the item. -/
theorem renderSelf_eq {template : Template}
    (h : Template.compileItem engine.reporter item = .ok template) :
    engine.renderSelf context item session = engine.render template context item session := by
  unfold renderSelf
  rw [h]

/-- An item whose body is no template is not rendered with itself. -/
theorem renderSelf_of_error {reason : Stop}
    (h : Template.compileItem engine.reporter item = .error reason) :
    (engine.renderSelf context item session).1 = .stopped reason := by
  unfold renderSelf
  rw [h]
  rfl

/-- The item with the rendered text for its body, or why there is none. -/
def bodyOf (item : Item) : Ending String → Ending Item
  | .value text => .value { item with body := .text text }
  | .failed failure => .failed failure
  | .stopped reason => .stopped reason

/-- An item is given the text of a render, or no item comes of it for the same reason. -/
theorem applied_eq (step : Render String) :
    applied item step session = Prod.map (bodyOf item) id (step session) := by
  unfold applied
  rcases hstep : step session with ⟨text | failure | reason, after⟩
  · rw [Render.bind_of_value hstep]
    rfl
  · rw [Render.bind_of_failed hstep]
    rfl
  · rw [Render.bind_of_stopped hstep]
    rfl

end

/-! ## Reports -/

/-- The other ways to render find their template and do as `render` does, and the ways to apply a
template make what is rendered the body of the item. -/
structure FollowsRender (engine : Engine) (template : Template) (context : Context) (item : Item)
    (session : Session) : Prop where
  named : ∀ identifier store template lines after, session.store = some store →
    store.load engine.reporter engine.workspace identifier = (.ok template, lines, after) →
    engine.renderNamed identifier context item session = engine.render template context item
      { session with store := some after, lines := session.lines ++ lines }
  notLoaded : ∀ identifier store reason lines after, session.store = some store →
    store.load engine.reporter engine.workspace identifier = (.error reason, lines, after) →
    (engine.renderNamed identifier context item session).1 = .stopped reason
  noStore : ∀ identifier, session.store = none →
    (engine.renderNamed identifier context item session).1
      = .stopped (engine.reporter.stop Code.templateNotFound [
          (.text "identifier", .text identifier),
          (.text "detail", .text "No template store configured")])
  self : ∀ template, Template.compileItem engine.reporter item = .ok template →
    engine.renderSelf context item session = engine.render template context item session
  malformed : ∀ reason, Template.compileItem engine.reporter item = .error reason →
    (engine.renderSelf context item session).1 = .stopped reason
  applied : engine.apply template context item session
    = Prod.map (bodyOf item) id (engine.render template context item session)
  appliedNamed : ∀ identifier, engine.applyNamed identifier context item session
    = Prod.map (bodyOf item) id (engine.renderNamed identifier context item session)
  appliedSelf : engine.applySelf context item session
    = Prod.map (bodyOf item) id (engine.renderSelf context item session)

/-- All ways to render go by the one that is given the template. -/
theorem followsRender (engine : Engine) (template : Template) (context : Context) (item : Item)
    (session : Session) : engine.FollowsRender template context item session where
  named _ _ _ _ _ := renderNamed_eq
  notLoaded _ _ _ _ _ := renderNamed_of_error
  noStore := renderNamed_of_none
  self _ := renderSelf_eq
  malformed _ := renderSelf_of_error
  applied := applied_eq _
  appliedNamed _ := applied_eq _
  appliedSelf := applied_eq _

/-- With the built-in registry, a logger that nothing stops and a clock that can tell how long the
render takes, the engine reports what the evaluation ends in: the text; the messages of a failure
under its code, if that is registered; a fault that is raised, with the names of the template and of
the item unless they are empty. The breadcrumbs must be texts, so that they can be told. Misuse goes
through as it is. -/
theorem render_reports (engine : Engine) (template : Template) (context : Context) (item : Item)
    (session : Session) (hregistry : engine.reporter.registry = .builtin)
    (hlogger : engine.logger.NeverStops) (htimed : Timed session) :
    (∀ text, (engine.render template context item session).1 = .value text ↔
      (engine.evaluation template context item session).1 = .value text) ∧
    (∀ messages code, (engine.evaluation template context item session).1
        = .failed ⟨messages.map .text, code⟩ →
      ∃ fault, (engine.render template context item session).1 = .stopped (.fault fault) ∧
        fault.Reports template.origin item.identifier messages code) ∧
    (∀ fault, (engine.evaluation template context item session).1 = .stopped (.fault fault) →
      fault.Told →
      (engine.render template context item session).1 = .stopped (.fault { fault with
        origin := if template.origin.isTruthy then template.origin else fault.origin
        item := if item.identifier = "" then fault.item else .text item.identifier })) ∧
    (∀ misuse, (engine.evaluation template context item session).1 = .stopped (.misuse misuse) →
      (engine.render template context item session).1 = .stopped (.misuse misuse)) ∧
    engine.FollowsRender template context item session := by
  refine ⟨render_eq_value_iff hlogger htimed,
    fun messages code hfailed => render_failed hregistry hlogger hfailed,
    fun fault hstopped htold => ?_, fun misuse => render_misused hlogger,
    followsRender engine template context item session⟩
  have hitem : (Value.text item.identifier).orElse fault.item
      = if item.identifier = "" then fault.item else .text item.identifier := by
    by_cases hempty : item.identifier = ""
    · rw [if_pos hempty, hempty]
      rfl
    · have htruthy : (Value.text item.identifier).isTruthy = true := by
        simpa [Value.isTruthy, String.isEmpty_iff] using hempty
      rw [if_neg hempty, Value.orElse, if_pos htruthy]
  rw [render_stopped hlogger htold hstopped, Fault.within, hitem]
  rfl

/-- An engine as it is configured by default. -/
def plainEngine : Engine := ⟨⟨.builtin, default⟩, default, {}, { now := default }⟩

/-- A template that asks for a title, with a name that looks like a pattern. -/
def titlePage : Template := ⟨.text "pages/\x7bdraft\x7d.html", [.value (.ident "title")]⟩

/-- A context that knows of the title that it cannot be had. -/
def untitled : Context :=
  Context.single fun _ _ _ => pure (.failed ⟨[.text "no \x7btitle\x7d"], "NO_TITLE"⟩)

/-- A post whose identifier is a path. -/
def post : Item := ⟨"posts/a.md", .text "", []⟩

/-- A clock that stands still tells that a render takes no time. -/
theorem timed_of_still : Timed {} := by
  have hspan : ((Binary64.zero false).sub (.zero false)).scaleBy 1000 = .zero false := by
    decide +kernel
  have hcount : (Binary64.zero false).truncate? = some 0 := by decide +kernel
  refine ⟨0, ?_⟩
  show milliseconds (.zero false) (.zero false) = _
  rw [milliseconds, hspan, hcount]

/-- The braces in the name of the template and in the message are told as they are. -/
theorem titlePage_reported :
    ∃ fault, (plainEngine.render titlePage untitled post {}).1 = .stopped (.fault fault) ∧
      fault.code = "RENDER_FAILED" ∧
      fault.text = .ok ("Failed to apply template pages/\x7bdraft\x7d.html to item posts/a.md:\n"
        ++ "In expr '$title$',\nno \x7btitle\x7d") := by
  have hnever : plainEngine.logger.NeverStops :=
    Logger.CutsAtInteger.neverStops (rfl : (Value.int 200).asInt?.isSome = true)
  have hfailed : (plainEngine.evaluation titlePage untitled post {}).1
      = .failed ⟨["In expr '$title$'", "no \x7btitle\x7d"].map .text, "NO_TITLE"⟩ := rfl
  have hreported := render_reports plainEngine titlePage untitled post {} rfl hnever timed_of_still
  obtain ⟨fault, hstopped, hreports⟩ := hreported.2.1 _ _ hfailed
  refine ⟨fault, hstopped, hreports.code, ?_⟩
  rw [hreports.text]
  rfl

end Engine

end Inlay
