import Inlay.Config.Read
import Inlay.Render.Evaluate

/-!
# The engine

An engine renders templates as its configuration says, and tells its logger about each render. A
render that fails stops with a fault: it has the code of the innermost failure, the template and the
item as its headline, and the breadcrumbs as its trail. There is no partial output.

A render that goes well logs `started` and `completed`, one that ends in a fault `started` and
`failed`. The clock is read once a render has started, and again when it is completed.
-/

namespace Inlay

open Log

/-- What templates are rendered with. The store is part of the session. -/
structure Engine where
  reporter : Reporter
  workspace : File.Workspace
  config : Config
  logger : Logger
  deriving Inhabited

namespace Engine

/-- The engine of a configuration; without a logger it has the one that the configuration
describes. -/
def ofConfig (reporter : Reporter) (workspace : File.Workspace) (config : Config)
    (logger : Option Logger) : Except Misuse Engine := do
  let logger ← match logger with
    | some logger => .ok logger
    | none => config.logger reporter.now
  return { reporter, workspace, config, logger }

/-- The store that the configuration names. -/
def store (engine : Engine) : Except Misuse Store := do
  return .directory (← DirectoryStore.ofConfig engine.config.templates engine.logger)

/-- Compile a source; an origin that is absent or empty gives way to the configured one. -/
def compile (engine : Engine) (source : String) (origin : Option String := none) :
    Except Stop Template :=
  Template.compile engine.reporter
    ((Value.ofText? origin).orElse engine.config.render.literalOrigin) source

/-- The milliseconds between two readings of the clock, in whole numbers towards zero. -/
def milliseconds (first second : Binary64) : Except Misuse Int :=
  let span := (second.sub first).scaleBy 1000
  match span.truncate? with
  | some count => .ok count
  | none => .error (if span = .nan then .badForm else .outOfRange)

/-- What a template is evaluated with. -/
def settings (engine : Engine) (log : RenderLogger) : Evaluator.Settings where
  reporter := engine.reporter
  workspace := engine.workspace
  limit := engine.config.render.maxIncludeDepth.map Int.ofNat
  log := some log

/-- Stop with a fault that is logged as the end of the render. -/
def stopLogged {α : Type} (log : RenderLogger) (fault : Fault) : Render α := do
  RenderLogger.note log (.failed (← Render.ofExcept fault.text))
  Render.stop (.fault fault)

/-- Report a failure of a step, or complete the report of a fault that stops it. -/
def reporting {α : Type} (engine : Engine) (log : RenderLogger) (step : Render α) : Render α :=
  fun session =>
    match step session with
    | (.failed failure, session) => (do
        let fault ← Render.ofExcept (engine.reporter.reportFailure failure.code failure.messages
          (Breadcrumb.framing log.origin (.text log.item)) log.origin (.text log.item))
        stopLogged log fault) session
    | (.stopped (.fault fault), session) =>
      stopLogged log (fault.within log.origin (.text log.item)) session
    | other => other

/-- Render a template for an item, with the fields of a context. -/
def render (engine : Engine) (template : Template) (context : Context) (item : Item) :
    Render String := do
  let log : RenderLogger := ⟨engine.logger, template.origin, item.identifier⟩
  RenderLogger.note log .started
  let started ← Render.readClock
  let text ← engine.reporting log
    (Evaluator.evaluate (engine.settings log) template context item.asValue)
  let ended ← Render.readClock
  let duration ← Render.ofExcept (milliseconds started ended)
  RenderLogger.note log (.completed duration text.length)
  return text

/-- Load a template from the session's store. -/
def load (engine : Engine) (identifier : String) : Render Template := fun session =>
  match session.store with
  | some store => Render.loadFrom engine.reporter engine.workspace store identifier session
  | none => Render.stop (engine.reporter.stop Code.templateNotFound [
      (.text "identifier", .text identifier),
      (.text "detail", .text "No template store configured")]) session

/-- Render a template of the session's store. -/
def renderNamed (engine : Engine) (identifier : String) (context : Context) (item : Item) :
    Render String := do
  engine.render (← engine.load identifier) context item

/-- Render the body of an item as a template for the item itself. -/
def renderSelf (engine : Engine) (context : Context) (item : Item) : Render String := do
  match Template.compileItem engine.reporter item with
  | .ok template => engine.render template context item
  | .error reason => Render.stop reason

/-- The item with what is rendered for it as its body. -/
def applied (item : Item) (step : Render String) : Render Item := do
  return item.withBody (← step)

/-- Render a template for an item, as its new body. -/
def apply (engine : Engine) (template : Template) (context : Context) (item : Item) :
    Render Item :=
  applied item (engine.render template context item)

/-- Render a template of the session's store for an item, as its new body. -/
def applyNamed (engine : Engine) (identifier : String) (context : Context) (item : Item) :
    Render Item :=
  applied item (engine.renderNamed identifier context item)

/-- Render the body of an item for the item itself, as its new body. -/
def applySelf (engine : Engine) (context : Context) (item : Item) : Render Item :=
  applied item (engine.renderSelf context item)

end Engine

end Inlay
