import Inlay.Context.Fields
import Inlay.Log.Event
import Inlay.Store.Basic

/-!
# Rendering steps

A step of a render reads and changes a `Session`: the store, the clock, the room that is left for
inclusions, the record of the questions that providers were asked, and the lines that were logged.
It ends with a value, with a failure that the constructs around it take further out, or with a
reason to stop that no construct touches.
-/

namespace Inlay

open Log

/-- How a step of a render ends. -/
inductive Ending (α : Type) where
  | value (value : α)
  | failed (failure : Failure)
  | stopped (reason : Stop)
  deriving Inhabited

/-- What the steps of a render share and change. -/
structure Session where
  store : Option Store := none
  /-- What the clock will show, in seconds, each time that it is read. -/
  clock : List Binary64 := []
  /-- How many inclusions can be nested in each other before there is no room for another one. What
  the constructs of one template take, which are nested as deep as its source has them, is not
  counted. -/
  room : Nat := 1000
  calls : List Call := []
  lines : List Line := []
  deriving Inhabited

/-- A step of a render. -/
def Render (α : Type) : Type := Session → Ending α × Session

namespace Render

variable {α β : Type}

/-- End with a value. -/
def pure (value : α) : Render α := fun session => (.value value, session)

/-- End with a failure. -/
def fail (failure : Failure) : Render α := fun session => (.failed failure, session)

/-- Stop. -/
def stop (reason : Stop) : Render α := fun session => (.stopped reason, session)

/-- Go on from the value of a step. -/
def bind (step : Render α) (next : α → Render β) : Render β := fun session =>
  match step session with
  | (.value value, session) => next value session
  | (.failed failure, session) => (.failed failure, session)
  | (.stopped reason, session) => (.stopped reason, session)

instance : Monad Render where
  pure := Render.pure
  bind := Render.bind

instance [Inhabited α] : Inhabited (Render α) := ⟨Render.pure default⟩

/-- Put a breadcrumb before the failure of a step. -/
def under (breadcrumb : String) (step : Render α) : Render α := fun session =>
  match step session with
  | (.failed failure, session) => (.failed (failure.below breadcrumb), session)
  | other => other

/-- Put a breadcrumb before the failure of a step, unless misuse keeps it from being told. -/
def underTold (breadcrumb : Except Misuse String) (step : Render α) : Render α := fun session =>
  match step session, breadcrumb with
  | (.failed failure, session), .ok breadcrumb => (.failed (failure.below breadcrumb), session)
  | (.failed _, session), .error misuse => (.stopped (.misuse misuse), session)
  | other, _ => other

/-- The value of a step or its failure. -/
def attempt (step : Render α) : Render (Except Failure α) := fun session =>
  match step session with
  | (.value value, session) => (.value (.ok value), session)
  | (.failed failure, session) => (.value (.error failure), session)
  | (.stopped reason, session) => (.stopped reason, session)

/-- A result, or a reason to stop. -/
def ofStop : Except Stop α → Render α
  | .ok value => pure value
  | .error reason => stop reason

/-- A result that misuse may stop. -/
def ofExcept : Except Misuse α → Render α
  | .ok value => pure value
  | .error misuse => stop (.misuse misuse)

/-- Fail with a failure that misuse may keep from being made. -/
def failWith (failure : Except Misuse Failure) : Render α :=
  bind (ofExcept failure) fail

/-- Ask a context for a field that must be there. -/
def ask (context : Context) (key : String) (args : List String) (subject : Value) : Render Field :=
  fun session =>
    let reply := context.lookup key args subject
    let session := { session with calls := session.calls ++ reply.calls }
    match reply.answer with
    | .ok (.found field) => (.value field, session)
    | .ok (.notFound messages) => (.failed ⟨messages, Code.fieldNotFound⟩, session)
    | .ok (.failed failure) => (.failed failure, session)
    | .error reason => (.stopped reason, session)

/-- Read the clock. One that has nothing more to show stands at zero. -/
def readClock : Render Binary64 := fun session =>
  (.value (session.clock.headD (.zero false)), { session with clock := session.clock.tail })

/-- Load a template from a store, which becomes the session's. -/
def loadFrom (reporter : Reporter) (workspace : File.Workspace) (store : Store)
    (identifier : String) : Render Template := fun session =>
  let (result, lines, store) := store.load reporter workspace identifier
  let session := { session with store := some store, lines := session.lines ++ lines }
  match result with
  | .ok template => (.value template, session)
  | .error reason => (.stopped reason, session)

/-- Add lines to the log. -/
def addLines (lines : List Line) : Render Unit := fun session =>
  (.value (), { session with lines := session.lines ++ lines })

end Render

/-- A logger for the application of one template to one item. -/
structure RenderLogger where
  logger : Logger
  origin : Value
  item : String
  deriving Inhabited

namespace RenderLogger

/-- The lines of an event. -/
def linesOf (log : RenderLogger) (event : RenderEvent) : Except Misuse (List Line) :=
  log.logger.write (event.entry log.origin log.item)

/-- Log an event, if there is a logger. -/
def note (log : Option RenderLogger) (event : RenderEvent) : Render Unit :=
  match log with
  | none => pure ()
  | some log => do Render.addLines (← Render.ofExcept (log.linesOf event))

end RenderLogger

end Inlay
