import Inlay.Render.Basic
import Inlay.Render.Breadcrumb

/-!
# Evaluating templates

A template is evaluated against a context and a subject, to a text or to a failure; there is no
partial output. Elements are evaluated in order, and the first that fails ends the evaluation.

The recursion has two levels. `elements` follows the structure of a list of elements; what an
inclusion does is a parameter of it. `within` ties the knot: it counts down the inclusions that
there is still room for. Conditions and loops take none of this room, however deep they are nested:
that an interpreter may run out of its own stack in them is set aside. A limit on how deep templates
are included is checked by `inclusion` itself.
-/

namespace Inlay.Evaluator

open Template Log

/-- What the whole of an evaluation is run with. -/
structure Settings where
  reporter : Reporter
  /-- The files that a directory store reads. -/
  workspace : File.Workspace
  /-- How deep templates may be included in each other; without a limit, as deep as they are. -/
  limit : Option Int := some 32
  log : Option RenderLogger := none
  deriving Inhabited

/-- What a list of elements is evaluated against. -/
structure Frame where
  context : Context
  subject : Value
  /-- The origin of the template that the elements are from. -/
  origin : Value
  /-- How many inclusions lead to it. -/
  depth : Nat

/-- Evaluate a template in place of its inclusion. -/
abbrev Enter := Frame → List Element → Render String

section

variable (settings : Settings)

/-- Ask for a field; behind the context, every key is missing. -/
def lookup (frame : Frame) (key : String) (args : List String) : Render Field :=
  Render.ask (.chain [frame.context, .missing settings.reporter]) key args frame.subject

/-- The text of a field that must be one. -/
def textOf (subject : String) : Field → Render String
  | .text text => pure text
  | field => Render.failWith (settings.reporter.mismatch .string field.kind subject)

mutual

/-- The field that an expression stands for. -/
def fieldOf (frame : Frame) : Expr → Render Field
  | .ident key => lookup settings frame key []
  | .call key args => do lookup settings frame key (← arguments frame args)
  | .literal text => pure (.text text)
  | .foreign kind => Render.stop (settings.reporter.stop Code.internalError
      [(.text "detail", .text ("Unknown template expression: " ++ kind))])

/-- The texts of the arguments of a call, in order. -/
def arguments (frame : Frame) : List Expr → Render (List String)
  | [] => pure []
  | arg :: rest => do
    let text ← textOf settings (Breadcrumb.argumentSubject arg) (← fieldOf frame arg)
    return text :: (← arguments frame rest)

end

/-- The text that an expression stands for. -/
def textAt (frame : Frame) (subject : String) (expr : Expr) : Render String := do
  textOf settings subject (← fieldOf settings frame expr)

/-- The frames of the repetitions of a loop. A subject is asked about in the context of its list
alone; a value keeps the subject, and its context stands before the surrounding one. -/
def loopFrames (frame : Frame) : Field → Option (List (Except Stop Frame))
  | .items context items => some (items.map fun subject => .ok { frame with context, subject })
  | .values members => some (members.map fun member => do
      return { frame with context := .chain [← member.2, frame.context] })
  | _ => none

/-- The frames of a loop over a field that must be a list. -/
def framesOf (frame : Frame) (source : Expr) (field : Field) :
    Render (List (Except Stop Frame)) :=
  match loopFrames frame field with
  | some frames => pure frames
  | none => Render.under (Breadcrumb.inLoopHead source) <| Render.failWith <|
      settings.reporter.mismatch .list field.kind (Breadcrumb.loopSubject source)

/-- Evaluate a step in each of the frames, in order. -/
def inEach (step : Frame → Render String) : List Frame → Render (List String)
  | [] => pure []
  | frame :: rest => do
    let text ← step frame
    return text :: (← inEach step rest)

/-- Log that a condition failed, if there is a logger. Its breadcrumbs must be texts. -/
def noteCondition (test : Expr) (failure : Failure) : Render Unit := do
  if settings.log.isSome then
    let trail ← Render.ofExcept (Value.texts failure.messages)
    RenderLogger.note settings.log (.conditionError test.source trail)

/-- Is this the field of a condition? A failure counts as absent; unless it only says that the
field is missing, it is logged. -/
def isPresent (frame : Frame) (test : Expr) : Render Bool := do
  match ← Render.attempt (fieldOf settings frame test) with
  | .ok _ => return true
  | .error failure => do
    unless failure.isSoft do noteCondition settings test failure
    return false

/-- Load a template that is to be included. A fault of the store is a failure to load. -/
def load (identifier : String) : Render Template := fun session =>
  match session.store with
  | none =>
    Render.failWith (settings.reporter.loadFailure identifier "no template store configured")
      session
  | some store =>
    match Render.loadFrom settings.reporter settings.workspace store identifier session with
    | (.stopped (.fault fault), session) =>
      Render.failWith (settings.reporter.loadFailure identifier fault.headline) session
    | other => other

/-- Fail if templates may not be included any deeper. -/
def checkDepth (depth : Nat) : Render Unit :=
  match settings.limit with
  | none => pure ()
  | some limit =>
    if limit ≤ depth then Render.failWith (settings.reporter.depthFailure limit) else pure ()

/-- Include a template by name. -/
def inclusion (enter : Enter) (frame : Frame) (name : Expr) : Render String := do
  let identifier ← Render.under (Breadcrumb.inInclusionName name)
    (textAt settings frame (Breadcrumb.inclusionSubject name) name)
  Render.under (Breadcrumb.inInclusion name) do
    checkDepth settings frame.depth
    let template ← load settings identifier
    RenderLogger.note settings.log (.included identifier (frame.depth + 1))
    Render.underTold (frame.subject.identifier.map (Breadcrumb.framing template.origin))
      (enter { frame with origin := template.origin, depth := frame.depth + 1 }
        template.elements)

/-- A trimming mark, which no finished template holds. -/
def unresolvedMark (frame : Frame) : Render String :=
  Render.stop (settings.reporter.stop Code.trimInvariantViolation
    [(.text "origin", frame.origin)])

mutual

/-- Evaluate one element. -/
def element (enter : Enter) (frame : Frame) : Element → Render String
  | .chunk text => pure text
  | .dollar => pure "$"
  | .value expr => Render.under (Breadcrumb.inExpr expr)
      (textAt settings frame (Breadcrumb.exprSubject expr) expr)
  | .cond test whenPresent whenAbsent => do
    if ← isPresent settings frame test then elements enter frame whenPresent
    else optional enter frame whenAbsent
  | .loop source body separator => do
    let field ← Render.under (Breadcrumb.inLoopHead source) (fieldOf settings frame source)
    let frames ← framesOf settings frame source field
    Render.under (Breadcrumb.inLoop source) do
      let separator ← optional enter frame separator
      let frames ← Render.ofStop (frames.mapM id)
      let texts ← inEach (fun frame => elements enter frame body) frames
      return separator.intercalate texts
  | .inclusion name => inclusion settings enter frame name
  | .trimLeft => unresolvedMark settings frame
  | .trimRight => unresolvedMark settings frame
  | .foreign kind => Render.stop (settings.reporter.stop Code.internalError
      [(.text "detail", .text ("Unknown template element: " ++ kind))])

/-- Evaluate elements in order, to the texts of all of them in a row. -/
def elements (enter : Enter) (frame : Frame) : List Element → Render String
  | [] => pure ""
  | first :: rest => do
    let text ← element enter frame first
    return text ++ (← elements enter frame rest)

/-- Evaluate elements that may be absent, to no text if they are. -/
def optional (enter : Enter) (frame : Frame) : Option (List Element) → Render String
  | none => pure ""
  | some body => elements enter frame body

end

/-- Evaluate elements, with room for so many inclusions nested in each other. Only the inclusions
themselves are counted. -/
def within : Nat → Enter
  | 0 => elements settings fun _ _ => Render.stop (.misuse .endless)
  | room + 1 => elements settings (within room)

end

/-- Evaluate a template against a context and a subject, in the room that the session has for
inclusions. -/
def evaluate (settings : Settings) (template : Template) (context : Context) (subject : Value) :
    Render String := fun session =>
  within settings session.room ⟨context, subject, template.origin, 0⟩ template.elements session

end Inlay.Evaluator
