import Inlay.Proofs.Context.Quiet
import Inlay.Proofs.Render.Failing
import Inlay.Proofs.Render.Steps

/-!
# What happens in the course of an evaluation

On its way, an evaluation tests conditions and includes templates. `happenings` tells of each of
them, in the order in which the evaluation comes to them, whatever the evaluation ends in and
whether or not there is a logger: what becomes of the field of each condition that is tested, and
the name, the template and the depth of each inclusion. It looks at nothing but how the steps of the
evaluation end.
-/

namespace Inlay

open Log

/-- What an evaluation comes to on its way. -/
inductive Happening where
  /-- A condition is tested, whose field is found or cannot be had. -/
  | tested (test : Template.Expr) (result : Except Failure Field)
  /-- A template is included by its name, at a depth. -/
  | included (identifier : String) (template : Template) (depth : Nat)

namespace Happening

/-- The event that is logged of it: that a condition failed, unless it only says that a field is
missing, with the whole of the trail; and every inclusion. -/
def event? : Happening → Option RenderEvent
  | .tested _ (.ok _) => none
  | .tested test (.error failure) =>
    if failure.isSoft then none
    else (Value.texts failure.messages).toOption.map (.conditionError test.source)
  | .included identifier _ depth => some (.included identifier depth)

/-- Failures of conditions can be told, unless they only say that a field is missing; and what is
included is a template of the store, below another one. -/
def Sound (store : MemoryStore) : Happening → Prop
  | .tested _ result =>
    ∀ failure, result = .error failure → failure.isSoft = true ∨ failure.Told
  | .included identifier template depth => 1 ≤ depth ∧ store.find? identifier = some template

end Happening

/-- What happens in the course of a step, by the session that the step begins with. -/
abbrev Course := Session → List Happening

namespace Course

variable {α : Type}

/-- Nothing happens. -/
def still : Course := fun _ => []

/-- What happens behind a step, if that comes to a value. -/
def behind (step : Render α) (next : α → Course) : Course := fun session =>
  match step session with
  | (.value value, between) => next value between
  | _ => []

/-- What happens in a step, and then what happens behind it. -/
def followed (course : Course) (step : Render α) (next : α → Course) : Course := fun session =>
  course session ++ behind step next session

/-- A breadcrumb takes no part in what happens behind a step. -/
theorem behind_under (step : Render α) (breadcrumb : String) (next : α → Course) :
    behind (step.under breadcrumb) next = behind step next := by
  funext session
  rw [behind, behind]
  rcases hstep : step session with ⟨value | failure | reason, between⟩
  · rw [Render.under_of_value hstep]
  · rw [Render.under_of_failed hstep]
  · rw [Render.under_of_stopped hstep]

end Course

namespace Evaluator

open Template Course

/-- What happens in the elements of a template that is included. -/
abbrev EnterCourse := Frame → List Element → Course

section

variable (settings : Settings)

/-- A condition is tested. -/
def conditionCourse (frame : Frame) (test : Expr) : Course :=
  behind (Render.attempt (fieldOf settings frame test)) fun result _ => [.tested test result]

/-- What happens in each of the frames, in order. -/
def eachCourse (step : Frame → Render String) (course : Frame → Course) : List Frame → Course
  | [] => still
  | frame :: rest => followed (course frame) (step frame) fun _ => eachCourse step course rest

/-- A template is included once it has been found and the depth allows for it; then comes what
happens in it. -/
def inclusionCourse (course : EnterCourse) (frame : Frame) (name : Expr) : Course :=
  behind (textAt settings frame (Breadcrumb.inclusionSubject name) name) fun identifier =>
  behind (checkDepth settings frame.depth) fun _ =>
  behind (load settings identifier) fun template =>
  followed (fun _ => [.included identifier template (frame.depth + 1)])
    (RenderLogger.note settings.log (.included identifier (frame.depth + 1)))
    fun _ => course (frame.including template) template.elements

mutual

/-- What happens in an element. -/
def elementCourse (enter : Enter) (course : EnterCourse) (frame : Frame) : Element → Course
  | .chunk _ => still
  | .dollar => still
  | .value _ => still
  | .cond test whenPresent whenAbsent =>
    followed (conditionCourse settings frame test) (isPresent settings frame test) fun present =>
      if present then elementsCourse enter course frame whenPresent
      else optionalCourse enter course frame whenAbsent
  | .loop source body separator =>
    behind (fieldOf settings frame source) fun field =>
    behind (framesOf settings frame source field) fun members =>
    -- the separator is evaluated once, whether or not there is anything to put it between
    followed (optionalCourse enter course frame separator)
      (optional settings enter frame separator) fun _ =>
    behind (Render.ofStop (members.mapM id)) fun frames =>
    eachCourse (fun frame => elements settings enter frame body)
      (fun frame => elementsCourse enter course frame body) frames
  | .inclusion name => inclusionCourse settings course frame name
  | .trimLeft => still
  | .trimRight => still
  | .foreign _ => still

/-- What happens in elements, in order. -/
def elementsCourse (enter : Enter) (course : EnterCourse) (frame : Frame) : List Element → Course
  | [] => still
  | first :: rest =>
    followed (elementCourse enter course frame first) (element settings enter frame first) fun _ =>
      elementsCourse enter course frame rest

/-- What happens in elements that may be absent. -/
def optionalCourse (enter : Enter) (course : EnterCourse) (frame : Frame) :
    Option (List Element) → Course
  | none => still
  | some body => elementsCourse enter course frame body

end

/-- What happens in elements, with room for so many inclusions nested in each other. -/
def withinCourse : Nat → EnterCourse
  | 0 => elementsCourse settings (fun _ _ => Render.stop (.misuse .endless)) fun _ _ => still
  | room + 1 => elementsCourse settings (within settings room) (withinCourse room)

end

/-- What happens in the course of the evaluation of a template. -/
def happenings (settings : Settings) (template : Template) (context : Context) (subject : Value) :
    Course := fun session =>
  withinCourse settings session.room ⟨context, subject, template.origin, 0⟩ template.elements
    session

end Evaluator

end Inlay
