import Inlay.Proofs.Render.Limit
import Inlay.Proofs.Render.Settled

/-!
# Room for inclusions

A run that has too little room for the inclusions that it comes to is stopped as endless. Nothing
else depends on the room: what has been evaluated in some room is evaluated to the same in all that
is larger (`within_of_le`). So an evaluation either asks for more room than any, or there is a room
from which on it ends in one way (`evaluate_endless_or_endsFrom`).
-/

namespace Inlay.Evaluator

open Template

variable {settings : Settings}

/-! ## More room -/

/-- To be stopped for want of room is to be cut short by this misuse alone. -/
theorem cutShort_iff_endless {α : Type} {ending : Ending α} :
    ending.CutShort (fun _ => False) (· = .endless) ↔ ending = .stopped (.misuse .endless) := by
  cases ending <;> simp [Ending.CutShort]

/-- A template that needs more room than there is stops its inclusion. -/
theorem inclusion_endless_of_enters {enter : Enter} {frame : Frame} {name : Expr}
    {session noted : Session} {identifier : String} {template : Template}
    (h : Enters settings frame name session identifier template noted)
    (hendless : (enter (frame.including template) template.elements noted).1
      = .stopped (.misuse .endless)) :
    (inclusion settings enter frame name session).1 = .stopped (.misuse .endless) := by
  rw [inclusion_of_enters h]
  rcases hentered : enter (frame.including template) template.elements noted with ⟨ending, after⟩
  rw [hentered] at hendless
  subst hendless
  have htold : Render.underTold (frame.subject.identifier.map (Breadcrumb.framing template.origin))
      (enter (frame.including template) template.elements) noted
        = (.stopped (.misuse .endless), after) := by
    simp only [Render.underTold, hentered]
  rw [Render.under_of_stopped htold]

/-- Elements that are not stopped for want of room are evaluated to the same where templates are
that are not stopped for it. -/
theorem elements_of_enough {enter enter' : Enter}
    (henter : ∀ frame body session, (enter frame body session).1 ≠ .stopped (.misuse .endless) →
      enter' frame body session = enter frame body session)
    (frame : Frame) (body : List Element) (session : Session)
    (hends : (elements settings enter frame body session).1 ≠ .stopped (.misuse .endless)) :
    elements settings enter' frame body session = elements settings enter frame body session := by
  -- the inclusions of templates that need more room, none of which is reached
  let isShort (frame : Frame) (name : Expr) (session : Session) : Prop :=
    ∃ identifier template noted, Enters settings frame name session identifier template noted ∧
      (enter (frame.including template) template.elements noted).1 = .stopped (.misuse .endless)
  have hagree : InclusionsAgree settings settings enter enter' isShort frame.depth := by
    intro inner name between _ hnot
    refine inclusion_congr ⟨rfl, rfl, rfl⟩ (fun _ _ _ => rfl) fun identifier template noted h => ?_
    refine (henter _ _ noted fun hendless => hnot ?_).symm
    exact ⟨identifier, template, noted, h, hendless⟩
  refine (elements_congr ⟨rfl, rfl, rfl⟩ hagree body frame rfl session fun hreach => ?_).symm
  refine hends (cutShort_iff_endless.1 (elements_cutShort ?_ body frame session hreach))
  rintro inner name between ⟨identifier, template, noted, henters, hendless⟩
  exact cutShort_iff_endless.2 (inclusion_endless_of_enters henters hendless)

/-- Room for one more inclusion changes nothing for elements that had enough of it. -/
theorem within_succ (room : Nat) : ∀ frame body session,
    (within settings room frame body session).1 ≠ .stopped (.misuse .endless) →
    within settings (room + 1) frame body session = within settings room frame body session := by
  induction room with
  | zero => exact elements_of_enough fun _ _ _ hends => absurd rfl hends
  | succ room ih => exact elements_of_enough ih

/-- Nor does any greater room. -/
theorem within_of_le {room more : Nat} (hle : room ≤ more) {frame : Frame} {body : List Element}
    {session : Session}
    (hends : (within settings room frame body session).1 ≠ .stopped (.misuse .endless)) :
    within settings more frame body session = within settings room frame body session := by
  obtain ⟨further, rfl⟩ := Nat.exists_eq_add_of_le hle
  induction further with
  | zero => rfl
  | succ further ih =>
    have hsame := ih (Nat.le_add_right room further)
    rw [← Nat.add_assoc, within_succ _ frame body session (by rwa [hsame]), hsame]

/-! ## Evaluations in every room -/

/-- An evaluation, told for every room, has so much room enough to end in this way. In less room it
ends in the same way, or it is stopped for want of room. -/
def EndsFrom (ended : Nat → Ending String) (enough : Nat) (ending : Ending String) : Prop :=
  ∀ room, ended room = ending ∨ room < enough ∧ ended room = .stopped (.misuse .endless)

/-- How the evaluation of a template ends in a session that has so much room. -/
def endedIn (settings : Settings) (template : Template) (context : Context) (subject : Value)
    (session : Session) (room : Nat) : Ending String :=
  (evaluate settings template context subject { session with room }).1

section

variable {template : Template} {context : Context} {subject : Value} {session : Session}

/-- The room of a session shows in nothing but how deep inclusions may be nested. -/
theorem endedIn_eq (room : Nat) :
    endedIn settings template context subject session room
      = (within settings room ⟨context, subject, template.origin, 0⟩ template.elements
          session).1 :=
  (within_settled (serves_self settings session) room _ _ { session with room }
    (serves_self settings session)).1

/-- A room that is enough for an evaluation is so with all that is larger. -/
theorem endsFrom_of_ne {room : Nat}
    (hends : endedIn settings template context subject session room
      ≠ .stopped (.misuse .endless)) :
    EndsFrom (endedIn settings template context subject session) room
      (endedIn settings template context subject session room) := by
  have hmore : ∀ {room more : Nat}, room ≤ more →
      endedIn settings template context subject session room ≠ .stopped (.misuse .endless) →
      endedIn settings template context subject session more
        = endedIn settings template context subject session room := by
    intro room more hle hends
    rw [endedIn_eq] at hends
    rw [endedIn_eq, endedIn_eq, within_of_le hle hends]
  intro other
  by_cases hother : endedIn settings template context subject session other
      = .stopped (.misuse .endless)
  · rcases Nat.lt_or_ge other room with hless | hle
    · exact .inr ⟨hless, hother⟩
    · exact .inl (hmore hle hends)
  · rcases Nat.le_total room other with hle | hle
    · exact .inl (hmore hle hends)
    · exact .inl (hmore hle hother).symm

/-- An evaluation is stopped for want of room in every room, or from some room on it ends in one
way. -/
theorem evaluate_endless_or_endsFrom (settings : Settings) (template : Template)
    (context : Context) (subject : Value) (session : Session) :
    (∀ room, endedIn settings template context subject session room
      = .stopped (.misuse .endless)) ∨
    ∃ enough ending, ending ≠ .stopped (.misuse .endless) ∧
      EndsFrom (endedIn settings template context subject session) enough ending := by
  by_cases hendless : ∀ room, endedIn settings template context subject session room
      = .stopped (.misuse .endless)
  · exact .inl hendless
  · obtain ⟨room, hroom⟩ := not_forall.1 hendless
    exact .inr ⟨room, _, hroom, endsFrom_of_ne hroom⟩

end

end Inlay.Evaluator
