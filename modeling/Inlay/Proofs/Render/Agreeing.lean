import Mathlib.Data.List.Forall2
import Inlay.Proofs.Render.Steps

/-!
# Steps that agree

Two steps *agree* if from sessions that are in a given relation they end in the same way: with
values that are in a given relation, with the same failure, or with the same reason to stop; and if
the sessions that they leave are in the relation again. What the sessions need not share may be
different, such as what has been asked and logged. What is put together from agreeing steps agrees.
-/

namespace Inlay

/-! ## Results that are alike -/

section

variable {ε α β : Type} {R : α → β → Prop}

/-- Two results are in the relation, or they are the same error. -/
inductive Except.Alike (R : α → β → Prop) : Except ε α → Except ε β → Prop where
  | ok {a : α} {b : β} (related : R a b) : Alike R (.ok a) (.ok b)
  | error (reason : ε) : Alike R (.error reason) (.error reason)

/-- Members that are alike one by one are put together to lists that are. -/
theorem Except.Alike.mapM {members : List (Except ε α)} {members' : List (Except ε β)}
    (h : List.Forall₂ (Except.Alike R) members members') :
    Except.Alike (List.Forall₂ R) (members.mapM id) (members'.mapM id) := by
  induction h with
  | nil => exact .ok .nil
  | @cons first first' rest rest' hfirst _ ih =>
    rw [List.mapM_cons, List.mapM_cons]
    cases hfirst with
    | error reason => exact .error reason
    | ok related =>
      generalize rest.mapM id = others, rest'.mapM id = others' at ih
      cases ih with
      | error reason => exact .error reason
      | ok relatedRest => exact .ok (.cons related relatedRest)

end

/-! ## Steps -/

namespace Render

variable {α β γ δ : Type} {S : Session → Session → Prop}

/-- Two steps have ended in the same way, and left sessions that are in the relation. -/
inductive AgreeAt (S : Session → Session → Prop) (R : α → β → Prop) :
    Ending α × Session → Ending β × Session → Prop where
  | value {a : α} {b : β} {after after' : Session} (related : R a b) (sessions : S after after') :
    AgreeAt S R (.value a, after) (.value b, after')
  | failed (failure : Failure) {after after' : Session} (sessions : S after after') :
    AgreeAt S R (.failed failure, after) (.failed failure, after')
  | stopped (reason : Stop) {after after' : Session} (sessions : S after after') :
    AgreeAt S R (.stopped reason, after) (.stopped reason, after')

/-- From sessions in the relation, two steps end in the same way and leave such sessions. -/
def Agree (S : Session → Session → Prop) (R : α → β → Prop) (first : Render α)
    (second : Render β) : Prop :=
  ∀ session session', S session session' → AgreeAt S R (first session) (second session')

namespace Agree

variable {R : α → β → Prop} {T : γ → δ → Prop} {first : Render α} {second : Render β}

theorem pure {a : α} {b : β} (h : R a b) :
    Agree S R (Pure.pure a : Render α) (Pure.pure b) :=
  fun _ _ sessions => .value h sessions

theorem stop (reason : Stop) : Agree S R (Render.stop reason) (Render.stop reason) :=
  fun _ _ sessions => .stopped reason sessions

/-- Results that are alike make steps that agree. -/
theorem ofStop {result : Except Stop α} {result' : Except Stop β}
    (h : Except.Alike R result result') :
    Agree S R (Render.ofStop result) (Render.ofStop result') := by
  cases h with
  | ok related => exact pure related
  | error reason => exact stop reason

/-- The same failure, if it can be made, is raised from any session. -/
theorem failWith (made : Except Misuse Failure) :
    Agree S R (Render.failWith made) (Render.failWith made) := by
  intro session session' sessions
  cases made with
  | ok failure => exact .failed failure sessions
  | error misuse => exact .stopped _ sessions

/-- Agreeing steps with agreeing steps behind them agree. -/
theorem bind {next : α → Render γ} {next' : β → Render δ} (h : Agree S R first second)
    (hnext : ∀ a b, R a b → Agree S T (next a) (next' b)) :
    Agree S T (first >>= next) (second >>= next') := by
  intro session session' sessions
  have hstep := h session session' sessions
  generalize hfirst : first session = ended, hsecond : second session' = ended' at hstep
  cases hstep with
  | value related sessions =>
    rw [bind_of_value hfirst, bind_of_value hsecond]
    exact hnext _ _ related _ _ sessions
  | failed failure sessions =>
    rw [bind_of_failed hfirst, bind_of_failed hsecond]
    exact .failed failure sessions
  | stopped reason sessions =>
    rw [bind_of_stopped hfirst, bind_of_stopped hsecond]
    exact .stopped reason sessions

theorem mono {Q : α → β → Prop} (h : Agree S R first second) (himp : ∀ a b, R a b → Q a b) :
    Agree S Q first second := by
  intro session session' sessions
  have hstep := h session session' sessions
  generalize first session = ended, second session' = ended' at hstep
  cases hstep with
  | value related sessions => exact .value (himp _ _ related) sessions
  | failed failure sessions => exact .failed failure sessions
  | stopped reason sessions => exact .stopped reason sessions

/-- Steps that have the same values go on from one of them. -/
theorem bind_eq {first second : Render α} {next : α → Render γ} {next' : α → Render δ}
    (h : Agree S Eq first second) (hnext : ∀ a, Agree S T (next a) (next' a)) :
    Agree S T (first >>= next) (second >>= next') := by
  refine h.bind ?_
  rintro a _ rfl
  exact hnext a

theorem under (h : Agree S R first second) (breadcrumb : String) :
    Agree S R (first.under breadcrumb) (second.under breadcrumb) := by
  intro session session' sessions
  have hstep := h session session' sessions
  generalize hfirst : first session = ended, hsecond : second session' = ended' at hstep
  cases hstep with
  | value related sessions =>
    rw [under_of_value hfirst, under_of_value hsecond]
    exact .value related sessions
  | failed failure sessions =>
    rw [under_of_failed hfirst, under_of_failed hsecond]
    exact .failed _ sessions
  | stopped reason sessions =>
    rw [under_of_stopped hfirst, under_of_stopped hsecond]
    exact .stopped reason sessions

/-- Where failures are caught, the same one is caught on both sides. -/
theorem attempt {first second : Render α} (h : Agree S Eq first second) :
    Agree S Eq first.attempt second.attempt := by
  intro session session' sessions
  have hstep := h session session' sessions
  unfold Render.attempt
  generalize first session = ended, second session' = ended' at hstep
  cases hstep with
  | value related sessions => exact .value (congrArg _ related) sessions
  | failed failure sessions => exact .value rfl sessions
  | stopped reason sessions => exact .stopped reason sessions

theorem ofExcept (result : Except Misuse α) :
    Agree S Eq (Render.ofExcept result) (Render.ofExcept result) := by
  cases result with
  | ok value => exact pure rfl
  | error misuse => exact stop _

end Agree

end Render

end Inlay
