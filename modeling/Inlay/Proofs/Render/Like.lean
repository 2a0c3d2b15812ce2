import Inlay.Proofs.Render.Steps

/-!
# Like steps

Two steps of a render are *like* each other if from every session they lead to the same session, and
end alike: both with a value, the two values being in a given relation, or both with the same
failure, or both with the same reason to stop. What is put together from like steps is alike.
-/

namespace Inlay

variable {α β γ δ : Type}

/-- Two endings are the same but for their values, which are in the relation. -/
inductive Ending.Like (R : α → β → Prop) : Ending α → Ending β → Prop where
  | value {a : α} {b : β} (related : R a b) : Like R (.value a) (.value b)
  | failed (failure : Failure) : Like R (.failed failure) (.failed failure)
  | stopped (reason : Stop) : Like R (.stopped reason) (.stopped reason)

/-- Values of like endings are in every relation that follows from theirs. -/
theorem Ending.Like.mono {R S : α → β → Prop} {first : Ending α} {second : Ending β}
    (h : first.Like R second) (himp : ∀ a b, R a b → S a b) : first.Like S second := by
  cases h with
  | value related => exact .value (himp _ _ related)
  | failed failure => exact .failed failure
  | stopped reason => exact .stopped reason

namespace Render

/-- From every session, two steps lead to the same session and end alike. -/
def Like (R : α → β → Prop) (first : Render α) (second : Render β) : Prop :=
  ∀ session, (first session).1.Like R (second session).1 ∧ (first session).2 = (second session).2

namespace Like

variable {R : α → β → Prop} {S : γ → δ → Prop}

theorem refl (step : Render α) : Like Eq step step := by
  intro session
  refine ⟨?_, rfl⟩
  cases (step session).1 with
  | value a => exact .value rfl
  | failed failure => exact .failed failure
  | stopped reason => exact .stopped reason

theorem pure {a : α} {b : β} (h : R a b) : Like R (Pure.pure a : Render α) (Pure.pure b) :=
  fun _ => ⟨.value h, rfl⟩

/-- From every session, like steps both have a value, or both fail, or both stop. -/
theorem ends {first : Render α} {second : Render β} (h : Like R first second) (session : Session) :
    (∃ a b after, R a b ∧ first session = (.value a, after) ∧ second session = (.value b, after)) ∨
    (∃ failure after, first session = (.failed failure, after) ∧
      second session = (.failed failure, after)) ∨
    ∃ reason after, first session = (.stopped reason, after) ∧
      second session = (.stopped reason, after) := by
  obtain ⟨hending, hsession⟩ := h session
  generalize first session = ended, second session = ended' at hending hsession ⊢
  obtain ⟨ending, after⟩ := ended
  obtain ⟨ending', after'⟩ := ended'
  cases hsession
  cases hending with
  | value related => exact .inl ⟨_, _, after, related, rfl, rfl⟩
  | failed failure => exact .inr (.inl ⟨failure, after, rfl, rfl⟩)
  | stopped reason => exact .inr (.inr ⟨reason, after, rfl, rfl⟩)

/-- Like steps with like steps behind them are alike. -/
theorem bind {first : Render α} {second : Render β} {next : α → Render γ} {next' : β → Render δ}
    (h : Like R first second) (hnext : ∀ a b, R a b → Like S (next a) (next' b)) :
    Like S (first >>= next) (second >>= next') := by
  intro session
  obtain ⟨a, b, after, related, hfirst, hsecond⟩ | ⟨failure, after, hfirst, hsecond⟩ |
    ⟨reason, after, hfirst, hsecond⟩ := h.ends session
  · rw [bind_of_value hfirst, bind_of_value hsecond]
    exact hnext a b related after
  · rw [bind_of_failed hfirst, bind_of_failed hsecond]
    exact ⟨.failed failure, rfl⟩
  · rw [bind_of_stopped hfirst, bind_of_stopped hsecond]
    exact ⟨.stopped reason, rfl⟩

theorem mono {Q : α → β → Prop} {first : Render α} {second : Render β} (h : Like R first second)
    (himp : ∀ a b, R a b → Q a b) : Like Q first second :=
  fun session => ⟨(h session).1.mono himp, (h session).2⟩

/-- Only the second step goes on, from its value to another one. -/
theorem bind_right {Q : α → γ → Prop} {first : Render α} {second : Render β} {change : β → γ}
    (h : Like R first second) (hchange : ∀ a b, R a b → Q a (change b)) :
    Like Q first (second >>= fun b => Pure.pure (change b)) := by
  intro session
  obtain ⟨a, b, after, related, hfirst, hsecond⟩ | ⟨failure, after, hfirst, hsecond⟩ |
    ⟨reason, after, hfirst, hsecond⟩ := h.ends session
  · rw [hfirst, bind_of_value hsecond]
    exact ⟨.value (hchange a b related), rfl⟩
  · rw [hfirst, bind_of_failed hsecond]
    exact ⟨.failed failure, rfl⟩
  · rw [hfirst, bind_of_stopped hsecond]
    exact ⟨.stopped reason, rfl⟩

/-- Steps that begin with the same step are alike if they go on alike. -/
theorem bind_same (step : Render α) {next : α → Render γ} {next' : α → Render δ}
    (hnext : ∀ a, Like S (next a) (next' a)) : Like S (step >>= next) (step >>= next') := by
  refine (refl step).bind ?_
  rintro a _ rfl
  exact hnext a

theorem under {first : Render α} {second : Render β} (h : Like R first second)
    (breadcrumb : String) : Like R (first.under breadcrumb) (second.under breadcrumb) := by
  intro session
  obtain ⟨a, b, after, related, hfirst, hsecond⟩ | ⟨failure, after, hfirst, hsecond⟩ |
    ⟨reason, after, hfirst, hsecond⟩ := h.ends session
  · rw [under_of_value hfirst, under_of_value hsecond]
    exact ⟨.value related, rfl⟩
  · rw [under_of_failed hfirst, under_of_failed hsecond]
    exact ⟨.failed _, rfl⟩
  · rw [under_of_stopped hfirst, under_of_stopped hsecond]
    exact ⟨.stopped reason, rfl⟩

end Like

end Render

end Inlay
