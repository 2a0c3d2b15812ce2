import Inlay.Proofs.Render.Steps

/-!
# Explained failures

A relation *explains* how a step fails if it holds between the session before, a reason and the
session after exactly where the step fails, and with what is reported for the reason. A step that is
put together from explained ones is explained by the relation that its parts give. So whatever a
template is made of is explained from its steps, and what remains is to compare the relation that
they give with the rules that are meant (`Explains.congr`).
-/

namespace Inlay.Render

variable {α β τ : Type}

/-- The failures of a step are those that are reported for what is related to the step. -/
def Explains (fails : Session → τ → Session → Prop) (report : τ → Failure) (step : Render α) :
    Prop :=
  ∀ session failure after, step session = (.failed failure, after) ↔
    ∃ reason, fails session reason after ∧ failure = report reason

namespace Explains

variable {fails : Session → τ → Session → Prop} {report : τ → Failure} {step : Render α}

/-- A relation that holds of the same explains the same. -/
theorem congr {fails' : Session → τ → Session → Prop} (h : Explains fails report step)
    (hiff : ∀ session reason after, fails session reason after ↔ fails' session reason after) :
    Explains fails' report step := by
  intro session failure after
  rw [h]
  constructor
  · rintro ⟨reason, hfails, rfl⟩
    exact ⟨reason, (hiff _ _ _).1 hfails, rfl⟩
  · rintro ⟨reason, hfails, rfl⟩
    exact ⟨reason, (hiff _ _ _).2 hfails, rfl⟩

/-- A step that never fails is explained by a relation that never holds. -/
theorem of_neverFails (h : NeverFails step)
    (hnone : ∀ session reason after, ¬ fails session reason after) :
    Explains fails report step := by
  intro session failure after
  constructor
  · intro hstep
    exact absurd hstep (h session failure after)
  · rintro ⟨reason, hfails, -⟩
    exact absurd hfails (hnone session reason after)

/-- A failure that is made for a reason is explained by it. -/
theorem failWith {made : Except Misuse Failure} {reason : τ} (hmade : made = .ok (report reason)) :
    Explains (fun session reason' after => reason' = reason ∧ after = session) report
      (failWith made : Render α) := by
  intro session failure after
  rw [failWith_eq_failed, hmade]
  constructor
  · rintro ⟨h, rfl⟩
    cases h
    exact ⟨reason, ⟨rfl, rfl⟩, rfl⟩
  · rintro ⟨_, ⟨rfl, rfl⟩, rfl⟩
    exact ⟨rfl, rfl⟩

/-- A chain of two steps fails where the first does, and where the second does behind a value of the
first. -/
theorem bind {next : α → Render β} {failsNext : α → Session → τ → Session → Prop}
    (h : Explains fails report step)
    (hnext : ∀ value, Explains (failsNext value) report (next value)) :
    Explains (fun session reason after => fails session reason after ∨
      ∃ value between, step session = (.value value, between) ∧
        failsNext value between reason after) report (step >>= next) := by
  intro session failure after
  rw [bind_eq_failed, h]
  constructor
  · rintro (⟨reason, hfails, rfl⟩ | ⟨value, between, hvalue, hfailed⟩)
    · exact ⟨reason, .inl hfails, rfl⟩
    · obtain ⟨reason, hfails, rfl⟩ := (hnext _ _ _ _).1 hfailed
      exact ⟨reason, .inr ⟨value, between, hvalue, hfails⟩, rfl⟩
  · rintro ⟨reason, hfails | ⟨value, between, hvalue, hfails⟩, rfl⟩
    · exact .inl ⟨reason, hfails, rfl⟩
    · exact .inr ⟨value, between, hvalue, (hnext _ _ _ _).2 ⟨reason, hfails, rfl⟩⟩

/-- Behind a step that never fails, only the second of two steps does. -/
theorem behind {next : α → Render β} {failsNext : α → Session → τ → Session → Prop}
    (h : NeverFails step) (hnext : ∀ value, Explains (failsNext value) report (next value)) :
    Explains (fun session reason after => ∃ value between, step session = (.value value, between) ∧
      failsNext value between reason after) report (step >>= next) := by
  have hstep : Explains (fun _ _ _ => False) report step := .of_neverFails h fun _ _ _ => id
  refine (hstep.bind hnext).congr fun session reason after => ?_
  rw [false_or]

/-- A step whose value is changed fails as it does. -/
theorem map (h : Explains fails report step) (change : α → β) :
    Explains fails report (step >>= fun value => pure (change value)) := by
  have hpure (value : α) : Explains (fun _ _ _ => False) report (Pure.pure (change value)) :=
    .of_neverFails (.pure _) fun _ _ _ => id
  refine (h.bind hpure).congr fun session reason after => ?_
  simp

/-- Below a breadcrumb, the same is reported with the breadcrumb before it. -/
theorem under (h : Explains fails report step) (breadcrumb : String) :
    Explains fails (fun reason => (report reason).below breadcrumb) (step.under breadcrumb) := by
  intro session failure after
  rw [under_eq_failed]
  constructor
  · rintro ⟨inner, hinner, rfl⟩
    obtain ⟨reason, hfails, rfl⟩ := (h _ _ _).1 hinner
    exact ⟨reason, hfails, rfl⟩
  · rintro ⟨reason, hfails, rfl⟩
    exact ⟨_, (h _ _ _).2 ⟨reason, hfails, rfl⟩, rfl⟩

/-- Reasons may be told as others for which the same is reported. -/
theorem relabel {σ : Type} {report' : σ → Failure} (h : Explains fails report step)
    (label : τ → σ) (hreport : ∀ reason, report' (label reason) = report reason) :
    Explains (fun session told after => ∃ reason, told = label reason ∧
      fails session reason after) report' step := by
  intro session failure after
  rw [h]
  constructor
  · rintro ⟨reason, hfails, rfl⟩
    exact ⟨_, ⟨reason, rfl, hfails⟩, (hreport reason).symm⟩
  · rintro ⟨_, ⟨reason, rfl, hfails⟩, rfl⟩
    exact ⟨reason, hfails, hreport reason⟩

end Explains

end Inlay.Render
