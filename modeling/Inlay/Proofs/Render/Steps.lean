import Inlay.Render.Basic

/-!
# Steps and how they end

What a step that is put together from others does, told from how the first of these ends; and the
other way round, where its failure comes from. Some steps never fail.
-/

namespace Inlay.Render

variable {α β : Type} {step : Render α} {next : α → Render β} {session session' : Session}

/-- From a value, the next step goes on in the session that was left. -/
theorem bind_of_value {value : α} (h : step session = (.value value, session')) :
    (step >>= next) session = next value session' := by
  show Render.bind step next session = _
  rw [Render.bind, h]

theorem bind_of_failed {failure : Failure} (h : step session = (.failed failure, session')) :
    (step >>= next) session = (.failed failure, session') := by
  show Render.bind step next session = _
  rw [Render.bind, h]

theorem bind_of_stopped {reason : Stop} (h : step session = (.stopped reason, session')) :
    (step >>= next) session = (.stopped reason, session') := by
  show Render.bind step next session = _
  rw [Render.bind, h]

/-- A breadcrumb leaves a value alone. -/
theorem under_of_value {value : α} (h : step session = (.value value, session'))
    (breadcrumb : String) : step.under breadcrumb session = (.value value, session') := by
  rw [under, h]

theorem under_of_failed {failure : Failure} (h : step session = (.failed failure, session'))
    (breadcrumb : String) :
    step.under breadcrumb session = (.failed (failure.below breadcrumb), session') := by
  rw [under, h]

theorem under_of_stopped {reason : Stop} (h : step session = (.stopped reason, session'))
    (breadcrumb : String) : step.under breadcrumb session = (.stopped reason, session') := by
  rw [under, h]

/-- A breadcrumb over two steps is one over each of them. -/
theorem under_bind (breadcrumb : String) :
    (step >>= next).under breadcrumb
      = step.under breadcrumb >>= fun value => (next value).under breadcrumb := by
  funext session
  rcases hstep : step session with ⟨value | failure | reason, between⟩
  · rw [bind_of_value (under_of_value hstep breadcrumb), under, under, bind_of_value hstep]
  · rw [under_of_failed (bind_of_failed hstep), bind_of_failed (under_of_failed hstep breadcrumb)]
  · rw [under_of_stopped (bind_of_stopped hstep),
      bind_of_stopped (under_of_stopped hstep breadcrumb)]

/-- A breadcrumb that can be told is put before a failure like any other. -/
theorem underTold_ok (step : Render α) (breadcrumb : String) :
    step.underTold (.ok breadcrumb) = step.under breadcrumb := by
  funext session
  simp only [underTold, under]
  rcases step session with ⟨value | failure | reason, between⟩ <;> rfl

/-- What is made of a chain is made of its first step, and then of the second. -/
theorem attempt_bind (step : Render α) (next : α → Render β) :
    (step >>= next).attempt = step.attempt >>= fun result =>
      match result with
      | .ok value => (next value).attempt
      | .error failure => Pure.pure (.error failure) := by
  funext session
  show attempt (step >>= next) session = Render.bind step.attempt _ session
  rcases hstep : step session with ⟨value | failure | reason, between⟩
  · simp only [Render.attempt, Render.bind, bind_of_value hstep, hstep]
  · simp only [Render.attempt, Render.bind, bind_of_failed hstep, hstep]
    rfl
  · simp only [Render.attempt, Render.bind, bind_of_stopped hstep, hstep]

/-- Steps may be put together in any groups. -/
theorem bind_assoc {γ : Type} (step : Render α) (next : α → Render β) (last : β → Render γ) :
    (step >>= next >>= last) = step >>= fun a => next a >>= last := by
  funext session
  rcases hstep : step session with ⟨value | failure | reason, between⟩
  · rw [bind_of_value hstep]
    rcases hnext : next value between with ⟨value' | failure | reason, after⟩
    · rw [bind_of_value hnext, bind_of_value (bind_of_value hstep |>.trans hnext)]
    · rw [bind_of_failed hnext, bind_of_failed (bind_of_value hstep |>.trans hnext)]
    · rw [bind_of_stopped hnext, bind_of_stopped (bind_of_value hstep |>.trans hnext)]
  · rw [bind_of_failed hstep, bind_of_failed (bind_of_failed hstep)]
  · rw [bind_of_stopped hstep, bind_of_stopped (bind_of_stopped hstep)]

/-- A step that does nothing in front may be left out. -/
theorem pure_bind (value : α) (next : α → Render β) : (Pure.pure value >>= next) = next value := rfl

/-- Behind, it may be left out as well. -/
theorem bind_pure (step : Render α) : (step >>= fun value => Pure.pure value) = step := by
  funext session
  rcases hstep : step session with ⟨value | failure | reason, between⟩
  · rw [bind_of_value hstep]
    rfl
  · rw [bind_of_failed hstep]
  · rw [bind_of_stopped hstep]

/-- Two chains lead to the same if their first steps do, and then their second ones. -/
theorem bind_congr {step' : Render α} {next' : α → Render β} (h : step session = step' session)
    (hnext : ∀ value between, step session = (.value value, between) →
      next value between = next' value between) :
    (step >>= next) session = (step' >>= next') session := by
  rcases hstep : step session with ⟨value | failure | reason, between⟩
  · rw [bind_of_value hstep, bind_of_value (h ▸ hstep), hnext value between hstep]
  · rw [bind_of_failed hstep, bind_of_failed (h ▸ hstep)]
  · rw [bind_of_stopped hstep, bind_of_stopped (h ▸ hstep)]

/-- A breadcrumb sees of a step no more than how it ends. -/
theorem under_congr {step' : Render α} (h : step session = step' session')
    (breadcrumb : String) : step.under breadcrumb session = step'.under breadcrumb session' := by
  rw [under, under, h]

/-- So does one that may not be told. -/
theorem underTold_congr {step' : Render α} (h : step session = step' session')
    (breadcrumb : Except Misuse String) :
    step.underTold breadcrumb session = step'.underTold breadcrumb session' := by
  simp only [underTold, h]

/-! ## Where values and failures come from -/

theorem pure_ne_failed {value : α} {failure : Failure} :
    (Pure.pure value : Render α) session ≠ (.failed failure, session') := by
  show (Ending.value value, session) ≠ _
  simp

theorem stop_ne_failed {reason : Stop} {failure : Failure} :
    (stop reason : Render α) session ≠ (.failed failure, session') := by
  simp [stop]

/-- Of two steps, the first fails, or the second does behind a value of the first. -/
theorem bind_eq_failed {failure : Failure} :
    (step >>= next) session = (.failed failure, session') ↔
      step session = (.failed failure, session') ∨
      ∃ value between, step session = (.value value, between) ∧
        next value between = (.failed failure, session') := by
  rcases hstep : step session with ⟨value | inner | reason, between⟩
  · rw [bind_of_value hstep]
    constructor
    · intro h
      exact .inr ⟨value, between, rfl, h⟩
    · rintro (h | ⟨_, _, h, hnext⟩)
      · cases h
      · cases h
        exact hnext
  · rw [bind_of_failed hstep]
    simp
  · rw [bind_of_stopped hstep]
    simp

/-- Two steps come to a value if the first does, and the second behind it. -/
theorem bind_eq_value {value : β} :
    (step >>= next) session = (.value value, session') ↔
      ∃ first between, step session = (.value first, between) ∧
        next first between = (.value value, session') := by
  rcases hstep : step session with ⟨first | failure | reason, between⟩
  · rw [bind_of_value hstep]
    constructor
    · intro h
      exact ⟨first, between, rfl, h⟩
    · rintro ⟨_, _, h, hnext⟩
      cases h
      exact hnext
  · rw [bind_of_failed hstep]
    simp
  · rw [bind_of_stopped hstep]
    simp

/-- A failure below a breadcrumb is one of the step, with the breadcrumb before it. -/
theorem under_eq_failed {breadcrumb : String} {failure : Failure} :
    step.under breadcrumb session = (.failed failure, session') ↔
      ∃ inner, step session = (.failed inner, session') ∧ failure = inner.below breadcrumb := by
  rcases hstep : step session with ⟨value | inner | reason, between⟩
  · simp [under_of_value hstep]
  · rw [under_of_failed hstep]
    constructor
    · intro h
      cases h
      exact ⟨inner, rfl, rfl⟩
    · rintro ⟨_, h, rfl⟩
      cases h
      rfl
  · simp [under_of_stopped hstep]

/-- A step has the same values with a breadcrumb as without one. -/
theorem under_eq_value {breadcrumb : String} {value : α} :
    step.under breadcrumb session = (.value value, session') ↔
      step session = (.value value, session') := by
  rcases hstep : step session with ⟨value' | inner | reason, between⟩
  · rw [under_of_value hstep]
  · simp [under_of_failed hstep]
  · simp [under_of_stopped hstep]

/-- The failure that is raised is the one that was made. -/
theorem failWith_eq_failed {made : Except Misuse Failure} {failure : Failure} :
    (failWith made : Render α) session = (.failed failure, session') ↔
      made = .ok failure ∧ session' = session := by
  cases made with
  | error misuse => simp [failWith, ofExcept, Render.bind, stop]
  | ok inner =>
    show (Ending.failed inner, session) = _ ↔ _
    rw [Prod.mk.injEq, Ending.failed.injEq, Except.ok.injEq, eq_comm (a := session)]

/-- To raise a failure is never to have a value. -/
theorem failWith_ne_value {made : Except Misuse Failure} {value : α} :
    (failWith made : Render α) session ≠ (.value value, session') := by
  cases made with
  | error misuse =>
    show (Ending.stopped (.misuse misuse), session) ≠ _
    simp
  | ok inner =>
    show (Ending.failed inner, session) ≠ _
    simp

/-- A result is taken into a step as it is, and the session is left alone. -/
theorem ofStop_eq_value {result : Except Stop α} {value : α} :
    ofStop result session = (.value value, session') ↔ result = .ok value ∧ session' = session := by
  cases result with
  | error reason => simp [ofStop, stop]
  | ok found =>
    show (Ending.value found, session) = _ ↔ _
    simp [eq_comm]

/-! ## Steps that never fail -/

/-- The step has a value or stops. -/
def NeverFails (step : Render α) : Prop :=
  ∀ session failure session', step session ≠ (.failed failure, session')

namespace NeverFails

theorem pure (value : α) : NeverFails (Pure.pure value) := fun _ _ _ => pure_ne_failed

theorem stop (reason : Stop) : NeverFails (stop reason : Render α) := fun _ _ _ => stop_ne_failed

/-- Steps of which none fails make up one that never fails. -/
theorem bind (h : NeverFails step) (hnext : ∀ value, NeverFails (next value)) :
    NeverFails (step >>= next) := by
  intro session failure after hfailed
  rcases bind_eq_failed.1 hfailed with hstep | ⟨value, between, -, hvalue⟩
  · exact h session failure after hstep
  · exact hnext value between failure after hvalue

theorem ofExcept (result : Except Misuse α) : NeverFails (ofExcept result) := by
  cases result with
  | error misuse => exact stop _
  | ok value => exact pure value

theorem ofStop (result : Except Stop α) : NeverFails (ofStop result) := by
  cases result with
  | error reason => exact stop _
  | ok value => exact pure value

theorem under (h : NeverFails step) (breadcrumb : String) :
    NeverFails (step.under breadcrumb) := by
  intro session failure after hfailed
  obtain ⟨inner, hstep, -⟩ := under_eq_failed.1 hfailed
  exact h session inner after hstep

/-- Where a breadcrumb cannot be told, a failure becomes a stop. -/
theorem underTold_error (step : Render α) (misuse : Misuse) :
    NeverFails (step.underTold (.error misuse)) := by
  intro session failure after
  rcases hstep : step session with ⟨value | inner | reason, between⟩ <;> simp [underTold, hstep]

/-- A failure that is caught is none. -/
theorem attempt (step : Render α) : NeverFails (attempt step) := by
  intro session failure after
  rw [Render.attempt]
  rcases step session with ⟨value | inner | reason, between⟩ <;> simp

/-- To load from a store is to find a template or to stop; it is for the evaluation to make a
failure of that. -/
theorem loadFrom (reporter : Reporter) (workspace : File.Workspace) (store : Store)
    (identifier : String) : NeverFails (loadFrom reporter workspace store identifier) := by
  intro session failure after
  rw [Render.loadFrom]
  rcases store.load reporter workspace identifier with ⟨template | reason, lines, store⟩ <;> simp

/-- To log an event is no cause to fail. -/
theorem note (log : Option RenderLogger) (event : Log.RenderEvent) :
    NeverFails (RenderLogger.note log event) := by
  cases log with
  | none => exact pure ()
  | some log =>
    refine (ofExcept _).bind fun lines => ?_
    intro session failure after
    simp [addLines]

end NeverFails

end Inlay.Render
