import Inlay.Proofs.Log.Lines
import Inlay.Proofs.Render.Steps

/-!
# Steps that follow each other

Two sessions are alike here if they have the same templates in memory and differ in their logs at
most. A *blind* step cannot tell such sessions apart. A second step *follows* a first one if from
alike sessions it has the same value, or fails with the same code, and the sessions stay alike; but
where the first one fails for the depth of an inclusion, or stops, the second may end in any way.
-/

namespace Inlay

/-- Two sessions have the same templates in memory, and differ in nothing but their logs. -/
structure Session.Alike (store : MemoryStore) (session session' : Session) : Prop where
  held : session.store = some (.memory store)
  same : session' = { session with lines := session'.lines }

namespace Session.Alike

variable {store : MemoryStore} {session session' : Session}

theorem refl (h : session.store = some (.memory store)) : session.Alike store session := ⟨h, rfl⟩

theorem held' (h : session.Alike store session') : session'.store = some (.memory store) := by
  rw [h.same]
  exact h.held

theorem calls_eq (h : session.Alike store session') : session'.calls = session.calls := by
  rw [h.same]

/-- Alike sessions stay alike, whatever else is asked and logged. -/
theorem extend (h : session.Alike store session') (calls : List Call)
    (lines lines' : List Log.Line) :
    ({ session with calls := session.calls ++ calls, lines } : Session).Alike store
      { session' with calls := session'.calls ++ calls, lines := lines' } := by
  refine ⟨h.held, ?_⟩
  rw [h.same]

end Session.Alike

namespace Render

variable {α β : Type} {store : MemoryStore}

/-! ## Blind steps -/

/-- The step ends the same way from alike sessions, and leaves alike sessions. -/
def Blind (store : MemoryStore) (step : Render α) : Prop :=
  ∀ session session', session.Alike store session' →
    (step session).1 = (step session').1 ∧ (step session).2.Alike store (step session').2

namespace Blind

variable {step : Render α} {next : α → Render β}

theorem pure (value : α) : Blind store (Pure.pure value : Render α) :=
  fun _ _ halike => ⟨rfl, halike⟩

theorem fail (failure : Failure) : Blind store (fail failure : Render α) :=
  fun _ _ halike => ⟨rfl, halike⟩

theorem stop (reason : Stop) : Blind store (stop reason : Render α) :=
  fun _ _ halike => ⟨rfl, halike⟩

/-- Blind steps with blind steps behind them are blind. -/
theorem bind (h : Blind store step) (hnext : ∀ value, Blind store (next value)) :
    Blind store (step >>= next) := by
  intro session session' halike
  obtain ⟨hending, hafter⟩ := h session session' halike
  rcases hstep : step session with ⟨value | failure | reason, between⟩ <;>
    rcases hstep' : step session' with ⟨ending', between'⟩ <;>
    rw [hstep, hstep'] at hending hafter <;> cases hending
  · rw [bind_of_value hstep, bind_of_value hstep']
    exact hnext value between between' hafter
  · rw [bind_of_failed hstep, bind_of_failed hstep']
    exact ⟨rfl, hafter⟩
  · rw [bind_of_stopped hstep, bind_of_stopped hstep']
    exact ⟨rfl, hafter⟩

theorem under (h : Blind store step) (breadcrumb : String) :
    Blind store (step.under breadcrumb) := by
  intro session session' halike
  obtain ⟨hending, hafter⟩ := h session session' halike
  rcases hstep : step session with ⟨value | failure | reason, between⟩ <;>
    rcases hstep' : step session' with ⟨ending', between'⟩ <;>
    rw [hstep, hstep'] at hending hafter <;> cases hending
  all_goals simpa only [Render.under, hstep, hstep', true_and] using hafter

theorem attempt (h : Blind store step) : Blind store step.attempt := by
  intro session session' halike
  obtain ⟨hending, hafter⟩ := h session session' halike
  rcases hstep : step session with ⟨value | failure | reason, between⟩ <;>
    rcases hstep' : step session' with ⟨ending', between'⟩ <;>
    rw [hstep, hstep'] at hending hafter <;> cases hending
  all_goals simpa only [Render.attempt, hstep, hstep', true_and] using hafter

theorem ofExcept (result : Except Misuse α) : Blind store (ofExcept result) := by
  cases result with
  | ok value => exact pure value
  | error misuse => exact stop _

theorem failWith (made : Except Misuse Failure) : Blind store (failWith made : Render α) :=
  (ofExcept made).bind fail

/-- What is logged makes alike sessions differ in nothing but their logs. -/
theorem addLines (lines : List Log.Line) : Blind store (addLines lines) := by
  intro session session' halike
  refine ⟨rfl, halike.held, ?_⟩
  rw [halike.same]
  rfl

/-- A context is asked the same, whatever has been logged. -/
theorem ask (context : Context) (key : String) (args : List String) (subject : Value) :
    Blind store (ask context key args subject) := by
  intro session session' halike
  unfold Render.ask
  have hafter := halike.extend (context.lookup key args subject).calls session.lines session'.lines
  rcases hanswer : (context.lookup key args subject).answer with
    reason | (field | messages | failure)
  all_goals simpa only [hanswer, true_and] using hafter

/-- An event is logged, or not, by the settings alone. -/
theorem note (log : Option RenderLogger) (event : Log.RenderEvent) :
    Blind store (RenderLogger.note log event) := by
  cases log with
  | none => exact pure ()
  | some log => exact (ofExcept _).bind fun lines => addLines lines

end Blind

/-! ## Following a step -/

/-- The ending of the second step follows that of the first. -/
inductive FollowsAt (store : MemoryStore) (R : α → β → Prop) :
    Ending α × Session → Ending β × Session → Prop where
  | value {a : α} {b : β} {after after' : Session} (related : R a b)
    (hafter : after.Alike store after') : FollowsAt store R (.value a, after) (.value b, after')
  | failed {failure failure' : Failure} {after after' : Session}
    (hcode : failure'.code = failure.code) (hafter : after.Alike store after') :
    FollowsAt store R (.failed failure, after) (.failed failure', after')
  | tooDeep {failure : Failure} {after : Session} {other : Ending β × Session}
    (hdeep : failure.code = Code.includeDepthExceeded) :
    FollowsAt store R (.failed failure, after) other
  | stopped {reason : Stop} {after : Session} {other : Ending β × Session} :
    FollowsAt store R (.stopped reason, after) other

/-- From alike sessions, the second step has a value that is related to that of the first one, or
fails with the code of its failure; unless the first one fails for the depth of an inclusion, or
stops. -/
def Follows (store : MemoryStore) (R : α → β → Prop) (first : Render α) (second : Render β) :
    Prop :=
  ∀ session session', session.Alike store session' →
    FollowsAt store R (first session) (second session')

/-- A blind step follows itself. -/
theorem Blind.follows {step : Render α} (h : Blind store step) : Follows store Eq step step := by
  intro session session' halike
  obtain ⟨hending, hafter⟩ := h session session' halike
  rcases hstep : step session with ⟨value | failure | reason, after⟩ <;>
    rcases hstep' : step session' with ⟨ending', after'⟩ <;>
    rw [hstep, hstep'] at hending hafter <;> cases hending
  · exact .value rfl hafter
  · exact .failed rfl hafter
  · exact .stopped

namespace Follows

variable {γ δ : Type} {R : α → β → Prop} {S : γ → δ → Prop} {first : Render α} {second : Render β}

theorem pure {a : α} {b : β} (h : R a b) :
    Follows store R (Pure.pure a : Render α) (Pure.pure b) := fun _ _ halike => .value h halike

theorem stop (reason : Stop) : Follows store R (Render.stop reason) second :=
  fun _ _ _ => .stopped

/-- What is logged on both sides need not be the same. -/
theorem addLines (lines lines' : List Log.Line) :
    Follows store Eq (Render.addLines lines) (Render.addLines lines') := by
  intro session session' halike
  refine .value rfl ⟨halike.held, ?_⟩
  rw [halike.same]

theorem failWith (made : Except Misuse Failure) :
    Follows store R (Render.failWith made : Render α) (Render.failWith made : Render β) := by
  intro session session' halike
  cases made with
  | ok failure => exact .failed rfl halike
  | error misuse => exact .stopped

/-- What is put together from steps that follow each other does so. -/
theorem bind {next : α → Render γ} {next' : β → Render δ} (h : Follows store R first second)
    (hnext : ∀ a b, R a b → Follows store S (next a) (next' b)) :
    Follows store S (first >>= next) (second >>= next') := by
  intro session session' halike
  have hstep := h session session' halike
  generalize hfirst : first session = ended, hsecond : second session' = ended' at hstep
  cases hstep with
  | value related hafter =>
    rw [bind_of_value hfirst, bind_of_value hsecond]
    exact hnext _ _ related _ _ hafter
  | failed hcode hafter =>
    rw [bind_of_failed hfirst, bind_of_failed hsecond]
    exact .failed hcode hafter
  | tooDeep hdeep =>
    rw [bind_of_failed hfirst]
    exact .tooDeep hdeep
  | stopped =>
    rw [bind_of_stopped hfirst]
    exact .stopped

/-- Breadcrumbs leave the code of a failure as it is, so they need not be the same. -/
theorem under (h : Follows store R first second) (breadcrumb breadcrumb' : String) :
    Follows store R (first.under breadcrumb) (second.under breadcrumb') := by
  intro session session' halike
  have hstep := h session session' halike
  generalize hfirst : first session = ended, hsecond : second session' = ended' at hstep
  cases hstep with
  | value related hafter =>
    rw [under_of_value hfirst, under_of_value hsecond]
    exact .value related hafter
  | failed hcode hafter =>
    rw [under_of_failed hfirst, under_of_failed hsecond]
    exact .failed hcode hafter
  | tooDeep hdeep =>
    rw [under_of_failed hfirst]
    exact .tooDeep hdeep
  | stopped =>
    rw [under_of_stopped hfirst]
    exact .stopped

/-- Only the first step may have a breadcrumb. -/
theorem under_left (h : Follows store R first second) (breadcrumb : String) :
    Follows store R (first.under breadcrumb) second := by
  intro session session' halike
  have hstep := h session session' halike
  generalize hfirst : first session = ended, hsecond : second session' = ended' at hstep
  cases hstep with
  | value related hafter =>
    rw [under_of_value hfirst]
    exact .value related hafter
  | failed hcode hafter =>
    rw [under_of_failed hfirst]
    exact .failed hcode hafter
  | tooDeep hdeep =>
    rw [under_of_failed hfirst]
    exact .tooDeep hdeep
  | stopped =>
    rw [under_of_stopped hfirst]
    exact .stopped

/-- Where a breadcrumb cannot be told, nothing but a value comes through. -/
theorem underTold_error (h : ∀ session session' a after, session.Alike store session' →
      first session = (.value a, after) → FollowsAt store R (.value a, after) (second session'))
    (misuse : Misuse) : Follows store R (first.underTold (.error misuse)) second := by
  intro session session' halike
  rcases hfirst : first session with ⟨value | failure | reason, after⟩ <;>
    simp only [Render.underTold, hfirst]
  · exact h session session' value after halike hfirst
  · exact .stopped
  · exact .stopped

/-- A breadcrumb on the first side alone changes no code, and where it cannot be told the first step
stops. -/
theorem underTold_left (h : Follows store R first second) (breadcrumb : Except Misuse String) :
    Follows store R (first.underTold breadcrumb) second := by
  cases breadcrumb with
  | ok breadcrumb =>
    rw [underTold_ok]
    exact h.under_left breadcrumb
  | error misuse =>
    refine underTold_error (fun session session' a after halike hfirst => ?_) misuse
    exact hfirst ▸ h session session' halike

/-- Breadcrumbs on both sides change no code either. -/
theorem underTold (h : Follows store R first second) (breadcrumb : Except Misuse String) :
    Follows store R (first.underTold breadcrumb) (second.underTold breadcrumb) := by
  cases breadcrumb with
  | ok breadcrumb =>
    rw [underTold_ok, underTold_ok]
    exact h.under breadcrumb breadcrumb
  | error misuse =>
    refine underTold_error (fun session session' a after halike hfirst => ?_) misuse
    have hstep := h session session' halike
    rw [hfirst] at hstep
    generalize hsecond : second session' = ended' at hstep
    cases hstep with
    | value related hafter =>
      simp only [Render.underTold, hsecond]
      exact .value related hafter

end Follows

end Render

end Inlay
