import Inlay.Proofs.Render.Simulation
import Inlay.Proofs.Store.Serving

/-!
# Steps whose ends are settled

A step is *settled* if it ends in one and the same way from all sessions of a kind, and leaves such
a session. A chain of settled steps is settled, and how it ends can be told from how its steps end,
without the sessions between them.

What elements come to is settled among the sessions that serve the same templates, whatever has been
asked, loaded and logged before (`Evaluator.within_settled`).
-/

namespace Inlay

/-! ## Ends -/

namespace Ending

variable {α β : Type}

/-- Go on from a value. -/
def bind (ending : Ending α) (next : α → Ending β) : Ending β :=
  match ending with
  | .value found => next found
  | .failed failure => .failed failure
  | .stopped reason => .stopped reason

instance : Monad Ending where
  pure := .value
  bind := Ending.bind

theorem value_bind (value : α) (next : α → Ending β) : (.value value >>= next) = next value := rfl

theorem failed_bind (failure : Failure) (next : α → Ending β) :
    (.failed failure >>= next) = .failed failure := rfl

theorem stopped_bind (reason : Stop) (next : α → Ending β) :
    (.stopped reason >>= next) = .stopped reason := rfl

instance : LawfulMonad Ending := LawfulMonad.mk' Ending
  (fun ending => by cases ending <;> rfl) (fun _ _ => rfl)
  (fun ending _ _ => by cases ending <;> rfl)

/-- A result, or a reason to stop. -/
def ofStop : Except Stop α → Ending α
  | .ok found => .value found
  | .error reason => .stopped reason

/-- Put a breadcrumb before a failure. -/
def below (breadcrumb : String) : Ending α → Ending α
  | .value found => .value found
  | .failed failure => .failed (failure.below breadcrumb)
  | .stopped reason => .stopped reason

/-- A value is the end with this value. -/
theorem pure_eq_value {value found : α} :
    (pure value : Ending α) = .value found ↔ value = found := by
  show Ending.value value = _ ↔ _
  rw [Ending.value.injEq]

/-- Two steps end with a value if the first one has a value from which the second one leads there.
-/
theorem bind_eq_value {ending : Ending α} {next : α → Ending β} {value : β} :
    (ending >>= next) = .value value ↔
      ∃ first, ending = .value first ∧ next first = .value value := by
  cases ending with
  | value first => simp [value_bind]
  | failed failure => simp [failed_bind]
  | stopped reason => simp [stopped_bind]

/-- A breadcrumb makes no difference to values. -/
theorem below_eq_value {breadcrumb : String} {ending : Ending α} {value : α} :
    ending.below breadcrumb = .value value ↔ ending = .value value := by
  cases ending <;> simp [below]

/-- A result ends with its own value. -/
theorem ofStop_eq_value {result : Except Stop α} {value : α} :
    ofStop result = .value value ↔ result = .ok value := by
  cases result <;> simp [ofStop]

end Ending

/-! ## Settled steps -/

namespace Render

variable {α β : Type} {kind : Session → Prop} {ending : Ending α} {step : Render α}

/-- From every session of the kind, the step ends in this way, and leaves such a session. -/
def Settled (kind : Session → Prop) (ending : Ending α) (step : Render α) : Prop :=
  ∀ session, kind session → (step session).1 = ending ∧ kind (step session).2

/-- Both of the sessions are of the kind. -/
def Both (kind : Session → Prop) (session session' : Session) : Prop := kind session ∧ kind session'

namespace Settled

theorem pure (value : α) : Settled kind (.value value) (Pure.pure value : Render α) :=
  fun _ hkind => ⟨rfl, hkind⟩

theorem ofStop (result : Except Stop α) :
    Settled kind (.ofStop result) (Render.ofStop result) := by
  cases result with
  | ok value => exact fun _ hkind => ⟨rfl, hkind⟩
  | error reason => exact fun _ hkind => ⟨rfl, hkind⟩

/-- Settled steps behind each other are settled, if the second is for each value the first one ends
with. -/
theorem bind (h : Settled kind ending step) {next : α → Render β} {after : α → Ending β}
    (hnext : ∀ value, ending = .value value → Settled kind (after value) (next value)) :
    Settled kind (ending >>= after) (step >>= next) := by
  intro session hkind
  obtain ⟨hending, hbetween⟩ := h session hkind
  rcases hstep : step session with ⟨value | failure | reason, between⟩
  · rw [hstep] at hending hbetween
    rw [bind_of_value hstep, ← hending]
    exact hnext value hending.symm between hbetween
  · rw [hstep] at hending hbetween
    rw [bind_of_failed hstep, ← hending]
    exact ⟨rfl, hbetween⟩
  · rw [hstep] at hending hbetween
    rw [bind_of_stopped hstep, ← hending]
    exact ⟨rfl, hbetween⟩

theorem under (h : Settled kind ending step) (breadcrumb : String) :
    Settled kind (ending.below breadcrumb) (step.under breadcrumb) := by
  intro session hkind
  obtain ⟨hending, hafter⟩ := h session hkind
  rcases hstep : step session with ⟨value | failure | reason, after⟩
  · rw [hstep] at hending hafter
    rw [under_of_value hstep, ← hending]
    exact ⟨rfl, hafter⟩
  · rw [hstep] at hending hafter
    rw [under_of_failed hstep, ← hending]
    exact ⟨rfl, hafter⟩
  · rw [hstep] at hending hafter
    rw [under_of_stopped hstep, ← hending]
    exact ⟨rfl, hafter⟩

/-- A step that is like itself from any two sessions of the kind is settled. -/
theorem of_matches (h : Matches (Both kind) Eq Eq step step) {session : Session}
    (hkind : kind session) : Settled kind (step session).1 step := by
  intro session' hkind'
  have hstep := h session session' ⟨hkind, hkind'⟩
  generalize step session = ended, step session' = ended' at hstep
  cases hstep with
  | value related sessions => exact ⟨related ▸ rfl, sessions.2⟩
  | failed related sessions => exact ⟨related ▸ rfl, sessions.2⟩
  | stopped reason sessions => exact ⟨rfl, sessions.2⟩

end Settled

end Render

/-! ## Sessions that serve the same -/

/-- The session has a store that serves the same as another one, or neither is there. -/
def Session.Serves (settings : Evaluator.Settings) (store : Option Store) (session : Session) :
    Prop :=
  Option.Rel (Store.Serves settings.reporter settings.workspace) store session.store

namespace Evaluator

open Template
open Render (Agree Both Settled)

variable {settings : Settings} {store : Option Store}

/-- A store serves what it serves. -/
theorem serves_self (settings : Settings) (session : Session) :
    session.Serves settings session.store := by
  unfold Session.Serves
  cases session.store with
  | none => exact .none
  | some store => exact .some fun _ => rfl

/-- A load keeps what is served, and comes to the same wherever the same is served. -/
theorem load_agree_of_serves (identifier : String) :
    Agree (Both (Session.Serves settings store)) Eq (load settings identifier)
      (load settings identifier) := by
  intro session session' hboth
  -- what a load leaves in a cache does not change what is served
  have hkept : ∀ {served held : Store}, served.Serves settings.reporter settings.workspace held →
      ∀ (start : Session) (lines : List Log.Line), Session.Serves settings (some served)
        { start with
          store := some (held.load settings.reporter settings.workspace identifier).2.2
          lines } :=
    fun h start lines =>
      .some fun other => (Store.load_serves _ _ _ identifier other).trans (h other)
  have ⟨hserves, hserves'⟩ := hboth
  simp only [Session.Serves] at hserves hserves'
  generalize hstore : session.store = held, hstore' : session'.store = held' at hserves hserves'
  cases hserves with
  | none =>
    cases hserves'
    unfold load
    rw [hstore, hstore']
    exact Agree.failWith _ session session' hboth
  | some hserved =>
    cases hserves' with
    | some hserved' =>
      rw [load_of_store hstore, load_of_store hstore']
      dsimp only
      rw [hserved identifier, hserved' identifier]
      exact given_agree identifier _ _ _ ⟨hkept hserved session _, hkept hserved' session' _⟩

/-- Where the same is served, evaluations run side by side. -/
theorem simulation_of_serves (settings : Settings) (store : Option Store) :
    Simulation settings settings (Both (Session.Serves settings store)) Eq Eq (fun _ => True)
      (fun _ => True) fun _ => True :=
  .of_sessions (fun h _ => h) (fun h _ => h) load_agree_of_serves

section

variable {session : Session}

/-- What an expression stands for is settled by what the session serves. -/
theorem fieldOf_settled (hserves : session.Serves settings store) (frame : Frame) (expr : Expr) :
    Settled (Session.Serves settings store) (fieldOf settings frame expr session).1
      (fieldOf settings frame expr) :=
  .of_matches (((simulation_of_serves settings store).fieldOf ⟨rfl, rfl, rfl, rfl⟩ expr
    trivial).matches .eq) hserves

/-- So is what elements come to. -/
theorem within_settled (hserves : session.Serves settings store) (room : Nat) (frame : Frame)
    (body : List Element) :
    Settled (Session.Serves settings store) (within settings room frame body session).1
      (within settings room frame body) :=
  .of_matches ((simulation_of_serves settings store).within room
    (Element.allOnly_of_forall (fun _ => trivial) (fun _ => trivial) body) ⟨rfl, rfl, rfl, rfl⟩)
    hserves

end

end Evaluator

end Inlay
