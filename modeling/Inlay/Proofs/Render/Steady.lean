import Inlay.Proofs.Render.Simulation

/-!
# Evaluations look at no clock

A step is *steady* if neither the clock nor the log has a part in how it ends: from sessions that
differ in these alone it ends in the same way, and it leaves sessions that again differ in these
alone, with the clocks as they were. Questions, loads and the log keep to this, and so the
evaluation of a template is steady (`evaluate_steady`).
-/

namespace Inlay

/-- Two sessions that differ in nothing but in what was logged and in their clocks. -/
structure Session.Apart (clock clock' : List Binary64) (session session' : Session) : Prop where
  store : session'.store = session.store
  room : session'.room = session.room
  calls : session'.calls = session.calls
  clock : session.clock = clock
  clock' : session'.clock = clock'

/-- Neither the clock nor the log has a part in how the step ends, and the clock is not read. -/
def Render.Steady {α : Type} (step : Render α) : Prop :=
  ∀ clock clock', Agree (Session.Apart clock clock') Eq step step

namespace Evaluator

open Template
open Render (Agree Steady)

variable {settings : Settings} {clock clock' : List Binary64}

/-- A context is asked without a look at the clock. -/
theorem askable_apart : Askable (Session.Apart clock clock') :=
  fun h _ => ⟨h.store, h.room, by rw [h.calls], h.clock, h.clock'⟩

/-- Logs may be different from the start on. -/
theorem loggable_apart : Loggable (Session.Apart clock clock') :=
  fun h _ => ⟨h.store, h.room, h.calls, h.clock, h.clock'⟩

/-- A template is loaded from the store alone. -/
theorem load_apart (identifier : String) :
    Agree (Session.Apart clock clock') Eq
      (load settings identifier) (load settings identifier) := by
  intro session session' apart
  cases hstore : session.store with
  | none =>
    unfold load
    rw [apart.store, hstore]
    exact Agree.failWith _ session session' apart
  | some store =>
    rw [load_of_store hstore, load_of_store (apart.store.trans hstore)]
    exact given_agree identifier _ _ _ ⟨rfl, apart.room, apart.calls, apart.clock, apart.clock'⟩

/-- Neither the clock nor the log has a part in the evaluation of a template. -/
theorem evaluate_steady (settings : Settings) (template : Template) (context : Context)
    (subject : Value) : Steady (evaluate settings template context subject) := by
  intro clock clock' session session' apart
  have hbody := Element.allOnly_of_forall (fun _ => trivial) (fun _ => trivial) template.elements
  unfold evaluate
  rw [apart.room]
  have hsimulation : Simulation settings settings (Session.Apart clock clock') Eq Eq (fun _ => True)
      (fun _ => True) fun _ => True := .of_sessions askable_apart loggable_apart load_apart
  exact (hsimulation.within session.room hbody ⟨rfl, rfl, rfl, rfl⟩).agree session session' apart

end Evaluator

end Inlay
