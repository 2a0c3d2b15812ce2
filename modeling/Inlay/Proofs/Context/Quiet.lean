import Inlay.Proofs.Context.Lookup

/-!
# Contexts that answer

A context is *quiet* if every question about a document is answered with an outcome, and nothing
that comes of it later is anything else: the messages of failures are texts, lists of items hold
documents, every value of a list makes a context, and the contexts of lists are quiet themselves. So
a context is quiet if all outcomes of its answers are (`Quiet.of_answer`).
-/

namespace Inlay

/-- The messages of the failure are texts, so that they can be told. -/
def Failure.Told (failure : Failure) : Prop :=
  ∀ message ∈ failure.messages, ∃ text, message = .text text

/-- A breadcrumb is a text, so a failure that can be told can be told with it. -/
theorem Failure.Told.below {failure : Failure} (h : failure.Told) (breadcrumb : String) :
    (failure.below breadcrumb).Told := by
  intro message hmessage
  rcases List.mem_cons.1 hmessage with rfl | hinner
  · exact ⟨breadcrumb, rfl⟩
  · exact h message hinner

/-- The messages of such a failure are texts. -/
theorem Failure.Told.exists_map_text {failure : Failure} (h : failure.Told) :
    ∃ texts : List String, failure.messages = texts.map .text := by
  obtain ⟨messages, code⟩ := failure
  induction messages with
  | nil => exact ⟨[], rfl⟩
  | cons message rest ih =>
    obtain ⟨text, rfl⟩ := h message List.mem_cons_self
    obtain ⟨texts, hrest⟩ := ih fun other hother => h other (List.mem_cons_of_mem _ hother)
    dsimp only at hrest
    exact ⟨text :: texts, by rw [List.map_cons, hrest]⟩

/-- So they can be written on a trail. -/
theorem Failure.Told.texts {failure : Failure} (h : failure.Told) :
    ∃ texts, Value.texts failure.messages = .ok texts := by
  obtain ⟨texts, htexts⟩ := h.exists_map_text
  exact ⟨texts, by rw [htexts, Value.texts_map_text]⟩

/-- Every question about a document is answered, by the context and by all contexts that it makes.
-/
inductive Context.Quiet : Context → Prop where
  | intro {context : Context}
    (answered : ∀ key args (item : Item), ∃ outcome,
      (context.lookup key args item.asValue).answer = .ok outcome)
    (told : ∀ key args (item : Item) failure,
      (context.lookup key args item.asValue).answer = .ok (.failed failure) → failure.Told)
    (documents : ∀ key args (item : Item) inner items,
      (context.lookup key args item.asValue).answer = .ok (.found (.items inner items)) →
      ∀ subject ∈ items, ∃ document : Item, subject = document.asValue)
    (inside : ∀ key args (item : Item) inner items,
      (context.lookup key args item.asValue).answer = .ok (.found (.items inner items)) →
      inner.Quiet)
    (made : ∀ key args (item : Item) members,
      (context.lookup key args item.asValue).answer = .ok (.found (.values members)) →
      ∀ member ∈ members, ∃ inner, member.2 = .ok inner)
    (members : ∀ key args (item : Item) members,
      (context.lookup key args item.asValue).answer = .ok (.found (.values members)) →
      ∀ member ∈ members, ∀ inner, member.2 = .ok inner → inner.Quiet) :
    Context.Quiet context

/-- What a field holds can be gone through and asked about without more than outcomes. -/
def Field.Quiet : Field → Prop
  | .present => True
  | .text _ => True
  | .items context subjects =>
    context.Quiet ∧ ∀ subject ∈ subjects, ∃ document : Item, subject = document.asValue
  | .values members => ∀ member ∈ members, ∃ inner, member.2 = .ok inner ∧ inner.Quiet

/-- The outcome is a field that is quiet, or can be told. -/
def Outcome.Quiet : Outcome Field → Prop
  | .found field => field.Quiet
  | .notFound _ => True
  | .failed failure => failure.Told

namespace Context

/-- A context is quiet if its outcomes are. -/
theorem Quiet.of_answer {context : Context} (h : ∀ key args (item : Item), ∃ outcome,
    (context.lookup key args item.asValue).answer = .ok outcome ∧ outcome.Quiet) :
    context.Quiet := by
  have hquiet : ∀ key args (item : Item) outcome,
      (context.lookup key args item.asValue).answer = .ok outcome → outcome.Quiet := by
    intro key args item outcome houtcome
    obtain ⟨outcome', houtcome', hquiet⟩ := h key args item
    rw [houtcome] at houtcome'
    cases houtcome'
    exact hquiet
  refine .intro (fun key args item => ?_) ?_ ?_ ?_ ?_ ?_
  · obtain ⟨outcome, houtcome, -⟩ := h key args item
    exact ⟨outcome, houtcome⟩
  · intro key args item failure houtcome
    exact hquiet key args item _ houtcome
  · intro key args item inner items houtcome
    exact (hquiet key args item _ houtcome).2
  · intro key args item inner items houtcome
    exact (hquiet key args item _ houtcome).1
  · intro key args item members houtcome member hmember
    obtain ⟨inner, hinner, -⟩ := hquiet key args item _ houtcome member hmember
    exact ⟨inner, hinner⟩
  · intro key args item members houtcome member hmember inner hinner
    obtain ⟨inner', hinner', hmade⟩ := hquiet key args item _ houtcome member hmember
    rw [hinner] at hinner'
    cases hinner'
    exact hmade

end Context

end Inlay
