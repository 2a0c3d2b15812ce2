import Inlay.Proofs.Context.Quiet

/-!
# Contexts that stop for known reasons

A context is *orderly* with respect to some reasons to stop if its questions about documents are
answered with outcomes or stop for one of them, and so does all that comes of it later: the messages
of failures are texts, lists of items hold documents, nothing else keeps the contexts of a list from
being made, and they are orderly themselves. A quiet context never stops, so it is orderly whatever
the reasons are (`Quiet.orderly`).
-/

namespace Inlay

/-- What the context answers about a document, and all contexts that it makes, is an outcome that
can be gone on from, or stops for a reason that may be `raised`. -/
inductive Context.Orderly (raised : Stop → Prop) : Context → Prop where
  | intro {context : Context}
    (stopped : ∀ key args (item : Item) reason,
      (context.lookup key args item.asValue).answer = .error reason → raised reason)
    (told : ∀ key args (item : Item) failure,
      (context.lookup key args item.asValue).answer = .ok (.failed failure) → failure.Told)
    (documents : ∀ key args (item : Item) inner items,
      (context.lookup key args item.asValue).answer = .ok (.found (.items inner items)) →
      ∀ subject ∈ items, ∃ document : Item, subject = document.asValue)
    (inside : ∀ key args (item : Item) inner items,
      (context.lookup key args item.asValue).answer = .ok (.found (.items inner items)) →
      inner.Orderly raised)
    (made : ∀ key args (item : Item) members,
      (context.lookup key args item.asValue).answer = .ok (.found (.values members)) →
      ∀ member ∈ members, ∀ reason, member.2 = .error reason → raised reason)
    (members : ∀ key args (item : Item) members,
      (context.lookup key args item.asValue).answer = .ok (.found (.values members)) →
      ∀ member ∈ members, ∀ inner, member.2 = .ok inner → inner.Orderly raised) :
    Context.Orderly raised context

/-- What a field holds can be gone through and asked about, or stops for a known reason. -/
def Field.Orderly (raised : Stop → Prop) : Field → Prop
  | .present => True
  | .text _ => True
  | .items context subjects =>
    context.Orderly raised ∧ ∀ subject ∈ subjects, ∃ document : Item, subject = document.asValue
  | .values members => ∀ member ∈ members, (∀ reason, member.2 = .error reason → raised reason) ∧
      ∀ inner, member.2 = .ok inner → inner.Orderly raised

/-- An answer to a question: a field that is orderly, nothing, a failure that can be told, or a
known reason to stop. -/
def OrderlyAnswer (raised : Stop → Prop) : Except Stop (Outcome Field) → Prop
  | .error reason => raised reason
  | .ok (.found field) => field.Orderly raised
  | .ok (.notFound _) => True
  | .ok (.failed failure) => failure.Told

namespace Context

variable {raised : Stop → Prop} {context first second : Context}

/-- An orderly context answers every question about a document in order, or stops for a known
reason. -/
theorem Orderly.answer (h : context.Orderly raised) (key : String) (args : List String)
    (item : Item) : OrderlyAnswer raised (context.lookup key args item.asValue).answer := by
  obtain ⟨stopped, told, documents, inside, made, members⟩ := h
  cases hanswer : (context.lookup key args item.asValue).answer with
  | error reason => exact stopped key args item reason hanswer
  | ok outcome =>
    cases outcome with
    | notFound messages => trivial
    | failed failure => exact told key args item failure hanswer
    | found field =>
      cases field with
      | present | text => trivial
      | items inner items =>
        exact ⟨inside key args item inner items hanswer,
          documents key args item inner items hanswer⟩
      | values values =>
        exact fun member hmember => ⟨made key args item values hanswer member hmember,
          members key args item values hanswer member hmember⟩

/-- A context is orderly if its answers are. -/
theorem Orderly.of_answer (h : ∀ key args (item : Item),
    OrderlyAnswer raised (context.lookup key args item.asValue).answer) :
    context.Orderly raised := by
  have horderly : ∀ key args (item : Item) answer,
      (context.lookup key args item.asValue).answer = answer → OrderlyAnswer raised answer := by
    rintro key args item _ rfl
    exact h key args item
  refine .intro ?_ ?_ ?_ ?_ ?_ ?_
  · intro key args item reason hanswer
    exact horderly key args item _ hanswer
  · intro key args item failure hanswer
    exact horderly key args item _ hanswer
  · intro key args item inner items hanswer
    exact (horderly key args item _ hanswer).2
  · intro key args item inner items hanswer
    exact (horderly key args item _ hanswer).1
  · intro key args item members hanswer member hmember
    exact (horderly key args item _ hanswer member hmember).1
  · intro key args item members hanswer member hmember
    exact (horderly key args item _ hanswer member hmember).2

/-- A context before another one is orderly if both are. -/
theorem Orderly.chain (h : first.Orderly raised) (h' : second.Orderly raised) :
    (Context.chain [first, second]).Orderly raised := by
  refine .of_answer fun key args item => ?_
  have hfirst := h.answer key args item
  rw [answer_chain]
  split
  · exact h'.answer key args item
  · exact hfirst

/-- A context that answers every question is orderly. -/
theorem Quiet.orderly (h : context.Quiet) : context.Orderly raised := by
  -- the contexts that a quiet one makes are those that its proof is made of
  induction h with
  | intro answered told documents inside made members ihInside ihMembers =>
    refine .intro ?_ told documents ihInside ?_ ihMembers
    · intro key args item reason hstopped
      obtain ⟨outcome, houtcome⟩ := answered key args item
      rw [hstopped] at houtcome
      cases houtcome
    · intro key args item members hfound member hmember reason hreason
      obtain ⟨inner, hinner⟩ := made key args item members hfound member hmember
      rw [hreason] at hinner
      cases hinner

end Context

end Inlay
