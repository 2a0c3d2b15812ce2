import Inlay.Proofs.Context.Presence

/-!
# Contexts whose failures can be told

A context is *told* if the messages of every failure that it answers with are texts, and the
contexts of the lists that it finds are told themselves. Unlike a quiet one it may stop, and it may
be asked about anything.
-/

namespace Inlay

/-- Every failure of the context, and of all contexts that it makes, has messages that can be
told. -/
inductive Context.Told : Context → Prop where
  | intro {context : Context}
    (failures : ∀ key args subject failure,
      (context.lookup key args subject).answer = .ok (.failed failure) → failure.Told)
    (inside : ∀ key args subject inner items,
      (context.lookup key args subject).answer = .ok (.found (.items inner items)) → inner.Told)
    (members : ∀ key args subject members,
      (context.lookup key args subject).answer = .ok (.found (.values members)) →
      ∀ member ∈ members, ∀ inner, member.2 = .ok inner → inner.Told) :
    Context.Told context

/-- The contexts of a list are told. -/
def Field.Told : Field → Prop
  | .present => True
  | .text _ => True
  | .items context _ => context.Told
  | .values members => ∀ member ∈ members, ∀ inner, member.2 = .ok inner → inner.Told

/-- What is found is told, and so is a failure. -/
def Outcome.Told : Outcome Field → Prop
  | .found field => field.Told
  | .notFound _ => True
  | .failed failure => failure.Told

namespace Context

/-- Whatever a context that tells its failures answers can be told. -/
theorem Told.answer {context : Context} (h : context.Told) {key : String} {args : List String}
    {subject : Value} {outcome : Outcome Field}
    (hanswer : (context.lookup key args subject).answer = .ok outcome) : outcome.Told := by
  obtain ⟨failures, inside, members⟩ := h
  cases outcome with
  | notFound messages => trivial
  | failed failure => exact failures key args subject failure hanswer
  | found field =>
    cases field with
    | present | text => trivial
    | items inner items => exact inside key args subject inner items hanswer
    | values values => exact members key args subject values hanswer

/-- A context is told if its outcomes are. -/
theorem Told.of_answer {context : Context} (h : ∀ key args subject outcome,
    (context.lookup key args subject).answer = .ok outcome → outcome.Told) : context.Told :=
  .intro (fun key args subject failure hanswer => h key args subject (.failed failure) hanswer)
    (fun key args subject inner items hanswer =>
      h key args subject (.found (.items inner items)) hanswer)
    fun key args subject members hanswer => h key args subject (.found (.values members)) hanswer

/-- A context before another one is told if both are. -/
theorem Told.chain {first second : Context} (h : first.Told) (h' : second.Told) :
    (Context.chain [first, second]).Told := by
  refine .of_answer fun key args subject outcome hanswer => ?_
  rw [answer_chain] at hanswer
  split at hanswer
  · exact h'.answer hanswer
  · exact h.answer hanswer

/-- That a key is missing can be told. -/
theorem missing_told (reporter : Reporter) : (Context.missing reporter).Told := by
  refine .of_answer fun key args subject outcome hanswer => ?_
  simp only [Context.missing, Context.lookup, Context.single, Context.providers,
    Context.ask] at hanswer
  cases hmessage : reporter.message Code.fieldNotFound [(.text "key", .text key)] with
  | error misuse =>
    rw [hmessage] at hanswer
    cases hanswer
  | ok message =>
    rw [hmessage] at hanswer
    cases hanswer
    exact fun message hmessage => ⟨_, List.mem_singleton.1 hmessage⟩

end Context

end Inlay
