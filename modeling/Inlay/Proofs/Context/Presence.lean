import Inlay.Proofs.Context.Quiet

/-!
# Contexts that differ in one key

Two contexts may answer alike about a subject but for one key, of which they only agree on whether
there is a field. What they then find may differ, and so may the reasons for finding nothing. This
is so behind any context that stands before both of them (`SameBut.behind`).
-/

namespace Inlay.Context

/-- There is no field: the question is declined, for whatever reason, or it fails. The messages of a
failure are texts, as they should be; what else they say and its code do not matter. -/
def Absent : Outcome Field → Prop
  | .found _ => False
  | .notFound _ => True
  | .failed failure => failure.Told

/-- Two answers agree on whether there is a field. If none comes at all, it is for one reason. -/
inductive SamePresence : Except Stop (Outcome Field) → Except Stop (Outcome Field) → Prop where
  | same (answer : Except Stop (Outcome Field)) : SamePresence answer answer
  | found (field field' : Field) : SamePresence (.ok (.found field)) (.ok (.found field'))
  | absent {outcome outcome' : Outcome Field} (h : Absent outcome) (h' : Absent outcome') :
    SamePresence (.ok outcome) (.ok outcome')

/-- Asked about the subject, two contexts give the same answers but for one key, of which they agree
on whether there is a field. -/
structure SameBut (key : String) (subject : Value) (context context' : Context) : Prop where
  others : ∀ other args, other ≠ key →
    (context.lookup other args subject).answer = (context'.lookup other args subject).answer
  presence : ∀ args,
    SamePresence (context.lookup key args subject).answer (context'.lookup key args subject).answer

namespace SameBut

variable {key : String} {subject : Value} {context context' : Context}

theorem refl (key : String) (subject : Value) (context : Context) :
    SameBut key subject context context := ⟨fun _ _ _ => rfl, fun _ => .same _⟩

/-- A context that stands before both decides for both, or leaves the answer to them. -/
theorem behind (h : SameBut key subject context context') (first : Context) :
    SameBut key subject (chain [first, context]) (chain [first, context']) := by
  constructor
  · intro other args hother
    rw [answer_chain, answer_chain, h.others other args hother]
  · intro args
    rw [answer_chain, answer_chain]
    rcases (first.lookup key args subject).answer with reason | (field | messages | failure)
    · exact .same _
    · exact .same _
    · exact h.presence args
    · exact .same _

end SameBut

end Inlay.Context
