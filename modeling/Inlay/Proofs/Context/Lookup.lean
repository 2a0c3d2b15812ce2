import Inlay.Context.Fields
import Inlay.Proofs.Fault.Messages

/-!
# Looking up keys

A row of providers is asked from front to back, so two rows one behind the other answer as the first
one does, unless it declines (`ask_append`). Behind every context that a template is evaluated
against stands the provider that reports a key as missing (`lookup_chain_missing`).
-/

namespace Inlay

namespace Reply

variable {α β γ : Type}

/-- A reply at once adds nothing to the record. -/
theorem pure_bind (a : α) (next : α → Reply β) : (Pure.pure a >>= next) = next a := by
  show Reply.bind (Reply.pure a) next = next a
  simp [Reply.bind, Reply.pure]

/-- Questions may be asked one after the other in any groups. -/
theorem bind_assoc (reply : Reply α) (next : α → Reply β) (last : β → Reply γ) :
    (reply >>= next >>= last) = reply >>= fun a => next a >>= last := by
  show Reply.bind (Reply.bind reply next) last = Reply.bind reply fun a => Reply.bind (next a) last
  obtain ⟨calls, answer⟩ := reply
  cases answer with
  | error reason => simp [Reply.bind]
  | ok a =>
    simp only [Reply.bind]
    cases (next a).answer <;> simp [List.append_assoc]

end Reply

namespace Context

/-- Two rows of providers one behind the other. -/
theorem ask_append (first second : List Provider) (key : String) (args : List String)
    (subject : Value) :
    ask (first ++ second) key args subject = ask first key args subject >>= fun outcome =>
      match outcome with
      | .notFound _ => ask second key args subject
      | outcome => pure outcome := by
  induction first with
  | nil =>
    rw [List.nil_append, ask, Reply.pure_bind]
  | cons provider rest ih =>
    rw [List.cons_append, ask, ask, Reply.bind_assoc, ih]
    congr 1
    funext outcome
    cases outcome with
    | notFound messages => rfl
    | found field | failed failure => rw [Reply.pure_bind]

/-- The second of two contexts is asked where the first one declines. -/
theorem lookup_chain (first second : Context) (key : String) (args : List String)
    (subject : Value) :
    (chain [first, second]).lookup key args subject
      = first.lookup key args subject >>= fun outcome =>
        match outcome with
        | .notFound _ => second.lookup key args subject
        | outcome => pure outcome := by
  have hproviders : (chain [first, second]).providers = first.providers ++ second.providers := by
    simp [chain, providers]
  rw [lookup, hproviders, ask_append]
  rfl

/-- What two contexts one behind the other answer is told by what each of them answers. -/
theorem answer_chain (first second : Context) (key : String) (args : List String)
    (subject : Value) :
    ((chain [first, second]).lookup key args subject).answer
      = match (first.lookup key args subject).answer with
        | .ok (.notFound _) => (second.lookup key args subject).answer
        | answer => answer := by
  rw [lookup_chain]
  generalize first.lookup key args subject = reply
  obtain ⟨calls, reason | (field | messages | failure)⟩ := reply <;> rfl

/-- The answer to a question about a key that must be there. -/
theorem lookup_chain_missing {reporter : Reporter} (h : reporter.registry = .builtin)
    (context : Context) (key : String) (args : List String) (subject : Value) :
    (chain [context, missing reporter]).lookup key args subject
      = context.lookup key args subject >>= fun outcome =>
        match outcome with
        | .notFound _ => pure (.failed
            ⟨[.text ("Missing field '" ++ key ++ "' in context")], Code.fieldNotFound⟩)
        | outcome => pure outcome := by
  rw [lookup_chain]
  congr 1
  funext outcome
  cases outcome with
  | found field | failed failure => rfl
  | notFound messages =>
    have hmessage := Reporter.message_fieldNotFound h key
    simp only [lookup, missing, single, providers, ask, hmessage]
    rfl

end Context

end Inlay
