import Inlay.Proofs.Context.Callbacks
import Inlay.Render.Evaluate

/-!
# Contexts in a row

A context is asked by asking its providers one after the other. `Reply.firstOf` says what comes of
replies in a row: the answer of the first that does not decline, and the record of all until then,
each of them once. A row of contexts is asked in the same way (`lookup_chain_eq`), whether it is
taken context by context or provider by provider, so it makes no difference in which groups contexts
are put together (`Grouping.context_eq`). Behind the context of an evaluation stands a provider that
never declines, and so an evaluation is never left without an answer (`ended_not_declines`).
-/

namespace Inlay

namespace Reply

/-- The question is declined, with whatever messages. -/
def declines (reply : Reply (Outcome Field)) : Bool :=
  match reply.answer with
  | .ok (.notFound _) => true
  | _ => false

/-- A reply declines if it says that nothing was found. -/
theorem declines_iff {reply : Reply (Outcome Field)} :
    reply.declines = true ↔ ∃ messages, reply.answer = .ok (.notFound messages) := by
  obtain ⟨calls, reason | (field | messages | failure)⟩ := reply <;> simp [declines]

/-- What comes of replies in a row: the answer of the first that does not decline, and the record
of those up to it. If all decline, nothing is known, and there are no messages. -/
def firstOf (replies : List (Reply (Outcome Field))) : Reply (Outcome Field) where
  calls := (replies.take (replies.findIdx (!·.declines) + 1)).flatMap Reply.calls
  answer :=
    match replies.find? (!·.declines) with
    | some reply => reply.answer
    | none => .ok (.notFound [])

section

variable {reply : Reply (Outcome Field)} (rest : List (Reply (Outcome Field)))

/-- A reply that declines leaves its calls on the record, and the answer to the others. -/
theorem firstOf_cons_of_declines (h : reply.declines = true) :
    firstOf (reply :: rest) = ⟨reply.calls ++ (firstOf rest).calls, (firstOf rest).answer⟩ := by
  simp [firstOf, List.findIdx_cons, h]

/-- What stands behind a reply that does not decline plays no part. -/
theorem firstOf_cons_of_not_declines (h : reply.declines = false) :
    firstOf (reply :: rest) = reply := by
  simp [firstOf, List.findIdx_cons, h]

/-- Replies in a row are gone through from front to back. -/
theorem firstOf_cons : firstOf (reply :: rest) = reply >>= Context.behind (firstOf rest) := by
  obtain ⟨calls, reason | (field | messages | failure)⟩ := reply
  · exact firstOf_cons_of_not_declines rest rfl
  · rw [firstOf_cons_of_not_declines rest rfl]
    exact congrArg (Reply.mk · _) (List.append_nil calls).symm
  · exact firstOf_cons_of_declines rest rfl
  · rw [firstOf_cons_of_not_declines rest rfl]
    exact congrArg (Reply.mk · _) (List.append_nil calls).symm

/-- Replies in a row decline if each of them does. -/
theorem declines_firstOf {replies : List (Reply (Outcome Field))} :
    (firstOf replies).declines = true ↔ ∀ reply ∈ replies, reply.declines = true := by
  induction replies with
  | nil => simp [firstOf, declines]
  | cons reply rest ih =>
    rw [List.forall_mem_cons, ← ih]
    cases h : reply.declines with
    | false => simp [firstOf_cons_of_not_declines rest h, h]
    | true =>
      rw [firstOf_cons_of_declines rest h]
      exact (and_iff_right rfl).symm

/-- Behind replies that decline, the first that does not has the answer. -/
theorem answer_firstOf {before : List (Reply (Outcome Field))}
    (hbefore : ∀ declined ∈ before, declined.declines = true) (h : reply.declines = false) :
    (firstOf (before ++ reply :: rest)).answer = reply.answer := by
  have hnone : before.find? (!·.declines) = none :=
    List.find?_eq_none.2 fun declined hmem => by simp [hbefore declined hmem]
  simp [firstOf, List.find?_append, hnone, h]

end

end Reply

namespace Context

/-! ## Rows of providers and rows of contexts -/

section

variable (key : String) (args : List String) (subject : Value)

/-- Providers are asked in a row until one of them does not decline. -/
theorem ask_eq (providers : List Provider) :
    ask providers key args subject
      = .firstOf (providers.map fun provider => provider key args subject) := by
  induction providers with
  | nil => rfl
  | cons provider rest ih =>
    rw [ask, ih, List.map_cons, Reply.firstOf_cons]
    rfl

/-- A row of contexts is asked one context after the other. -/
theorem lookup_chain_eq (contexts : List Context) :
    (chain contexts).lookup key args subject
      = .firstOf (contexts.map fun context => context.lookup key args subject) := by
  induction contexts with
  | nil => rfl
  | cons context rest ih =>
    rw [lookup_chain_cons, ih, List.map_cons, Reply.firstOf_cons]

/-- Behind a context that declines, the next one is asked. -/
theorem lookup_chain_of_declines {first : Context} (second : Context)
    (h : (first.lookup key args subject).declines = true) :
    (chain [first, second]).lookup key args subject
      = ⟨(first.lookup key args subject).calls ++ (second.lookup key args subject).calls,
          (second.lookup key args subject).answer⟩ := by
  rw [lookup_chain]
  generalize first.lookup key args subject = reply at h ⊢
  obtain ⟨calls, reason | (field | messages | failure)⟩ := reply
  · cases h
  · cases h
  · rfl
  · cases h

/-- Behind a context that does not decline, nothing is asked. -/
theorem lookup_chain_of_not_declines {first : Context} (second : Context)
    (h : (first.lookup key args subject).declines = false) :
    (chain [first, second]).lookup key args subject = first.lookup key args subject := by
  rw [lookup_chain_eq]
  exact Reply.firstOf_cons_of_not_declines _ h

/-- The context that an evaluation asks does not decline. -/
theorem ended_not_declines (reporter : Reporter) (context : Context) :
    ((chain [context, missing reporter]).lookup key args subject).declines = false := by
  have hmissing : ((missing reporter).lookup key args subject).declines = false := by
    simp only [lookup, missing, single, providers, ask]
    cases reporter.message Code.fieldNotFound [(.text "key", .text key)] <;> rfl
  rw [lookup_chain_eq, Bool.eq_false_iff, ne_eq, Reply.declines_firstOf]
  intro hall
  have hlast := hall _ (List.mem_map_of_mem (List.mem_cons_of_mem _ List.mem_cons_self))
  rw [hmissing] at hlast
  cases hlast

end

/-! ## Groups -/

/-- Contexts put together group by group. -/
inductive Grouping where
  | one (context : Context)
  | none
  | chain (groups : List Grouping)
  | append (first second : Grouping)

namespace Grouping

mutual

/-- The context that the groups make. -/
def context : Grouping → Context
  | .one context => context
  | .none => Context.empty
  | .chain groups => Context.chain (contexts groups)
  | .append first second => first.context ++ second.context

def contexts : List Grouping → List Context
  | [] => []
  | group :: rest => group.context :: contexts rest

end

mutual

/-- The contexts that are put together, the first to be asked first. -/
def parts : Grouping → List Context
  | .one context => [context]
  | .none => []
  | .chain groups => allParts groups
  | .append first second => first.parts ++ second.parts

def allParts : List Grouping → List Context
  | [] => []
  | group :: rest => group.parts ++ allParts rest

end

mutual

/-- Contexts in groups are the same as in a row. -/
theorem context_eq (group : Grouping) : group.context = Context.chain group.parts := by
  cases group with
  | one context =>
    obtain ⟨providers⟩ := context
    simp [Grouping.context, parts, Context.chain, Context.providers]
  | none => rfl
  | chain groups =>
    rw [Grouping.context, parts, Context.chain, Context.chain, flatMap_contexts groups]
  | append first second =>
    rw [Grouping.context, parts, context_eq first, context_eq second]
    exact congrArg Context.of List.flatMap_append.symm

/-- The contexts of groups have the providers of all parts of the groups. -/
theorem flatMap_contexts (groups : List Grouping) :
    (contexts groups).flatMap providers = (allParts groups).flatMap providers := by
  cases groups with
  | nil => rfl
  | cons group rest =>
    rw [contexts, allParts, List.flatMap_cons, List.flatMap_append, context_eq group,
      flatMap_contexts rest]
    rfl

end

end Grouping

/-! ## Flattening -/

/-- A context that keeps a record, and answers every question about an item alike. -/
def always (name : String) (outcome : Outcome Field) : Context :=
  recorded name (single fun _ _ _ => pure outcome)

/-- A draft without a title, declining with a message. -/
def draft : Context := always "draft" (.notFound [.text "no draft"])

/-- A header that cannot be read. -/
def spoiltHeader : Context := always "header" (.failed ⟨[.text "bad header"], Code.contextFailure⟩)

/-- A site with a title for all that have none. -/
def site : Context := always "site" (.found (.text "Home"))

/-- The site is not asked. -/
example :
    ((chain [draft, spoiltHeader, site]).lookup "title" [] undated.asValue).calls.map Call.name
      = ["draft", "header"] := rfl

end Context

end Inlay
