import Inlay.Proofs.Context.Lookup

/-!
# Providers of one key

A provider may decline all questions but those about one key. Wherever such a provider is put into a
row, other keys have the same answers as before, and the other providers are asked the same
questions for them (`wider_insert`). This stays so behind other contexts, and before them.

What the provider itself keeps a record of shows up in the record of the row. `Interspersed` says
that nothing else does.
-/

namespace Inlay

/-! ## Records with something in between -/

/-- A list with others of one kind put in anywhere between its members. -/
inductive Interspersed {α : Type} (extra : α → Prop) : List α → List α → Prop where
  | nil : Interspersed extra [] []
  | keep {members members' : List α} (member : α) (rest : Interspersed extra members members') :
    Interspersed extra (member :: members) (member :: members')
  | insert {members members' : List α} {added : α} (h : extra added)
    (rest : Interspersed extra members members') : Interspersed extra members (added :: members')

namespace Interspersed

variable {α : Type} {extra : α → Prop} {first first' second second' : List α}

theorem refl (members : List α) : Interspersed extra members members := by
  induction members with
  | nil => exact .nil
  | cons member _ ih => exact .keep member ih

/-- What is put in may all stand in front. -/
theorem behind {added : List α} (h : ∀ member ∈ added, extra member)
    (hrest : Interspersed extra first first') : Interspersed extra first (added ++ first') := by
  induction added with
  | nil => exact hrest
  | cons member rest ih =>
    refine .insert (h member List.mem_cons_self) (ih fun other hother => ?_)
    exact h other (List.mem_cons_of_mem _ hother)

/-- What is put in to two lists is put in to the list that they make up. -/
theorem append (h : Interspersed extra first first') (h' : Interspersed extra second second') :
    Interspersed extra (first ++ second) (first' ++ second') := by
  induction h with
  | nil => exact h'
  | keep member _ ih => exact .keep member ih
  | insert hadded _ ih => exact .insert hadded ih

/-- Where there is nothing to put in, the list stays as it is. -/
theorem eq_of_none (hnone : ∀ member, ¬extra member) (h : Interspersed extra first first') :
    first' = first := by
  induction h with
  | nil => rfl
  | keep member _ ih => rw [ih]
  | insert hadded => exact absurd hadded (hnone _)

end Interspersed

/-! ## Replies -/

/-- The same answer, with some calls put in between those on the way to it. -/
structure Reply.Wider {α : Type} (extra : Call → Prop) (reply reply' : Reply α) : Prop where
  answer : reply'.answer = reply.answer
  calls : Interspersed extra reply.calls reply'.calls

namespace Reply.Wider

variable {α β : Type} {extra : Call → Prop} {reply reply' : Reply α}

theorem refl (reply : Reply α) : Wider extra reply reply := ⟨rfl, .refl _⟩

/-- Calls that are put in to the first of two replies, and to the second, are put in to both
together. -/
theorem bind {next next' : α → Reply β} (h : Wider extra reply reply')
    (hnext : ∀ a, Wider extra (next a) (next' a)) :
    Wider extra (reply >>= next) (reply' >>= next') := by
  obtain ⟨calls, answer⟩ := reply
  obtain ⟨calls', answer'⟩ := reply'
  obtain ⟨rfl, hcalls⟩ := h
  cases answer' with
  | error reason => exact ⟨rfl, hcalls⟩
  | ok a => exact ⟨(hnext a).answer, hcalls.append (hnext a).calls⟩

/-- To be told that there is nothing before going on leads to the same answer. -/
theorem of_notFound {reply : Reply (Outcome α)} {messages : List Value}
    (hanswer : reply.answer = .ok (.notFound messages)) (hcalls : ∀ call ∈ reply.calls, extra call)
    {next : Outcome α → Reply β} {reply' : Reply β} (hnext : next (.notFound messages) = reply') :
    Wider extra reply' (reply >>= next) := by
  subst hnext
  obtain ⟨calls, answer⟩ := reply
  cases hanswer
  exact ⟨rfl, .behind hcalls (.refl _)⟩

end Reply.Wider

/-! ## Providers -/

namespace Provider

/-- The provider declines all questions but those about the key. -/
def DeclinesBut (key : String) (provider : Provider) : Prop :=
  ∀ asked, asked ≠ key → ∀ args subject, ∃ messages,
    (provider asked args subject).answer = .ok (.notFound messages)

/-- The provider keeps this record when it is asked for some other key. -/
def RecordsBut (key : String) (provider : Provider) (call : Call) : Prop :=
  ∃ asked args subject, asked ≠ key ∧ call ∈ (provider asked args subject).calls

/-- Two providers answer all questions alike but those about the key. -/
def SameBut (key : String) (provider provider' : Provider) : Prop :=
  ∀ asked, asked ≠ key → provider' asked = provider asked

end Provider

/-! ## Contexts -/

namespace Context

/-- All keys but one have the same answers in both contexts. In the second one, some calls are put
in between those on the way to them. -/
def Wider (key : String) (extra : Call → Prop) (context context' : Context) : Prop :=
  ∀ asked, asked ≠ key → ∀ args subject,
    Reply.Wider extra (context.lookup asked args subject) (context'.lookup asked args subject)

namespace Wider

variable {key : String} {extra : Call → Prop} {context context' : Context}

theorem refl (context : Context) : Wider key extra context context := fun _ _ _ _ => .refl _

/-- The first of two contexts may be wider. -/
theorem before (h : Wider key extra context context') (last : Context) :
    Wider key extra (chain [context, last]) (chain [context', last]) := by
  intro asked hasked args subject
  rw [lookup_chain, lookup_chain]
  exact (h asked hasked args subject).bind fun _ => .refl _

/-- So may the second one be. -/
theorem behind (h : Wider key extra context context') (first : Context) :
    Wider key extra (chain [first, context]) (chain [first, context']) := by
  intro asked hasked args subject
  rw [lookup_chain, lookup_chain]
  refine (Reply.Wider.refl _).bind fun outcome => ?_
  cases outcome with
  | notFound messages => exact h asked hasked args subject
  | found field | failed failure => exact .refl _

end Wider

section

variable {key : String} {provider provider' : Provider} (before after : List Provider)

/-- In a row of providers, one that declines all keys but one makes no difference to the others. -/
theorem wider_insert (hprovider : provider.DeclinesBut key) :
    Wider key (provider.RecordsBut key) (.of (before ++ after))
      (.of (before ++ provider :: after)) := by
  intro asked hasked args subject
  show Reply.Wider _ (ask (before ++ after) asked args subject)
    (ask (before ++ provider :: after) asked args subject)
  rw [ask_append, ask_append, ask]
  refine (Reply.Wider.refl _).bind fun outcome => ?_
  cases outcome with
  | notFound messages =>
    obtain ⟨declined, hanswer⟩ := hprovider asked hasked args subject
    have hcalls : ∀ call ∈ (provider asked args subject).calls, provider.RecordsBut key call :=
      fun call hcall => ⟨asked, args, subject, hasked, hcall⟩
    exact Reply.Wider.of_notFound hanswer hcalls rfl
  | found field | failed failure => exact .refl _

/-- Nor does it make a difference what a provider says about the one key. -/
theorem wider_replace (hsame : provider.SameBut key provider') :
    Wider key (fun _ => False) (.of (before ++ provider :: after))
      (.of (before ++ provider' :: after)) := by
  intro asked hasked args subject
  have hrow : ask (before ++ provider' :: after) asked args subject
      = ask (before ++ provider :: after) asked args subject := by
    rw [ask_append, ask_append, ask, ask, hsame asked hasked]
  show Reply.Wider _ (ask (before ++ provider :: after) asked args subject)
    (ask (before ++ provider' :: after) asked args subject)
  rw [hrow]
  exact .refl _

/-- The provider of a field is asked for other keys in vain. -/
theorem declinesBut_onKey (key : String) (answer : List String → Value → Reply (Outcome Field)) :
    ∃ provider : Provider, onKey key answer = .of [provider] ∧ provider.DeclinesBut key := by
  refine ⟨_, rfl, fun asked hasked args subject => ⟨[], ?_⟩⟩
  rw [if_neg hasked]
  rfl

end

end Context

end Inlay
