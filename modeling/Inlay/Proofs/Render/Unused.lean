import Inlay.Proofs.Context.Unused
import Inlay.Proofs.Render.Simulation
import Inlay.Proofs.Template.Conditions

/-!
# Fields that no template asks for

A key that occurs in no expression, neither of a template nor of the templates that it may include,
has no part in an evaluation. A provider of fields under this key can be put anywhere into the
context: the ending is the same, the same lines are logged and all other providers are asked the
same questions. The provider itself is never asked for the key.

Main statement: `evaluate_unused`.
-/

namespace Inlay

/-- Two sessions that differ in nothing but in the calls that are recorded: in the second one, some
are put in between. Both have the store. -/
structure Session.Wider (extra : Call → Prop) (store : Option Store)
    (session session' : Session) : Prop where
  held : session.store = store
  rest : session' = { session with calls := session'.calls }
  calls : Interspersed extra session.calls session'.calls

namespace Session.Wider

variable {extra : Call → Prop} {store : Option Store} {session session' : Session}

theorem refl (session : Session) : Wider extra session.store session session :=
  ⟨rfl, rfl, .refl _⟩

theorem held' (h : Wider extra store session session') : session'.store = store := by
  rw [h.rest]
  exact h.held

/-- Calls that are recorded on both sides, with some put in between, keep sessions so. -/
theorem asked (h : Wider extra store session session') {calls calls' : List Call}
    (hcalls : Interspersed extra calls calls') :
    Wider extra store { session with calls := session.calls ++ calls }
      { session' with calls := session'.calls ++ calls' } := by
  refine ⟨h.held, ?_, h.calls.append hcalls⟩
  rw [h.rest]

end Session.Wider

namespace Evaluator

open Template
open Render (Agree Matches MatchAt)

section

variable {settings : Settings} {extra : Call → Prop} {store : Option Store} {key : String}

/-- What is logged is the same on both sides. -/
theorem loggable_wider : Loggable (Session.Wider extra store) := fun h lines => by
  refine ⟨h.held, ?_, h.calls⟩
  rw [h.rest]

/-- A key that is not the unused one has the same answer, with the same calls but for those put in
between. -/
theorem lookup_wider {frame frame' : Frame} (hframes : frame.Alike (Context.Wider key extra) frame')
    {asked : String} (hasked : asked ≠ key) (args : List String) :
    Agree (Session.Wider extra store) Eq (lookup settings frame asked args)
      (lookup settings frame' asked args) := by
  unfold lookup
  rw [hframes.subject]
  have hreply := hframes.context.before (.missing settings.reporter) asked hasked args frame.subject
  exact ask_agree hreply.answer fun hsessions => hsessions.asked hreply.calls

/-- A template that comes from the store avoids the key, if all of its templates do. -/
theorem load_wider {held : Option MemoryStore}
    (hheld : ∀ store ∈ held, store.Only (Expr.Avoids key) (Expr.Avoids key)) (identifier : String) :
    Matches (Session.Wider extra (held.map .memory)) Eq
      (fun template template' => template = template' ∧
        template.Only (Expr.Avoids key) (Expr.Avoids key))
      (load settings identifier) (load settings identifier) := by
  refine Agree.matches ((load_agree_of_held (fun h => ⟨h.held, h.held'⟩) identifier).mono ?_) .eq
  rintro template _ ⟨rfl, store, hstore, hentry⟩
  exact ⟨rfl, hheld store hstore _ hentry⟩

/-- Expressions that avoid the key have the same answers in both contexts. -/
theorem sameAnswers_wider : SameAnswers settings settings (Session.Wider extra store)
    (Context.Wider key extra) (Expr.Avoids key) where
  reporter := rfl
  ident hframes hasked := lookup_wider hframes hasked []
  call hframes hasked texts := lookup_wider hframes hasked.1 texts
  arguments hasked := hasked.2.avoids

/-- Where all templates avoid the key, evaluations in both contexts run side by side. -/
theorem simulation_wider {held : Option MemoryStore}
    (hheld : ∀ store ∈ held, store.Only (Expr.Avoids key) (Expr.Avoids key)) :
    Simulation settings settings (Session.Wider extra (held.map .memory)) Eq
      (Context.Wider key extra) (Expr.Avoids key) (Expr.Avoids key) fun _ => True where
  toSameAnswers := sameAnswers_wider
  limit := rfl
  tolerant := .eq
  surrounding := ⟨.refl, .behind⟩
  name hframes hnamed subject :=
    (sameAnswers_wider.textAt hframes subject hnamed).mono fun _ _ hsame => ⟨hsame, trivial⟩
  load _ := load_wider hheld _
  included _ _ := loggable_wider.note _ _
  condition := loggable_wider.noteCondition settings

/-- A template that avoids the key, like all that may be included, comes to the same ending in a
context that is wider. -/
theorem evaluate_wider {template : Template}
    (htemplate : template.Only (Expr.Avoids key) (Expr.Avoids key)) {held : Option MemoryStore}
    (hheld : ∀ store ∈ held, store.Only (Expr.Avoids key) (Expr.Avoids key)) {session : Session}
    (hsession : session.store = held.map .memory) {context context' : Context}
    (hcontexts : Context.Wider key extra context context') (subject : Value) :
    (evaluate settings template context' subject session).1
        = (evaluate settings template context subject session).1 ∧
      Session.Wider extra (held.map .memory) (evaluate settings template context subject session).2
        (evaluate settings template context' subject session).2 := by
  have hmatch : MatchAt (Session.Wider extra (held.map .memory)) Eq Eq
      (evaluate settings template context subject session)
      (evaluate settings template context' subject session) :=
    (simulation_wider hheld).evaluate htemplate hcontexts subject
      (hsession ▸ Session.Wider.refl session) rfl
  generalize evaluate settings template context subject session = ended,
    evaluate settings template context' subject session = ended' at hmatch
  cases hmatch with
  | value related sessions => exact ⟨congrArg Ending.value related.symm, sessions⟩
  | failed related sessions => exact ⟨congrArg Ending.failed related.symm, sessions⟩
  | stopped reason sessions => exact ⟨rfl, sessions⟩

end

/-- Unused fields do not matter. Let a key occur in no expression of a template nor of any template
in memory, and let a provider decline all questions but those about this key. Wherever it is put
into the row of providers of a context, the template comes to the same ending. The session that is
left is the same but for the record of the provider itself, and in this there is nothing that it was
asked about the key: any provider that answers alike otherwise leads to the very same. -/
theorem evaluate_unused (settings : Settings) (key : String) (template : Template)
    (htemplate : template.Only (Expr.Avoids key) (Expr.Avoids key)) (held : Option MemoryStore)
    (hheld : ∀ store ∈ held, store.Only (Expr.Avoids key) (Expr.Avoids key)) (session : Session)
    (hsession : session.store = held.map .memory) (subject : Value)
    (before after : List Provider) (provider : Provider) (hprovider : provider.DeclinesBut key) :
    let plain := evaluate settings template (.of (before ++ after)) subject session
    let wider := evaluate settings template (.of (before ++ provider :: after)) subject session
    wider.1 = plain.1 ∧
    wider.2 = { plain.2 with calls := wider.2.calls } ∧
    Interspersed (provider.RecordsBut key) plain.2.calls wider.2.calls ∧
    ∀ provider' : Provider, provider.SameBut key provider' →
      evaluate settings template (.of (before ++ provider' :: after)) subject session = wider := by
  intro plain wider
  obtain ⟨hending, hsessions⟩ := evaluate_wider htemplate hheld hsession
    (Context.wider_insert before after hprovider) subject
  refine ⟨hending, hsessions.rest, hsessions.calls, fun provider' hsame => ?_⟩
  obtain ⟨hending', hsessions'⟩ := evaluate_wider htemplate hheld hsession
    (Context.wider_replace before after hsame) subject
  -- with nothing to be put in, the records are the same as well
  have hrest := hsessions'.rest
  rw [hsessions'.calls.eq_of_none fun _ => not_false] at hrest
  exact Prod.ext hending' hrest

/-- A field that must not be asked for: the question is misuse. -/
def trap : Context := .onKey "motto" fun _ _ => Reply.stop (.misuse .wrongKind)

/-- What is known about a document: its tags, and the name of the template for each of them. -/
def tagging : Provider := fun asked _ _ =>
  Reply.ofExcept (Context.entryField asked
    [(.text "tags", .list [.text "lean", .text "logic"]), (.text "entry", .text "tag")])

/-- The tags, each by a template whose name is itself a field. -/
def tagLine : Template where
  origin := .text "tags"
  elements := [.loop (.ident "tags") [.inclusion (.ident "entry")] (some [.chunk ", "])]

/-- A store of the template for a tag. -/
def tagEntries : MemoryStore :=
  ⟨[("tag", ⟨.text "tag", [.dollar, .value (.ident "item")]⟩)]⟩

/-- The tags are listed although a field stands before them that must not be asked for. -/
theorem tagLine_past_trap :
    (evaluate ⟨⟨.builtin, default⟩, default, some 32, none⟩ tagLine (trap ++ .single tagging) .null
      { store := some (.memory tagEntries) }).1 = .value "$lean, $logic" := by
  have htemplate : tagLine.Only (Expr.Avoids "motto") (Expr.Avoids "motto") := by decide
  have hstore : tagEntries.Only (Expr.Avoids "motto") (Expr.Avoids "motto") := by decide
  obtain ⟨provider, htrap, hprovider⟩ :=
    Context.declinesBut_onKey "motto" fun _ _ => Reply.stop (.misuse .wrongKind)
  have hcontext : trap ++ .single tagging = .of ([] ++ provider :: [tagging]) := by
    rw [trap, htrap]
    rfl
  have h := evaluate_unused ⟨⟨.builtin, default⟩, default, some 32, none⟩ "motto" tagLine htemplate
    (some tagEntries) (fun _ hheld => Option.some.inj hheld ▸ hstore)
    { store := some (.memory tagEntries) } rfl .null [] [tagging] provider hprovider
  rw [hcontext, h.1]
  rfl

end Evaluator

end Inlay
