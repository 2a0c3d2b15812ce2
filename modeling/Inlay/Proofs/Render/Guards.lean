import Inlay.Proofs.Render.Nesting
import Inlay.Proofs.Render.Orderly
import Inlay.Proofs.Render.Room

/-!
# Compiled templates are evaluated to an outcome

The evaluation of an element stops where a trimming mark is left, or where an object is none of the
language. No compiled template holds either, nor does a store that is filled with sources; so where
the context answers every question, an evaluation that has the room that it asks for ends with a
text or with a failure.

Main statements: `evaluate_compiled`, and `mirror_endless` for a template that includes itself
without a limit and so asks for more room than any.
-/

namespace Inlay.Evaluator

open Template

section

variable {settings : Settings} {reporter : Reporter} {origin : Value} {source : String}
  {template : Template} {sources : List (String × String)} {session : Session} {context : Context}

/-- In the room of the session, a compiled template is evaluated to an outcome. Else there is too
little room for its inclusions, or they are too deep for a limit that cannot be written. -/
theorem evaluate_compiled_cases (hregistry : settings.reporter.registry = .builtin)
    (hlog : ∀ log ∈ settings.log, log.logger.CutsAtInteger)
    (hcompile : Template.compile reporter origin source = .ok template)
    (hstore : session.store = some (.memory (.filled reporter sources)))
    (hcontext : context.Quiet) (item : Item) :
    let ended := (evaluate settings template context item.asValue session).1
    ((∃ text, ended = .value text) ∨ ∃ failure, ended = .failed failure) ∨
      (ended = .stopped (.misuse .endless) ∧
        ∀ limit ∈ settings.limit, (session.room : Int) < limit) ∨
      ended = .stopped (.misuse .badForm) ∧
        ∃ limit ∈ settings.limit, (Value.int limit).hasText = false := by
  intro ended
  let isUntold (reason : Stop) : Prop :=
    reason = .misuse .badForm ∧ ∃ limit ∈ settings.limit, (Value.int limit).hasText = false
  -- the context raises nothing, and no mark is left, so only the limit can go untold
  have hallowed : Allowance settings (fun _ => False) isUntold False :=
    ⟨fun _ => False.elim, fun h => h.elim, fun h => h.elim, fun h => h.elim,
      fun limit hlimit huntold => ⟨rfl, limit, hlimit, huntold⟩⟩
  have hended : Contract.Allows _ (fun _ => True) ended :=
    evaluate_orderly hregistry hallowed (RenderLogger.exists_note hlog)
      (.inr (MemoryStore.filled_known reporter sources)) (.inr (compile_known hcompile))
      (fun h => h.elim) hcontext.orderly item hstore
  cases hending : ended with
  | value text => exact .inl (.inl ⟨text, rfl⟩)
  | failed failure => exact .inl (.inr ⟨failure, rfl⟩)
  | stopped reason =>
    rw [hending] at hended
    rcases hended with ⟨rfl, huntold⟩ | ⟨rfl, hroom⟩
    · exact .inr (.inr ⟨rfl, huntold⟩)
    · exact .inr (.inl ⟨rfl, hroom⟩)

end

/-- Nothing stops the evaluation of a compiled template to an outcome, neither in itself nor in all
that it includes from a store of sources, if the context answers every question about documents and
there is the room that its inclusions ask for; under a limit, this is no more than the limit.

There are two exceptions. Without a limit, inclusions may ask for more room than any. And a limit of
more digits than an integer is written with keeps it from being told that inclusions are too deep.

Room is counted for inclusions alone: what the constructs of a template take while they are nested
in each other is set aside. -/
theorem evaluate_compiled (settings : Settings) (hregistry : settings.reporter.registry = .builtin)
    (hlog : ∀ log ∈ settings.log, log.logger.CutsAtInteger) (reporter : Reporter) (origin : Value)
    (source : String) (template : Template)
    (hcompile : Template.compile reporter origin source = .ok template)
    (sources : List (String × String)) (session : Session)
    (hstore : session.store = some (.memory (.filled reporter sources)))
    (context : Context) (hcontext : context.Quiet) (item : Item) :
    let ended room := (evaluate settings template context item.asValue { session with room }).1
    (∃ enough outcome, ((∃ text, outcome = .value text) ∨ ∃ failure, outcome = .failed failure) ∧
      EndsFrom ended enough outcome ∧ ∀ limit ∈ settings.limit, enough ≤ limit.toNat) ∨
    (settings.limit = none ∧ ∀ room, ended room = .stopped (.misuse .endless)) ∨
    ∃ limit ∈ settings.limit, (Value.int limit).hasText = false ∧
      EndsFrom ended limit.toNat (.stopped (.misuse .badForm)) := by
  intro ended
  have hcases room := evaluate_compiled_cases hregistry hlog hcompile
    (show Session.store { session with room } = some (.memory (.filled reporter sources))
      from hstore) hcontext item
  cases hlimit : settings.limit with
  | none =>
    by_cases hendless : ∀ room, ended room = .stopped (.misuse .endless)
    · exact .inr (.inl ⟨rfl, hendless⟩)
    · obtain ⟨room, hends⟩ := not_forall.1 hendless
      rcases hcases room with houtcome | ⟨hshort, -⟩ | ⟨-, limit, hmem, -⟩
      · exact .inl ⟨room, _, houtcome, endsFrom_of_ne hends, fun _ hmem => nomatch hmem⟩
      · exact absurd hshort hends
      · rw [hlimit] at hmem
        cases hmem
  | some limit =>
    -- the room that the limit allows for is enough
    have hends : ended limit.toNat ≠ .stopped (.misuse .endless) := by
      intro hshort
      rcases hcases limit.toNat with
        (⟨text, hvalue⟩ | ⟨failure, hfailed⟩) | ⟨-, hless⟩ | ⟨huntold, -⟩
      · cases hvalue.symm.trans hshort
      · cases hfailed.symm.trans hshort
      · have hlt : (limit.toNat : Int) < limit := hless limit hlimit
        omega
      · cases huntold.symm.trans hshort
    have hfrom : EndsFrom ended limit.toNat (ended limit.toNat) := endsFrom_of_ne hends
    rcases hcases limit.toNat with houtcome | ⟨hshort, -⟩ | ⟨huntold, limit', hmem, hlong⟩
    · refine .inl ⟨limit.toNat, _, houtcome, hfrom, ?_⟩
      rintro _ ⟨⟩
      exact Nat.le_refl _
    · exact absurd hshort hends
    · cases hlimit.symm.trans hmem
      have hsame : ended limit.toNat = .stopped (.misuse .badForm) := huntold
      rw [hsame] at hfrom
      exact .inr (.inr ⟨limit, rfl, hlong, hfrom⟩)

/-- The context with one post answers every question, and answers nothing by a stop. -/
theorem onePost_quiet : onePost.Quiet := by
  refine .of_answer fun key args item => ?_
  have hempty : Context.empty.Quiet := .of_answer fun key args item => ⟨.notFound [], rfl, trivial⟩
  by_cases hkey : key = "posts"
  · refine ⟨.found (.items .empty [.item (.text "a.md") .null []]), ?_, hempty, ?_⟩
    · subst hkey
      rfl
    · intro subject hsubject
      exact ⟨⟨"a.md", .null, []⟩, List.mem_singleton.1 hsubject⟩
  · refine ⟨.notFound [], ?_, trivial⟩
    simp only [onePost, Context.lookup, Context.single, Context.providers, Context.ask, hkey,
      if_false]
    rfl

/-- A list of posts that includes a template for each of them has an outcome, in each room that is
no less than the limit. -/
theorem postList_outcome :
    ∃ template, Template.compile ⟨.builtin, default⟩ (.text "list")
        "$for(posts)$$partial(\"link\")-$ $endfor$" = .ok template ∧
      ∃ outcome : Ending String,
        ((∃ text, outcome = .value text) ∨ ∃ failure, outcome = .failed failure) ∧
        ∀ room, 32 ≤ room → (evaluate ⟨⟨.builtin, default⟩, default, some 32, none⟩ template onePost
          (Item.asValue ⟨"index.md", .null, []⟩)
          { store := some (.memory (.filled ⟨.builtin, default⟩ [("link", "-> $path$")])),
            room }).1 = outcome := by
  have hread : (Template.compile ⟨.builtin, default⟩ (.text "list")
      "$for(posts)$$partial(\"link\")-$ $endfor$").toOption.isSome = true := by
    decide +kernel
  obtain ⟨template, htemplate⟩ := Option.isSome_iff_exists.1 hread
  have hcompile : Template.compile ⟨.builtin, default⟩ (.text "list")
      "$for(posts)$$partial(\"link\")-$ $endfor$" = .ok template := by
    revert htemplate
    cases Template.compile ⟨.builtin, default⟩ (.text "list")
      "$for(posts)$$partial(\"link\")-$ $endfor$" <;> simp [Except.toOption]
  refine ⟨template, hcompile, ?_⟩
  have h := evaluate_compiled ⟨⟨.builtin, default⟩, default, some 32, none⟩ rfl
    (fun _ hlog => nomatch hlog) ⟨.builtin, default⟩ (.text "list") _ template hcompile
    [("link", "-> $path$")] { store := some (.memory (.filled ⟨.builtin, default⟩ _)) } rfl
    onePost onePost_quiet ⟨"index.md", .null, []⟩
  rcases h with ⟨enough, outcome, houtcome, hfrom, hlimit⟩ | ⟨hnone, -⟩ | ⟨limit, hmem, hlong, -⟩
  · refine ⟨outcome, houtcome, fun room hroom => ?_⟩
    exact (hfrom room).resolve_right fun hless =>
      absurd (Nat.le_trans (hlimit 32 rfl) hroom) (Nat.not_le.2 hless.1)
  · cases hnone
  · cases hmem
    cases hlong.symm.trans (rfl : (Value.int 32).hasText = true)

/-- A session with so much room, whose store has the template that includes itself. -/
def mirrorIn (room : Nat) : Session := { mirrorSession with room }

/-- Without a limit, the inclusions of a template that includes itself need more room than any. -/
theorem mirror_within (given room : Nat) : ∀ frame,
    within ⟨⟨.builtin, default⟩, default, none, none⟩ room frame mirror.elements (mirrorIn given)
      = (.stopped (.misuse .endless), mirrorIn given) := by
  have henters : ∀ frame, Enters ⟨⟨.builtin, default⟩, default, none, none⟩ frame
      (.literal "mirror") (mirrorIn given) "mirror" mirror (mirrorIn given) :=
    fun frame => ⟨rfl, fun _ hlimit => (nomatch hlimit), rfl, rfl⟩
  have hstopped : ∀ enter frame,
      enter (frame.including mirror) mirror.elements (mirrorIn given)
        = (.stopped (.misuse .endless), mirrorIn given) →
      elements ⟨⟨.builtin, default⟩, default, none, none⟩ enter frame mirror.elements
        (mirrorIn given) = (.stopped (.misuse .endless), mirrorIn given) := by
    intro enter frame henter
    show elements _ enter frame [.inclusion (.literal "mirror")] (mirrorIn given) = _
    rw [elements, element]
    refine Render.bind_of_stopped ?_
    rw [inclusion_of_enters (henters frame), Render.under]
    simp only [Render.underTold, henter]
  -- the frame is different at every depth, so the induction is on the room for all frames
  induction room with
  | zero => exact fun frame => hstopped _ frame rfl
  | succ room ih => exact fun frame => hstopped _ frame (ih _)

/-- A template that includes itself is compiled from a source, but its evaluation without a limit
has no outcome, whatever room there is, in a context that answers every question. -/
theorem mirror_endless :
    Template.compile ⟨.builtin, default⟩ (.text "mirror") "$partial(\"mirror\")$" = .ok mirror ∧
      onePost.Quiet ∧
      ∀ room, (evaluate ⟨⟨.builtin, default⟩, default, none, none⟩ mirror onePost
        (Item.asValue ⟨"index.md", .null, []⟩)
        { store := some (.memory (.filled ⟨.builtin, default⟩
            [("mirror", "$partial(\"mirror\")$")])),
          room }).1 = .stopped (.misuse .endless) := by
  have hcompile : Template.compile ⟨.builtin, default⟩ (.text "mirror") "$partial(\"mirror\")$"
      = .ok mirror := by
    cbv
  have hfilled : MemoryStore.filled ⟨.builtin, default⟩ [("mirror", "$partial(\"mirror\")$")]
      = ⟨[("mirror", mirror)]⟩ := by
    simp only [MemoryStore.filled, List.foldl_cons, List.foldl_nil, MemoryStore.register,
      MemoryStore.Registrable.template, hcompile]
    rfl
  refine ⟨hcompile, onePost_quiet, fun room => ?_⟩
  rw [hfilled]
  show (within _ room ⟨onePost, _, .text "mirror", 0⟩ mirror.elements (mirrorIn room)).1 = _
  rw [mirror_within]

end Inlay.Evaluator
