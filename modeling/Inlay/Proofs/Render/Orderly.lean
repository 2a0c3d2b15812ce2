import Inlay.Proofs.Context.Orderly
import Inlay.Proofs.Log.Lines
import Inlay.Proofs.Render.Contract
import Inlay.Proofs.Template.Compiled

/-!
# Evaluations that stop for known reasons

An evaluation stops where its context does, where a trimming mark is left or an object is none of
the language, and where inclusions are nested deeper than there is room for. Nothing else stops it,
with the built-in registry and with templates in memory; else it comes to a text or to a failure
that can be told (`evaluate_orderly`). Where the template and those in the store are known to be
written in the language, it does not stop at what they are made of.
-/

namespace Inlay.Evaluator

open Template

/-- Failures can be told, the templates in memory stay as they are, and nothing stops a step but
what is allowed to. -/
def orderlyContract (store : MemoryStore) (allowed : Stop → Prop) : Contract where
  session session := session.store = some (.memory store)
  failure failure := failure.Told
  stop := allowed

/-- Nothing that is logged stops an evaluation. -/
def Settings.Notes (settings : Settings) : Prop :=
  ∀ event, ∃ lines, RenderLogger.note settings.log event = Render.addLines lines

/-- The frame is about a document, in a context that stops for known reasons. -/
structure Frame.Orderly (raised : Stop → Prop) (frame : Frame) : Prop where
  context : frame.context.Orderly raised
  subject : ∃ item : Item, frame.subject = item.asValue

/-- What contexts raise is allowed; so is what comes of marks and of what is none of the language,
where these may stand in templates. -/
structure Allowance (settings : Settings) (raised allowed : Stop → Prop) (lax : Prop) : Prop where
  raised : ∀ reason, raised reason → allowed reason
  expression : lax → ∀ kind, allowed (unknownExpression settings kind)
  element : lax → ∀ kind, allowed (unknownElement settings kind)
  mark : lax → ∀ origin : Value, origin.hasText = true → allowed (unresolved settings origin)
  /-- That templates are included too deep cannot be told under every limit. -/
  depth : ∀ limit ∈ settings.limit, (Value.int limit).hasText = false → allowed (.misuse .badForm)

/-- What templates are called in reports can be written: the template itself, and those that are
loaded. -/
structure OriginsShown (template : Template) (store : MemoryStore) : Prop where
  template : template.origin.hasText = true
  included : ∀ identifier included, store.find? identifier = some included →
    included.origin.hasText = true

section

variable {store : MemoryStore} {raised allowed : Stop → Prop} {lax : Prop} {settings : Settings}
  {frame : Frame}

/-- An allowance may be extended to further reasons to stop. -/
theorem Allowance.mono {more : Stop → Prop} (h : Allowance settings raised allowed lax)
    (himp : ∀ reason, allowed reason → more reason) : Allowance settings raised more lax :=
  ⟨fun reason hraised => himp reason (h.raised reason hraised),
    fun hlax kind => himp _ (h.expression hlax kind), fun hlax kind => himp _ (h.element hlax kind),
    fun hlax origin horigin => himp _ (h.mark hlax origin horigin),
    fun limit hlimit huntold => himp _ (h.depth limit hlimit huntold)⟩

/-- Of known elements, each one is known. -/
theorem fine_of_allKnown {body : List Element} (h : lax ∨ Element.AllKnown False body) :
    ∀ element ∈ body, lax ∨ element.Known False :=
  fun element helement => h.imp_right fun hknown => Element.allKnown_iff.1 hknown element helement

/-- A breadcrumb is a text, so it keeps a failure that can be told so. -/
theorem orderlyContract_below (breadcrumb : String) (failure : Failure)
    (h : (orderlyContract store allowed).failure failure) :
    (orderlyContract store allowed).failure (failure.below breadcrumb) :=
  Failure.Told.below h breadcrumb

/-- A failure of one text can be told. -/
theorem makes_of_eq {made : Except Misuse Failure} {message code : String}
    (h : made = .ok ⟨[.text message], code⟩) : (orderlyContract store allowed).Makes made := by
  constructor
  · intro failure hfailure message' hmessage
    rw [h] at hfailure
    cases hfailure
    exact ⟨message, List.mem_singleton.1 hmessage⟩
  · intro misuse hmisuse
    rw [h] at hmisuse
    cases hmisuse

/-- Events are logged without a stop where the logger takes them. -/
theorem note_orderly (hnote : settings.Notes) (event : Log.RenderEvent) :
    (orderlyContract store allowed).KeptBy (RenderLogger.note settings.log event) := by
  obtain ⟨lines, hlines⟩ := hnote event
  rw [hlines]
  exact fun session hsession => ⟨trivial, hsession⟩

/-- So is the failure of a condition, whose messages are texts. -/
theorem noteCondition_orderly (hnote : settings.Notes) (test : Expr) {failure : Failure}
    (hfailure : failure.Told) :
    (orderlyContract store allowed).KeptBy (noteCondition settings test failure) := by
  obtain ⟨texts, htexts⟩ := hfailure.texts
  rw [noteCondition_of_texts htexts]
  exact note_orderly hnote _

/-- The frames of a list that is orderly are about documents, in contexts that are orderly. -/
theorem loopFrames_orderly {field : Field} {members : List (Except Stop Frame)}
    (hframe : frame.Orderly raised) (hfield : field.Orderly raised)
    (hmembers : loopFrames frame field = some members) :
    ∀ member ∈ members, (∀ reason, member = .error reason → raised reason) ∧
      ∀ inner, member = .ok inner → inner.Orderly raised := by
  intro member hmember
  cases field with
  | present | text => cases hmembers
  | items context subjects =>
    cases hmembers
    obtain ⟨hcontext, hsubjects⟩ := hfield
    obtain ⟨subject, hsubject, rfl⟩ := List.mem_map.1 hmember
    refine ⟨fun _ hreason => (nomatch hreason), ?_⟩
    rintro _ ⟨⟩
    exact ⟨hcontext, hsubjects subject hsubject⟩
  | values values =>
    cases hmembers
    obtain ⟨⟨value, made⟩, hvalue, rfl⟩ := List.mem_map.1 hmember
    obtain ⟨hreason, hinner⟩ := hfield _ hvalue
    cases made with
    | error reason =>
      refine ⟨?_, fun _ h => (nomatch h)⟩
      rintro _ ⟨⟩
      exact hreason reason rfl
    -- the context made for a member stands before the one around the loop
    | ok context =>
      refine ⟨fun _ h => (nomatch h), ?_⟩
      rintro _ ⟨⟩
      exact ⟨(hinner context rfl).chain hframe.context, hframe.subject⟩

section

variable (hregistry : settings.reporter.registry = .builtin)

include hregistry

/-- A field of the wrong kind makes a failure that can be told. -/
theorem mismatch_orderly (expected actual : FieldKind) (subject : String) :
    (orderlyContract store allowed).Makes
      (settings.reporter.mismatch expected actual subject) :=
  makes_of_eq (Reporter.mismatch_eq hregistry expected actual subject)

/-- So does a field that has no text. -/
theorem textOf_orderly (subject : String) (field : Field) :
    (orderlyContract store allowed).KeptBy (textOf settings subject field) := by
  cases field with
  | text text => exact .pure trivial
  | present | items | values => exact .failWith (mismatch_orderly hregistry _ _ _)

/-- A template that is loaded from memory is one of the store; that there is none can be told. -/
theorem load_orderly (identifier : String) :
    (orderlyContract store allowed).Ensures
      (fun template => store.find? identifier = some template) (load settings identifier) := by
  intro session hsession
  rw [load_memory hsession]
  unfold MemoryStore.load
  cases hfind : store.find? identifier with
  | some template => exact ⟨rfl, hsession⟩
  | none =>
    obtain ⟨fault, hfault⟩ := Reporter.exists_templateNotFound hregistry identifier
    rw [hfault]
    exact Contract.Ensures.failWith
      (makes_of_eq (Reporter.loadFailure_eq hregistry identifier fault.headline)) session hsession

variable (hallowed : Allowance settings raised allowed lax)

include hallowed

/-- A lookup stops for nothing but what its context raises. -/
theorem lookup_orderly (hframe : frame.Orderly raised) (key : String) (args : List String) :
    (orderlyContract store allowed).Ensures (fun field => field.Orderly raised)
      (lookup settings frame key args) := by
  obtain ⟨item, hitem⟩ := hframe.subject
  have hanswer := hframe.context.answer key args item
  intro session hsession
  rw [lookup_eq hregistry, hitem]
  refine ⟨?_, hsession⟩
  generalize (frame.context.lookup key args item.asValue).answer = answer at hanswer
  rcases answer with reason | (field | messages | failure)
  · exact hallowed.raised reason hanswer
  · exact hanswer
  · intro message hmessage
    exact ⟨_, List.mem_singleton.1 hmessage⟩
  · exact hanswer

/-- So does an expression, unless it is none of the language. -/
theorem fieldOf_orderly (hframe : frame.Orderly raised) {expr : Expr}
    (hexpr : lax ∨ expr.Known) :
    (orderlyContract store allowed).Ensures (fun field => field.Orderly raised)
      (fieldOf settings frame expr) :=
  fieldOf_ensures (lookup_orderly hregistry hallowed hframe)
    (fun subject field _ => textOf_orderly hregistry subject field) (fun _ => trivial) expr
    (hexpr.symm.imp_right hallowed.expression)

/-- The text of an expression is held to the same. -/
theorem textAt_orderly (hframe : frame.Orderly raised) (subject : String) {expr : Expr}
    (hexpr : lax ∨ expr.Known) :
    (orderlyContract store allowed).KeptBy (textAt settings frame subject expr) :=
  (fieldOf_orderly hregistry hallowed hframe hexpr).bind fun field _ =>
    textOf_orderly hregistry subject field

/-- Below the limit there is room for one more inclusion; else the failure can be told, or the limit
is one that cannot be written. -/
theorem checkDepth_orderly (depth : Nat) :
    (orderlyContract store allowed).Ensures
      (fun _ => ∀ limit ∈ settings.limit, (depth : Int) < limit) (checkDepth settings depth) := by
  refine checkDepth_ensures fun limit hlimit => ?_
  cases hwritten : (Value.int limit).hasText with
  | true => exact makes_of_eq (Reporter.depthFailure_eq hregistry hwritten)
  | false =>
    rw [Reporter.depthFailure_untold hregistry hwritten]
    refine ⟨fun _ hmade => (nomatch hmade), ?_⟩
    rintro _ ⟨⟩
    exact hallowed.depth limit hlimit hwritten

/-- Each construct is evaluated to an outcome, or stops as it is allowed to. -/
theorem orderlyRules (hnote : settings.Notes) (hstore : lax ∨ store.Known)
    (hshown : lax → ∀ identifier included, store.find? identifier = some included →
      included.origin.hasText = true) :
    Rules (orderlyContract store allowed) settings
      (fun frame => frame.Orderly raised ∧ (lax → frame.origin.hasText = true))
      (fun element => lax ∨ element.Known False) where
  below := orderlyContract_below
  mark frame hframe h := by
    -- compiled elements hold no mark, so this is a template put together by hand
    have hlax : lax := h.elim (fun hleft => hleft.elim id False.elim)
      fun hright => hright.elim id False.elim
    exact hallowed.mark hlax frame.origin (hframe.2 hlax)
  foreign kind h := hallowed.element (h.elim id False.elim) kind
  value frame expr hframe hexpr := textAt_orderly hregistry hallowed hframe.1 _ hexpr
  test frame test _ _ hframe hknown :=
    isPresent_kept (fieldOf_orderly hregistry hallowed hframe.1 (hknown.imp_right And.left)).kept
      fun failure hfailure => noteCondition_orderly hnote test hfailure
  branches test whenPresent whenAbsent hknown := by
    refine ⟨fine_of_allKnown (hknown.imp_right fun h => h.2.1), ?_⟩
    rintro body rfl
    exact fine_of_allKnown (hknown.imp_right fun h => h.2.2)
  head frame source body separator hframe hknown := by
    refine head_ensures orderlyContract_below
      (fieldOf_orderly hregistry hallowed hframe.1 (hknown.imp_right And.left))
      (fun kind subject => mismatch_orderly hregistry _ kind subject) ?_
    intro field members hfield hmembers member hmember
    obtain ⟨hreason, hinner⟩ := loopFrames_orderly hframe.1 hfield hmembers member hmember
    refine ⟨fun reason h => hallowed.raised reason (hreason reason h), fun inner h => ?_⟩
    subst h
    rw [(member_placed hmembers hmember).1]
    exact ⟨hinner inner rfl, hframe.2⟩
  bodies source body separator hknown := by
    refine ⟨fine_of_allKnown (hknown.imp_right fun h => h.2.1), ?_⟩
    rintro between rfl
    exact fine_of_allKnown (hknown.imp_right fun h => h.2.2)
  inclusion enter frame name hframe hname henter := by
    have hload : ∀ identifier, (orderlyContract store allowed).Ensures
        (fun template => ∃ identifier, store.find? identifier = some template)
        (load settings identifier) :=
      fun identifier => (load_orderly hregistry identifier).mono fun _ hfind => ⟨identifier, hfind⟩
    refine inclusion_kept orderlyContract_below (textAt_orderly hregistry hallowed hframe.1 _ hname)
      (checkDepth_orderly hregistry hallowed frame.depth) hload
      (fun identifier _ => note_orderly hnote _) (fun misuse hmisuse => ?_)
      fun template hdepth hfound => ?_
    -- a document can always be named in the breadcrumb
    · obtain ⟨item, hitem⟩ := hframe.1.subject
      rw [hitem] at hmisuse
      cases hmisuse
    · obtain ⟨identifier, hfind⟩ := hfound
      have hentered : (frame.including template).Orderly raised :=
        ⟨hframe.1.context, hframe.1.subject⟩
      refine henter template hdepth ⟨hentered, fun hlax => hshown hlax identifier _ hfind⟩ ?_
      exact fine_of_allKnown (hstore.imp_right fun hknown => MemoryStore.known_of_find hknown hfind)

end

end

/-- Whatever its elements are, an evaluation stops for the reasons that are allowed, and where
inclusions are nested deeper than there is room for, which no limit up to the room lets happen. Else
it comes to a text, or to a failure that can be told. -/
theorem evaluate_orderly {raised allowed : Stop → Prop} {lax : Prop} {settings : Settings}
    (hregistry : settings.reporter.registry = .builtin)
    (hallowed : Allowance settings raised allowed lax) (hnote : settings.Notes)
    {store : MemoryStore} (hstore : lax ∨ store.Known) {template : Template}
    (htemplate : lax ∨ Element.AllKnown False template.elements)
    (hshown : lax → OriginsShown template store) {context : Context}
    (hcontext : context.Orderly raised) (item : Item) {session : Session}
    (hsession : session.store = some (.memory store)) :
    (orderlyContract store fun reason => allowed reason ∨
      reason = .misuse .endless ∧ ∀ limit ∈ settings.limit, (session.room : Int) < limit).Allows
        (fun _ => True) (evaluate settings template context item.asValue session).1 := by
  refine (within_kept (orderlyRules hregistry (hallowed.mono fun _ h => .inl h) hnote hstore
      fun hlax => (hshown hlax).included)
    session.room ⟨context, item.asValue, template.origin, 0⟩ template.elements
    ⟨⟨hcontext, item, rfl⟩, fun hlax => (hshown hlax).template⟩ (fine_of_allKnown htemplate) ?_
    session hsession).1
  -- either the room is smaller than any limit, or the limit is met before the room is used up
  rcases allowed_or_reached settings session.room with hroom | ⟨limit, hlimit, hle⟩
  · exact .inl (.inr ⟨rfl, hroom⟩)
  · refine .inr ⟨limit, hlimit, ?_⟩
    dsimp only
    omega

end Inlay.Evaluator
