import Inlay.Proofs.Render.Parallel
import Inlay.Proofs.Template.Compiled
import Inlay.Proofs.Template.Expressions

/-!
# Evaluations that run side by side

Two evaluations of a template run side by side if each of them, step by step, ends as the other one
does. What the two have in common is told by relations: between their sessions, between the contexts
in which they evaluate, and between the failures that they come to. `Simulation` lists what has to
be shown of these: that they are kept where a question is asked, where a template is loaded and
where the log is written. Then they are kept by the evaluation of every template
(`Simulation.evaluate`).

Only the expressions that are really met count. Those whose fields are asked for are `asked`, those
that name inclusions are `named`, and the names that come of these are `known`.
-/

namespace Inlay

namespace Evaluator

open Template Element
open Render (Agree Matches MatchAt Tolerant)

/-! ## Frames -/

/-- Two frames in the same place, about the same subject. Their contexts are in a relation. -/
structure Frame.Alike (C : Context → Context → Prop) (frame frame' : Frame) : Prop where
  context : C frame.context frame'.context
  subject : frame'.subject = frame.subject
  origin : frame'.origin = frame.origin
  depth : frame'.depth = frame.depth

/-- A relation between contexts that holds of one and the same, and behind any other context. -/
structure Surrounding (C : Context → Context → Prop) : Prop where
  refl : ∀ context, C context context
  behind : ∀ {context context'}, C context context' → ∀ first : Context,
    C (.chain [first, context]) (.chain [first, context'])

/-- Nothing is changed by a breadcrumb where failures are to be the same. -/
theorem Surrounding.eq : Surrounding Eq := ⟨fun _ => rfl, fun h _ => h ▸ rfl⟩

/-- A loop has frames in both contexts or in none, and they are related as the contexts are. -/
theorem Surrounding.loopFrames {C : Context → Context → Prop} (hcontexts : Surrounding C)
    {frame frame' : Frame} (h : frame.Alike C frame') (field : Field) :
    Option.Rel (List.Forall₂ (Except.Alike (Frame.Alike C))) (Evaluator.loopFrames frame field)
      (Evaluator.loopFrames frame' field) := by
  cases field with
  | present | text => exact .none
  | items context subjects =>
    refine .some (List.forall₂_map_left_iff.2 (List.forall₂_map_right_iff.2 ?_))
    exact List.forall₂_same.2 fun subject _ =>
      .ok ⟨hcontexts.refl context, rfl, h.origin, h.depth⟩
  | values members =>
    refine .some (List.forall₂_map_left_iff.2 (List.forall₂_map_right_iff.2 ?_))
    refine List.forall₂_same.2 fun member _ => ?_
    obtain ⟨value, reason | context⟩ := member
    · exact .error reason
    · exact .ok ⟨hcontexts.behind h.context context, h.subject, h.origin, h.depth⟩

/-! ## Expressions -/

section

variable {settings settings' : Settings} {S : Session → Session → Prop}
  {C : Context → Context → Prop} {asked : Expr → Prop}

/-- Where a key is asked for in both frames, the answers are the same. -/
structure SameAnswers (settings settings' : Settings) (S : Session → Session → Prop)
    (C : Context → Context → Prop) (asked : Expr → Prop) : Prop where
  reporter : settings'.reporter = settings.reporter
  ident : ∀ {frame frame' : Frame} {key : String}, frame.Alike C frame' → asked (.ident key) →
    Agree S Eq (lookup settings frame key []) (lookup settings' frame' key [])
  call : ∀ {frame frame' : Frame} {key : String} {args : List Expr}, frame.Alike C frame' →
    asked (.call key args) → ∀ texts,
    Agree S Eq (lookup settings frame key texts) (lookup settings' frame' key texts)
  arguments : ∀ {key : String} {args : List Expr}, asked (.call key args) → ∀ arg ∈ args, asked arg

namespace SameAnswers

variable (h : SameAnswers settings settings' S C asked) {frame frame' : Frame}

include h

/-- A field has the same text, or none, under settings that share the reporter. -/
theorem textOf (subject : String) (field : Field) :
    Agree S Eq (textOf settings subject field) (textOf settings' subject field) := by
  cases field with
  | text text => exact .pure rfl
  | present | items | values =>
    unfold Evaluator.textOf
    rw [h.reporter]
    exact .failWith _

mutual

/-- An expression that is asked for stands for the same field in both frames. -/
theorem fieldOf (hframes : frame.Alike C frame') : (expr : Expr) → asked expr →
    Agree S Eq (fieldOf settings frame expr) (fieldOf settings' frame' expr)
  | .ident key, hasked => by
    rw [Evaluator.fieldOf, Evaluator.fieldOf]
    exact h.ident hframes hasked
  | .call key args, hasked => by
    rw [Evaluator.fieldOf, Evaluator.fieldOf]
    exact (allArguments hframes args (h.arguments hasked)).bind_eq (h.call hframes hasked)
  | .literal text, _ => by
    rw [Evaluator.fieldOf, Evaluator.fieldOf]
    exact .pure rfl
  | .foreign kind, _ => by
    rw [Evaluator.fieldOf, Evaluator.fieldOf, h.reporter]
    exact .stop _

/-- The arguments of a call have the same texts in both frames. -/
theorem allArguments (hframes : frame.Alike C frame') : (args : List Expr) →
    (∀ arg ∈ args, asked arg) →
    Agree S Eq (Evaluator.arguments settings frame args) (Evaluator.arguments settings' frame' args)
  | [], _ => by
    rw [Evaluator.arguments, Evaluator.arguments]
    exact .pure rfl
  | arg :: rest, hasked => by
    rw [Evaluator.arguments, Evaluator.arguments]
    refine (fieldOf hframes arg (hasked arg List.mem_cons_self)).bind_eq fun field => ?_
    refine (h.textOf _ field).bind_eq fun text => ?_
    have hrest := allArguments hframes rest fun other hother =>
      hasked other (List.mem_cons_of_mem _ hother)
    exact hrest.bind_eq fun texts => .pure rfl

end

/-- An expression that may be asked for has the same text in both frames. -/
theorem textAt (hframes : frame.Alike C frame') (subject : String) {expr : Expr}
    (hasked : asked expr) :
    Agree S Eq (textAt settings frame subject expr) (textAt settings' frame' subject expr) :=
  (h.fieldOf hframes expr hasked).bind_eq fun field => h.textOf subject field

end SameAnswers

end

/-! ## Questions, templates in memory, and the log -/

section

variable {S : Session → Session → Prop}

/-- The same answer to a question, recorded in any way that keeps the relation. -/
theorem ask_agree {context context' : Context} {key : String} {args : List String}
    {subject : Value}
    (hanswer : (context'.lookup key args subject).answer = (context.lookup key args subject).answer)
    (hcalls : ∀ {session session' : Session}, S session session' →
      S { session with calls := session.calls ++ (context.lookup key args subject).calls }
        { session' with calls := session'.calls ++ (context'.lookup key args subject).calls }) :
    Agree S Eq (Render.ask context key args subject) (Render.ask context' key args subject) := by
  intro session session' hsessions
  have hasked := hcalls hsessions
  unfold Render.ask
  dsimp only
  rw [hanswer]
  rcases (context.lookup key args subject).answer with reason | (field | messages | failure)
  · exact .stopped reason hasked
  · exact .value rfl hasked
  · exact .failed _ hasked
  · exact .failed failure hasked

/-- The result of a load is taken into an evaluation in one way. -/
theorem given_agree {settings : Settings} (identifier : String) (result : Except Stop Template) :
    Agree S Eq (given settings identifier result) (given settings identifier result) := by
  rcases result with (fault | misuse) | template
  · exact .failWith _
  · exact .stop _
  · exact .pure rfl

/-- Where both sessions have the same templates in memory, the same one is loaded in both. -/
theorem load_agree_of_held {settings : Settings} {held : Option MemoryStore}
    (hstores : ∀ {session session' : Session}, S session session' →
      session.store = held.map .memory ∧ session'.store = held.map .memory)
    (identifier : String) :
    Agree S (fun template template' => template = template' ∧
      ∃ store ∈ held, (identifier, template) ∈ store.entries)
      (load settings identifier) (load settings identifier) := by
  intro session session' hsessions
  obtain ⟨hstore, hstore'⟩ := hstores hsessions
  cases held with
  | none =>
    unfold load
    rw [hstore, hstore']
    exact Agree.failWith _ session session' hsessions
  | some store =>
    rw [load_memory hstore, load_memory hstore']
    unfold MemoryStore.load
    cases hfind : store.find? identifier with
    | some template =>
      exact .value ⟨rfl, store, rfl, MemoryStore.mem_of_find hfind⟩ hsessions
    | none =>
      -- no template is given, so there is none that would have to be held
      dsimp only
      rcases settings.reporter.stop Code.templateNotFound _ with fault | misuse
      · exact Agree.failWith _ session session' hsessions
      · exact Agree.stop _ session session' hsessions

/-- The relation between sessions is kept where the same is recorded in both. -/
def Askable (S : Session → Session → Prop) : Prop :=
  ∀ {session session' : Session}, S session session' → ∀ calls,
    S { session with calls := session.calls ++ calls }
      { session' with calls := session'.calls ++ calls }

/-- Then all questions about the same subject in the same context have the same answers. -/
theorem Askable.sameAnswers (h : Askable S) (settings : Settings) :
    SameAnswers settings settings S Eq fun _ => True := by
  have hlookup : ∀ {frame frame' : Frame}, frame.Alike Eq frame' → ∀ key args,
      Agree S Eq (lookup settings frame key args) (lookup settings frame' key args) := by
    intro frame frame' hframes key args
    unfold lookup
    rw [hframes.subject, ← hframes.context]
    exact ask_agree rfl fun hsessions => h hsessions _
  exact ⟨rfl, fun hframes _ => hlookup hframes _ [], fun hframes _ texts => hlookup hframes _ texts,
    fun _ _ _ => trivial⟩

/-- The relation between sessions is kept where the same is logged in both. -/
def Loggable (S : Session → Session → Prop) : Prop :=
  ∀ {session session' : Session}, S session session' → ∀ lines,
    S { session with lines := session.lines ++ lines }
      { session' with lines := session'.lines ++ lines }

/-- An event is logged on both sides, in the same words. -/
theorem Loggable.note (h : Loggable S) (log : Option RenderLogger) (event : Log.RenderEvent) :
    Agree S Eq (RenderLogger.note log event) (RenderLogger.note log event) := by
  cases log with
  | none => exact .pure rfl
  | some log =>
    refine (Agree.ofExcept _).bind_eq fun lines => fun _ _ hsessions => ?_
    exact .value rfl (h hsessions lines)

/-- So is the failure of a condition. -/
theorem Loggable.noteCondition (h : Loggable S) (settings : Settings) (test : Expr)
    (failure : Failure) : Agree S Eq (noteCondition settings test failure)
      (noteCondition settings test failure) := by
  unfold Evaluator.noteCondition
  split
  · exact (Agree.ofExcept _).bind_eq fun trail => h.note _ _
  · exact .pure rfl

end

/-! ## What has to be shown -/

section

variable {settings settings' : Settings} {S : Session → Session → Prop}
  {F : Failure → Failure → Prop} {C : Context → Context → Prop} {asked named : Expr → Prop}
  {known : String → Prop}

/-- What keeps two evaluations in the relations `S` of their sessions, `F` of their failures and `C`
of their contexts. -/
structure Simulation (settings settings' : Settings) (S : Session → Session → Prop)
    (F : Failure → Failure → Prop) (C : Context → Context → Prop) (asked named : Expr → Prop)
    (known : String → Prop) : Prop extends SameAnswers settings settings' S C asked where
  limit : settings'.limit = settings.limit
  tolerant : Tolerant F
  surrounding : Surrounding C
  name : ∀ {frame frame' : Frame} {expr : Expr}, frame.Alike C frame' → named expr → ∀ subject,
    Agree S (fun text text' => text = text' ∧ known text)
      (Evaluator.textAt settings frame subject expr)
      (Evaluator.textAt settings' frame' subject expr)
  load : ∀ {identifier : String}, known identifier →
    Matches S F (fun template template' => template = template' ∧ template.Only asked named)
      (Evaluator.load settings identifier) (Evaluator.load settings' identifier)
  included : ∀ identifier depth,
    Agree S Eq (RenderLogger.note settings.log (.included identifier depth))
      (RenderLogger.note settings'.log (.included identifier depth))
  condition : ∀ test failure,
    Agree S Eq (noteCondition settings test failure) (noteCondition settings' test failure)

namespace Simulation

/-- Of what a relation between sessions leaves open, nothing comes through to the ending, if
questions and lines of the log keep it, and loads that are the same in both. -/
theorem of_sessions (hasks : Askable S) (hlogs : Loggable S)
    (hloads : ∀ identifier, Agree S Eq (Evaluator.load settings identifier)
      (Evaluator.load settings identifier)) :
    Simulation settings settings S Eq Eq (fun _ => True) (fun _ => True) fun _ => True where
  toSameAnswers := hasks.sameAnswers settings
  limit := rfl
  tolerant := .eq
  surrounding := .eq
  name hframes _ subject := ((hasks.sameAnswers settings).textAt hframes subject trivial).mono
    fun _ _ hsame => ⟨hsame, trivial⟩
  load {identifier} _ := ((hloads identifier).mono fun _ _ hsame =>
    ⟨hsame, Element.allOnly_of_forall (fun _ => trivial) (fun _ => trivial) _⟩).matches .eq
  included _ _ := hlogs.note _ _
  condition := hlogs.noteCondition settings

variable (h : Simulation settings settings' S F C asked named known) {frame frame' : Frame}

include h

/-- A test decides alike in both frames. -/
theorem isPresent (hframes : frame.Alike C frame') {test : Expr} (hasked : asked test) :
    Agree S Eq (isPresent settings frame test) (isPresent settings' frame' test) := by
  refine isPresent_same (fun _ => True) ?_ fun failure _ _ => h.condition test failure
  exact (h.fieldOf hframes test hasked).attempt.mono fun _ _ hsame => ⟨hsame, fun _ _ => trivial⟩

/-- What has to be shown of the constructs of a template follows from what is known of questions,
loads and the log. -/
theorem parallel : Parallel settings settings' S F (Frame.Alike C) (Element.Only asked named) where
  reporter := h.reporter
  tolerant := h.tolerant
  origin hframes := hframes.origin
  value hframes hasked := (h.textAt hframes _ hasked).matches h.tolerant
  test hframes honly := (h.isPresent hframes honly.1).matches h.tolerant
  branches honly := ⟨Element.allOnly_iff.1 honly.2.1, Element.allOnly?_iff.1 honly.2.2⟩
  head {_ _ source _ _} hframes honly := by
    refine head_matches (fun _ => True) h.reporter h.tolerant (Agree.matches ?_ h.tolerant)
      fun field _ => h.surrounding.loopFrames hframes field
    exact (h.fieldOf hframes source honly.1).mono fun _ _ hsame => ⟨hsame, trivial⟩
  bodies honly := ⟨Element.allOnly_iff.1 honly.2.1, Element.allOnly?_iff.1 honly.2.2⟩
  inclusion hframes hnamed henter := by
    refine inclusion_matches h.tolerant hframes.subject hframes.depth
      ((h.name hframes hnamed _).matches h.tolerant)
      ((checkDepth_agree h.reporter h.limit _).matches h.tolerant)
      (fun identifier hknown => h.load hknown)
      (fun identifier depth => (h.included identifier depth).matches h.tolerant)
      fun template htemplate => ?_
    exact henter _ _ template
      ⟨hframes.context, hframes.subject, rfl, congrArg (· + 1) hframes.depth⟩
      (Element.allOnly_iff.1 htemplate)

/-- Elements are evaluated side by side, whatever room there is for inclusions. -/
theorem within (room : Nat) {body : List Element} (honly : AllOnly asked named body)
    (hframes : frame.Alike C frame') :
    Matches S F Eq (within settings room frame body) (within settings' room frame' body) :=
  h.parallel.within room body frame frame' (Element.allOnly_iff.1 honly) hframes

/-- A template is evaluated side by side, where there is the same room for inclusions. -/
theorem evaluate {template : Template} (htemplate : template.Only asked named)
    {context context' : Context} (hcontext : C context context') (subject : Value)
    {session session' : Session} (hsessions : S session session')
    (hroom : session'.room = session.room) :
    MatchAt S F Eq (evaluate settings template context subject session)
      (evaluate settings' template context' subject session') :=
  h.parallel.evaluate (Element.allOnly_iff.1 htemplate) ⟨hcontext, rfl, rfl, rfl⟩ hsessions hroom

end Simulation

end

end Evaluator

end Inlay
