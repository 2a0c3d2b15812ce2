import Inlay.Proofs.Render.Agreeing
import Inlay.Proofs.Render.View

/-!
# Evaluations that run in parallel

Two evaluations of one template run in parallel if each construct in it comes to the same in both.
What the two have in common is told by relations: between their sessions, between their frames, and
between the failures that they come to. `Parallel` lists what has to be shown of the constructs;
then whole evaluations end in ways that match (`Parallel.within`).
-/

namespace Inlay

namespace Render

/-! ## Steps that match -/

section

variable {α β γ δ : Type} {S : Session → Session → Prop} {F : Failure → Failure → Prop}

/-- Two steps have ended in the same way, where failures need not be the same but in a relation. -/
inductive MatchAt (S : Session → Session → Prop) (F : Failure → Failure → Prop)
    (R : α → β → Prop) : Ending α × Session → Ending β × Session → Prop where
  | value {a : α} {b : β} {after after' : Session} (related : R a b) (sessions : S after after') :
    MatchAt S F R (.value a, after) (.value b, after')
  | failed {failure failure' : Failure} {after after' : Session} (related : F failure failure')
    (sessions : S after after') : MatchAt S F R (.failed failure, after) (.failed failure', after')
  | stopped (reason : Stop) {after after' : Session} (sessions : S after after') :
    MatchAt S F R (.stopped reason, after) (.stopped reason, after')

/-- From sessions in the relation, two steps end in ways that match and leave such sessions. -/
def Matches (S : Session → Session → Prop) (F : Failure → Failure → Prop) (R : α → β → Prop)
    (first : Render α) (second : Render β) : Prop :=
  ∀ session session', S session session' → MatchAt S F R (first session) (second session')

/-- A relation between failures that holds of one and the same, and of failures below the same
breadcrumb. -/
structure Tolerant (F : Failure → Failure → Prop) : Prop where
  refl : ∀ failure, F failure failure
  below : ∀ {failure failure'}, F failure failure' → ∀ breadcrumb,
    F (failure.below breadcrumb) (failure'.below breadcrumb)

/-- A failure stays itself under any breadcrumb. -/
theorem Tolerant.eq : Tolerant Eq := ⟨fun _ => rfl, fun h _ => h ▸ rfl⟩

variable {R : α → β → Prop} {T : γ → δ → Prop} {first : Render α} {second : Render β}

/-- Steps that agree match, whatever failures are taken to be the same. -/
theorem Agree.matches (h : Agree S R first second) (htolerant : Tolerant F) :
    Matches S F R first second := by
  intro session session' sessions
  have hstep := h session session' sessions
  generalize first session = ended, second session' = ended' at hstep
  cases hstep with
  | value related sessions => exact .value related sessions
  | failed failure sessions => exact .failed (htolerant.refl failure) sessions
  | stopped reason sessions => exact .stopped reason sessions

/-- Steps that match up to failures that are the same agree. -/
theorem Matches.agree (h : Matches S Eq R first second) : Agree S R first second := by
  intro session session' sessions
  have hstep := h session session' sessions
  generalize first session = ended, second session' = ended' at hstep
  cases hstep with
  | value related sessions => exact .value related sessions
  | failed related sessions => exact related ▸ .failed _ sessions
  | stopped reason sessions => exact .stopped reason sessions

namespace Matches

theorem pure {a : α} {b : β} (h : R a b) :
    Matches S F R (Pure.pure a : Render α) (Pure.pure b) :=
  fun _ _ sessions => .value h sessions

theorem stop (reason : Stop) : Matches S F R (Render.stop reason) (Render.stop reason) :=
  fun _ _ sessions => .stopped reason sessions

/-- Matching steps with matching steps behind them match. -/
theorem bind {next : α → Render γ} {next' : β → Render δ} (h : Matches S F R first second)
    (hnext : ∀ a b, R a b → Matches S F T (next a) (next' b)) :
    Matches S F T (first >>= next) (second >>= next') := by
  intro session session' sessions
  have hstep := h session session' sessions
  generalize hfirst : first session = ended, hsecond : second session' = ended' at hstep
  cases hstep with
  | value related sessions =>
    rw [bind_of_value hfirst, bind_of_value hsecond]
    exact hnext _ _ related _ _ sessions
  | failed related sessions =>
    rw [bind_of_failed hfirst, bind_of_failed hsecond]
    exact .failed related sessions
  | stopped reason sessions =>
    rw [bind_of_stopped hfirst, bind_of_stopped hsecond]
    exact .stopped reason sessions

/-- Where the values are equal, the steps behind them need match at equal values only. -/
theorem bind_eq {first second : Render α} {next : α → Render γ} {next' : α → Render δ}
    (h : Matches S F Eq first second) (hnext : ∀ a, Matches S F T (next a) (next' a)) :
    Matches S F T (first >>= next) (second >>= next') := by
  refine h.bind ?_
  rintro a _ rfl
  exact hnext a

/-- A breadcrumb keeps two steps matched if failures may be put below one. -/
theorem under (h : Matches S F R first second) (htolerant : Tolerant F) (breadcrumb : String) :
    Matches S F R (first.under breadcrumb) (second.under breadcrumb) := by
  intro session session' sessions
  have hstep := h session session' sessions
  generalize hfirst : first session = ended, hsecond : second session' = ended' at hstep
  cases hstep with
  | value related sessions =>
    rw [under_of_value hfirst, under_of_value hsecond]
    exact .value related sessions
  | failed related sessions =>
    rw [under_of_failed hfirst, under_of_failed hsecond]
    exact .failed (htolerant.below related breadcrumb) sessions
  | stopped reason sessions =>
    rw [under_of_stopped hfirst, under_of_stopped hsecond]
    exact .stopped reason sessions

/-- So does one that may not be told, which stops both sides. -/
theorem underTold (h : Matches S F R first second) (htolerant : Tolerant F)
    (breadcrumb : Except Misuse String) :
    Matches S F R (first.underTold breadcrumb) (second.underTold breadcrumb) := by
  cases breadcrumb with
  | ok breadcrumb =>
    rw [underTold_ok, underTold_ok]
    exact h.under htolerant breadcrumb
  | error misuse =>
    -- a failure that cannot be told stops both, whatever it is
    intro session session' sessions
    have hstep := h session session' sessions
    unfold Render.underTold
    generalize first session = ended, second session' = ended' at hstep
    cases hstep with
    | value related sessions => exact .value related sessions
    | failed related sessions => exact .stopped _ sessions
    | stopped reason sessions => exact .stopped reason sessions

end Matches

end

end Render

namespace Evaluator

open Template Element
open Render (Agree Matches MatchAt Tolerant)

section

variable {settings settings' : Settings} {S : Session → Session → Prop}
  {F : Failure → Failure → Prop} {A : Frame → Frame → Prop} {frame frame' : Frame}

/-! ## Conditions, loops and inclusions -/

/-- A test decides alike in both frames, if its field is the same or fails in the same way, and this
can be noted in both. -/
theorem isPresent_same (noted : Failure → Prop) {test : Expr}
    (hfield : Agree S (fun result result' => result = result' ∧
        ∀ failure, result = .error failure → noted failure)
      (fieldOf settings frame test).attempt (fieldOf settings' frame' test).attempt)
    (hnote : ∀ failure, noted failure → failure.isSoft = false →
      Agree S Eq (noteCondition settings test failure) (noteCondition settings' test failure)) :
    Agree S Eq (isPresent settings frame test) (isPresent settings' frame' test) := by
  unfold isPresent
  refine hfield.bind ?_
  rintro result _ ⟨rfl, hnoted⟩
  cases result with
  | ok field => exact .pure rfl
  | error failure =>
    dsimp only
    split
    · exact .pure rfl
    · next hhard =>
      have hsame := hnote failure (hnoted failure rfl) (Bool.not_eq_true _ ▸ hhard)
      exact hsame.bind_eq fun _ => .pure rfl

/-- A loop has frames that are related, if these are so that the fields of its list lead to. -/
theorem head_matches (good : Field → Prop) {source : Expr}
    (hreporter : settings'.reporter = settings.reporter) (htolerant : Tolerant F)
    (hfield : Matches S F (fun field field' => field = field' ∧ good field)
      (fieldOf settings frame source) (fieldOf settings' frame' source))
    (hframes : ∀ field, good field → Option.Rel (List.Forall₂ (Except.Alike A))
      (loopFrames frame field) (loopFrames frame' field)) :
    Matches S F (List.Forall₂ (Except.Alike A))
      (Render.under (Breadcrumb.inLoopHead source) (fieldOf settings frame source) >>=
        framesOf settings frame source)
      (Render.under (Breadcrumb.inLoopHead source) (fieldOf settings' frame' source) >>=
        framesOf settings' frame' source) := by
  refine (hfield.under htolerant _).bind ?_
  rintro field _ ⟨rfl, hgood⟩
  have hmembers := hframes field hgood
  unfold framesOf
  rw [hreporter]
  generalize loopFrames frame field = members, loopFrames frame' field = members' at hmembers
  cases hmembers with
  | none => exact ((Agree.failWith _).under _).matches htolerant
  | some hmembers => exact .pure hmembers

/-- A step that is taken in each of the frames in order matches another one, if it does in frames
that are related. -/
theorem inEach_matches {step step' : Frame → Render String} {frames frames' : List Frame}
    (hframes : List.Forall₂ A frames frames')
    (hstep : ∀ inner inner', A inner inner' → Matches S F Eq (step inner) (step' inner')) :
    Matches S F Eq (inEach step frames) (inEach step' frames') := by
  induction hframes with
  | nil =>
    rw [inEach, inEach]
    exact .pure rfl
  | cons hinner _ ih =>
    rw [inEach, inEach]
    refine (hstep _ _ hinner).bind_eq fun text => ?_
    exact ih.bind_eq fun texts => .pure rfl

/-- The depth is checked against the same limit, and told in the same words. -/
theorem checkDepth_agree (hreporter : settings'.reporter = settings.reporter)
    (hlimit : settings'.limit = settings.limit) (depth : Nat) :
    Agree S Eq (checkDepth settings depth) (checkDepth settings' depth) := by
  unfold checkDepth
  rw [hlimit, hreporter]
  split
  · exact .pure rfl
  · split
    · exact .failWith _
    · exact .pure rfl

/-- An inclusion matches another one, if its name, the check, the load and the log do, and what the
templates that are loaded hold. -/
theorem inclusion_matches {enter enter' : Enter} {name : Expr} {known : String → Prop}
    {loaded : Template → Prop} (htolerant : Tolerant F)
    (hsubject : frame'.subject = frame.subject) (hdepth : frame'.depth = frame.depth)
    (hname : Matches S F (fun text text' => text = text' ∧ known text)
      (textAt settings frame (Breadcrumb.inclusionSubject name) name)
      (textAt settings' frame' (Breadcrumb.inclusionSubject name) name))
    (hcheck : Matches S F Eq (checkDepth settings frame.depth) (checkDepth settings' frame.depth))
    (hload : ∀ identifier, known identifier →
      Matches S F (fun template template' => template = template' ∧ loaded template)
        (load settings identifier) (load settings' identifier))
    (hnote : ∀ identifier depth,
      Matches S F Eq (RenderLogger.note settings.log (.included identifier depth))
        (RenderLogger.note settings'.log (.included identifier depth)))
    (henter : ∀ template, loaded template →
      Matches S F Eq (enter (frame.including template) template.elements)
        (enter' (frame'.including template) template.elements)) :
    Matches S F Eq (inclusion settings enter frame name)
      (inclusion settings' enter' frame' name) := by
  unfold inclusion
  rw [hdepth, hsubject]
  refine (hname.under htolerant _).bind ?_
  rintro identifier _ ⟨rfl, hknown⟩
  refine Matches.under (hcheck.bind_eq fun _ => ?_) htolerant _
  refine (hload identifier hknown).bind ?_
  rintro template _ ⟨rfl, htemplate⟩
  refine (hnote identifier _).bind_eq fun _ => ?_
  have hentered := (henter template htemplate).underTold htolerant
    (frame.subject.identifier.map (Breadcrumb.framing template.origin))
  rwa [Frame.including, Frame.including, hdepth, hsubject] at hentered

end

/-! ## What has to be shown -/

section

variable {settings settings' : Settings} {S : Session → Session → Prop}
  {F : Failure → Failure → Prop} {A : Frame → Frame → Prop} {fine : Element → Prop}

/-- What is to be shown of each construct for two evaluations to run in parallel, in frames that are
in the relation `A` and for elements that are `fine`. -/
structure Parallel (settings settings' : Settings) (S : Session → Session → Prop)
    (F : Failure → Failure → Prop) (A : Frame → Frame → Prop) (fine : Element → Prop) : Prop where
  reporter : settings'.reporter = settings.reporter
  tolerant : Tolerant F
  origin : ∀ {frame frame' : Frame}, A frame frame' → frame'.origin = frame.origin
  value : ∀ {frame frame' : Frame} {expr : Expr}, A frame frame' → fine (.value expr) →
    Matches S F Eq (textAt settings frame (Breadcrumb.exprSubject expr) expr)
      (textAt settings' frame' (Breadcrumb.exprSubject expr) expr)
  test : ∀ {frame frame' : Frame} {test : Expr} {whenPresent : List Element}
    {whenAbsent : Option (List Element)}, A frame frame' →
    fine (.cond test whenPresent whenAbsent) →
    Matches S F Eq (isPresent settings frame test) (isPresent settings' frame' test)
  branches : ∀ {test : Expr} {whenPresent : List Element} {whenAbsent : Option (List Element)},
    fine (.cond test whenPresent whenAbsent) →
    (∀ element ∈ whenPresent, fine element) ∧ ∀ body ∈ whenAbsent, ∀ element ∈ body, fine element
  head : ∀ {frame frame' : Frame} {source : Expr} {body : List Element}
    {separator : Option (List Element)}, A frame frame' → fine (.loop source body separator) →
    Matches S F (List.Forall₂ (Except.Alike A))
      (Render.under (Breadcrumb.inLoopHead source) (fieldOf settings frame source) >>=
        framesOf settings frame source)
      (Render.under (Breadcrumb.inLoopHead source) (fieldOf settings' frame' source) >>=
        framesOf settings' frame' source)
  bodies : ∀ {source : Expr} {body : List Element} {separator : Option (List Element)},
    fine (.loop source body separator) →
    (∀ element ∈ body, fine element) ∧ ∀ between ∈ separator, ∀ element ∈ between, fine element
  inclusion : ∀ {enter enter' : Enter} {frame frame' : Frame} {name : Expr}, A frame frame' →
    fine (.inclusion name) →
    (∀ inner inner' (template : Template), A inner inner' →
      (∀ element ∈ template.elements, fine element) →
      Matches S F Eq (enter inner template.elements) (enter' inner' template.elements)) →
    Matches S F Eq (inclusion settings enter frame name) (inclusion settings' enter' frame' name)

namespace Parallel

/-! ## Elements -/

section

variable {enter enter' : Enter}

mutual

/-- An element comes to the same in both frames, if what inclusions enter does. -/
theorem element (h : Parallel settings settings' S F A fine)
    (henter : ∀ inner inner' (template : Template), A inner inner' →
      (∀ element ∈ template.elements, fine element) →
      Matches S F Eq (enter inner template.elements) (enter' inner' template.elements)) :
    (element : Element) → fine element → (frame frame' : Frame) → A frame frame' →
    Matches S F Eq (Evaluator.element settings enter frame element)
      (Evaluator.element settings' enter' frame' element)
  | .chunk text, _, _, _, _ => by
    rw [Evaluator.element, Evaluator.element]
    exact .pure rfl
  | .dollar, _, _, _, _ => by
    rw [Evaluator.element, Evaluator.element]
    exact .pure rfl
  | .value expr, hfine, _, _, hframes => by
    rw [Evaluator.element, Evaluator.element]
    exact (h.value hframes hfine).under h.tolerant _
  | .cond test whenPresent whenAbsent, hfine, frame, frame', hframes => by
    obtain ⟨hpresent, habsent⟩ := h.branches hfine
    have hthen := elements h henter whenPresent hpresent frame frame' hframes
    have helse := optional h henter whenAbsent habsent frame frame' hframes
    rw [Evaluator.element, Evaluator.element]
    refine (h.test hframes hfine).bind_eq fun present => ?_
    cases present with
    | true => exact hthen
    | false => exact helse
  | .loop source body separator, hfine, frame, frame', hframes => by
    obtain ⟨hbody, hseparator⟩ := h.bodies hfine
    rw [Evaluator.element, Evaluator.element, ← Render.bind_assoc, ← Render.bind_assoc]
    refine (h.head hframes hfine).bind fun members members' hmembers => ?_
    -- the separator sees what the loop sees, and each repetition what its own frame does
    refine Matches.under ?_ h.tolerant _
    refine (optional h henter separator hseparator frame frame' hframes).bind_eq fun text => ?_
    refine ((Agree.ofStop (.mapM hmembers)).matches h.tolerant).bind fun inner inner' hinner => ?_
    have hrepetitions := inEach_matches hinner fun repetition repetition' hrepetition =>
      elements h henter body hbody repetition repetition' hrepetition
    exact hrepetitions.bind_eq fun texts => .pure rfl
  | .inclusion name, hfine, _, _, hframes => by
    rw [Evaluator.element, Evaluator.element]
    exact h.inclusion hframes hfine henter
  | .trimLeft, _, _, _, hframes => by
    rw [Evaluator.element, Evaluator.element, unresolvedMark, unresolvedMark, h.origin hframes,
      h.reporter]
    exact .stop _
  | .trimRight, _, _, _, hframes => by
    rw [Evaluator.element, Evaluator.element, unresolvedMark, unresolvedMark, h.origin hframes,
      h.reporter]
    exact .stop _
  | .foreign kind, _, _, _, _ => by
    rw [Evaluator.element, Evaluator.element, h.reporter]
    exact .stop _

/-- Elements match if each construct does. -/
theorem elements (h : Parallel settings settings' S F A fine)
    (henter : ∀ inner inner' (template : Template), A inner inner' →
      (∀ element ∈ template.elements, fine element) →
      Matches S F Eq (enter inner template.elements) (enter' inner' template.elements)) :
    (body : List Element) → (∀ element ∈ body, fine element) → (frame frame' : Frame) →
    A frame frame' → Matches S F Eq (Evaluator.elements settings enter frame body)
      (Evaluator.elements settings' enter' frame' body)
  | [], _, _, _, _ => by
    rw [Evaluator.elements, Evaluator.elements]
    exact .pure rfl
  | first :: rest, hfine, frame, frame', hframes => by
    obtain ⟨hfirst, hrest⟩ := List.forall_mem_cons.1 hfine
    rw [Evaluator.elements, Evaluator.elements]
    refine (element h henter first hfirst frame frame' hframes).bind_eq fun text => ?_
    exact (elements h henter rest hrest frame frame' hframes).bind_eq fun texts => .pure rfl

/-- So does a body that may be absent on both sides. -/
theorem optional (h : Parallel settings settings' S F A fine)
    (henter : ∀ inner inner' (template : Template), A inner inner' →
      (∀ element ∈ template.elements, fine element) →
      Matches S F Eq (enter inner template.elements) (enter' inner' template.elements)) :
    (body : Option (List Element)) → (∀ elements ∈ body, ∀ element ∈ elements, fine element) →
    (frame frame' : Frame) → A frame frame' →
    Matches S F Eq (Evaluator.optional settings enter frame body)
      (Evaluator.optional settings' enter' frame' body)
  | none, _, _, _, _ => by
    rw [Evaluator.optional, Evaluator.optional]
    exact .pure rfl
  | some body, hfine, frame, frame', hframes => by
    rw [Evaluator.optional, Evaluator.optional]
    exact elements h henter body (hfine body rfl) frame frame' hframes

end

end

/-! ## Templates -/

/-- Elements are evaluated in parallel, whatever room there is for inclusions. -/
theorem within (h : Parallel settings settings' S F A fine) (room : Nat) : ∀ body frame frame',
    (∀ element ∈ body, fine element) → A frame frame' →
      Matches S F Eq (within settings room frame body) (within settings' room frame' body) := by
  -- an inclusion goes on in other frames, so the induction is on the room for all of them
  induction room with
  | zero =>
    intro body frame frame' hfine hframes
    rw [Evaluator.within, Evaluator.within]
    exact h.elements (fun _ _ _ _ _ => .stop _) body hfine frame frame' hframes
  | succ room ih =>
    intro body frame frame' hfine hframes
    rw [Evaluator.within, Evaluator.within]
    refine h.elements (fun inner inner' template hinner hfine => ?_) body hfine frame frame' hframes
    exact ih template.elements inner inner' hfine hinner

/-- A template is evaluated in parallel, where there is the same room for inclusions. -/
theorem evaluate (h : Parallel settings settings' S F A fine) {template : Template}
    (hfine : ∀ element ∈ template.elements, fine element) {context context' : Context}
    {subject subject' : Value} {session session' : Session}
    (hframes : A ⟨context, subject, template.origin, 0⟩ ⟨context', subject', template.origin, 0⟩)
    (hsessions : S session session') (hroom : session'.room = session.room) :
    MatchAt S F Eq (evaluate settings template context subject session)
      (evaluate settings' template context' subject' session') := by
  unfold Evaluator.evaluate
  rw [hroom]
  exact h.within session.room template.elements _ _ hfine hframes session session' hsessions

end Parallel

end

end Evaluator

end Inlay
