import Inlay.Proofs.Render.View

/-!
# Inclusions that are reached

`ElementsReach` says of a list of elements that its evaluation comes to an inclusion of a kind. The
rules follow the order of evaluation alone, and not what comes of the inclusion; so an inclusion
that is reached may or may not show in how the elements end.

Main statement: elements are evaluated to the same wherever the inclusions that they come to do the
same (`elements_congr`).
-/

namespace Inlay.Evaluator

open Template

/-! ## Reaching an inclusion -/

section

variable (settings : Settings) (enter : Enter) (site : Frame → Expr → Session → Prop)

mutual

/-- The evaluation of an element comes to an inclusion of the kind `site`. -/
inductive ElementReaches : Frame → Element → Session → Prop where
  | whenPresent {frame : Frame} {test : Expr} {body : List Element}
    {other : Option (List Element)} {session between : Session}
    (hpresent : isPresent settings frame test session = (.value true, between))
    (hbody : ElementsReach frame body between) :
    ElementReaches frame (.cond test body other) session
  | whenAbsent {frame : Frame} {test : Expr} {body other : List Element}
    {session between : Session}
    (habsent : isPresent settings frame test session = (.value false, between))
    (hbody : ElementsReach frame other between) :
    ElementReaches frame (.cond test body (some other)) session
  | separator {frame : Frame} {source : Expr} {body separator : List Element} {field : Field}
    {members : List (Except Stop Frame)} {session between : Session}
    (hvalue : fieldOf settings frame source session = (.value field, between))
    (hmembers : loopFrames frame field = some members)
    (hseparator : ElementsReach frame separator between) :
    ElementReaches frame (.loop source body (some separator)) session
  | repetition {frame : Frame} {source : Expr} {body : List Element}
    {separator : Option (List Element)} {field : Field} {members : List (Except Stop Frame)}
    {frames : List Frame} {text : String} {session between separated : Session}
    (hvalue : fieldOf settings frame source session = (.value field, between))
    (hmembers : loopFrames frame field = some members)
    (hseparator : optional settings enter frame separator between = (.value text, separated))
    (hframes : members.mapM id = .ok frames)
    (hrepetition : RepetitionsReach body frames separated) :
    ElementReaches frame (.loop source body separator) session
  | inclusion {frame : Frame} {name : Expr} {session : Session}
    (hsite : site frame name session) :
    ElementReaches frame (.inclusion name) session

/-- The evaluation of elements comes to an inclusion of the kind `site`. -/
inductive ElementsReach : Frame → List Element → Session → Prop where
  | first {frame : Frame} {first : Element} {rest : List Element} {session : Session}
    (hfirst : ElementReaches frame first session) :
    ElementsReach frame (first :: rest) session
  | later {frame : Frame} {first : Element} {rest : List Element} {text : String}
    {session between : Session}
    (hfirst : element settings enter frame first session = (.value text, between))
    (hlater : ElementsReach frame rest between) :
    ElementsReach frame (first :: rest) session

/-- The repetitions of a body come to an inclusion of the kind `site`. -/
inductive RepetitionsReach : List Element → List Frame → Session → Prop where
  | first {frame : Frame} {rest : List Frame} {body : List Element} {session : Session}
    (hfirst : ElementsReach frame body session) :
    RepetitionsReach body (frame :: rest) session
  | later {frame : Frame} {rest : List Frame} {body : List Element} {text : String}
    {session between : Session}
    (hfirst : elements settings enter frame body session = (.value text, between))
    (hlater : RepetitionsReach body rest between) :
    RepetitionsReach body (frame :: rest) session

end

end

/-! ## Singling out an inclusion -/

/-- A way of coming to inclusions comes to a certain one of the kind `site`, at a depth. -/
def SinglesOut (site : Frame → Expr → Session → Prop) (depth : Nat)
    (reaches : (Frame → Expr → Session → Prop) → Prop) : Prop :=
  ∃ frame name session, site frame name session ∧ frame.depth = depth ∧
    ∀ site', site' frame name session → reaches site'

/-- What comes to an inclusion comes to it on every way that leads on from there. -/
theorem SinglesOut.mono {site : Frame → Expr → Session → Prop} {depth : Nat}
    {reaches reaches' : (Frame → Expr → Session → Prop) → Prop} (h : SinglesOut site depth reaches)
    (himp : ∀ site', reaches site' → reaches' site') : SinglesOut site depth reaches' := by
  obtain ⟨frame, name, session, hsite, hdepth, hreaches⟩ := h
  exact ⟨frame, name, session, hsite, hdepth, fun site' h' => himp site' (hreaches site' h')⟩

section

variable {settings : Settings} {enter : Enter} {site : Frame → Expr → Session → Prop} {depth : Nat}

/-- Repetitions that come to an inclusion of a kind come to a certain one. -/
theorem repetitionsReach_singlesOut {body : List Element}
    (hbody : ∀ frame session, frame.depth = depth →
      ElementsReach settings enter site frame body session →
      SinglesOut site depth fun site' => ElementsReach settings enter site' frame body session) :
    (frames : List Frame) → (∀ frame ∈ frames, frame.depth = depth) → (session : Session) →
    RepetitionsReach settings enter site body frames session →
    SinglesOut site depth fun site' => RepetitionsReach settings enter site' body frames session
  | [], _, _, hreach => nomatch hreach
  | frame :: rest, hdepth, session, hreach => by
    cases hreach with
    | first hfirst =>
      exact (hbody frame session (hdepth frame List.mem_cons_self) hfirst).mono fun _ => .first
    | later htext hlater =>
      have hrest : ∀ inner ∈ rest, inner.depth = depth := fun inner hinner =>
        hdepth inner (List.mem_cons_of_mem frame hinner)
      exact (repetitionsReach_singlesOut hbody rest hrest _ hlater).mono fun _ => .later htext

mutual

/-- The inclusion that an element comes to is as deep as the element itself. -/
theorem elementReaches_singlesOut : (element : Element) → (frame : Frame) → frame.depth = depth →
    (session : Session) → ElementReaches settings enter site frame element session →
    SinglesOut site depth fun site' => ElementReaches settings enter site' frame element session
  | .cond test whenPresent whenAbsent, frame, hdepth, session, hreach => by
    cases hreach with
    | whenPresent hpresent hbody =>
      exact (elementsReach_singlesOut whenPresent frame hdepth _ hbody).mono
        fun _ => .whenPresent hpresent
    | whenAbsent habsent hbody =>
      exact (elementsReach_singlesOut _ frame hdepth _ hbody).mono fun _ => .whenAbsent habsent
  | .loop source body separator, frame, hdepth, session, hreach => by
    cases hreach with
    | separator hvalue hmembers hseparator =>
      exact (elementsReach_singlesOut _ frame hdepth _ hseparator).mono
        fun _ => .separator hvalue hmembers
    | repetition hvalue hmembers hseparator hframes hrepetition =>
      refine (repetitionsReach_singlesOut (fun inner between hinner => ?_) _
        (fun inner hinner => ?_) _ hrepetition).mono
          fun _ => .repetition hvalue hmembers hseparator hframes
      · exact elementsReach_singlesOut body inner hinner between
      · -- the repetitions are as deep as the loop
        exact (frames_placed hmembers hframes inner hinner).2.trans hdepth
  | .inclusion name, frame, hdepth, session, hreach => by
    cases hreach with
    | inclusion hsite => exact ⟨frame, name, session, hsite, hdepth, fun _ => .inclusion⟩
  | .chunk _, _, _, _, hreach | .dollar, _, _, _, hreach | .value _, _, _, _, hreach
  | .trimLeft, _, _, _, hreach | .trimRight, _, _, _, hreach | .foreign _, _, _, _, hreach =>
    nomatch hreach

/-- So do elements, at the depth of the frame that they stand in. -/
theorem elementsReach_singlesOut : (body : List Element) → (frame : Frame) →
    frame.depth = depth → (session : Session) →
    ElementsReach settings enter site frame body session →
    SinglesOut site depth fun site' => ElementsReach settings enter site' frame body session
  | [], _, _, _, hreach => nomatch hreach
  | first :: rest, frame, hdepth, session, hreach => by
    cases hreach with
    | first hfirst =>
      exact (elementReaches_singlesOut first frame hdepth session hfirst).mono fun _ => .first
    | later htext hlater =>
      exact (elementsReach_singlesOut rest frame hdepth _ hlater).mono fun _ => .later htext

end

end

/-! ## Performing an inclusion -/

/-- An inclusion is performed: its name is the text `identifier`, the limit allows for it, the
template is loaded, and the inclusion has been logged. -/
inductive Enters (settings : Settings) (frame : Frame) (name : Expr) (session : Session)
    (identifier : String) (template : Template) (noted : Session) : Prop where
  | intro {between loaded : Session}
    (htext : textAt settings frame (Breadcrumb.inclusionSubject name) name session
      = (.value identifier, between))
    (hallowed : ∀ limit ∈ settings.limit, (frame.depth : Int) < limit)
    (hload : load settings identifier between = (.value template, loaded))
    (hnote : RenderLogger.note settings.log (.included identifier (frame.depth + 1)) loaded
      = (.value (), noted))

/-- An inclusion comes to a depth that the limit does not allow. -/
def TooDeepAt (settings : Settings) (frame : Frame) (name : Expr) (session : Session) : Prop :=
  (∃ identifier between, textAt settings frame (Breadcrumb.inclusionSubject name) name session
    = (.value identifier, between)) ∧ ∃ limit ∈ settings.limit, limit ≤ frame.depth

/-- What an inclusion that is performed leads to. -/
theorem inclusion_of_enters {settings : Settings} {enter : Enter} {frame : Frame} {name : Expr}
    {session noted : Session} {identifier : String} {template : Template}
    (h : Enters settings frame name session identifier template noted) :
    inclusion settings enter frame name session
      = Render.under (Breadcrumb.inInclusion name)
        (Render.underTold (frame.subject.identifier.map (Breadcrumb.framing template.origin))
          (enter (frame.including template) template.elements)) noted := by
  obtain ⟨htext, hallowed, hload, hnote⟩ := h
  rw [inclusion, Render.bind_of_value (Render.under_of_value htext _)]
  refine Render.under_congr ?_ _
  rw [Render.bind_of_value (checkDepth_of_allowed hallowed _), Render.bind_of_value hload,
    Render.bind_of_value hnote]
  rfl

/-- Two inclusions of the same name do the same, unless they are checked or performed
differently. -/
theorem inclusion_congr {settings settings' : Settings} (hsame : settings.SameButLimit settings')
    {enter enter' : Enter} {frame : Frame} {name : Expr} {session : Session}
    (hcheck : ∀ identifier between,
      textAt settings frame (Breadcrumb.inclusionSubject name) name session
        = (.value identifier, between) →
      checkDepth settings frame.depth between = checkDepth settings' frame.depth between)
    (henter : ∀ identifier template noted,
      Enters settings frame name session identifier template noted →
      enter (frame.including template) template.elements noted
        = enter' (frame.including template) template.elements noted) :
    inclusion settings enter frame name session
      = inclusion settings' enter' frame name session := by
  rw [inclusion, inclusion, textAt_congr hsame ⟨rfl, rfl⟩, load_congr hsame, hsame.log]
  refine Render.bind_congr rfl fun identifier between hname => Render.under_congr ?_ _
  rw [Render.under_eq_value, ← textAt_congr hsame ⟨rfl, rfl⟩] at hname
  refine Render.bind_congr (hcheck identifier between hname) fun _ checked hpassed => ?_
  obtain ⟨hallowed, rfl⟩ := checkDepth_eq_value.1 hpassed
  refine Render.bind_congr rfl fun template loaded hload => ?_
  refine Render.bind_congr rfl fun _ noted hnote => Render.underTold_congr ?_ _
  rw [← load_congr hsame] at hload
  rw [← hsame.log] at hnote
  exact henter identifier template noted ⟨hname, hallowed, hload, hnote⟩

/-! ## Reaching an inclusion in included templates -/

/-- With room for so many inclusions nested in each other, the evaluation of elements comes to an
inclusion of the kind `site`, be it in a template that is included. -/
def ReachesWithin (settings : Settings) (site : Frame → Expr → Session → Prop) :
    Nat → Frame → List Element → Session → Prop
  | 0 => ElementsReach settings (fun _ _ => Render.stop (.misuse .endless)) site
  | room + 1 => ElementsReach settings (within settings room) fun frame name session =>
    site frame name session ∨ ∃ identifier template noted,
      Enters settings frame name session identifier template noted ∧
      ReachesWithin settings site room (frame.including template) template.elements noted

/-- The evaluation of a template comes to an inclusion of the kind `site`. -/
def TemplateReaches (settings : Settings) (site : Frame → Expr → Session → Prop)
    (template : Template) (context : Context) (subject : Value) (session : Session) : Prop :=
  ReachesWithin settings site session.room ⟨context, subject, template.origin, 0⟩
    template.elements session

/-! ## Elements whose inclusions do the same -/

/-- The inclusions at a depth do the same in two evaluations, those of the kind `site` apart. -/
def InclusionsAgree (settings settings' : Settings) (enter enter' : Enter)
    (site : Frame → Expr → Session → Prop) (depth : Nat) : Prop :=
  ∀ frame name session, frame.depth = depth → ¬ site frame name session →
    inclusion settings enter frame name session = inclusion settings' enter' frame name session

section

variable {settings settings' : Settings} {enter enter' : Enter}
  {site : Frame → Expr → Session → Prop} {depth : Nat}

/-- Repetitions of a body come to the same under both settings, if the body does where it is not led
astray. -/
theorem inEach_congr {body : List Element}
    (hbody : ∀ frame session, frame.depth = depth →
      ¬ ElementsReach settings enter site frame body session →
      elements settings enter frame body session = elements settings' enter' frame body session) :
    (frames : List Frame) → (∀ frame ∈ frames, frame.depth = depth) → (session : Session) →
    ¬ RepetitionsReach settings enter site body frames session →
    inEach (fun frame => elements settings enter frame body) frames session
      = inEach (fun frame => elements settings' enter' frame body) frames session
  | [], _, _, _ => rfl
  | frame :: rest, hdepth, session, hnot => by
    have hfirst := hbody frame session (hdepth frame List.mem_cons_self)
      fun hreach => hnot (.first hreach)
    rw [inEach, inEach]
    refine Render.bind_congr hfirst fun text between htext => Render.bind_congr ?_ fun _ _ _ => rfl
    refine inEach_congr hbody rest (fun inner hinner => ?_) between fun hreach => ?_
    · exact hdepth inner (List.mem_cons_of_mem frame hinner)
    · exact hnot (.later htext hreach)

mutual

/-- An element is evaluated to the same if the inclusions that it comes to do the same, and none of
the others is reached. -/
theorem element_congr (hsame : settings.SameButLimit settings')
    (hagree : InclusionsAgree settings settings' enter enter' site depth) :
    (element : Element) → (frame : Frame) → frame.depth = depth → (session : Session) →
    ¬ ElementReaches settings enter site frame element session →
    Evaluator.element settings enter frame element session
      = Evaluator.element settings' enter' frame element session
  | .chunk _, _, _, _, _ => by rw [element, element]
  | .dollar, _, _, _, _ => by rw [element, element]
  | .value expr, frame, _, _, _ => by
    rw [element, element, textAt_congr hsame ⟨rfl, rfl⟩]
  | .cond test whenPresent whenAbsent, frame, hdepth, session, hnot => by
    rw [element, element, isPresent_congr hsame ⟨rfl, rfl⟩]
    refine Render.bind_congr rfl fun present between htest => ?_
    -- where the test leads is told by the first settings
    rw [← isPresent_congr hsame ⟨rfl, rfl⟩] at htest
    cases present with
    | true =>
      exact elements_congr hsame hagree whenPresent frame hdepth between fun hreach =>
        hnot (.whenPresent htest hreach)
    | false =>
      refine optional_congr hsame hagree whenAbsent frame hdepth between ?_
      rintro other rfl hreach
      exact hnot (.whenAbsent htest hreach)
  | .loop source body separator, frame, hdepth, session, hnot => by
    rw [element, element, fieldOf_congr hsame ⟨rfl, rfl⟩, framesOf_congr hsame]
    refine Render.bind_congr rfl fun field between hvalue => ?_
    refine Render.bind_congr rfl fun members between' hlist => Render.under_congr ?_ _
    rw [Render.under_eq_value, ← fieldOf_congr hsame ⟨rfl, rfl⟩] at hvalue
    obtain ⟨hmembers, rfl⟩ := framesOf_eq_value.1 hlist
    -- the separator is evaluated before the repetitions
    have hseparator : optional settings enter frame separator between'
        = optional settings' enter' frame separator between' := by
      refine optional_congr hsame hagree separator frame hdepth between' ?_
      rintro body' rfl hreach
      exact hnot (.separator hvalue hmembers hreach)
    refine Render.bind_congr hseparator fun text separated htext => ?_
    refine Render.bind_congr rfl fun frames separated' hstop => ?_
    refine Render.bind_congr ?_ fun _ _ _ => rfl
    obtain ⟨hframes, rfl⟩ := Render.ofStop_eq_value.1 hstop
    have hdepths : ∀ inner ∈ frames, inner.depth = depth := fun inner hinner =>
      (frames_placed hmembers hframes inner hinner).2.trans hdepth
    have hnone : ¬ RepetitionsReach settings enter site body frames separated' := fun hreach =>
      hnot (.repetition hvalue hmembers htext hframes hreach)
    refine inEach_congr (fun inner between hinner => ?_) frames hdepths separated' hnone
    exact elements_congr hsame hagree body inner hinner between
  | .inclusion name, frame, hdepth, session, hnot => by
    rw [element, element]
    exact hagree frame name session hdepth fun hsite => hnot (.inclusion hsite)
  | .trimLeft, _, _, _, _ => by
    rw [element, element, unresolvedMark, unresolvedMark, hsame.reporter]
  | .trimRight, _, _, _, _ => by
    rw [element, element, unresolvedMark, unresolvedMark, hsame.reporter]
  | .foreign kind, _, _, _, _ => by rw [element, element, hsame.reporter]

/-- Elements that come to no inclusion of the kind come to the same under both settings. -/
theorem elements_congr (hsame : settings.SameButLimit settings')
    (hagree : InclusionsAgree settings settings' enter enter' site depth) :
    (body : List Element) → (frame : Frame) → frame.depth = depth → (session : Session) →
    ¬ ElementsReach settings enter site frame body session →
    elements settings enter frame body session = elements settings' enter' frame body session
  | [], _, _, _, _ => by rw [elements, elements]
  | first :: rest, frame, hdepth, session, hnot => by
    have hfirst := element_congr hsame hagree first frame hdepth session
      fun hreach => hnot (.first hreach)
    rw [elements, elements]
    refine Render.bind_congr hfirst fun text between htext => Render.bind_congr ?_ fun _ _ _ => rfl
    have hrest : ¬ ElementsReach settings enter site frame rest between := fun hreach =>
      hnot (.later htext hreach)
    exact elements_congr hsame hagree rest frame hdepth between hrest

/-- So does a body that may be absent. -/
theorem optional_congr (hsame : settings.SameButLimit settings')
    (hagree : InclusionsAgree settings settings' enter enter' site depth) :
    (body : Option (List Element)) → (frame : Frame) → frame.depth = depth → (session : Session) →
    (∀ elements, body = some elements →
      ¬ ElementsReach settings enter site frame elements session) →
    optional settings enter frame body session = optional settings' enter' frame body session
  | none, _, _, _, _ => by rw [optional, optional]
  | some body, frame, hdepth, session, hnot => by
    rw [optional, optional]
    exact elements_congr hsame hagree body frame hdepth session (hnot body rfl)

end

end

end Inlay.Evaluator
