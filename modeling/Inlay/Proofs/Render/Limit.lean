import Inlay.Proofs.Render.Reaching

/-!
# The limit of inclusions

An inclusion that is too deep cuts the whole evaluation off: neither a condition nor a loop around
it goes on from there (`within_cutOff`). Where no inclusion is too deep, the limit takes no part in
the evaluation, and a greater one changes nothing (`within_congr_limit`).
-/

namespace Inlay

/-- An evaluation is cut short: it fails with a certain code, or is stopped by misuse of certain
kinds. -/
def Ending.CutShort {α : Type} (code : String → Prop) (untold : Misuse → Prop) : Ending α → Prop
  | .value _ => False
  | .failed failure => code failure.code
  | .stopped reason => ∃ misuse, reason = .misuse misuse ∧ untold misuse

/-- An evaluation is cut off: it fails for the depth of an inclusion, unless misuse keeps this
failure from being told. -/
abbrev Ending.CutOff {α : Type} (untold : Misuse → Prop) : Ending α → Prop :=
  CutShort (· = Code.includeDepthExceeded) untold

/-- More kinds of misuse that may go untold cut no fewer endings short. -/
theorem Ending.CutShort.mono {α : Type} {code : String → Prop} {untold untold' : Misuse → Prop}
    {ending : Ending α} (h : ending.CutShort code untold)
    (himp : ∀ misuse, untold misuse → untold' misuse) : ending.CutShort code untold' := by
  cases ending with
  | value value => exact h
  | failed failure => exact h
  | stopped reason =>
    obtain ⟨misuse, hreason, huntold⟩ := h
    exact ⟨misuse, hreason, himp misuse huntold⟩

namespace Render

variable {α β : Type} {step : Render α} {session : Session} {code : String → Prop}
  {untold : Misuse → Prop}

/-- A step that is cut short cuts short what stands behind it. -/
theorem bind_cutShort (next : α → Render β) (h : (step session).1.CutShort code untold) :
    ((step >>= next) session).1.CutShort code untold := by
  rcases hstep : step session with ⟨value | failure | reason, between⟩
  · rw [hstep] at h
    exact h.elim
  · rw [bind_of_failed hstep]
    rwa [hstep] at h
  · rw [bind_of_stopped hstep]
    rwa [hstep] at h

/-- A breadcrumb leaves the code of a failure as it is. -/
theorem under_cutShort (breadcrumb : String) (h : (step session).1.CutShort code untold) :
    (step.under breadcrumb session).1.CutShort code untold := by
  rcases hstep : step session with ⟨value | failure | reason, between⟩
  · rw [hstep] at h
    exact h.elim
  · rw [under_of_failed hstep]
    rwa [hstep] at h
  · rw [under_of_stopped hstep]
    rwa [hstep] at h

/-- A breadcrumb keeps the code of a failure, or cannot be told. -/
theorem underTold_cutShort {breadcrumb : Except Misuse String}
    (huntold : ∀ misuse, breadcrumb = .error misuse → untold misuse)
    (h : (step session).1.CutShort code untold) :
    (step.underTold breadcrumb session).1.CutShort code untold := by
  cases breadcrumb with
  | ok breadcrumb =>
    rw [underTold_ok]
    exact under_cutShort breadcrumb h
  | error misuse =>
    rcases hstep : step session with ⟨value | failure | reason, between⟩ <;> rw [hstep] at h
    · exact h.elim
    · simp only [underTold, hstep]
      exact ⟨misuse, rfl, huntold misuse rfl⟩
    · simp only [underTold, hstep]
      exact h

/-- A failure with a code that cuts short does so, or it cannot be made. -/
theorem failWith_cutShort {made : Except Misuse Failure}
    (hmade : ∀ failure, made = .ok failure → code failure.code)
    (huntold : ∀ misuse, made = .error misuse → untold misuse) :
    (failWith made session : Ending α × Session).1.CutShort code untold := by
  cases made with
  | ok failure => exact hmade failure rfl
  | error misuse => exact ⟨misuse, rfl, huntold misuse rfl⟩

end Render

namespace Evaluator

open Template

variable {settings : Settings}

/-! ## Nothing goes on behind an inclusion that is too deep -/

/-- An inclusion is performed on what is no document, and so cannot be named. -/
def UnnamedAt (frame : Frame) (_ : Expr) (_ : Session) : Prop :=
  frame.subject.identifier = .error .noAttribute

/-- What keeps the failure of an inclusion that is too deep from being told: its message cannot be
made, or on its way out it comes through an inclusion that cannot be named. -/
def Untold (settings : Settings) (unnamed : Prop) (misuse : Misuse) : Prop :=
  (∃ limit ∈ settings.limit, settings.reporter.depthFailure limit = .error misuse) ∨
    misuse = .noAttribute ∧ unnamed

/-- The registry that comes with the library can tell it, wherever documents alone are included
into and the limit can be written. -/
theorem not_untold (hregistry : settings.reporter.registry = .builtin) {unnamed : Prop}
    (hnamed : ¬ unnamed) (hwritten : ∀ limit ∈ settings.limit, (Value.int limit).hasText = true)
    (misuse : Misuse) : ¬ Untold settings unnamed misuse := by
  rintro (⟨limit, hlimit, hmade⟩ | ⟨-, hunnamed⟩)
  · rw [Reporter.depthFailure_eq hregistry (hwritten limit hlimit)] at hmade
    cases hmade
  · exact hnamed hunnamed

/-- An inclusion that is too deep is cut off. -/
theorem inclusion_cutOff {enter : Enter} {frame : Frame} {name : Expr} {session : Session}
    (h : TooDeepAt settings frame name session) (unnamed : Prop) :
    (inclusion settings enter frame name session).1.CutOff (Untold settings unnamed) := by
  obtain ⟨⟨identifier, between, htext⟩, limit, hlimit, hreached⟩ := h
  have hcheck : checkDepth settings frame.depth
      = Render.failWith (settings.reporter.depthFailure limit) := by
    rw [checkDepth, Option.mem_def.1 hlimit]
    exact if_pos hreached
  rw [inclusion, Render.bind_of_value (Render.under_of_value htext _), hcheck]
  refine Render.under_cutShort _ (Render.bind_cutShort _ (Render.failWith_cutShort ?_ ?_))
  · intro failure hmade
    obtain ⟨message, -, hfailure⟩ := Except.bind_eq_ok.1 hmade
    cases hfailure
    rfl
  · intro misuse hmade
    exact .inl ⟨limit, hlimit, hmade⟩

/-- An inclusion is cut off where its template is. -/
theorem inclusion_cutOff_of_enters {enter : Enter} {frame : Frame} {name : Expr}
    {session noted : Session} {identifier : String} {template : Template} {unnamed : Prop}
    (h : Enters settings frame name session identifier template noted)
    (hunnamed : UnnamedAt frame name session → unnamed)
    (hcut : (enter (frame.including template) template.elements noted).1.CutOff
      (Untold settings unnamed)) :
    (inclusion settings enter frame name session).1.CutOff (Untold settings unnamed) := by
  rw [inclusion_of_enters h]
  refine Render.under_cutShort _ (Render.underTold_cutShort (fun misuse htold => .inr ?_) hcut)
  unfold UnnamedAt at hunnamed
  cases hsubject : frame.subject <;> rw [hsubject] at htold hunnamed <;> cases htold <;>
    exact ⟨rfl, hunnamed rfl⟩

section

variable {enter : Enter} {site : Frame → Expr → Session → Prop} {code : String → Prop}
  {untold : Misuse → Prop}

/-- Frames that reach a place where evaluation is cut short are cut short there. -/
theorem inEach_cutShort {body : List Element}
    (hbody : ∀ frame session, ElementsReach settings enter site frame body session →
      (elements settings enter frame body session).1.CutShort code untold) :
    (frames : List Frame) → (session : Session) →
    RepetitionsReach settings enter site body frames session →
    (inEach (fun frame => elements settings enter frame body) frames session).1.CutShort code untold
  | [], _, hreach => nomatch hreach
  | frame :: rest, session, hreach => by
    rw [inEach]
    cases hreach with
    | first hfirst => exact Render.bind_cutShort _ (hbody frame session hfirst)
    | later htext hlater =>
      rw [Render.bind_of_value htext]
      exact Render.bind_cutShort _ (inEach_cutShort hbody rest _ hlater)

mutual

/-- What comes to an inclusion that is cut short is cut short itself. -/
theorem element_cutShort (hsite : ∀ frame name session, site frame name session →
      (inclusion settings enter frame name session).1.CutShort code untold) :
    (element : Element) → (frame : Frame) → (session : Session) →
    ElementReaches settings enter site frame element session →
    (Evaluator.element settings enter frame element session).1.CutShort code untold
  | .cond test whenPresent whenAbsent, frame, session, hreach => by
    rw [element]
    -- the test itself includes nothing, so all that can be cut short is the body that it chooses
    cases hreach with
    | whenPresent hpresent hbody =>
      rw [Render.bind_of_value hpresent]
      exact elements_cutShort hsite whenPresent frame _ hbody
    | whenAbsent habsent hbody =>
      rw [Render.bind_of_value habsent, if_neg (by decide), optional]
      exact elements_cutShort hsite _ frame _ hbody
  | .loop source body separator, frame, session, hreach => by
    rw [element]
    cases hreach with
    | separator hvalue hmembers hseparator =>
      rw [Render.bind_of_value (Render.under_of_value hvalue _),
        Render.bind_of_value (framesOf_eq_value.2 ⟨hmembers, rfl⟩), optional]
      refine Render.under_cutShort _ (Render.bind_cutShort _ ?_)
      exact elements_cutShort hsite _ frame _ hseparator
    | repetition hvalue hmembers hseparator hframes hrepetition =>
      rw [Render.bind_of_value (Render.under_of_value hvalue _),
        Render.bind_of_value (framesOf_eq_value.2 ⟨hmembers, rfl⟩)]
      refine Render.under_cutShort _ ?_
      rw [Render.bind_of_value hseparator,
        Render.bind_of_value (Render.ofStop_eq_value.2 ⟨hframes, rfl⟩)]
      refine Render.bind_cutShort _ (inEach_cutShort (fun inner between => ?_) _ _ hrepetition)
      exact elements_cutShort hsite body inner between
  | .inclusion name, frame, session, hreach => by
    rw [element]
    cases hreach with
    | inclusion hreached => exact hsite frame name session hreached
  | .chunk _, _, _, hreach | .dollar, _, _, hreach | .value _, _, _, hreach
  | .trimLeft, _, _, hreach | .trimRight, _, _, hreach | .foreign _, _, _, hreach => nomatch hreach

/-- So are elements: on the way out nothing catches what has cut them short. -/
theorem elements_cutShort (hsite : ∀ frame name session, site frame name session →
      (inclusion settings enter frame name session).1.CutShort code untold) :
    (body : List Element) → (frame : Frame) → (session : Session) →
    ElementsReach settings enter site frame body session →
    (elements settings enter frame body session).1.CutShort code untold
  | [], _, _, hreach => nomatch hreach
  | first :: rest, frame, session, hreach => by
    rw [elements]
    cases hreach with
    | first hfirst =>
      exact Render.bind_cutShort _ (element_cutShort hsite first frame session hfirst)
    | later htext hlater =>
      rw [Render.bind_of_value htext]
      exact Render.bind_cutShort _ (elements_cutShort hsite rest frame _ hlater)

end

end

/-- An inclusion that is too deep cuts off the evaluation around it, through all the inclusions that
it is nested in. -/
theorem within_cutOff (room : Nat) : ∀ frame body session,
    ReachesWithin settings (TooDeepAt settings) room frame body session →
    (within settings room frame body session).1.CutOff
      (Untold settings (ReachesWithin settings UnnamedAt room frame body session)) := by
  induction room with
  | zero =>
    intro frame body session hreach
    exact elements_cutShort (fun _ _ _ hdeep => inclusion_cutOff hdeep _) body frame session hreach
  | succ room ih =>
    intro frame body session hreach
    -- What is inside an inclusion is cut off for reasons of its own, so that the inclusion that is
    -- reached has to be singled out before the hypothesis is used on its template.
    obtain ⟨inner, name, between, hsite, -, honly⟩ :=
      elementsReach_singlesOut body frame rfl session hreach
    have honce := honly (fun frame' name' session' =>
      frame' = inner ∧ name' = name ∧ session' = between) ⟨rfl, rfl, rfl⟩
    refine elements_cutShort ?_ body frame session honce
    rintro _ _ _ ⟨rfl, rfl, rfl⟩
    rcases hsite with hdeep | ⟨identifier, template, noted, henters, hinside⟩
    · exact inclusion_cutOff hdeep _
    · refine inclusion_cutOff_of_enters henters (fun hunnamed => honly _ (.inl hunnamed)) ?_
      refine (ih _ _ noted hinside).mono fun misuse => Or.imp_right (And.imp_right ?_)
      intro hunnamed
      exact honly _ (.inr ⟨identifier, template, noted, henters, hunnamed⟩)

/-! ## A limit that is not reached -/

/-- An inclusion that is not too deep passes the check under every greater limit. -/
theorem checkDepth_congr {settings' : Settings}
    (hlimit : ∀ limit' ∈ settings'.limit, ∃ limit ∈ settings.limit, limit ≤ limit') {frame : Frame}
    {name : Expr} {session between : Session} {identifier : String}
    (hnot : ¬ TooDeepAt settings frame name session)
    (htext : textAt settings frame (Breadcrumb.inclusionSubject name) name session
      = (.value identifier, between)) :
    checkDepth settings frame.depth between = checkDepth settings' frame.depth between := by
  have hallowed : ∀ limit ∈ settings.limit, (frame.depth : Int) < limit := by
    intro limit hmem
    refine Int.not_le.1 fun hreached => ?_
    exact hnot ⟨⟨identifier, between, htext⟩, limit, hmem, hreached⟩
  have hallowed' : ∀ limit' ∈ settings'.limit, (frame.depth : Int) < limit' := by
    intro limit' hmem'
    obtain ⟨limit, hmem, hle⟩ := hlimit limit' hmem'
    exact Int.lt_of_lt_of_le (hallowed limit hmem) hle
  rw [checkDepth_of_allowed hallowed, checkDepth_of_allowed hallowed']

/-- Where no inclusion is too deep, all is evaluated as under a greater limit. -/
theorem within_congr_limit {settings' : Settings} (hsame : settings.SameButLimit settings')
    (hlimit : ∀ limit' ∈ settings'.limit, ∃ limit ∈ settings.limit, limit ≤ limit') (room : Nat) :
    ∀ frame body session, ¬ ReachesWithin settings (TooDeepAt settings) room frame body session →
    within settings room frame body session = within settings' room frame body session := by
  induction room with
  | zero =>
    intro frame body session hnot
    have hagree : InclusionsAgree settings settings' (fun _ _ => Render.stop (.misuse .endless))
        (fun _ _ => Render.stop (.misuse .endless)) (TooDeepAt settings) frame.depth := by
      intro inner name between _ hdeep
      refine inclusion_congr hsame (fun identifier passed htext => ?_) fun _ _ _ _ => rfl
      exact checkDepth_congr hlimit hdeep htext
    exact elements_congr hsame hagree body frame rfl session hnot
  | succ room ih =>
    intro frame body session hnot
    refine elements_congr hsame (fun inner name between _ hsite => ?_) body frame rfl session hnot
    have hdeep : ¬ TooDeepAt settings inner name between := fun hdeep => hsite (.inl hdeep)
    refine inclusion_congr hsame (fun identifier passed htext => ?_) ?_
    · exact checkDepth_congr hlimit hdeep htext
    · intro identifier template noted henters
      refine ih _ _ noted fun hinside => hsite (.inr ?_)
      exact ⟨identifier, template, noted, henters, hinside⟩

/-- A limit only ever cuts off. What does not fail for the depth of an inclusion is evaluated to the
same under every greater limit and under none, with the same questions asked and the same lines
logged. And the failure for an inclusion that is too deep is the end of the whole evaluation:
nowhere on its way out is it taken for an absent field or an empty text. All that can come in its
way is that it cannot be told, and this takes a registry of one's own, an inclusion that is
performed on what is no document, or a limit of more digits than an integer is written with. -/
theorem evaluate_greater_limit (settings : Settings) (greater : Option Int)
    (hgreater : ∀ limit' ∈ greater, ∃ limit ∈ settings.limit, limit ≤ limit')
    (template : Template) (context : Context) (subject : Value) (session : Session) :
    let ended := evaluate settings template context subject session
    let ended' := evaluate { settings with limit := greater } template context subject session
    let isTooDeep := TemplateReaches settings (TooDeepAt settings) template context subject session
    let isUnnamed := TemplateReaches settings UnnamedAt template context subject session
    let untold := ∃ misuse, ended.1 = .stopped (.misuse misuse) ∧
      Untold settings isUnnamed misuse
    ((∀ failure, ended.1 = .failed failure → failure.code ≠ Code.includeDepthExceeded) →
      ended' = ended ∨ untold) ∧
    (¬ isTooDeep → ended' = ended) ∧
    (isTooDeep →
      (∃ failure, ended.1 = .failed failure ∧ failure.code = Code.includeDepthExceeded) ∨
        untold) ∧
    (settings.reporter.registry = .builtin → ¬ isUnnamed →
      (∀ limit ∈ settings.limit, (Value.int limit).hasText = true) → ¬ untold) := by
  intro ended ended' isTooDeep isUnnamed untold
  have hsame : settings.SameButLimit { settings with limit := greater } := ⟨rfl, rfl, rfl⟩
  -- where no inclusion is too deep, the limit makes no difference
  have hequal : ¬ isTooDeep → ended' = ended := fun hnot =>
    (within_congr_limit hsame hgreater session.room _ _ session hnot).symm
  -- and where one is, the evaluation ends with it
  have hcut : isTooDeep →
      (∃ failure, ended.1 = .failed failure ∧ failure.code = Code.includeDepthExceeded) ∨
        untold := by
    intro hdeep
    have hcutOff : ended.1.CutOff (Untold settings isUnnamed) :=
      within_cutOff session.room _ _ session hdeep
    rcases hended : ended.1 with text | failure | reason <;> rw [hended] at hcutOff
    · exact hcutOff.elim
    · exact .inl ⟨failure, rfl, hcutOff⟩
    · obtain ⟨misuse, rfl, huntold⟩ := hcutOff
      exact .inr ⟨misuse, hended, huntold⟩
  have htold : settings.reporter.registry = .builtin → ¬ isUnnamed →
      (∀ limit ∈ settings.limit, (Value.int limit).hasText = true) → ¬ untold := by
    rintro hregistry hnamed hwritten ⟨misuse, -, huntold⟩
    exact not_untold hregistry hnamed hwritten misuse huntold
  refine ⟨fun hcode => ?_, hequal, hcut, htold⟩
  by_cases hdeep : isTooDeep
  · rcases hcut hdeep with ⟨failure, hfailed, hexceeded⟩ | huntold
    · exact absurd hexceeded (hcode failure hfailed)
    · exact .inr huntold
  · exact .inl (hequal hdeep)

/-- One inclusion is deep enough for the page, which fails in its footer for another reason. -/
theorem postsPage_deeper :
    evaluate ⟨⟨.builtin, default⟩, default, some 32, none⟩ postsPage onePost .null footerSession
      = evaluate ⟨⟨.builtin, default⟩, default, some 1, none⟩ postsPage onePost .null
        footerSession := by
  have hgreater : ∀ limit' ∈ some (32 : Int), ∃ limit ∈ some (1 : Int), limit ≤ limit' := by
    intro limit' hlimit'
    cases hlimit'
    exact ⟨1, rfl, by decide⟩
  have h := evaluate_greater_limit ⟨⟨.builtin, default⟩, default, some 1, none⟩ (some 32) hgreater
    postsPage onePost .null footerSession
  have hcode : ∀ failure, (evaluate ⟨⟨.builtin, default⟩, default, some 1, none⟩ postsPage onePost
      .null footerSession).1 = .failed failure → failure.code ≠ Code.includeDepthExceeded := by
    intro failure hfailure
    cases hfailure
    decide
  rcases h.1 hcode with hequal | ⟨misuse, hstopped, -⟩
  · exact hequal
  · cases hstopped

end Evaluator

end Inlay
