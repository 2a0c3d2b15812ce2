import Inlay.Proofs.Render.View
import Inlay.Proofs.Template.Known

/-!
# Contracts of steps

A `Contract` says what sessions, failures and reasons to stop may be like. A step *ensures* a
property of its value under the contract if it leads from sessions of this kind to such sessions and
ends in one of the ways that are allowed. What steps that are put together ensure follows from their
parts.

Main statement: a whole evaluation keeps to a contract if each construct does (`within_kept`). What
there is to show for each construct is told by `Rules`.
-/

namespace Inlay

/-- What steps are held to. -/
structure Contract where
  /-- The sessions that steps begin with and leave. -/
  session : Session → Prop
  /-- The failures that steps may end with. -/
  failure : Failure → Prop
  /-- The reasons to stop that steps may have. -/
  stop : Stop → Prop

namespace Contract

variable {α β : Type} (contract : Contract)

/-- The contract allows for the ending, with a value that is `good`. -/
def Allows (good : α → Prop) : Ending α → Prop
  | .value value => good value
  | .failed failure => contract.failure failure
  | .stopped reason => contract.stop reason

/-- Under the contract, the step has no value but one that is `good`. -/
def Ensures (good : α → Prop) (step : Render α) : Prop :=
  ∀ session, contract.session session →
    contract.Allows good (step session).1 ∧ contract.session (step session).2

/-- The contract allows for a failure, or for what keeps it from being made. -/
def Makes (made : Except Misuse Failure) : Prop :=
  (∀ failure, made = .ok failure → contract.failure failure) ∧
    ∀ misuse, made = .error misuse → contract.stop (.misuse misuse)

/-- The step keeps to the contract, whatever its value is. -/
abbrev KeptBy (step : Render α) : Prop := contract.Ensures (fun _ => True) step

variable {contract} {good : α → Prop} {step : Render α}

/-- An ending is allowed for whatever follows of its value. -/
theorem Allows.mono {good' : α → Prop} {ending : Ending α} (h : contract.Allows good ending)
    (himp : ∀ value, good value → good' value) : contract.Allows good' ending := by
  cases ending with
  | value value => exact himp value h
  | failed failure => exact h
  | stopped reason => exact h

namespace Ensures

theorem mono {good' : α → Prop} (h : contract.Ensures good step)
    (himp : ∀ value, good value → good' value) : contract.Ensures good' step := by
  intro session hsession
  obtain ⟨hending, hafter⟩ := h session hsession
  exact ⟨hending.mono himp, hafter⟩

/-- A step that ensures anything of its value keeps to the contract. -/
theorem kept (h : contract.Ensures good step) : contract.KeptBy step := h.mono fun _ _ => trivial

theorem pure {value : α} (h : good value) :
    contract.Ensures good (Pure.pure value : Render α) := fun _ hsession => ⟨h, hsession⟩

theorem stop {reason : Stop} (h : contract.stop reason) :
    contract.Ensures good (Render.stop reason : Render α) := fun _ hsession => ⟨h, hsession⟩

/-- A chain is held to what its second step is, behind the good values of the first. -/
theorem bind {good' : β → Prop} {next : α → Render β} (h : contract.Ensures good step)
    (hnext : ∀ value, good value → contract.Ensures good' (next value)) :
    contract.Ensures good' (step >>= next) := by
  intro session hsession
  obtain ⟨hending, hafter⟩ := h session hsession
  rcases hstep : step session with ⟨value | failure | reason, between⟩ <;>
    rw [hstep] at hending hafter
  · rw [Render.bind_of_value hstep]
    exact hnext value hending between hafter
  · rw [Render.bind_of_failed hstep]
    exact ⟨hending, hafter⟩
  · rw [Render.bind_of_stopped hstep]
    exact ⟨hending, hafter⟩

/-- A breadcrumb on a failure keeps to a contract that allows for breadcrumbs. -/
theorem under (h : contract.Ensures good step) {breadcrumb : String}
    (hbelow : ∀ failure, contract.failure failure →
      contract.failure (failure.below breadcrumb)) :
    contract.Ensures good (step.under breadcrumb) := by
  intro session hsession
  obtain ⟨hending, hafter⟩ := h session hsession
  rcases hstep : step session with ⟨value | failure | reason, between⟩ <;>
    rw [hstep] at hending hafter
  · rw [Render.under_of_value hstep]
    exact ⟨hending, hafter⟩
  · rw [Render.under_of_failed hstep]
    exact ⟨hbelow failure hending, hafter⟩
  · rw [Render.under_of_stopped hstep]
    exact ⟨hending, hafter⟩

/-- So does one that may not be told, if the contract allows for this to stop the step. -/
theorem underTold (h : contract.Ensures good step) {breadcrumb : Except Misuse String}
    (hbelow : ∀ told failure, contract.failure failure → contract.failure (failure.below told))
    (huntold : ∀ misuse, breadcrumb = .error misuse → contract.stop (.misuse misuse)) :
    contract.Ensures good (step.underTold breadcrumb) := by
  cases breadcrumb with
  | ok breadcrumb =>
    rw [Render.underTold_ok]
    exact h.under (hbelow breadcrumb)
  | error misuse =>
    intro session hsession
    obtain ⟨hending, hafter⟩ := h session hsession
    rcases hstep : step session with ⟨value | failure | reason, between⟩ <;>
      rw [hstep] at hending hafter <;> simp only [Render.underTold, hstep]
    · exact ⟨hending, hafter⟩
    · exact ⟨huntold misuse rfl, hafter⟩
    · exact ⟨hending, hafter⟩

/-- Where a failure is caught, it is one that the contract allows for. -/
theorem attempt (h : contract.Ensures good step) :
    contract.Ensures (fun result => ∀ failure, result = .error failure → contract.failure failure)
      step.attempt := by
  intro session hsession
  obtain ⟨hending, hafter⟩ := h session hsession
  rcases hstep : step session with ⟨value | failure | reason, between⟩ <;>
    rw [hstep] at hending hafter <;> simp only [Render.attempt, hstep]
  · refine ⟨?_, hafter⟩
    intro failure hfailure
    cases hfailure
  · refine ⟨?_, hafter⟩
    intro failure' hfailure
    cases hfailure
    exact hending
  · exact ⟨hending, hafter⟩

/-- A result is taken into a step under the contract, value or reason. -/
theorem ofStop {result : Except Stop α} (hok : ∀ value, result = .ok value → good value)
    (herror : ∀ reason, result = .error reason → contract.stop reason) :
    contract.Ensures good (Render.ofStop result) := by
  cases result with
  | ok value => exact .pure (hok value rfl)
  | error reason => exact .stop (herror reason rfl)

theorem ofExcept {result : Except Misuse α} (hok : ∀ value, result = .ok value → good value)
    (herror : ∀ misuse, result = .error misuse → contract.stop (.misuse misuse)) :
    contract.Ensures good (Render.ofExcept result) := by
  cases result with
  | ok value => exact .pure (hok value rfl)
  | error misuse => exact .stop (herror misuse rfl)

theorem failWith {made : Except Misuse Failure} (h : contract.Makes made) :
    contract.Ensures good (Render.failWith made : Render α) := by
  cases made with
  | ok failure => exact fun _ hsession => ⟨h.1 failure rfl, hsession⟩
  | error misuse => exact fun _ hsession => ⟨h.2 misuse rfl, hsession⟩

end Ensures

end Contract

namespace Evaluator

open Template

/-! ## Expressions, conditions and inclusions -/

/-- The stop at an expression that is none of the language. -/
def unknownExpression (settings : Settings) (kind : String) : Stop :=
  settings.reporter.stop Code.internalError
    [(.text "detail", .text ("Unknown template expression: " ++ kind))]

/-- The stop at an element that is none of the language. -/
def unknownElement (settings : Settings) (kind : String) : Stop :=
  settings.reporter.stop Code.internalError
    [(.text "detail", .text ("Unknown template element: " ++ kind))]

/-- The stop at a trimming mark. -/
def unresolved (settings : Settings) (origin : Value) : Stop :=
  settings.reporter.stop Code.trimInvariantViolation [(.text "origin", origin)]

section

variable {contract : Contract} {settings : Settings} {frame : Frame}

section

variable {good : Field → Prop}

mutual

/-- The field of an expression is good, if those are that are looked up. -/
theorem fieldOf_ensures
    (hlookup : ∀ key args, contract.Ensures good (lookup settings frame key args))
    (htext : ∀ subject field, good field → contract.KeptBy (textOf settings subject field))
    (hliteral : ∀ text, good (.text text)) : (expr : Expr) →
    (expr.Known ∨ ∀ kind, contract.stop (unknownExpression settings kind)) →
    contract.Ensures good (fieldOf settings frame expr)
  | .ident key, _ => by
    rw [fieldOf]
    exact hlookup key []
  | .call key args, hknown => by
    rw [fieldOf]
    refine (arguments_kept hlookup htext hliteral args ?_).bind fun texts _ => hlookup key texts
    rwa [Expr.Known] at hknown
  | .literal text, _ => by
    rw [fieldOf]
    exact .pure (hliteral text)
  | .foreign kind, hknown => by
    rw [fieldOf]
    rw [Expr.Known, false_or] at hknown
    exact .stop (hknown _)

/-- Arguments are looked up and read as texts one by one, so they keep to the contract as these do.
-/
theorem arguments_kept
    (hlookup : ∀ key args, contract.Ensures good (lookup settings frame key args))
    (htext : ∀ subject field, good field → contract.KeptBy (textOf settings subject field))
    (hliteral : ∀ text, good (.text text)) : (args : List Expr) →
    (Expr.AllKnown args ∨ ∀ kind, contract.stop (unknownExpression settings kind)) →
    contract.KeptBy (arguments settings frame args)
  | [], _ => by
    rw [arguments]
    exact .pure trivial
  | arg :: rest, hknown => by
    rw [Expr.AllKnown] at hknown
    have harg := fieldOf_ensures hlookup htext hliteral arg (hknown.imp_left And.left)
    have hrest := arguments_kept hlookup htext hliteral rest (hknown.imp_left And.right)
    rw [arguments]
    refine harg.bind fun field hfield => (htext _ field hfield).bind fun text _ => ?_
    exact hrest.bind fun texts _ => .pure trivial

end

end

/-- A condition keeps to the contract, if its field does and the log of its failure. -/
theorem isPresent_kept {test : Expr} (hfield : contract.KeptBy (fieldOf settings frame test))
    (hnote : ∀ failure, contract.failure failure →
      contract.KeptBy (noteCondition settings test failure)) :
    contract.KeptBy (isPresent settings frame test) := by
  rw [isPresent]
  refine hfield.attempt.bind fun outcome houtcome => ?_
  cases outcome with
  | ok field => exact .pure trivial
  | error failure =>
    dsimp only
    split
    · exact .pure trivial
    · exact (hnote failure (houtcome failure rfl)).bind fun _ _ => .pure trivial

/-- The frames of a loop over a field that is good fit, if its members do. -/
theorem head_ensures {good : Field → Prop} {fits : Frame → Prop} {source : Expr}
    (hbelow : ∀ breadcrumb failure, contract.failure failure →
      contract.failure (failure.below breadcrumb))
    (hfield : contract.Ensures good (fieldOf settings frame source))
    (hmismatch : ∀ kind subject, contract.Makes (settings.reporter.mismatch .list kind subject))
    (hmembers : ∀ field members, good field → loopFrames frame field = some members →
      ∀ member ∈ members, (∀ reason, member = .error reason → contract.stop reason) ∧
        ∀ inner, member = .ok inner → fits inner) :
    contract.Ensures
      (fun members => ∀ member ∈ members, (∀ reason, member = .error reason →
        contract.stop reason) ∧
        ∀ inner, member = .ok inner → fits inner ∧ inner.depth = frame.depth)
      (Render.under (Breadcrumb.inLoopHead source) (fieldOf settings frame source) >>=
        framesOf settings frame source) := by
  refine (hfield.under (hbelow _)).bind fun field hgood => ?_
  unfold framesOf
  cases hframes : loopFrames frame field with
  | none =>
    dsimp only
    refine Contract.Ensures.under ?_ (hbelow _)
    exact .failWith (hmismatch _ _)
  | some members =>
    refine .pure fun member hmember => ?_
    obtain ⟨hreason, hinner⟩ := hmembers field members hgood hframes member hmember
    refine ⟨hreason, ?_⟩
    rintro inner rfl
    exact ⟨hinner inner rfl, (member_placed hframes hmember).2⟩

/-- Behind the check of the depth, the limit allows for an inclusion. -/
theorem checkDepth_ensures {depth : Nat}
    (hmade : ∀ limit ∈ settings.limit, contract.Makes (settings.reporter.depthFailure limit)) :
    contract.Ensures (fun _ => ∀ limit ∈ settings.limit, (depth : Int) < limit)
      (checkDepth settings depth) := by
  unfold checkDepth
  cases hlimit : settings.limit with
  | none =>
    refine .pure fun limit hmem => ?_
    cases hmem
  | some limit =>
    rw [hlimit] at hmade
    by_cases hreached : limit ≤ depth
    · simp only [if_pos hreached]
      exact .failWith (hmade limit rfl)
    · simp only [if_neg hreached]
      refine .pure fun limit' hmem => ?_
      cases hmem
      exact Int.not_le.1 hreached

/-- An inclusion keeps to the contract, if its name, the check, the load and the log do, and the
elements of the templates that are loaded. -/
theorem inclusion_kept {enter : Enter} {name : Expr} {loaded : Template → Prop}
    (hbelow : ∀ breadcrumb failure, contract.failure failure →
      contract.failure (failure.below breadcrumb))
    (hname : contract.KeptBy (textAt settings frame (Breadcrumb.inclusionSubject name) name))
    (hcheck : contract.Ensures (fun _ => ∀ limit ∈ settings.limit, (frame.depth : Int) < limit)
      (checkDepth settings frame.depth))
    (hload : ∀ identifier, contract.Ensures loaded (load settings identifier))
    (hnote : ∀ identifier, (∀ limit ∈ settings.limit, (frame.depth : Int) < limit) →
      contract.KeptBy (RenderLogger.note settings.log (.included identifier (frame.depth + 1))))
    (hitem : ∀ misuse, frame.subject.identifier = .error misuse → contract.stop (.misuse misuse))
    (henter : ∀ template, (∀ limit ∈ settings.limit, (frame.depth : Int) < limit) →
      loaded template →
      contract.KeptBy (enter (frame.including template) template.elements)) :
    contract.KeptBy (inclusion settings enter frame name) := by
  rw [inclusion]
  refine (hname.under (hbelow _)).bind fun identifier _ => Contract.Ensures.under ?_ (hbelow _)
  refine hcheck.bind fun _ hallowed => (hload identifier).bind fun template htemplate => ?_
  refine (hnote identifier hallowed).bind fun _ _ => ?_
  refine (henter template hallowed htemplate).underTold hbelow fun misuse hmisuse => ?_
  cases hidentifier : frame.subject.identifier with
  | error misuse' =>
    rw [hidentifier] at hmisuse
    cases hmisuse
    exact hitem misuse hidentifier
  | ok item =>
    rw [hidentifier] at hmisuse
    cases hmisuse

end

/-! ## Elements -/

/-- What is to be shown of each construct for evaluations to keep to a contract, in frames that
`fits` holds of and for elements that are `fine`. -/
structure Rules (contract : Contract) (settings : Settings) (fits : Frame → Prop)
    (fine : Element → Prop) : Prop where
  below : ∀ breadcrumb failure, contract.failure failure →
    contract.failure (failure.below breadcrumb)
  /-- A trimming mark stops the evaluation. -/
  mark : ∀ frame, fits frame → fine .trimLeft ∨ fine .trimRight →
    contract.stop (unresolved settings frame.origin)
  /-- What is no element of the language stops the evaluation. -/
  foreign : ∀ kind, fine (.foreign kind) → contract.stop (unknownElement settings kind)
  value : ∀ frame expr, fits frame → fine (.value expr) →
    contract.KeptBy (textAt settings frame (Breadcrumb.exprSubject expr) expr)
  test : ∀ frame test whenPresent whenAbsent, fits frame →
    fine (.cond test whenPresent whenAbsent) → contract.KeptBy (isPresent settings frame test)
  branches : ∀ test whenPresent whenAbsent, fine (.cond test whenPresent whenAbsent) →
    (∀ element ∈ whenPresent, fine element) ∧
      ∀ body, whenAbsent = some body → ∀ element ∈ body, fine element
  /-- The frames of a loop fit, and are as deep as the loop. -/
  head : ∀ frame source body separator, fits frame → fine (.loop source body separator) →
    contract.Ensures
      (fun members => ∀ member ∈ members, (∀ reason, member = .error reason →
        contract.stop reason) ∧
        ∀ inner, member = .ok inner → fits inner ∧ inner.depth = frame.depth)
      (Render.under (Breadcrumb.inLoopHead source) (fieldOf settings frame source) >>=
        framesOf settings frame source)
  bodies : ∀ source body separator, fine (.loop source body separator) →
    (∀ element ∈ body, fine element) ∧
      ∀ between, separator = some between → ∀ element ∈ between, fine element
  inclusion : ∀ enter frame name, fits frame → fine (.inclusion name) →
    (∀ template, (∀ limit ∈ settings.limit, (frame.depth : Int) < limit) →
      fits (frame.including template) → (∀ element ∈ template.elements, fine element) →
      contract.KeptBy (enter (frame.including template) template.elements)) →
    contract.KeptBy (inclusion settings enter frame name)

section

variable {contract : Contract} {settings : Settings} {enter : Enter} {fits : Frame → Prop}
  {fine : Element → Prop}

/-- What keeps to the contract in every frame does so in a row of frames. -/
theorem inEach_kept {step : Frame → Render String} (frames : List Frame)
    (hstep : ∀ frame ∈ frames, contract.KeptBy (step frame)) :
    contract.KeptBy (inEach step frames) := by
  induction frames with
  | nil => exact .pure trivial
  | cons frame rest ih =>
    have hrest := ih fun inner hinner => hstep inner (List.mem_cons_of_mem frame hinner)
    rw [inEach]
    refine (hstep frame List.mem_cons_self).bind fun text _ => hrest.bind fun texts _ => ?_
    exact .pure trivial

/-- Frames that are put together fit, if each of them does. -/
theorem ofStop_frames {members : List (Except Stop Frame)} {good : Frame → Prop}
    (hmembers : ∀ member ∈ members, (∀ reason, member = .error reason → contract.stop reason) ∧
      ∀ inner, member = .ok inner → good inner) :
    contract.Ensures (fun frames => ∀ inner ∈ frames, good inner)
      (Render.ofStop (members.mapM id)) := by
  refine .ofStop (fun frames hframes inner hinner => ?_) fun reason hreason => ?_
  · exact (hmembers _ (Except.mem_of_mapM hframes inner hinner)).2 inner rfl
  · exact (hmembers _ (Except.error_mem_of_mapM hreason)).1 reason rfl

/-- What the inclusions of elements in a frame of this depth are held to. -/
def InclusionsKept (contract : Contract) (settings : Settings) (fits : Frame → Prop)
    (fine : Element → Prop) (enter : Enter) (depth : Nat) : Prop :=
  ∀ frame name, fits frame → frame.depth = depth → fine (.inclusion name) →
    contract.KeptBy (inclusion settings enter frame name)

variable {depth : Nat}

mutual

/-- An element keeps to the contract, if the inclusions in it do. -/
theorem element_kept (rules : Rules contract settings fits fine)
    (hinclusions : InclusionsKept contract settings fits fine enter depth) :
    (element : Element) → (frame : Frame) → fits frame → frame.depth = depth → fine element →
    contract.KeptBy (Evaluator.element settings enter frame element)
  | .chunk text, frame, _, _, _ => by
    rw [element]
    exact .pure trivial
  | .dollar, frame, _, _, _ => by
    rw [element]
    exact .pure trivial
  | .value expr, frame, hfits, _, hfine => by
    rw [element]
    exact (rules.value frame expr hfits hfine).under (rules.below _)
  | .cond test whenPresent whenAbsent, frame, hfits, hdepth, hfine => by
    obtain ⟨hpresent, habsent⟩ := rules.branches test whenPresent whenAbsent hfine
    rw [element]
    refine (rules.test frame test _ _ hfits hfine).bind fun present _ => ?_
    cases present with
    | true => exact elements_kept rules hinclusions whenPresent frame hfits hdepth hpresent
    | false => exact optional_kept rules hinclusions whenAbsent frame hfits hdepth habsent
  | .loop source body separator, frame, hfits, hdepth, hfine => by
    obtain ⟨hbody, hbetween⟩ := rules.bodies source body separator hfine
    -- the value and the frames of the loop are one step of `rules.head`
    rw [element, ← Render.bind_assoc]
    refine (rules.head frame source body separator hfits hfine).bind fun members hmembers => ?_
    have hseparator := optional_kept rules hinclusions separator frame hfits hdepth hbetween
    refine (hseparator.bind fun text _ => ?_).under (rules.below _)
    refine (ofStop_frames hmembers).bind fun frames hframes => ?_
    have hrepetitions : contract.KeptBy
        (inEach (fun inner => elements settings enter inner body) frames) := by
      refine inEach_kept frames fun inner hinner => ?_
      obtain ⟨hinnerFits, hinnerDepth⟩ := hframes inner hinner
      exact elements_kept rules hinclusions body inner hinnerFits (hinnerDepth.trans hdepth) hbody
    exact hrepetitions.bind fun texts _ => .pure trivial
  | .inclusion name, frame, hfits, hdepth, hfine => by
    rw [element]
    exact hinclusions frame name hfits hdepth hfine
  | .trimLeft, frame, hfits, _, hfine => by
    rw [element]
    exact .stop (rules.mark frame hfits (.inl hfine))
  | .trimRight, frame, hfits, _, hfine => by
    rw [element]
    exact .stop (rules.mark frame hfits (.inr hfine))
  | .foreign kind, frame, _, _, hfine => by
    rw [element]
    exact .stop (rules.foreign kind hfine)

/-- Elements are applied one behind the other, in the frame that they stand in. -/
theorem elements_kept (rules : Rules contract settings fits fine)
    (hinclusions : InclusionsKept contract settings fits fine enter depth) :
    (body : List Element) → (frame : Frame) → fits frame → frame.depth = depth →
    (∀ element ∈ body, fine element) → contract.KeptBy (elements settings enter frame body)
  | [], frame, _, _, _ => by
    rw [elements]
    exact .pure trivial
  | first :: rest, frame, hfits, hdepth, hfine => by
    have hfirst := element_kept rules hinclusions first frame hfits hdepth
      (hfine first List.mem_cons_self)
    have hrest := elements_kept rules hinclusions rest frame hfits hdepth
      fun element helement => hfine element (List.mem_cons_of_mem first helement)
    rw [elements]
    exact hfirst.bind fun text _ => hrest.bind fun after _ => .pure trivial

/-- A body that is absent has nothing to break a contract with. -/
theorem optional_kept (rules : Rules contract settings fits fine)
    (hinclusions : InclusionsKept contract settings fits fine enter depth) :
    (body : Option (List Element)) → (frame : Frame) → fits frame → frame.depth = depth →
    (∀ elements, body = some elements → ∀ element ∈ elements, fine element) →
    contract.KeptBy (optional settings enter frame body)
  | none, frame, _, _, _ => by
    rw [optional]
    exact .pure trivial
  | some body, frame, hfits, hdepth, hfine => by
    rw [optional]
    exact elements_kept rules hinclusions body frame hfits hdepth (hfine body rfl)

end

end

/-- A whole evaluation keeps to a contract if each construct does. That it would need more room must
be allowed, unless the limit comes before that. -/
theorem within_kept {contract : Contract} {settings : Settings} {fits : Frame → Prop}
    {fine : Element → Prop} (rules : Rules contract settings fits fine) (room : Nat) :
    ∀ frame body, fits frame → (∀ element ∈ body, fine element) →
    (contract.stop (.misuse .endless) ∨
      ∃ limit ∈ settings.limit, limit ≤ (room : Int) + frame.depth) →
    contract.KeptBy (within settings room frame body) := by
  -- An inclusion takes one from the room and adds one to the depth, so that their sum, which the
  -- limit is compared with, is the same for all templates.
  induction room with
  | zero =>
    intro frame body hfits hfine hroom
    refine elements_kept rules (fun inner name hinner hdepth hname => ?_) body frame hfits rfl hfine
    refine rules.inclusion _ inner name hinner hname fun template hallowed _ _ => .stop ?_
    rcases hroom with hendless | ⟨limit, hlimit, hle⟩
    · exact hendless
    · have hlt := hallowed limit hlimit
      omega
  | succ room ih =>
    intro frame body hfits hfine hroom
    refine elements_kept rules (fun inner name hinner hdepth hname => ?_) body frame hfits rfl hfine
    refine rules.inclusion _ inner name hinner hname fun template _ hentered helements => ?_
    refine ih (inner.including template) template.elements hentered helements ?_
    rcases hroom with hendless | ⟨limit, hlimit, hle⟩
    · exact .inl hendless
    · refine .inr ⟨limit, hlimit, ?_⟩
      have hdeeper : (inner.including template).depth = inner.depth + 1 := rfl
      omega

end Evaluator

end Inlay
