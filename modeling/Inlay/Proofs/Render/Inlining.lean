import Inlay.Proofs.Render.Following
import Inlay.Proofs.Render.Limit

/-!
# Inlining

An inclusion by a fixed name does what the elements of the template do in its place: they see the
same context and the same subject, also in the repetitions of a loop. What differs is the depth of
what is evaluated, which is less where an inclusion has been inlined, the breadcrumbs of failures,
and what is logged about inclusions.

Main statement: `evaluate_inlined`.
-/

namespace Inlay

namespace Template

/-- The second elements are the first ones, with some of the inclusions by a fixed name replaced by
the elements of the template that the store holds under this name. The elements that take their
place may be inlined in turn. -/
inductive Inlined (store : MemoryStore) : List Element → List Element → Prop where
  | nil : Inlined store [] []
  | keep (first : Element) {rest rest' : List Element} (hrest : Inlined store rest rest') :
    Inlined store (first :: rest) (first :: rest')
  | inclusion {identifier : String} {template : Template} {body rest rest' : List Element}
    (hfind : store.find? identifier = some template)
    (hbody : Inlined store template.elements body) (hrest : Inlined store rest rest') :
    Inlined store (.inclusion (.literal identifier) :: rest) (body ++ rest')
  | cond (test : Expr) {whenPresent whenPresent' rest rest' : List Element}
    {whenAbsent whenAbsent' : Option (List Element)}
    (hpresent : Inlined store whenPresent whenPresent')
    (habsent : Inlined store (whenAbsent.getD []) (whenAbsent'.getD []))
    (hrest : Inlined store rest rest') :
    Inlined store (.cond test whenPresent whenAbsent :: rest)
      (.cond test whenPresent' whenAbsent' :: rest')
  | loop (source : Expr) {body body' rest rest' : List Element}
    {separator separator' : Option (List Element)} (hbody : Inlined store body body')
    (hseparator : Inlined store (separator.getD []) (separator'.getD []))
    (hrest : Inlined store rest rest') :
    Inlined store (.loop source body separator :: rest) (.loop source body' separator' :: rest')

/-- Nothing needs to be inlined. -/
theorem Inlined.refl (store : MemoryStore) (elements : List Element) :
    Inlined store elements elements := by
  induction elements with
  | nil => exact .nil
  | cons first rest ih => exact .keep first ih

end Template

namespace Evaluator

open Template
open Render (Blind Follows)

variable {settings : Settings} {store : MemoryStore}

/-! ## Blind steps of an evaluation -/

/-- A lookup does not look at what has been logged. -/
theorem lookup_blind (frame : Frame) (key : String) (args : List String) :
    Blind store (lookup settings frame key args) := Blind.ask _ key args frame.subject

/-- Nor does the text of a field. -/
theorem textOf_blind (subject : String) (field : Field) :
    Blind store (textOf settings subject field) := by
  cases field with
  | text text => exact .pure text
  | present | items | values => exact .failWith _

mutual

/-- The log takes no part in what an expression stands for. -/
theorem fieldOf_blind (frame : Frame) : (expr : Expr) →
    Blind store (fieldOf settings frame expr)
  | .ident key => by
    rw [fieldOf]
    exact lookup_blind frame key []
  | .call key args => by
    rw [fieldOf]
    exact (arguments_blind frame args).bind fun texts => lookup_blind frame key texts
  | .literal text => by
    rw [fieldOf]
    exact .pure _
  | .foreign kind => by
    rw [fieldOf]
    exact .stop _

/-- Nor do the arguments of a call. -/
theorem arguments_blind (frame : Frame) : (args : List Expr) →
    Blind store (arguments settings frame args)
  | [] => by
    rw [arguments]
    exact .pure _
  | arg :: rest => by
    rw [arguments]
    refine (fieldOf_blind frame arg).bind fun field => (textOf_blind _ field).bind fun text => ?_
    exact (arguments_blind frame rest).bind fun texts => .pure _

end

/-- Nor does the text of an expression. -/
theorem textAt_blind (frame : Frame) (subject : String) (expr : Expr) :
    Blind store (textAt settings frame subject expr) :=
  (fieldOf_blind frame expr).bind fun field => textOf_blind subject field

/-- Nor does a test, though it may log the failure of its expression. -/
theorem isPresent_blind (frame : Frame) (test : Expr) :
    Blind store (isPresent settings frame test) := by
  unfold isPresent
  refine (fieldOf_blind frame test).attempt.bind fun outcome => ?_
  cases outcome with
  | ok field => exact .pure true
  | error failure =>
    dsimp only
    split
    · exact .pure false
    · refine Blind.bind ?_ fun _ => .pure false
      unfold noteCondition
      split
      · exact (Blind.ofExcept _).bind fun trail => .note _ _
      · exact .pure ()

/-- A template is loaded from memory, where loads leave no trace but in the log. -/
theorem load_blind (identifier : String) : Blind store (load settings identifier) := by
  intro session session' halike
  rw [load_memory halike.held, load_memory halike.held']
  rcases store.load settings.reporter identifier with (fault | misuse) | template
  · exact Blind.failWith _ session session' halike
  · exact Blind.stop _ session session' halike
  · exact Blind.pure _ session session' halike

/-! ## Fewer inclusions deep -/

/-- The second frame sees the same fields as the first one, and is no deeper. -/
structure Frame.Outwards (frame frame' : Frame) : Prop where
  view : frame.SameView frame'
  depth : frame'.depth ≤ frame.depth

/-- A template is included one deeper on both sides. -/
theorem Frame.Outwards.including {frame frame' : Frame} (h : frame.Outwards frame')
    (template : Template) : (frame.including template).Outwards (frame'.including template) :=
  ⟨⟨h.view.context, h.view.subject⟩, Nat.succ_le_succ h.depth⟩

/-- An inclusion leads to a frame that the elements of its template could stand in right away. -/
theorem Frame.Outwards.skip {frame frame' : Frame} (h : frame.Outwards frame')
    (template : Template) : (frame.including template).Outwards frame' :=
  ⟨⟨h.view.context, h.view.subject⟩, Nat.le_succ_of_le h.depth⟩

/-- Elements one behind the other are evaluated one behind the other. -/
theorem elements_append (enter : Enter) (frame : Frame) (first second : List Element) :
    elements settings enter frame (first ++ second) = (do
      let text ← elements settings enter frame first
      return text ++ (← elements settings enter frame second)) := by
  induction first with
  | nil =>
    rw [List.nil_append, elements, Render.pure_bind]
    simp only [String.empty_append, Render.bind_pure]
  | cons first rest ih =>
    rw [List.cons_append, elements, elements, ih]
    simp only [Render.bind_assoc, Render.pure_bind, String.append_assoc]

section

variable {enter enter' : Enter} {frame frame' : Frame}

/-- A condition follows another one, if its bodies do. -/
theorem cond_follows (houtwards : frame.Outwards frame') (test : Expr)
    {whenPresent whenPresent' : List Element} {whenAbsent whenAbsent' : Option (List Element)}
    (hpresent : Follows store Eq (elements settings enter frame whenPresent)
      (elements settings enter' frame' whenPresent'))
    (habsent : Follows store Eq (optional settings enter frame whenAbsent)
      (optional settings enter' frame' whenAbsent')) :
    Follows store Eq (element settings enter frame (.cond test whenPresent whenAbsent))
      (element settings enter' frame' (.cond test whenPresent' whenAbsent')) := by
  rw [element, element, ← isPresent_congr ⟨rfl, rfl, rfl⟩ houtwards.view test]
  refine (isPresent_blind frame test).follows.bind ?_
  rintro present _ rfl
  cases present with
  | true => exact hpresent
  | false => exact habsent

/-- Rows of frames follow each other if their steps do, frame by frame. -/
theorem inEach_follows {step step' : Frame → Render String} (place : Frame → Frame)
    (frames : List Frame)
    (hstep : ∀ inner ∈ frames, Follows store Eq (step inner) (step' (place inner))) :
    Follows store Eq (inEach step frames) (inEach step' (frames.map place)) := by
  induction frames with
  | nil => exact .pure rfl
  | cons inner rest ih =>
    rw [List.map_cons, inEach, inEach]
    refine (hstep inner List.mem_cons_self).bind ?_
    rintro text _ rfl
    refine (ih fun later hlater => hstep later (List.mem_cons_of_mem inner hlater)).bind ?_
    rintro texts _ rfl
    exact .pure rfl

/-- Two loops over the same field have the same frames, but for their place. -/
theorem framesOf_follows (houtwards : frame.Outwards frame') (source : Expr) (field : Field) :
    Follows store (fun members members' => members' = members.map (Except.map frame'.placedAt) ∧
        ∀ inner, .ok inner ∈ members → inner.Outwards (frame'.placedAt inner))
      (framesOf settings frame source field) (framesOf settings frame' source field) := by
  unfold framesOf
  rw [loopFrames_placed houtwards.view field]
  cases hframes : loopFrames frame field with
  | none => exact (Follows.failWith _).under _ _
  | some members =>
    refine .pure ⟨rfl, fun inner hinner => ⟨⟨rfl, rfl⟩, ?_⟩⟩
    rw [(member_placed hframes hinner).2]
    exact houtwards.depth

/-- The frames of a loop that can be found are found on both sides. -/
theorem ofStop_follows {place : Frame → Frame} {members : List (Except Stop Frame)} :
    Follows store (fun frames frames' => frames' = frames.map place ∧
        ∀ inner ∈ frames, .ok inner ∈ members)
      (Render.ofStop (members.mapM id))
      (Render.ofStop ((members.map (Except.map place)).mapM id)) := by
  rw [Except.mapM_map]
  cases hframes : members.mapM id with
  | error reason => exact .stop reason
  | ok frames => exact .pure ⟨rfl, Except.mem_of_mapM hframes⟩

/-- A loop follows another one, if its separator does, and its body in every frame. -/
theorem loop_follows (houtwards : frame.Outwards frame') (source : Expr)
    {body body' : List Element} {separator separator' : Option (List Element)}
    (hbody : ∀ inner inner', inner.Outwards inner' →
      Follows store Eq (elements settings enter inner body)
        (elements settings enter' inner' body'))
    (hseparator : Follows store Eq (optional settings enter frame separator)
      (optional settings enter' frame' separator')) :
    Follows store Eq (element settings enter frame (.loop source body separator))
      (element settings enter' frame' (.loop source body' separator')) := by
  rw [element, element, ← fieldOf_congr ⟨rfl, rfl, rfl⟩ houtwards.view source]
  refine ((fieldOf_blind frame source).under _).follows.bind ?_
  rintro field _ rfl
  refine (framesOf_follows houtwards source field).bind ?_
  rintro members _ ⟨rfl, hmembers⟩
  refine Follows.under (hseparator.bind ?_) _ _
  rintro text _ rfl
  refine ofStop_follows.bind ?_
  rintro frames _ ⟨rfl, hframes⟩
  refine (inEach_follows frame'.placedAt frames fun inner hinner => ?_).bind ?_
  · exact hbody inner _ (hmembers inner (hframes inner hinner))
  · rintro texts _ rfl
    exact .pure rfl

/-- An inclusion that the limit allows for is allowed further outwards. -/
theorem checkDepth_follows (houtwards : frame.Outwards frame') :
    Follows store Eq (checkDepth settings frame.depth) (checkDepth settings frame'.depth) := by
  unfold checkDepth
  cases settings.limit with
  | none => exact .pure rfl
  | some limit =>
    dsimp only
    by_cases hreached : limit ≤ frame.depth
    · rw [if_pos hreached]
      intro session session' _
      cases hmade : settings.reporter.depthFailure limit with
      | error misuse => exact .stopped
      | ok failure =>
        obtain ⟨message, -, hfailure⟩ := Except.bind_eq_ok.1 hmade
        cases hfailure
        exact .tooDeep rfl
    · have hle := houtwards.depth
      have hallowed : ¬ limit ≤ frame'.depth := by omega
      rw [if_neg hreached, if_neg hallowed]
      exact .pure rfl

/-- An inclusion follows one of the same name that is deeper, if its template does. -/
theorem inclusion_follows (hlog : ∀ log ∈ settings.log, log.logger.CutsAtInteger)
    (houtwards : frame.Outwards frame') (name : Expr)
    (henter : ∀ template, Follows store Eq
      (enter (frame.including template) template.elements)
      (enter' (frame'.including template) template.elements)) :
    Follows store Eq (inclusion settings enter frame name)
      (inclusion settings enter' frame' name) := by
  -- the depth that is logged is not the same on both sides
  have hnote : ∀ identifier, Follows store Eq
      (RenderLogger.note settings.log (.included identifier (frame.depth + 1)))
      (RenderLogger.note settings.log (.included identifier (frame'.depth + 1))) := by
    intro identifier
    obtain ⟨lines, hlines⟩ := RenderLogger.exists_note hlog
      (.included identifier (frame.depth + 1))
    obtain ⟨lines', hlines'⟩ := RenderLogger.exists_note hlog
      (.included identifier (frame'.depth + 1))
    rw [hlines, hlines']
    exact .addLines lines lines'
  have hsubject : frame'.subject.identifier = frame.subject.identifier := by
    rw [houtwards.view.subject]
  rw [inclusion, inclusion, ← textAt_congr ⟨rfl, rfl, rfl⟩ houtwards.view, hsubject]
  refine ((textAt_blind frame _ name).under _).follows.bind ?_
  rintro identifier _ rfl
  refine Follows.under ((checkDepth_follows houtwards).bind ?_) _ _
  rintro _ _ -
  refine (load_blind identifier).follows.bind ?_
  rintro template _ rfl
  refine (hnote identifier).bind ?_
  rintro _ _ -
  exact (henter template).underTold _

/-- What stands in the place of an inclusion by a fixed name follows it. -/
theorem inclusion_inlined (hlog : ∀ log ∈ settings.log, log.logger.CutsAtInteger)
    {identifier : String} {template : Template} (hfind : store.find? identifier = some template)
    {second : Render String}
    (henter : Follows store Eq (enter (frame.including template) template.elements) second) :
    Follows store Eq (inclusion settings enter frame (.literal identifier)) second := by
  intro session session' halike
  have htext : textAt settings frame (Breadcrumb.inclusionSubject (.literal identifier))
      (.literal identifier) session = (.value identifier, session) := rfl
  -- the inclusion is performed, or it is too deep and so ends the first evaluation
  rcases allowed_or_reached settings frame.depth with hallowed | hreached
  · obtain ⟨lines, hlines⟩ := RenderLogger.exists_note hlog
      (.included identifier (frame.depth + 1))
    have henters : Enters settings frame (.literal identifier) session identifier template
        { session with lines := session.lines ++ lines } := by
      refine ⟨htext, hallowed, load_memory_found halike.held hfind, ?_⟩
      rw [hlines]
      rfl
    have halike' : Session.Alike store { session with lines := session.lines ++ lines }
        session' := ⟨halike.held, halike.same⟩
    rw [inclusion_of_enters henters]
    exact (henter.underTold_left _).under_left _ _ _ halike'
  · have hdeep : TooDeepAt settings frame (.literal identifier) session :=
      ⟨⟨identifier, session, htext⟩, hreached⟩
    have hcut : Ending.CutOff _ (inclusion settings enter frame (.literal identifier) session).1 :=
      inclusion_cutOff hdeep False
    rcases hinclusion : inclusion settings enter frame (.literal identifier) session with
      ⟨text | failure | reason, after⟩ <;> rw [hinclusion] at hcut
    · exact hcut.elim
    · exact .tooDeep hcut
    · exact .stopped

mutual

/-- An element is followed by itself, where it stands further outwards. -/
theorem element_outwards (hlog : ∀ log ∈ settings.log, log.logger.CutsAtInteger)
    (henter : ∀ frame frame' template, Frame.Outwards frame frame' → Follows store Eq
      (enter (frame.including template) template.elements)
      (enter' (frame'.including template) template.elements)) :
    (element : Element) → (frame frame' : Frame) → frame.Outwards frame' →
    Follows store Eq (Evaluator.element settings enter frame element)
      (Evaluator.element settings enter' frame' element)
  | .chunk text, _, _, _ => by
    rw [element, element]
    exact .pure rfl
  | .dollar, _, _, _ => by
    rw [element, element]
    exact .pure rfl
  | .value expr, frame, frame', houtwards => by
    rw [element, element, ← textAt_congr ⟨rfl, rfl, rfl⟩ houtwards.view]
    exact ((textAt_blind frame _ expr).under _).follows
  | .cond test whenPresent whenAbsent, frame, frame', houtwards =>
    cond_follows houtwards test (elements_outwards hlog henter whenPresent frame frame' houtwards)
      (optional_outwards hlog henter whenAbsent frame frame' houtwards)
  | .loop source body separator, frame, frame', houtwards =>
    loop_follows houtwards source (elements_outwards hlog henter body)
      (optional_outwards hlog henter separator frame frame' houtwards)
  | .inclusion name, frame, frame', houtwards => by
    rw [element, element]
    exact inclusion_follows hlog houtwards name fun template =>
      henter frame frame' template houtwards
  | .trimLeft, _, _, _ => by
    rw [element]
    -- marks and foreign elements stop the first evaluation, which every other follows
    exact .stop _
  | .trimRight, _, _, _ => by
    rw [element]
    exact .stop _
  | .foreign kind, _, _, _ => by
    rw [element]
    exact .stop _

/-- The same elements follow each other from a frame to one that is less deep. -/
theorem elements_outwards (hlog : ∀ log ∈ settings.log, log.logger.CutsAtInteger)
    (henter : ∀ frame frame' template, Frame.Outwards frame frame' → Follows store Eq
      (enter (frame.including template) template.elements)
      (enter' (frame'.including template) template.elements)) :
    (body : List Element) → (frame frame' : Frame) → frame.Outwards frame' →
    Follows store Eq (elements settings enter frame body) (elements settings enter' frame' body)
  | [], _, _, _ => by
    rw [elements, elements]
    exact .pure rfl
  | first :: rest, frame, frame', houtwards => by
    rw [elements, elements]
    refine (element_outwards hlog henter first frame frame' houtwards).bind ?_
    rintro text _ rfl
    refine (elements_outwards hlog henter rest frame frame' houtwards).bind ?_
    rintro after _ rfl
    exact .pure rfl

/-- So do those of a body that may be absent. -/
theorem optional_outwards (hlog : ∀ log ∈ settings.log, log.logger.CutsAtInteger)
    (henter : ∀ frame frame' template, Frame.Outwards frame frame' → Follows store Eq
      (enter (frame.including template) template.elements)
      (enter' (frame'.including template) template.elements)) :
    (body : Option (List Element)) → (frame frame' : Frame) → frame.Outwards frame' →
    Follows store Eq (optional settings enter frame body) (optional settings enter' frame' body)
  | none, _, _, _ => by
    rw [optional, optional]
    exact .pure rfl
  | some body, frame, frame', houtwards => by
    rw [optional, optional]
    exact elements_outwards hlog henter body frame frame' houtwards

end

/-- Elements are followed by what they are when they are inlined. -/
theorem elements_inlined (hlog : ∀ log ∈ settings.log, log.logger.CutsAtInteger)
    (henter : ∀ frame frame' template, Frame.Outwards frame frame' → Follows store Eq
      (enter (frame.including template) template.elements)
      (enter' (frame'.including template) template.elements))
    (hinline : ∀ frame frame' (template : Template) body, Frame.Outwards frame frame' →
      Inlined store template.elements body → Follows store Eq
        (enter (frame.including template) template.elements)
        (elements settings enter' frame' body))
    {first second : List Element} (h : Inlined store first second) :
    ∀ frame frame', Frame.Outwards frame frame' →
      Follows store Eq (elements settings enter frame first)
        (elements settings enter' frame' second) := by
  have hcons : ∀ frame frame' first second rest rest', Frame.Outwards frame frame' →
      Follows store Eq (element settings enter frame first)
        (elements settings enter' frame' second) →
      (∀ frame frame', Frame.Outwards frame frame' →
        Follows store Eq (elements settings enter frame rest)
          (elements settings enter' frame' rest')) →
      Follows store Eq (elements settings enter frame (first :: rest))
        (elements settings enter' frame' (second ++ rest')) := by
    intro frame frame' first second rest rest' houtwards hfirst hrest
    rw [elements, elements_append]
    refine hfirst.bind ?_
    rintro text _ rfl
    refine (hrest frame frame' houtwards).bind ?_
    rintro after _ rfl
    exact .pure rfl
  -- The induction is on what has been inlined; only `inclusion` leaves the list that it is in, and
  -- what it goes on with comes from `hinline`, not from an induction hypothesis.
  induction h with
  | nil => exact elements_outwards hlog henter []
  | keep first _ ih =>
    intro frame frame' houtwards
    refine hcons frame frame' first [first] _ _ houtwards ?_ ih
    rw [elements_singleton]
    exact element_outwards hlog henter first frame frame' houtwards
  | @inclusion identifier template body _ _ hfind hbody _ _ ih =>
    intro frame frame' houtwards
    refine hcons frame frame' _ body _ _ houtwards ?_ ih
    rw [element]
    exact inclusion_inlined hlog hfind (hinline frame frame' template body houtwards hbody)
  | cond test _ _ _ ihPresent ihAbsent ih =>
    intro frame frame' houtwards
    refine hcons frame frame' _ [_] _ _ houtwards ?_ ih
    rw [elements_singleton]
    refine cond_follows houtwards test (ihPresent frame frame' houtwards) ?_
    rw [optional_eq, optional_eq]
    exact ihAbsent frame frame' houtwards
  | loop source _ _ _ ihBody ihSeparator ih =>
    intro frame frame' houtwards
    refine hcons frame frame' _ [_] _ _ houtwards ?_ ih
    rw [elements_singleton]
    refine loop_follows houtwards source ihBody ?_
    rw [optional_eq, optional_eq]
    exact ihSeparator frame frame' houtwards

end

/-- With at least as much room, inlined elements follow the elements that they come from. -/
theorem within_inlined (hlog : ∀ log ∈ settings.log, log.logger.CutsAtInteger) (room : Nat) :
    ∀ room' frame frame' first second, room ≤ room' → Frame.Outwards frame frame' →
    Inlined store first second →
    Follows store Eq (within settings room frame first) (within settings room' frame' second) := by
  induction room with
  | zero =>
    intro room' frame frame' first second _ houtwards hinlined
    -- no inclusion is entered any more, so nothing is said about the room of the second elements
    obtain ⟨enter', henter'⟩ := exists_within_eq settings room'
    rw [henter', within]
    exact elements_inlined hlog (fun _ _ _ _ => .stop _) (fun _ _ _ _ _ _ => .stop _) hinlined
      frame frame' houtwards
  | succ room ih =>
    intro room' frame frame' first second hroom houtwards hinlined
    obtain ⟨room', rfl⟩ : ∃ less, room' = less + 1 := ⟨room' - 1, by omega⟩
    have hle : room ≤ room' := Nat.le_of_succ_le_succ hroom
    refine elements_inlined hlog (fun frame frame' template houtwards => ?_)
      (fun frame frame' template body houtwards hbody => ?_) hinlined frame frame' houtwards
    · -- an inclusion that stays takes room from both
      exact ih room' _ _ _ _ hle (houtwards.including template) (.refl store template.elements)
    · -- one that is inlined takes room from the first evaluation only
      exact ih (room' + 1) _ _ _ _ (Nat.le_succ_of_le hle) (houtwards.skip template) hbody

/-- Inclusion is inlining. Replace any of the inclusions by a fixed name in a list of elements by
the elements of the template that is in memory under this name: unless the evaluation fails for the
depth of an inclusion, it has the same text afterwards, or fails with the same code, and asks the
same questions. -/
theorem evaluate_inlined (settings : Settings)
    (hlog : ∀ log ∈ settings.log, log.logger.CutsAtInteger) (store : MemoryStore)
    (session : Session) (hstore : session.store = some (.memory store))
    (elements elements' : List Element) (hinlined : Inlined store elements elements')
    (origin : Value) (context : Context) (subject : Value) :
    let ended := evaluate settings ⟨origin, elements⟩ context subject session
    let ended' := evaluate settings ⟨origin, elements'⟩ context subject session
    (∀ text, ended.1 = .value text →
      ended'.1 = .value text ∧ ended'.2.calls = ended.2.calls) ∧
    ∀ failure, ended.1 = .failed failure → failure.code ≠ Code.includeDepthExceeded →
      ∃ failure', ended'.1 = .failed failure' ∧ failure'.code = failure.code ∧
        ended'.2.calls = ended.2.calls := by
  intro ended ended'
  have hfollows : Render.FollowsAt store Eq ended ended' :=
    within_inlined hlog session.room session.room _ _ elements elements' (Nat.le_refl _)
      ⟨⟨rfl, rfl⟩, Nat.le_refl _⟩ hinlined session session (.refl hstore)
  generalize ended = first, ended' = second at hfollows ⊢
  cases hfollows with
  | value related hafter =>
    refine ⟨?_, fun failure hfailure => nomatch hfailure⟩
    rintro text ⟨⟩
    exact ⟨related ▸ rfl, hafter.calls_eq⟩
  | @failed _ failure' _ after' hcode hafter =>
    refine ⟨fun text htext => (nomatch htext), ?_⟩
    rintro failure ⟨⟩ _
    exact ⟨failure', rfl, hcode, hafter.calls_eq⟩
  | tooDeep hdeep =>
    refine ⟨fun text htext => (nomatch htext), ?_⟩
    rintro failure ⟨⟩ hnot
    exact absurd hdeep hnot
  | stopped => exact ⟨fun text htext => (nomatch htext), fun failure hfailure => nomatch hfailure⟩

/-- A context that knows a list of two posts, and of each post its path. -/
def twoPosts : Context := .single fun key _ _ =>
  if key = "posts" then
    pure (.found (.items (.path "path")
      [.item (.text "a.md") .null [], .item (.text "b.md") .null []]))
  else pure (.notFound [])

/-- The link to a post. -/
def link : Template := ⟨.text "link", [.chunk "-> ", .value (.ident "path")]⟩

/-- A store that has the link to a post. -/
def linkStore : MemoryStore := ⟨[("link", link)]⟩

/-- A list of links is the same with the elements of the link in its loop. -/
theorem links_inlined :
    (evaluate ⟨⟨.builtin, default⟩, default, some 32, none⟩
      ⟨.text "links", [.loop (.ident "posts") [.chunk "-> ", .value (.ident "path")]
        (some [.chunk ", "])]⟩ twoPosts .null { store := some (.memory linkStore) }).1
      = .value "-> a.md, -> b.md" := by
  have hbody : Inlined linkStore [.inclusion (.literal "link")]
      [.chunk "-> ", .value (.ident "path")] :=
    .inclusion (show linkStore.find? "link" = some link from rfl) (.refl _ link.elements) .nil
  have hinlined := Inlined.loop (.ident "posts") hbody
    (.refl linkStore ((some [.chunk ", "] : Option (List Element)).getD [])) .nil
  have h := evaluate_inlined ⟨⟨.builtin, default⟩, default, some 32, none⟩
    (fun _ hlog => nomatch hlog) linkStore { store := some (.memory linkStore) } rfl _ _ hinlined
    (.text "links") twoPosts .null
  exact (h.1 "-> a.md, -> b.md" rfl).1

end Evaluator

end Inlay
