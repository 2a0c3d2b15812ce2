import Inlay.Proofs.Render.Settled

/-!
# Loops

A loop is the text of its repetitions, joined by its separator. The separator is evaluated once,
where the loop stands and before any repetition, even if there are none; then the repetitions are
evaluated one after the other, each in a frame of its own, up to the first that fails.

What a repetition comes to is not changed by what was evaluated before it, so it is what the body
comes to alone. From this, loops over two lists are put together to the loop over both.

Main statement: `loop_repeats`.
-/

namespace Inlay

namespace Evaluator

open Template
open Render (Settled)

/-! ## The frames of a list -/

/-- The frames in which the body of a loop is evaluated. An item is asked about in the context of
its list alone, where nothing of the surrounding frame is seen. A value puts the context that is
made of it before the surrounding one, if there is such a context, and keeps the subject. -/
inductive Repeats (frame : Frame) : Field → List (Except Stop Frame) → Prop where
  | items (context : Context) (subjects : List Value) : Repeats frame (.items context subjects)
      (subjects.map fun subject => .ok ⟨context, subject, frame.origin, frame.depth⟩)
  | values (members : List (Value × Except Stop Context)) : Repeats frame (.values members)
      (members.map fun member => member.2.map fun built =>
        ⟨.chain [built, frame.context], frame.subject, frame.origin, frame.depth⟩)

/-- The members that a loop goes through are the frames that it finds. -/
theorem Repeats.loopFrames_eq {frame : Frame} {field : Field} {members : List (Except Stop Frame)}
    (h : Repeats frame field members) : loopFrames frame field = some members := by
  cases h with
  | items context subjects => rfl
  | values values =>
    refine congrArg some (List.map_congr_left fun member _ => ?_)
    obtain ⟨value, reason | built⟩ := member <;> rfl

/-! ## Repetitions one after the other -/

/-- The step is taken in each of the frames, one after the other, and has a text in each of them. -/
inductive RunsThrough (step : Frame → Render String) :
    List Frame → Session → List String → Session → Prop where
  | nil (session : Session) : RunsThrough step [] session [] session
  | cons {frame : Frame} {rest : List Frame} {session between after : Session} {text : String}
    {texts : List String} (hfirst : step frame session = (.value text, between))
    (hrest : RunsThrough step rest between texts after) :
    RunsThrough step (frame :: rest) session (text :: texts) after

section

variable {step : Frame → Render String} {frames : List Frame} {session after : Session}

/-- A loop has texts exactly if it runs through all of its frames. -/
theorem inEach_eq_value {texts : List String} :
    inEach step frames session = (.value texts, after) ↔
      RunsThrough step frames session texts after := by
  induction frames generalizing session texts with
  | nil =>
    rw [inEach]
    constructor
    · intro h
      cases h
      exact .nil _
    · intro h
      cases h
      rfl
  | cons frame rest ih =>
    rw [inEach]
    constructor
    · intro h
      obtain ⟨text, between, hfirst, hbehind⟩ := Render.bind_eq_value.1 h
      obtain ⟨others, _, hrest, hvalue⟩ := Render.bind_eq_value.1 hbehind
      cases hvalue
      exact .cons hfirst (ih.1 hrest)
    · intro h
      cases h with
      | cons hfirst hrest =>
        rw [Render.bind_of_value hfirst, Render.bind_of_value (ih.2 hrest)]
        rfl

/-- Repetitions fail in the first that does, and those after it are not evaluated. -/
theorem inEach_eq_failed {failure : Failure} :
    inEach step frames session = (.failed failure, after) ↔
      ∃ front one rest texts between, frames = front ++ one :: rest ∧
        RunsThrough step front session texts between ∧
        step one between = (.failed failure, after) := by
  induction frames generalizing session with
  | nil =>
    rw [inEach]
    constructor
    · intro h
      exact absurd h Render.pure_ne_failed
    · rintro ⟨front, one, rest, _, _, hframes, -⟩
      simp at hframes
  | cons frame rest ih =>
    rw [inEach]
    constructor
    · intro h
      -- either this frame fails, or it has a text and a later one fails
      rcases Render.bind_eq_failed.1 h with hfirst | ⟨text, between, hfirst, hbehind⟩
      · exact ⟨[], frame, rest, [], session, rfl, .nil session, hfirst⟩
      · rcases Render.bind_eq_failed.1 hbehind with hrest | ⟨_, _, -, hvalue⟩
        · obtain ⟨front, one, behind, texts, reached, rfl, hfront, hone⟩ := ih.1 hrest
          exact ⟨frame :: front, one, behind, text :: texts, reached, rfl, .cons hfirst hfront,
            hone⟩
        · exact absurd hvalue Render.pure_ne_failed
    · rintro ⟨front, one, behind, texts, reached, hframes, hfront, hone⟩
      cases hfront with
      | nil =>
        cases hframes
        exact Render.bind_eq_failed.2 (.inl hone)
      | cons hfirst hlater =>
        cases hframes
        refine Render.bind_eq_failed.2 (.inr ⟨_, _, hfirst, Render.bind_eq_failed.2 (.inl ?_)⟩)
        exact ih.2 ⟨_, one, behind, _, reached, rfl, hlater, hone⟩

/-- If the step is settled in each of the frames, so is what it comes to in all of them. -/
theorem inEach_settled {kind : Session → Prop} {ending : Frame → Ending String}
    (hstep : ∀ frame, Settled kind (ending frame) (step frame)) (frames : List Frame) :
    Settled kind (frames.mapM ending) (inEach step frames) := by
  induction frames with
  | nil =>
    rw [inEach, List.mapM_nil]
    exact .pure []
  | cons frame rest ih =>
    rw [inEach, List.mapM_cons]
    exact (hstep frame).bind fun text _ => ih.bind fun texts _ => .pure (text :: texts)

end

/-! ## Joined texts -/

/-- What a loop comes to, told from what its separator and its body come to alone. -/
def joined (separator : Ending String) (members : List (Except Stop Frame))
    (repetition : Frame → Ending String) : Ending String := do
  let glue ← separator
  let frames ← Ending.ofStop (members.mapM id)
  let texts ← frames.mapM repetition
  return glue.intercalate texts

section

variable {separator : Ending String} {members front back : List (Except Stop Frame)}
  {repetition : Frame → Ending String} {text : String}

/-- The text of a loop is that of its repetitions, with the separator between them. -/
theorem joined_eq_value : joined separator members repetition = .value text ↔
    ∃ glue, ∃ frames : List Frame, ∃ texts, separator = .value glue ∧ members = frames.map .ok ∧
      frames.mapM repetition = .value texts ∧ text = glue.intercalate texts := by
  unfold joined
  simp only [Ending.bind_eq_value, Ending.ofStop_eq_value, Except.mapM_id_eq_ok,
    Ending.pure_eq_value]
  constructor
  · rintro ⟨glue, hglue, frames, hframes, texts, htexts, rfl⟩
    exact ⟨glue, frames, texts, hglue, hframes, htexts, rfl⟩
  · rintro ⟨glue, frames, texts, hglue, hframes, htexts, rfl⟩
    exact ⟨glue, hglue, frames, hframes, texts, htexts, rfl⟩

/-- There is a text for each frame. -/
theorem length_of_mapM_eq_value {frames : List Frame} {texts : List String}
    (h : frames.mapM repetition = .value texts) : texts.length = frames.length := by
  induction frames generalizing texts with
  | nil =>
    rw [List.mapM_nil, Ending.pure_eq_value] at h
    rw [← h]
    rfl
  | cons frame rest ih =>
    rw [List.mapM_cons] at h
    obtain ⟨first, -, hbehind⟩ := Ending.bind_eq_value.1 h
    obtain ⟨others, hothers, hvalue⟩ := Ending.bind_eq_value.1 hbehind
    cases Ending.pure_eq_value.1 hvalue
    rw [List.length_cons, List.length_cons, ih hothers]

/-- Over two lists that are not empty, the separator stands between what comes of each. -/
theorem joined_append_eq_value (hfront : front ≠ []) (hback : back ≠ []) :
    joined separator (front ++ back) repetition = .value text ↔
      ∃ glue first last, separator = .value glue ∧
        joined separator front repetition = .value first ∧
        joined separator back repetition = .value last ∧ text = first ++ glue ++ last := by
  -- a separator stands between the parts only if neither of them is empty
  have hnonempty : ∀ {frames : List Frame} {texts : List String},
      (frames.map .ok : List (Except Stop Frame)) ≠ [] →
      frames.mapM repetition = .value texts → texts ≠ [] := by
    rintro frames _ hframes htexts rfl
    have hlength := length_of_mapM_eq_value htexts
    rw [List.length_nil, eq_comm, List.length_eq_zero_iff] at hlength
    exact hframes (List.map_eq_nil_iff.2 hlength)
  simp only [joined_eq_value]
  constructor
  · rintro ⟨glue, frames, texts, hglue, hframes, htexts, rfl⟩
    obtain ⟨frames₁, frames₂, rfl, rfl, rfl⟩ := List.append_eq_map_iff.1 hframes
    rw [List.mapM_append] at htexts
    obtain ⟨first, hfirst, hbehind⟩ := Ending.bind_eq_value.1 htexts
    obtain ⟨last, hlast, hvalue⟩ := Ending.bind_eq_value.1 hbehind
    cases Ending.pure_eq_value.1 hvalue
    refine ⟨glue, _, _, hglue, ⟨glue, frames₁, first, hglue, rfl, hfirst, rfl⟩,
      ⟨glue, frames₂, last, hglue, rfl, hlast, rfl⟩, ?_⟩
    exact String.intercalate_append_of_ne_nil (hnonempty hfront hfirst) (hnonempty hback hlast)
  · rintro ⟨glue, _, _, hglue, ⟨glue₁, frames₁, first, hglue₁, rfl, hfirst, rfl⟩,
      ⟨glue₂, frames₂, last, hglue₂, rfl, hlast, rfl⟩, rfl⟩
    rw [hglue] at hglue₁ hglue₂
    cases hglue₁
    cases hglue₂
    refine ⟨glue, frames₁ ++ frames₂, first ++ last, hglue, List.map_append.symm, ?_, ?_⟩
    · rw [List.mapM_append, hfirst, hlast]
      rfl
    · exact (String.intercalate_append_of_ne_nil (hnonempty hfront hfirst)
        (hnonempty hback hlast)).symm

end

/-! ## Loops -/

section

variable {settings : Settings} {room : Nat} {frame : Frame} {source : Expr} {body : List Element}
  {separator : Option (List Element)} {members : List (Except Stop Frame)}
  {session between : Session}

/-- The source of a loop stands for a list, the members of which are gone through in these
frames. -/
def GoesThrough (settings : Settings) (frame : Frame) (source : Expr) (session : Session)
    (members : List (Except Stop Frame)) (between : Session) : Prop :=
  ∃ field, fieldOf settings frame source session = (.value field, between) ∧
    Repeats frame field members

/-- What a loop does once its list is found. -/
theorem loop_eq (hsource : GoesThrough settings frame source session members between) :
    within settings room frame [.loop source body separator] session
      = Render.under (Breadcrumb.inLoop source) (do
        let glue ← within settings room frame (separator.getD [])
        let frames ← Render.ofStop (members.mapM id)
        let texts ← inEach (fun inner => within settings room inner body) frames
        return glue.intercalate texts) between := by
  obtain ⟨field, hfield, hrepeats⟩ := hsource
  obtain ⟨enter, henter⟩ := exists_within_eq settings room
  rw [henter, elements_singleton, element, optional_eq,
    Render.bind_of_value (Render.under_of_value hfield _),
    Render.bind_of_value (framesOf_eq_value.2 ⟨hrepeats.loopFrames_eq, rfl⟩)]

/-- A loop has a text if its separator has one, and behind it each of the repetitions. -/
theorem loop_eq_value {text : String} {after : Session}
    (hsource : GoesThrough settings frame source session members between) :
    within settings room frame [.loop source body separator] session = (.value text, after) ↔
      ∃ glue separated, ∃ frames : List Frame, ∃ texts,
        within settings room frame (separator.getD []) between = (.value glue, separated) ∧
        members = frames.map .ok ∧
        RunsThrough (fun inner => within settings room inner body) frames separated texts after ∧
        text = glue.intercalate texts := by
  rw [loop_eq hsource, Render.under_eq_value, Render.bind_eq_value]
  constructor
  · rintro ⟨glue, separated, hglue, hbehind⟩
    obtain ⟨frames, _, hall, hrest⟩ := Render.bind_eq_value.1 hbehind
    obtain ⟨hframes, rfl⟩ := Render.ofStop_eq_value.1 hall
    obtain ⟨texts, _, htexts, hvalue⟩ := Render.bind_eq_value.1 hrest
    cases hvalue
    exact ⟨glue, _, frames, texts, hglue, Except.mapM_id_eq_ok.1 hframes,
      inEach_eq_value.1 htexts, rfl⟩
  · rintro ⟨glue, separated, frames, texts, hglue, hframes, htexts, rfl⟩
    refine ⟨glue, separated, hglue, Render.bind_eq_value.2 ⟨frames, separated, ?_, ?_⟩⟩
    · exact Render.ofStop_eq_value.2 ⟨Except.mapM_id_eq_ok.2 hframes, rfl⟩
    · exact Render.bind_eq_value.2 ⟨texts, after, inEach_eq_value.2 htexts, rfl⟩

/-- A loop fails in its separator, or behind it in the first repetition that fails. -/
theorem loop_eq_failed {failure : Failure} {after : Session}
    (hsource : GoesThrough settings frame source session members between) :
    within settings room frame [.loop source body separator] session = (.failed failure, after) ↔
      ∃ inner, failure = inner.below (Breadcrumb.inLoop source) ∧
        (within settings room frame (separator.getD []) between = (.failed inner, after) ∨
        ∃ glue separated, ∃ front : List Frame, ∃ one rest texts reached,
          within settings room frame (separator.getD []) between = (.value glue, separated) ∧
          members = (front ++ one :: rest).map .ok ∧
          RunsThrough (fun inner => within settings room inner body) front separated texts
            reached ∧
          within settings room one body reached = (.failed inner, after)) := by
  rw [loop_eq hsource, Render.under_eq_failed]
  refine exists_congr fun inner => and_comm.trans (and_congr_right fun _ => ?_)
  rw [Render.bind_eq_failed]
  refine or_congr_right ?_
  constructor
  · rintro ⟨glue, separated, hglue, hbehind⟩
    rcases Render.bind_eq_failed.1 hbehind with hstop | ⟨frames, _, hall, hrest⟩
    · exact absurd hstop (Render.NeverFails.ofStop _ _ _ _)
    obtain ⟨hframes, rfl⟩ := Render.ofStop_eq_value.1 hall
    rcases Render.bind_eq_failed.1 hrest with heach | ⟨_, _, -, hvalue⟩
    · obtain ⟨front, one, rest, texts, reached, rfl, hfront, hone⟩ := inEach_eq_failed.1 heach
      exact ⟨glue, _, front, one, rest, texts, reached, hglue, Except.mapM_id_eq_ok.1 hframes,
        hfront, hone⟩
    · exact absurd hvalue Render.pure_ne_failed
  · rintro ⟨glue, separated, front, one, rest, texts, reached, hglue, hframes, hfront, hone⟩
    refine ⟨glue, separated, hglue,
      Render.bind_eq_failed.2 (.inr ⟨front ++ one :: rest, separated, ?_, ?_⟩)⟩
    · exact Render.ofStop_eq_value.2 ⟨Except.mapM_id_eq_ok.2 hframes, rfl⟩
    · exact Render.bind_eq_failed.2 (.inl (inEach_eq_failed.2
        ⟨front, one, rest, texts, reached, rfl, hfront, hone⟩))

/-- A loop comes to what its separator and its body come to alone, joined. -/
theorem loop_joined (room : Nat) (body : List Element) (separator : Option (List Element))
    (hsource : GoesThrough settings frame source session members between) :
    (within settings room frame [.loop source body separator] session).1
      = (joined (within settings room frame (separator.getD []) session).1 members
          fun inner => (within settings room inner body session).1).below
        (Breadcrumb.inLoop source) := by
  have hserves := serves_self settings session
  have hbetween : between.Serves settings session.store := by
    obtain ⟨field, hfield, -⟩ := hsource
    have hafter := (fieldOf_settled hserves frame source session hserves).2
    rwa [hfield] at hafter
  rw [loop_eq hsource]
  refine (Settled.under ?_ _ between hbetween).1
  refine (within_settled hserves room frame _).bind fun glue _ => ?_
  refine (Settled.ofStop _).bind fun frames _ => ?_
  have heach := inEach_settled (fun inner => within_settled hserves room inner body) frames
  exact heach.bind fun texts _ => .pure (glue.intercalate texts)

end

/-- A loop is the text of its repetitions, joined by its separator. Let its source stand for a list.
It ends as told by how the separator ends alone, in the surrounding frame, and the body alone in
each of the frames of the list. Before the body, the separator is evaluated once; then the body is,
frame by frame, and what ends the loop early is the failure of the separator, or else of the first
frame in which the body fails, with the loop as a breadcrumb before it. If the list falls into two
that are not empty, the text is that of the loops over each of them, with the separator between. -/
theorem loop_repeats (settings : Settings) (room : Nat) (frame : Frame) (source : Expr)
    (body : List Element) (separator : Option (List Element)) (session between : Session)
    (members : List (Except Stop Frame))
    (hsource : GoesThrough settings frame source session members between) :
    let run := within settings room
    let repeated := fun source => run frame [.loop source body separator] session
    ((repeated source).1 = (joined (run frame (separator.getD []) session).1 members
      fun inner => (run inner body session).1).below (Breadcrumb.inLoop source)) ∧
    (∀ text after, repeated source = (.value text, after) ↔
      ∃ glue separated, ∃ frames : List Frame, ∃ texts,
        run frame (separator.getD []) between = (.value glue, separated) ∧
        members = frames.map .ok ∧
        RunsThrough (fun inner => run inner body) frames separated texts after ∧
        text = glue.intercalate texts) ∧
    (∀ failure after, repeated source = (.failed failure, after) ↔
      ∃ inner, failure = inner.below (Breadcrumb.inLoop source) ∧
        (run frame (separator.getD []) between = (.failed inner, after) ∨
        ∃ glue separated, ∃ front : List Frame, ∃ one rest texts reached,
          run frame (separator.getD []) between = (.value glue, separated) ∧
          members = (front ++ one :: rest).map .ok ∧
          RunsThrough (fun inner => run inner body) front separated texts reached ∧
          run one body reached = (.failed inner, after))) ∧
    ∀ front back frontSource backSource frontBetween backBetween,
      members = front ++ back → front ≠ [] → back ≠ [] →
      GoesThrough settings frame frontSource session front frontBetween →
      GoesThrough settings frame backSource session back backBetween →
      ∀ text, (repeated source).1 = .value text ↔ ∃ glue first last,
        (run frame (separator.getD []) session).1 = .value glue ∧
        (repeated frontSource).1 = .value first ∧ (repeated backSource).1 = .value last ∧
        text = first ++ glue ++ last := by
  intro run repeated
  refine ⟨loop_joined room body separator hsource, fun text after => loop_eq_value hsource,
    fun failure after => loop_eq_failed hsource, ?_⟩
  intro front back frontSource backSource frontBetween backBetween hmembers hfront hback
    hfrontSource hbackSource text
  -- the whole loop, its front and its back are told in the one way
  have hwhole := loop_joined room body separator hsource
  have hfirst := loop_joined room body separator hfrontSource
  have hlast := loop_joined room body separator hbackSource
  subst hmembers
  simp only [repeated, run]
  rw [hwhole, hfirst, hlast]
  simp only [Ending.below_eq_value]
  exact joined_append_eq_value hfront hback

/-- A context of tags, in three lists, and of what stands between them. -/
def tagLists : Context :=
  let build := fun tag => .ok (.const "tag" tag)
  .chain [.values "all" build [.text "a", .text "b", .text "c"], .values "first" build [.text "a"],
    .values "others" build [.text "b", .text "c"], .const "glue" (.text ", ")]

/-- The frames of a list of tags. -/
def tagFrames (tags : List String) : List (Except Stop Frame) :=
  tags.map fun tag => .ok ⟨.chain [.const "tag" (.text tag), tagLists], .null, .null, 0⟩

/-- One list of tags, its first member and the others are gone through in their order. -/
theorem tags_goThrough (settings : Settings) :
    GoesThrough settings ⟨tagLists, .null, .null, 0⟩ (.ident "all") {} (tagFrames ["a", "b", "c"])
      {} ∧
    GoesThrough settings ⟨tagLists, .null, .null, 0⟩ (.ident "first") {} (tagFrames ["a"]) {} ∧
    GoesThrough settings ⟨tagLists, .null, .null, 0⟩ (.ident "others") {}
      (tagFrames ["b", "c"]) {} :=
  ⟨⟨_, rfl, .values _⟩, ⟨_, rfl, .values _⟩, ⟨_, rfl, .values _⟩⟩

/-- The loop over all tags, from those over the first and over the others. -/
theorem tags_repeated :
    let repeated := fun key => within ⟨⟨.builtin, default⟩, default, some 32, none⟩ 1
      ⟨tagLists, .null, .null, 0⟩
      [.loop (.ident key) [.value (.ident "tag")] (some [.value (.ident "glue")])] {}
    (repeated "all").1 = .value ("a" ++ ", " ++ "b, c") := by
  intro repeated
  obtain ⟨hall, hfirst, hothers⟩ := tags_goThrough ⟨⟨.builtin, default⟩, default, some 32, none⟩
  have h := loop_repeats _ 1 _ _ [.value (.ident "tag")] (some [.value (.ident "glue")]) _ _ _ hall
  refine (h.2.2.2 (tagFrames ["a"]) (tagFrames ["b", "c"]) _ _ _ _ rfl (List.cons_ne_nil _ _)
    (List.cons_ne_nil _ _) hfirst hothers _).2 ⟨", ", "a", "b, c", rfl, rfl, rfl, rfl⟩

end Evaluator

end Inlay
