import Inlay.Proofs.Render.FieldFailure

/-!
# Every failure has a trail

An evaluation fails with the failure that its trail reports, and with no other
(`evaluate_failed_iff`). Elements are explained by their rules where the inclusions in them are, and
from there it is an induction on how deep inclusions may be nested.
-/

namespace Inlay.Evaluator

open Template
open Render (Explains NeverFails)

variable {settings : Settings}

/-! ## Steps that have a value -/

/-- The check is passed where the limit has not been reached, and changes nothing. -/
theorem checkDepth_eq_value {depth : Nat} {session after : Session} :
    checkDepth settings depth session = (.value (), after) ↔
      (∀ limit ∈ settings.limit, (depth : Int) < limit) ∧ after = session := by
  rw [checkDepth]
  cases settings.limit with
  | none =>
    show (Ending.value (), session) = _ ↔ _
    simp [eq_comm]
  | some limit =>
    dsimp only
    by_cases hdepth : limit ≤ depth
    · rw [if_pos hdepth]
      constructor
      · intro h
        exact absurd h Render.failWith_ne_value
      · rintro ⟨h, -⟩
        exact absurd hdepth (Int.not_le.2 (h limit rfl))
    · rw [if_neg hdepth]
      show (Ending.value (), session) = _ ↔ _
      simp [eq_comm, Int.not_le.1 hdepth]

/-- A loop is over lists, and over no other field. -/
theorem loopFrames_eq_none {frame : Frame} {field : Field} :
    loopFrames frame field = none ↔ field.kind ≠ .list := by
  cases field <;> simp [loopFrames, Field.kind]

/-- Every list gives a loop its frames, be it empty. -/
theorem exists_loopFrames {frame : Frame} {field : Field} :
    (∃ members, loopFrames frame field = some members) ↔ field.kind = .list := by
  cases field <;> simp [loopFrames, Field.kind]

/-- To find the frames of a loop asks nothing of the context. -/
theorem framesOf_eq_value {frame : Frame} {source : Expr} {field : Field} {session after : Session}
    {members : List (Except Stop Frame)} :
    framesOf settings frame source field session = (.value members, after) ↔
      loopFrames frame field = some members ∧ after = session := by
  rw [framesOf]
  cases loopFrames frame field with
  | some found =>
    show (Ending.value found, session) = _ ↔ _
    simp [eq_comm]
  | none =>
    dsimp only
    rw [Render.under_eq_value]
    constructor
    · intro h
      exact absurd h Render.failWith_ne_value
    · rintro ⟨h, -⟩
      cases h

/-- Whether the field of a condition is there can always be told. -/
theorem isPresent_neverFails (frame : Frame) (test : Expr) :
    NeverFails (isPresent settings frame test) := by
  rw [isPresent]
  refine (NeverFails.attempt _).bind fun outcome => ?_
  cases outcome with
  | ok field => exact .pure true
  | error failure =>
    dsimp only
    split
    · exact .pure false
    · refine NeverFails.bind ?_ fun _ => .pure false
      rw [noteCondition]
      split
      · exact (NeverFails.ofExcept _).bind fun trail => .note _ _
      · exact .pure ()

/-! ## Bodies -/

section

variable {enter : Enter} {inside : Inside}

/-- The repetitions of a body fail where the first of them does. -/
theorem inEach_explained {body : List Element}
    (hbody : ∀ frame, Explains (ElementsFail settings enter inside frame body) Trail.failure
      (elements settings enter frame body)) (frames : List Frame) :
    Explains (RepetitionFails settings enter inside body frames) Trail.failure
      (inEach (fun frame => elements settings enter frame body) frames) := by
  induction frames with
  | nil => exact .of_neverFails (.pure _) fun _ _ _ hfails => nomatch hfails
  | cons frame rest ih =>
    refine ((hbody frame).bind fun text => ih.map (text :: ·)).congr fun session trail after => ?_
    constructor
    · rintro (hfails | ⟨text, between, hfirst, hlater⟩)
      · exact .first hfails
      · exact .later hfirst hlater
    · intro hfails
      cases hfails with
      | first hfails => exact .inl hfails
      | later hfirst hlater => exact .inr ⟨_, _, hfirst, hlater⟩

/-- A loop fails in its separator, or else in one of its repetitions. -/
theorem repetitions_explained {frame : Frame} {body : List Element}
    {separator : Option (List Element)}
    (hseparator : Explains (OptionalFails settings enter inside frame separator) Trail.failure
      (optional settings enter frame separator))
    (hbody : ∀ frame, Explains (ElementsFail settings enter inside frame body) Trail.failure
      (elements settings enter frame body))
    (members : List (Except Stop Frame)) :
    Explains (fun session trail after =>
      OptionalFails settings enter inside frame separator session trail after ∨
      ∃ text separated frames, optional settings enter frame separator session
        = (.value text, separated) ∧ members.mapM id = .ok frames ∧
        RepetitionFails settings enter inside body frames separated trail after) Trail.failure
      (do
        let separator ← optional settings enter frame separator
        let frames ← Render.ofStop (members.mapM id)
        let texts ← inEach (fun frame => elements settings enter frame body) frames
        return separator.intercalate texts) := by
  have hframes := NeverFails.ofStop (members.mapM id)
  have heach (text : String) := Explains.behind hframes fun frames =>
    (inEach_explained hbody frames).map text.intercalate
  refine (hseparator.bind heach).congr fun session trail after => or_congr_right ?_
  constructor
  · rintro ⟨text, separated, hvalue, frames, between, hstop, hfails⟩
    obtain ⟨hall, rfl⟩ := Render.ofStop_eq_value.1 hstop
    exact ⟨text, _, frames, hvalue, hall, hfails⟩
  · rintro ⟨text, separated, frames, hvalue, hall, hfails⟩
    exact ⟨text, separated, hvalue, frames, _, Render.ofStop_eq_value.2 ⟨hall, rfl⟩, hfails⟩

/-- A condition fails where the body that it chooses does. -/
theorem cond_explained {frame : Frame} (test : Expr) {whenPresent : List Element}
    {whenAbsent : Option (List Element)}
    (hpresent : Explains (ElementsFail settings enter inside frame whenPresent) Trail.failure
      (elements settings enter frame whenPresent))
    (habsent : Explains (OptionalFails settings enter inside frame whenAbsent) Trail.failure
      (optional settings enter frame whenAbsent)) :
    Explains (ElementFails settings enter inside frame (.cond test whenPresent whenAbsent))
      Trail.failure (element settings enter frame (.cond test whenPresent whenAbsent)) := by
  -- a test never fails, so the failure comes of the body that it has chosen
  have hchosen (present : Bool) :
      Explains (fun session trail after =>
        present = true ∧ ElementsFail settings enter inside frame whenPresent session trail after ∨
        present = false ∧
          OptionalFails settings enter inside frame whenAbsent session trail after)
        Trail.failure
        (if present then elements settings enter frame whenPresent
          else optional settings enter frame whenAbsent) := by
    cases present with
    | true => simpa using hpresent
    | false => simpa using habsent
  rw [element]
  refine (Explains.behind (isPresent_neverFails frame test) hchosen).congr ?_
  intro session trail after
  constructor
  · rintro ⟨_, between, htest, ⟨rfl, hbody⟩ | ⟨rfl, body, rfl, hbody⟩⟩
    · exact .whenPresent htest hbody
    · exact .whenAbsent htest hbody
  · intro hfails
    cases hfails with
    | whenPresent htest hbody => exact ⟨true, _, htest, .inl ⟨rfl, hbody⟩⟩
    | whenAbsent htest hbody => exact ⟨false, _, htest, .inr ⟨rfl, _, rfl, hbody⟩⟩

end

/-! ## Inclusions -/

section

variable (hregistry : settings.reporter.registry = .builtin)

include hregistry

/-- The check fails where the limit has been reached, if it can be written. -/
theorem checkDepth_explained (depth : Nat) :
    Explains (fun session limit after =>
      settings.limit = some limit ∧ limit ≤ depth ∧ (Value.int limit).hasText = true ∧
        after = session)
      (fun limit => (Cause.tooDeep limit).failure) (checkDepth settings depth) := by
  rw [checkDepth]
  cases settings.limit with
  | none =>
    refine .of_neverFails (.pure ()) ?_
    rintro session limit after ⟨hnone, -⟩
    cases hnone
  | some limit =>
    dsimp only
    by_cases hdepth : limit ≤ depth
    · rw [if_pos hdepth]
      cases hlimit : (Value.int limit).hasText with
      | false =>
        -- the limit cannot be written, so this stops instead of failing
        rw [Reporter.depthFailure_untold hregistry hlimit]
        refine .of_neverFails (.stop _) ?_
        rintro session reached after ⟨hsome, -, htold, -⟩
        cases hsome
        rw [hlimit] at htold
        cases htold
      | true =>
        have hmade : settings.reporter.depthFailure limit = .ok (Cause.tooDeep limit).failure :=
          Reporter.depthFailure_eq hregistry hlimit
        have hfails : Explains (fun session reached after => reached = limit ∧ after = session)
            (fun limit => (Cause.tooDeep limit).failure)
            (Render.failWith (settings.reporter.depthFailure limit) : Render Unit) :=
          .failWith hmade
        refine hfails.congr fun session reached after => ?_
        constructor
        · rintro ⟨rfl, rfl⟩
          exact ⟨rfl, hdepth, hlimit, rfl⟩
        · rintro ⟨hsome, -, -, rfl⟩
          cases hsome
          exact ⟨rfl, rfl⟩
    · rw [if_neg hdepth]
      refine .of_neverFails (.pure ()) ?_
      rintro session reached after ⟨hsome, hreached, -⟩
      cases hsome
      exact hdepth hreached

/-- Loading fails without a store, or for a fault of the store. -/
theorem load_explained (identifier : String) :
    Explains (LoadFails settings identifier)
      (fun reason => (Cause.notLoaded identifier reason).failure) (load settings identifier) := by
  intro session failure after
  have hfailure (reason : String) (session after : Session) :
      Render.failWith (α := Template) (settings.reporter.loadFailure identifier reason) session
        = (.failed failure, after) ↔
      failure = (Cause.notLoaded identifier reason).failure ∧ after = session := by
    rw [Render.failWith_eq_failed, Reporter.loadFailure_eq hregistry, Except.ok.injEq, eq_comm]
    rfl
  -- without a store and with one, the failure is made of one reason
  rw [load]
  split
  · next hstore =>
    rw [hfailure]
    constructor
    · rintro ⟨rfl, rfl⟩
      exact ⟨_, .noStore hstore, rfl⟩
    · rintro ⟨_, hfails, rfl⟩
      cases hfails with
      | noStore => exact ⟨rfl, rfl⟩
      | fault hheld => simp [hstore] at hheld
  · next store hstore =>
    -- with a store at hand, the only reason is the fault that it reports
    have hfails (reason : String) : LoadFails settings identifier session reason after ↔
        ∃ fault, Render.loadFrom settings.reporter settings.workspace store identifier session
          = (.stopped (.fault fault), after) ∧ reason = fault.headline := by
      constructor
      · intro h
        cases h with
        | noStore hnone => simp [hstore] at hnone
        | fault hheld hload =>
          cases hstore.symm.trans hheld
          exact ⟨_, hload, rfl⟩
      · rintro ⟨fault, hload, rfl⟩
        exact .fault hstore hload
    simp only [hfails]
    rcases hload : Render.loadFrom settings.reporter settings.workspace store identifier session
      with ⟨template | inner | reason, between⟩
    · simp
    · exact absurd hload (Render.NeverFails.loadFrom _ _ _ _ _ _ _)
    · cases reason with
      | misuse misuse => simp
      | fault fault =>
        dsimp only
        rw [hfailure]
        constructor
        · rintro ⟨rfl, rfl⟩
          exact ⟨_, ⟨fault, rfl, rfl⟩, rfl⟩
        · rintro ⟨_, ⟨_, h, rfl⟩, rfl⟩
          cases h
          exact ⟨rfl, rfl⟩

omit hregistry in
/-- The elements of an included template fail below what tells of the inclusion, which needs the
identifier of the item. -/
theorem entered_explained {enter : Enter} {inside : Inside}
    (henter : ∀ frame body, Explains (inside frame body) Trail.failure (enter frame body))
    (frame : Frame) (name : Expr) (template : Template) :
    Explains (fun session trail after => ∃ item within, frame.subject.identifier = .ok item ∧
      inside (frame.including template) template.elements session within after ∧
      trail = within.inside (.inclusion name template.origin item)) Trail.failure
      (Render.under (Breadcrumb.inInclusion name)
        (Render.underTold (frame.subject.identifier.map (Breadcrumb.framing template.origin))
          (enter (frame.including template) template.elements))) := by
  cases frame.subject.identifier with
  | error misuse =>
    refine .of_neverFails ((NeverFails.underTold_error _ misuse).under _) ?_
    rintro session trail after ⟨_, _, herror, -⟩
    cases herror
  | ok item =>
    have hframed := (henter (frame.including template) template.elements).under
      (Breadcrumb.framing template.origin item)
    have hwithin := (hframed.under (Breadcrumb.inInclusion name)).relabel
      (Trail.inside (.inclusion name template.origin item))
      (Trail.failure_inside_inclusion name template.origin item)
    rw [Except.map, Render.underTold_ok]
    refine hwithin.congr fun session trail after => ?_
    constructor
    · rintro ⟨within, rfl, hfails⟩
      exact ⟨item, within, rfl, hfails, rfl⟩
    · rintro ⟨_, within, hitem, hfails, rfl⟩
      cases hitem
      exact ⟨within, rfl, hfails⟩

/-- An inclusion fails in its name, and behind it in the check of the depth, in loading the template
or in the elements of the template. -/
theorem inclusion_explained {enter : Enter} {inside : Inside}
    (henter : ∀ frame body, Explains (inside frame body) Trail.failure (enter frame body))
    (frame : Frame) (name : Expr) :
    Explains (InclusionFails settings inside frame name) Trail.failure
      (inclusion settings enter frame name) := by
  have htext := textAt_explained hregistry frame (fieldOf_explained hregistry frame name)
    (Breadcrumb.inclusionSubject name)
  have hname : Explains _ Trail.failure _ := (htext.under (Breadcrumb.inInclusionName name)).relabel
    (fun cause => ⟨[], .inclusionName name, cause⟩) fun _ => rfl
  -- each of the steps behind the name is put below the breadcrumb of the inclusion by itself
  have hcheck : Explains _ Trail.failure _ := ((checkDepth_explained hregistry frame.depth).under
    (Breadcrumb.inInclusion name)).relabel
      (fun limit => ⟨[], .inclusion name, .tooDeep limit⟩) fun _ => rfl
  have hload (identifier : String) : Explains _ Trail.failure _ :=
    ((load_explained hregistry identifier).under (Breadcrumb.inInclusion name)).relabel
      (fun reason => ⟨[], .inclusion name, .notLoaded identifier reason⟩) fun _ => rfl
  have hnote (identifier : String) :=
    (NeverFails.note settings.log (.included identifier (frame.depth + 1))).under
      (Breadcrumb.inInclusion name)
  rw [inclusion]
  simp only [Render.under_bind]
  refine (hname.bind fun identifier => hcheck.bind fun _ => (hload identifier).bind fun template =>
    Explains.behind (hnote identifier) fun _ => entered_explained henter frame name template).congr
      fun session trail after => ?_
  simp only [Render.under_eq_value]
  constructor
  · rintro (⟨cause, rfl, hfails⟩ | ⟨identifier, between, hvalue, hdeep | hpassed⟩)
    · exact .name hfails
    · obtain ⟨limit, rfl, hlimited, hreached, htold, rfl⟩ := hdeep
      exact .tooDeep hvalue hlimited hreached htold
    obtain ⟨⟨⟩, _, hchecked, hbehind⟩ := hpassed
    obtain ⟨hallowed, rfl⟩ := checkDepth_eq_value.1 hchecked
    rcases hbehind with ⟨reason, rfl, hfails⟩ | ⟨template, loaded, hloaded, hrest⟩
    · exact .notLoaded hvalue hallowed hfails
    · obtain ⟨⟨⟩, noted, hnoted, item, within, hitem, hfails, rfl⟩ := hrest
      exact .elements hvalue hallowed hloaded hnoted hitem hfails
  · intro hfails
    cases hfails with
    | name hfails => exact .inl ⟨_, rfl, hfails⟩
    | tooDeep hvalue hlimited hreached htold =>
      exact .inr ⟨_, _, hvalue, .inl ⟨_, rfl, hlimited, hreached, htold, rfl⟩⟩
    | notLoaded hvalue hallowed hfails =>
      refine .inr ⟨_, _, hvalue, .inr ⟨(), _, checkDepth_eq_value.2 ⟨hallowed, rfl⟩, ?_⟩⟩
      exact .inl ⟨_, rfl, hfails⟩
    | elements hvalue hallowed hloaded hnoted hitem hfails =>
      refine .inr ⟨_, _, hvalue, .inr ⟨(), _, checkDepth_eq_value.2 ⟨hallowed, rfl⟩, ?_⟩⟩
      exact .inr ⟨_, _, hloaded, (), _, hnoted, _, _, hitem, hfails, rfl⟩

/-! ## Loops -/

/-- A loop has frames exactly if its field is a list. -/
theorem framesOf_explained (frame : Frame) (source : Expr) (field : Field) :
    Explains (fun session trail after => field.kind ≠ .list ∧
      trail = ⟨[], .loopHead source, .mismatch .list field.kind (Breadcrumb.loopSubject source)⟩ ∧
      after = session) Trail.failure (framesOf settings frame source field) := by
  rw [framesOf]
  cases hframes : loopFrames frame field with
  | some members =>
    refine .of_neverFails (.pure members) ?_
    rintro session trail after ⟨hkind, -⟩
    rw [loopFrames_eq_none.2 hkind] at hframes
    cases hframes
  | none =>
    have hmismatch : Explains _ _ (Render.failWith _ : Render (List (Except Stop Frame))) :=
      mismatch_explained hregistry .list field.kind (Breadcrumb.loopSubject source)
    have htold : Explains _ Trail.failure _ :=
      (hmismatch.under (Breadcrumb.inLoopHead source)).relabel
        (fun cause => ⟨[], .loopHead source, cause⟩) fun _ => rfl
    refine htold.congr fun session trail after => ?_
    constructor
    · rintro ⟨_, rfl, rfl, rfl⟩
      exact ⟨loopFrames_eq_none.1 hframes, rfl, rfl⟩
    · rintro ⟨-, rfl, rfl⟩
      exact ⟨_, rfl, rfl, rfl⟩

/-- A loop fails in its list, or else within. -/
theorem loop_explained {enter : Enter} {inside : Inside} {frame : Frame} (source : Expr)
    {body : List Element} {separator : Option (List Element)}
    (hseparator : Explains (OptionalFails settings enter inside frame separator) Trail.failure
      (optional settings enter frame separator))
    (hbody : ∀ frame, Explains (ElementsFail settings enter inside frame body) Trail.failure
      (elements settings enter frame body)) :
    Explains (ElementFails settings enter inside frame (.loop source body separator))
      Trail.failure (element settings enter frame (.loop source body separator)) := by
  -- the two parts of a loop put different sites on the trail
  have hhead : Explains _ Trail.failure _ :=
    ((fieldOf_explained hregistry frame source).under (Breadcrumb.inLoopHead source)).relabel
      (fun cause => ⟨[], .loopHead source, cause⟩) fun _ => rfl
  have hwithin (members : List (Except Stop Frame)) : Explains _ Trail.failure _ :=
    ((repetitions_explained hseparator hbody members).under (Breadcrumb.inLoop source)).relabel
      (Trail.inside (.loop source)) (Trail.failure_inside_loop source)
  rw [element]
  refine (hhead.bind fun field => (framesOf_explained hregistry frame source field).bind
    hwithin).congr fun session trail after => ?_
  simp only [Render.under_eq_value]
  constructor
  · rintro (⟨cause, rfl, hfails⟩ | ⟨field, between, hvalue, ⟨hkind, rfl, rfl⟩ | hbehind⟩)
    · exact .loopHead hfails
    · exact .noList hvalue hkind
    obtain ⟨members, _, hframes, trail, rfl, hfails⟩ := hbehind
    obtain ⟨hmembers, rfl⟩ := framesOf_eq_value.1 hframes
    rcases hfails with ⟨_, rfl, hfails⟩ | ⟨text, separated, frames, hsep, hall, hfails⟩
    · exact .separator hvalue (exists_loopFrames.1 ⟨members, hmembers⟩) hfails
    · exact .repetition hvalue hmembers hsep hall hfails
  · intro hfails
    cases hfails with
    | loopHead hfails => exact .inl ⟨_, rfl, hfails⟩
    | noList hvalue hkind => exact .inr ⟨_, _, hvalue, .inl ⟨hkind, rfl, rfl⟩⟩
    | separator hvalue hkind hfails =>
      obtain ⟨members, hmembers⟩ := exists_loopFrames.2 hkind
      refine .inr ⟨_, _, hvalue, .inr ⟨members, _, framesOf_eq_value.2 ⟨hmembers, rfl⟩, ?_⟩⟩
      exact ⟨_, rfl, .inl ⟨_, rfl, hfails⟩⟩
    | repetition hvalue hmembers hsep hall hfails =>
      refine .inr ⟨_, _, hvalue, .inr ⟨_, _, framesOf_eq_value.2 ⟨hmembers, rfl⟩, ?_⟩⟩
      exact ⟨_, rfl, .inr ⟨_, _, _, hsep, hall, hfails⟩⟩

end

/-! ## Elements -/

section

variable {enter : Enter} {inside : Inside}

mutual

/-- An element fails as its rules say, if included templates do. -/
theorem element_explained (hregistry : settings.reporter.registry = .builtin)
    (henter : ∀ frame body, Explains (inside frame body) Trail.failure (enter frame body)) :
    (element : Element) → (frame : Frame) →
    Explains (ElementFails settings enter inside frame element) Trail.failure
      (Evaluator.element settings enter frame element)
  | .value expr, frame => by
    have htext := textAt_explained hregistry frame (fieldOf_explained hregistry frame expr)
      (Breadcrumb.exprSubject expr)
    have htold : Explains _ Trail.failure _ := (htext.under (Breadcrumb.inExpr expr)).relabel
      (fun cause => ⟨[], .value expr, cause⟩) fun _ => rfl
    rw [Evaluator.element]
    -- one constructor of `ElementFails` is for this element, and none of the others
    refine htold.congr fun session trail after => ?_
    constructor
    · rintro ⟨cause, rfl, hfails⟩
      exact .value hfails
    · intro hfails
      cases hfails with
      | value hfails => exact ⟨_, rfl, hfails⟩
  | .cond test whenPresent whenAbsent, frame =>
    cond_explained test (elements_explained hregistry henter whenPresent frame)
      (optional_explained hregistry henter whenAbsent frame)
  | .loop source body separator, frame =>
    loop_explained hregistry source (optional_explained hregistry henter separator frame)
      (elements_explained hregistry henter body)
  | .inclusion name, frame => by
    rw [Evaluator.element]
    refine (inclusion_explained hregistry henter frame name).congr fun session trail after => ?_
    constructor
    · exact .inclusion
    · intro hfails
      cases hfails with
      | inclusion hfails => exact hfails
  | .chunk text, frame => by
    rw [Evaluator.element]
    exact .of_neverFails (.pure _) fun _ _ _ hfails => nomatch hfails
  | .dollar, frame => by
    rw [Evaluator.element]
    exact .of_neverFails (.pure _) fun _ _ _ hfails => nomatch hfails
  | .trimLeft, frame => by
    rw [Evaluator.element]
    exact .of_neverFails (.stop _) fun _ _ _ hfails => nomatch hfails
  | .trimRight, frame => by
    rw [Evaluator.element]
    exact .of_neverFails (.stop _) fun _ _ _ hfails => nomatch hfails
  | .foreign kind, frame => by
    rw [Evaluator.element]
    exact .of_neverFails (.stop _) fun _ _ _ hfails => nomatch hfails

/-- The first element that fails is what elements fail by, with its trail. -/
theorem elements_explained (hregistry : settings.reporter.registry = .builtin)
    (henter : ∀ frame body, Explains (inside frame body) Trail.failure (enter frame body)) :
    (body : List Element) → (frame : Frame) →
    Explains (ElementsFail settings enter inside frame body) Trail.failure
      (elements settings enter frame body)
  | [], frame => by
    rw [elements]
    exact .of_neverFails (.pure _) fun _ _ _ hfails => nomatch hfails
  | first :: rest, frame => by
    have hfirst := element_explained hregistry henter first frame
    have hrest := elements_explained hregistry henter rest frame
    rw [elements]
    refine (hfirst.bind fun text => hrest.map (text ++ ·)).congr fun session trail after => ?_
    constructor
    · rintro (hfails | ⟨text, between, hvalue, hlater⟩)
      · exact .first hfails
      · exact .later hvalue hlater
    · intro hfails
      cases hfails with
      | first hfails => exact .inl hfails
      | later hvalue hlater => exact .inr ⟨_, _, hvalue, hlater⟩

/-- A body that is absent does not fail. -/
theorem optional_explained (hregistry : settings.reporter.registry = .builtin)
    (henter : ∀ frame body, Explains (inside frame body) Trail.failure (enter frame body)) :
    (body : Option (List Element)) → (frame : Frame) →
    Explains (OptionalFails settings enter inside frame body) Trail.failure
      (optional settings enter frame body)
  | none, frame => by
    rw [optional]
    exact .of_neverFails (.pure _) fun _ _ _ ⟨_, hnone, _⟩ => nomatch hnone
  | some body, frame => by
    rw [optional]
    refine (elements_explained hregistry henter body frame).congr fun session trail after => ?_
    simp [OptionalFails]

end

end

/-! ## Templates -/

/-- In every room, elements fail just by the trails that `FailsWithin` tells for it. -/
theorem within_explained (hregistry : settings.reporter.registry = .builtin) (room : Nat) :
    ∀ frame body, Explains (FailsWithin settings room frame body) Trail.failure
      (within settings room frame body) := by
  induction room with
  | zero =>
    intro frame body
    -- an inclusion is not entered any more, which is a stop and no failure
    refine elements_explained hregistry (fun _ _ => ?_) body frame
    exact .of_neverFails (.stop _) fun _ _ _ hfails => hfails
  | succ room ih =>
    intro frame body
    exact elements_explained hregistry ih body frame

/-- An evaluation fails exactly with what the trail of its first failure reports: the breadcrumbs of
the constructs around the site, that of the site, and the messages of the cause, under its code. -/
theorem evaluate_failed_iff (hregistry : settings.reporter.registry = .builtin)
    (template : Template) (context : Context) (subject : Value) (session after : Session)
    (failure : Failure) :
    (evaluate settings template context subject session = (.failed failure, after) ↔
      ∃ trail, TemplateFails settings template context subject session trail after ∧
        failure = trail.failure) ∧
    (evaluate settings template context subject session = (.failed failure, after) →
      failure.messages ≠ []) := by
  have h := within_explained hregistry session.room
    ⟨context, subject, template.origin, 0⟩ template.elements session failure after
  refine ⟨h, fun hfailed => ?_⟩
  obtain ⟨trail, -, rfl⟩ := h.1 hfailed
  exact trail.failure_messages_ne_nil

/-- A page that includes a footer for each post that is no draft. -/
def postsPage : Template where
  origin := .text "page"
  elements := [.chunk "Posts: ", .loop (.ident "posts")
    [.cond (.ident "draft") [] (some [.inclusion (.literal "footer")])] none]

/-- A context that knows a list of one post, and nothing about the post. -/
def onePost : Context := .single fun key _ _ =>
  if key = "posts" then pure (.found (.items .empty [.item (.text "a.md") .null []]))
  else pure (.notFound [])

/-- A session whose store has a footer that asks for the author. -/
def footerSession : Session where
  store := some (.memory ⟨[("footer", ⟨.text "footer", [.value (.ident "author")]⟩)]⟩)

/-- The page fails at a key that the footer asks for, inside of a loop, and the breadcrumbs tell the
way there from the outside in. -/
theorem postsPage_trail :
    ∃ trail, TemplateFails ⟨⟨.builtin, default⟩, default, some 32, none⟩ postsPage onePost .null
        footerSession trail footerSession ∧
      trail.failure.messages = [
        .text "In loop context of '$for(posts)$'",
        .text "In inclusion of '$partial(\"footer\")$'",
        .text "Failed to apply template footer to item a.md",
        .text "In expr '$author$'",
        .text "Missing field 'author' in context"] := by
  have hfailed : evaluate ⟨⟨.builtin, default⟩, default, some 32, none⟩ postsPage onePost .null
      footerSession = (.failed ⟨[
        .text "In loop context of '$for(posts)$'",
        .text "In inclusion of '$partial(\"footer\")$'",
        .text "Failed to apply template footer to item a.md",
        .text "In expr '$author$'",
        .text "Missing field 'author' in context"], Code.fieldNotFound⟩, footerSession) := by
    rfl
  obtain ⟨trail, hfails, hreport⟩ := (evaluate_failed_iff rfl _ _ _ _ _ _).1.1 hfailed
  exact ⟨trail, hfails, by rw [← hreport]⟩

end Inlay.Evaluator
