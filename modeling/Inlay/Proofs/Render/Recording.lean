import Inlay.Proofs.Render.Happening
import Inlay.Proofs.Render.Observation
import Inlay.Proofs.Render.Orderly

/-!
# The record of an evaluation

With a logger that writes everything as JSON, and with templates in memory, an evaluation adds to
the log one line for each event of what happens in its course, in order, and nothing else
(`evaluate_recorded`). This is so whatever the evaluation ends in. Most steps rest: they add nothing
and nothing happens in them. What is left are conditions and inclusions, and how steps are put
together.
-/

namespace Inlay

open Log

/-- The logger writes all that is logged of renders, as JSON. -/
structure Logger.KeepsRecord (logger : Logger) : Prop where
  level : logger.level = .debug
  format : logger.format = .json
  component : (logger.components.lookup "render").getD true = true

namespace RenderLogger

/-- The line of an event, as JSON. -/
def line (log : RenderLogger) (event : RenderEvent) : Line where
  entry := event.entry log.origin log.item
  text := log.logger.jsonLine (event.entry log.origin log.item) ++ "\n"

/-- The lines of events, one for each. -/
def record (log : RenderLogger) (events : List RenderEvent) : List Line := events.map log.line

variable {log : RenderLogger}

/-- Events in a row are written on lines in a row. -/
theorem record_append (events more : List RenderEvent) :
    log.record (events ++ more) = log.record events ++ log.record more := List.map_append

/-- Each event is written as one line. -/
theorem note_eq (h : log.logger.KeepsRecord) (event : RenderEvent) :
    note (some log) event = Render.addLines (log.record [event]) := by
  have haccepts : log.logger.accepts (event.entry log.origin log.item) = true := by
    rw [Logger.accepts, h.level]
    show (decide _ && (log.logger.components.lookup "render").getD true) = true
    rw [h.component, Bool.and_true]
    exact decide_eq_true (Nat.zero_le _)
  have hlines : log.linesOf event = .ok (log.record [event]) := by
    rw [linesOf, Logger.write, if_pos haccepts, Logger.line, h.format]
    rfl
  rw [note, hlines]
  rfl

end RenderLogger

namespace Evaluator

open Template Course

/-! ## Steps that rest -/

/-- The templates in memory and the log stay as they are. -/
def resting (store : MemoryStore) (lines : List Line) : Contract where
  session session := session.store = some (.memory store) ∧ session.lines = lines
  failure _ := True
  stop _ := True

section

variable {store : MemoryStore} {lines : List Line} {settings : Settings} {frame : Frame}
  {raised : Stop → Prop}

theorem resting_makes (made : Except Misuse Failure) : (resting store lines).Makes made :=
  ⟨fun _ _ => trivial, fun _ _ => trivial⟩

/-- A lookup leaves the templates and the log as they are. -/
theorem lookup_rests (key : String) (args : List String) :
    (resting store lines).KeptBy (lookup settings frame key args) := by
  intro session hsession
  unfold lookup Render.ask
  dsimp only
  split <;> exact ⟨trivial, hsession⟩

/-- So does the text of a field. -/
theorem textOf_rests (subject : String) (field : Field) :
    (resting store lines).KeptBy (textOf settings subject field) := by
  cases field with
  | text text => exact .pure trivial
  | present | items | values => exact .failWith (resting_makes _)

/-- So does an expression that is looked up. -/
theorem fieldOf_rests (expr : Expr) :
    (resting store lines).KeptBy (fieldOf settings frame expr) :=
  fieldOf_ensures lookup_rests (fun subject field _ => textOf_rests subject field)
    (fun _ => trivial) expr (.inr fun _ => trivial)

/-- So does the text of an expression. -/
theorem textAt_rests (subject : String) (expr : Expr) :
    (resting store lines).KeptBy (textAt settings frame subject expr) :=
  (fieldOf_rests expr).bind fun field _ => textOf_rests subject field

/-- The frames of a list that is orderly are orderly. -/
theorem framesOf_rests (hframe : frame.Orderly raised) {field : Field}
    (hfield : field.Orderly raised) (source : Expr) :
    (resting store lines).Ensures
      (fun members => ∀ member ∈ members, ∀ inner, member = .ok inner → inner.Orderly raised)
      (framesOf settings frame source field) := by
  unfold framesOf
  cases hmembers : loopFrames frame field with
  | none => exact Contract.Ensures.under (.failWith (resting_makes _)) fun _ _ => trivial
  | some members =>
    exact .pure fun member hmember => (loopFrames_orderly hframe hfield hmembers member hmember).2

/-- What is loaded is a template of the store, under its name. -/
theorem load_rests (identifier : String) :
    (resting store lines).Ensures (fun template => store.find? identifier = some template)
      (load settings identifier) := by
  intro session hsession
  rw [load_memory hsession.1]
  unfold MemoryStore.load
  cases hfind : store.find? identifier with
  | some template => exact ⟨rfl, hsession⟩
  | none =>
    dsimp only
    cases settings.reporter.stop Code.templateNotFound [(.text "identifier", .text identifier)] with
    | fault fault => exact Contract.Ensures.failWith (resting_makes _) session hsession
    | misuse misuse => exact ⟨trivial, hsession⟩

end

/-! ## Steps that are recorded -/

/-- How a step ends whose record is kept: with a value that is good or else without one, with the
templates in memory as they were, and with the lines of all that is to be logged of what happened.
-/
structure Recorded {α : Type} (log : RenderLogger) (store : MemoryStore) (good : α → Prop)
    (session : Session) (ended : Ending α × Session) (happened : List Happening) : Prop where
  good : ∀ value, ended.1 = .value value → good value
  held : ended.2.store = some (.memory store)
  lines : ended.2.lines = session.lines ++ log.record (happened.filterMap Happening.event?)
  sound : ∀ happening ∈ happened, happening.Sound store

/-- From every session, what happens in the course of the step is recorded. -/
def Records {α : Type} (log : RenderLogger) (store : MemoryStore) (good : α → Prop)
    (step : Render α) (course : Course) : Prop :=
  ∀ session, session.store = some (.memory store) →
    Recorded log store good session (step session) (course session)

namespace Records

variable {α β : Type} {log : RenderLogger} {store : MemoryStore} {good : α → Prop}
  {good' : β → Prop} {step : Render α} {course : Course}

/-- Nothing happens in a step that rests. -/
theorem still (h : ∀ lines, (resting store lines).Ensures good step) :
    Records log store good step Course.still := by
  intro session hsession
  obtain ⟨hending, hstore, hlines⟩ := h session.lines session ⟨hsession, rfl⟩
  refine ⟨?_, hstore, ?_, ?_⟩
  · intro value hvalue
    rw [hvalue] at hending
    exact hending
  · simpa [Course.still, RenderLogger.record] using hlines
  · simp [Course.still]

theorem mono {also : α → Prop} (h : Records log store good step course)
    (himp : ∀ value, good value → also value) : Records log store also step course := by
  intro session hsession
  obtain ⟨hgood, hstore, hlines, hsound⟩ := h session hsession
  exact ⟨fun value hvalue => himp value (hgood value hvalue), hstore, hlines, hsound⟩

/-- What a step ensures otherwise is so, too, where its record is kept. -/
theorem ensuring {also : α → Prop} (h : Records log store good step course)
    (hensures : tellable.Ensures also step) : Records log store also step course := by
  intro session hsession
  obtain ⟨-, hstore, hlines, hsound⟩ := h session hsession
  refine ⟨fun value hvalue => ?_, hstore, hlines, hsound⟩
  have hending := (hensures session trivial).1
  rw [hvalue] at hending
  exact hending

/-- One thing happens in a step that comes to a value, and its lines are added. -/
theorem one {happening : Happening} (value : α) (hgood : good value)
    (hsound : happening.Sound store)
    (hstep : step = Render.addLines (log.record happening.event?.toList) >>= fun _ => pure value) :
    Records log store good step fun _ => [happening] := by
  intro session hsession
  have hevents : [happening].filterMap Happening.event? = happening.event?.toList := by
    rw [List.filterMap_cons, List.filterMap_nil]
    cases happening.event? <;> rfl
  subst hstep
  refine ⟨?_, hsession, ?_, ?_⟩
  · rintro _ ⟨⟩
    exact hgood
  · rw [hevents]
    rfl
  · simpa using hsound

/-- One thing happens where a value is had, but it is not logged. -/
theorem unlogged {happening : Happening} (value : α) (hgood : good value)
    (hsound : happening.Sound store) (hevent : happening.event? = none) :
    Records log store good (pure value) fun _ => [happening] := by
  refine one value hgood hsound ?_
  rw [hevent]
  show _ = Render.addLines [] >>= fun _ => pure value
  rw [Render.addLines_nil]
  rfl

/-- What happens in a chain is what happens in its first step, and behind it in the second. -/
theorem bind {next : α → Render β} {courses : α → Course}
    (h : Records log store good step course)
    (hnext : ∀ value, good value → Records log store good' (next value) (courses value)) :
    Records log store good' (step >>= next) (followed course step courses) := by
  intro session hsession
  obtain ⟨hgood, hstore, hlines, hsound⟩ := h session hsession
  rw [followed, behind]
  rcases hstep : step session with ⟨value | failure | reason, between⟩ <;>
    rw [hstep] at hgood hstore hlines
  · rw [Render.bind_of_value hstep]
    obtain ⟨hgood', hafter, hlines', hsound'⟩ := hnext value (hgood value rfl) between hstore
    refine ⟨hgood', hafter, ?_, ?_⟩
    · rw [hlines', hlines, List.filterMap_append, RenderLogger.record_append, List.append_assoc]
    · intro happening hmem
      exact (List.mem_append.1 hmem).elim (hsound happening) (hsound' happening)
  · rw [Render.bind_of_failed hstep]
    refine ⟨by simp, hstore, ?_, ?_⟩
    · simpa using hlines
    · simpa using hsound
  · rw [Render.bind_of_stopped hstep]
    refine ⟨by simp, hstore, ?_, ?_⟩
    · simpa using hlines
    · simpa using hsound

/-- Behind a step in which nothing happens, there is what happens in the second. -/
theorem behind {next : α → Render β} {courses : α → Course}
    (h : Records log store good step Course.still)
    (hnext : ∀ value, good value → Records log store good' (next value) (courses value)) :
    Records log store good' (step >>= next) (Course.behind step courses) := h.bind hnext

/-- What is recorded of a step is recorded of one that leaves the same session, and comes to a value
only behind a value of the first. -/
theorem relabel {other : Render β} (h : Records log store good step course)
    (hsame : ∀ session, (other session).2 = (step session).2 ∧
      ∀ value, (other session).1 = .value value →
        ∃ first, (step session).1 = .value first ∧ (good first → good' value)) :
    Records log store good' other course := by
  intro session hsession
  obtain ⟨hgood, hheld, hlines, hsound⟩ := h session hsession
  obtain ⟨hafter, hvalue⟩ := hsame session
  refine ⟨fun value hending => ?_, hafter ▸ hheld, hafter ▸ hlines, hsound⟩
  obtain ⟨first, hfirst, himp⟩ := hvalue value hending
  exact himp (hgood first hfirst)

/-- What is made of the value of a step takes no part in what happens. -/
theorem map (h : Records log store good step course) (f : α → β) :
    Records log store (fun _ => True) (step >>= fun value => pure (f value)) course := by
  refine h.relabel fun session => ?_
  rcases hstep : step session with ⟨value | failure | reason, between⟩
  · rw [Render.bind_of_value hstep]
    exact ⟨rfl, fun _ _ => ⟨value, rfl, fun _ => trivial⟩⟩
  · rw [Render.bind_of_failed hstep]
    exact ⟨rfl, fun _ h => (nomatch h)⟩
  · rw [Render.bind_of_stopped hstep]
    exact ⟨rfl, fun _ h => (nomatch h)⟩

/-- Nor does a breadcrumb that cannot be told, or one that can. -/
theorem underTold (h : Records log store good step course) (breadcrumb : Except Misuse String) :
    Records log store good (step.underTold breadcrumb) course := by
  refine h.relabel fun session => ?_
  rcases hstep : step session with ⟨value | failure | reason, between⟩
  · simp only [Render.underTold, hstep]
    exact ⟨trivial, fun value hvalue => ⟨value, hvalue, id⟩⟩
  · cases breadcrumb <;> simp [Render.underTold, hstep]
  · simp [Render.underTold, hstep]

/-- A breadcrumb is no event. -/
theorem under (h : Records log store good step course) (breadcrumb : String) :
    Records log store good (step.under breadcrumb) course := by
  rw [← Render.underTold_ok]
  exact h.underTold _

end Records

/-! ## Conditions and inclusions -/

section

variable {log : RenderLogger} {store : MemoryStore} {settings : Settings} {frame : Frame}
  {raised : Stop → Prop}

/-- What an orderly frame is asked for is orderly, or can be told, or is missing. -/
theorem lookup_tells (hframe : frame.Orderly raised) (key : String) (args : List String) :
    tellable.Ensures (fun field => field.Orderly raised) (lookup settings frame key args) := by
  obtain ⟨item, hitem⟩ := hframe.subject
  have hanswer := hframe.context.answer key args item
  intro session _
  unfold lookup Render.ask
  dsimp only
  refine ⟨?_, trivial⟩
  rw [Context.answer_chain, hitem]
  generalize (frame.context.lookup key args item.asValue).answer = answer at hanswer ⊢
  rcases answer with reason | (field | messages | failure)
  · trivial
  · exact hanswer
  · simp only [Context.missing, Context.lookup, Context.single, Context.providers, Context.ask]
    cases settings.reporter.message Code.fieldNotFound [(.text "key", .text key)] with
    | error misuse => trivial
    | ok message => exact .inl rfl
  · exact .inr hanswer

/-- An expression has a field of its context, or fails in words that can be told. -/
theorem fieldOf_tells (hframe : frame.Orderly raised) (expr : Expr) :
    tellable.Ensures (fun field => field.Orderly raised) (fieldOf settings frame expr) :=
  fieldOf_ensures (lookup_tells hframe) (fun subject field _ => textOf_tellable subject field)
    (fun _ => trivial) expr (.inr fun _ => trivial)

/-- The field of an expression is orderly, and nothing happens on the way to it. -/
theorem fieldOf_records (hframe : frame.Orderly raised) (expr : Expr) :
    Records log store (fun field => field.Orderly raised) (fieldOf settings frame expr) still :=
  Records.ensuring (.still fun _ => fieldOf_rests expr) (fieldOf_tells hframe expr)

section

variable (hlog : log.logger.KeepsRecord) (hsettings : settings.log = some log)

include hlog hsettings

/-- An event that is logged is what happens in this step. -/
theorem note_records {happening : Happening} {event : RenderEvent}
    (hsound : happening.Sound store) (hevent : happening.event? = some event) :
    Records log store (fun _ => True) (RenderLogger.note settings.log event)
      fun _ => [happening] := by
  refine .one () trivial hsound ?_
  rw [hsettings, RenderLogger.note_eq hlog, hevent]
  rfl

/-- A condition is tested. If it failed, this is logged with the trail of the failure, unless it
only says that a field is missing. -/
theorem isPresent_records (hframe : frame.Orderly raised) (test : Expr) :
    Records log store (fun _ => True) (isPresent settings frame test)
      (conditionCourse settings frame test) := by
  have hattempt : Records log store
      (fun result => ∀ failure, result = .error failure → failure.isSoft = true ∨ failure.Told)
      (Render.attempt (fieldOf settings frame test)) still :=
    .ensuring (.still fun _ => (fieldOf_rests test).attempt.kept)
      (fieldOf_tells hframe test).attempt
  rw [isPresent]
  refine hattempt.behind fun result hresult => ?_
  cases result with
  | ok field => exact .unlogged true trivial hresult rfl
  | error failure =>
    cases hsoft : failure.isSoft with
    | true =>
      have hevent : (Happening.tested test (.error failure)).event? = none := if_pos hsoft
      simp only [hsoft, if_true]
      exact .unlogged false trivial hresult hevent
    | false =>
      have htold : failure.Told := (hresult failure rfl).resolve_left (by simp [hsoft])
      obtain ⟨trail, htrail⟩ := htold.texts
      have hevent : (Happening.tested test (.error failure)).event?
          = some (.conditionError test.source trail) := by
        simp [Happening.event?, hsoft, htrail, Except.toOption]
      simp only [hsoft, Bool.false_eq_true, if_false, noteCondition_of_texts htrail]
      refine .one false trivial hresult ?_
      rw [hevent, hsettings, RenderLogger.note_eq hlog]
      rfl

/-- A template is included once it is found. -/
theorem inclusion_records {enter : Enter} {course : EnterCourse} (hframe : frame.Orderly raised)
    (henter : ∀ inner body, inner.Orderly raised →
      Records log store (fun _ => True) (enter inner body) (course inner body)) (name : Expr) :
    Records log store (fun _ => True) (inclusion settings enter frame name)
      (inclusionCourse settings course frame name) := by
  have hname : Records log store (fun _ => True)
      (textAt settings frame (Breadcrumb.inclusionSubject name) name) still :=
    .still fun _ => textAt_rests _ name
  have hcheck : Records log store (fun _ => True) (checkDepth settings frame.depth) still :=
    .still fun _ => (checkDepth_ensures fun _ _ => resting_makes _).kept
  rw [inclusion, inclusionCourse, ← Course.behind_under _ (Breadcrumb.inInclusionName name)]
  refine (hname.under _).behind fun identifier _ => Records.under ?_ _
  refine hcheck.behind fun _ _ => ?_
  refine Records.behind (.still fun _ => load_rests identifier) fun template hfind => ?_
  refine Records.bind (note_records hlog hsettings ⟨Nat.succ_pos _, hfind⟩ rfl) fun _ _ => ?_
  exact (henter (frame.including template) template.elements
    ⟨hframe.context, hframe.subject⟩).underTold _

end

/-! ## Elements -/

/-- What happens in a row of frames is what happens in each of them, up to the first that ends
early. -/
theorem inEach_records {step : Frame → Render String} {course : Frame → Course}
    (frames : List Frame) (hstep : ∀ inner ∈ frames,
      Records log store (fun _ => True) (step inner) (course inner)) :
    Records log store (fun _ => True) (inEach step frames) (eachCourse step course frames) := by
  induction frames with
  | nil => exact .still fun _ => .pure trivial
  | cons frame rest ih =>
    have hrest := ih fun inner hinner => hstep inner (List.mem_cons_of_mem frame hinner)
    rw [inEach, eachCourse]
    exact (hstep frame List.mem_cons_self).bind fun text _ => hrest.map fun texts => text :: texts

variable {enter : Enter} {course : EnterCourse}

mutual

/-- What happens in an element is recorded, if this is so for the templates that it includes. -/
theorem element_records (hlog : log.logger.KeepsRecord) (hsettings : settings.log = some log)
    (henter : ∀ inner body, inner.Orderly raised →
      Records log store (fun _ => True) (enter inner body) (course inner body)) :
    (element : Element) → (frame : Frame) → frame.Orderly raised →
    Records log store (fun _ => True) (Evaluator.element settings enter frame element)
      (elementCourse settings enter course frame element)
  | .chunk text, frame, _ => by
    rw [element, elementCourse]
    exact .still fun _ => .pure trivial
  | .dollar, frame, _ => by
    rw [element, elementCourse]
    exact .still fun _ => .pure trivial
  | .value expr, frame, _ => by
    rw [element, elementCourse]
    exact .still fun _ => (textAt_rests _ expr).under fun _ _ => trivial
  | .cond test whenPresent whenAbsent, frame, hframe => by
    rw [element, elementCourse]
    refine (isPresent_records hlog hsettings hframe test).bind fun present _ => ?_
    cases present with
    | true => exact elements_records hlog hsettings henter whenPresent frame hframe
    | false => exact optional_records hlog hsettings henter whenAbsent frame hframe
  | .loop source body separator, frame, hframe => by
    have hfield : Records log store (fun field => field.Orderly raised)
        (fieldOf settings frame source) still :=
      fieldOf_records hframe source
    have hseparator := optional_records hlog hsettings henter separator frame hframe
    rw [element, elementCourse, ← Course.behind_under _ (Breadcrumb.inLoopHead source)]
    refine (hfield.under _).behind fun field horderly => ?_
    refine Records.behind (.still fun _ => framesOf_rests hframe horderly source)
      fun members hmembers => Records.under ?_ _
    -- the separator comes first, so what happens in it is recorded even if a member cannot be made
    refine hseparator.bind fun text _ => ?_
    have hframes : Records log store (fun frames => ∀ inner ∈ frames, inner.Orderly raised)
        (Render.ofStop (members.mapM id)) still :=
      .still fun _ => ofStop_frames fun member hmember =>
        ⟨fun _ _ => trivial, hmembers member hmember⟩
    refine hframes.behind fun frames horderly => ?_
    exact (inEach_records frames fun inner hinner =>
      elements_records hlog hsettings henter body inner (horderly inner hinner)).map _
  | .inclusion name, frame, hframe => by
    rw [element, elementCourse]
    exact inclusion_records hlog hsettings hframe henter name
  | .trimLeft, frame, _ => by
    rw [element, elementCourse]
    exact .still fun _ => .stop trivial
  | .trimRight, frame, _ => by
    rw [element, elementCourse]
    exact .still fun _ => .stop trivial
  | .foreign kind, frame, _ => by
    rw [element, elementCourse]
    exact .still fun _ => .stop trivial

/-- In the same way elements are recorded one behind the other. -/
theorem elements_records (hlog : log.logger.KeepsRecord) (hsettings : settings.log = some log)
    (henter : ∀ inner body, inner.Orderly raised →
      Records log store (fun _ => True) (enter inner body) (course inner body)) :
    (body : List Element) → (frame : Frame) → frame.Orderly raised →
    Records log store (fun _ => True) (elements settings enter frame body)
      (elementsCourse settings enter course frame body)
  | [], frame, _ => by
    rw [elements, elementsCourse]
    exact .still fun _ => .pure trivial
  | first :: rest, frame, hframe => by
    have hrest := elements_records hlog hsettings henter rest frame hframe
    rw [elements, elementsCourse]
    exact (element_records hlog hsettings henter first frame hframe).bind fun text _ =>
      hrest.map fun after => text ++ after

/-- In a body that is absent, nothing happens. -/
theorem optional_records (hlog : log.logger.KeepsRecord) (hsettings : settings.log = some log)
    (henter : ∀ inner body, inner.Orderly raised →
      Records log store (fun _ => True) (enter inner body) (course inner body)) :
    (body : Option (List Element)) → (frame : Frame) → frame.Orderly raised →
    Records log store (fun _ => True) (optional settings enter frame body)
      (optionalCourse settings enter course frame body)
  | none, frame, _ => by
    rw [optional, optionalCourse]
    exact .still fun _ => .pure trivial
  | some body, frame, hframe => by
    rw [optional, optionalCourse]
    exact elements_records hlog hsettings henter body frame hframe

end

/-- Whatever room there is, what happens in elements and in all that they include is recorded. -/
theorem within_records (hlog : log.logger.KeepsRecord) (hsettings : settings.log = some log)
    (room : Nat) : ∀ frame body, frame.Orderly raised →
    Records log store (fun _ => True) (within settings room frame body)
      (withinCourse settings room frame body) := by
  -- an inclusion may be of any template, so the induction is on the room, for all elements
  induction room with
  | zero =>
    intro frame body hframe
    refine elements_records hlog hsettings (fun _ _ _ => ?_) body frame hframe
    exact .still fun _ => .stop trivial
  | succ room ih =>
    intro frame body hframe
    exact elements_records hlog hsettings ih body frame hframe

end

/-- With a logger that writes everything as JSON and with templates in memory, an evaluation adds to
the log one line for each event of what happens in its course, in order, and nothing else. The
context may stop it for any reason. -/
theorem evaluate_recorded {settings : Settings} {log : RenderLogger} {store : MemoryStore}
    {raised : Stop → Prop} {context : Context} {session : Session}
    (hlog : log.logger.KeepsRecord) (hsettings : settings.log = some log)
    (hcontext : context.Orderly raised) (template : Template) (item : Item)
    (hsession : session.store = some (.memory store)) :
    Recorded log store (fun _ => True) session
      (evaluate settings template context item.asValue session)
      (happenings settings template context item.asValue session) :=
  within_records hlog hsettings session.room _ template.elements ⟨hcontext, item, rfl⟩ session
    hsession

end Evaluator

end Inlay
