import Inlay.Proofs.Context.Told
import Inlay.Proofs.Render.Contract
import Inlay.Proofs.Render.Simulation

/-!
# Logging only observes

An evaluation consults its logger where a condition fails and where a template is included, to tell
what happened. Neither a logger nor its absence has a part in anything but the log: with any two
loggers that cut contexts at a whole number of characters, or none, evaluations end in the same way
and ask the same questions (`evaluate_observed`). A logger that writes everything writes the lines
of any other one among its own: those of the entries that the other one accepts.

It has to be told why a condition failed, even to a logger that does not write it. So where only one
of two evaluations has a logger, the failures of the context must be such that they can be told.
-/

namespace Inlay

open Log

/-- Two sessions that have the store and differ in nothing but their lines, which are in a
relation. -/
structure Session.Observed (store : Option Store) (L : List Line → List Line → Prop)
    (session session' : Session) : Prop where
  held : session.store = store
  rest : session' = { session with lines := session'.lines }
  lines : L session.lines session'.lines

theorem Session.Observed.held' {store : Option Store} {L : List Line → List Line → Prop}
    {session session' : Session} (h : Session.Observed store L session session') :
    session'.store = store := by
  rw [h.rest]
  exact h.held

/-- Each of two loggers, or none, can write every event of a render, in lines that keep the
relation. -/
def RenderLogger.Keep (L : List Line → List Line → Prop) (log log' : Option RenderLogger) : Prop :=
  ∀ event, ∃ lines lines', note log event = Render.addLines lines ∧
    note log' event = Render.addLines lines' ∧
    ∀ {before before'}, L before before' → L (before ++ lines) (before' ++ lines')

/-- From a start on, the second lines are those of the first ones that pass a test. -/
def Sifted (start : List Line) (test : Line → Bool) (lines lines' : List Line) : Prop :=
  ∃ written, lines = start ++ written ∧ lines' = start ++ written.filter test

/-- Lines that are added to both logs pass the same test. -/
theorem Sifted.append {start lines lines' : List Line} {test : Line → Bool}
    (h : Sifted start test lines lines') (more : List Line) :
    Sifted start test (lines ++ more) (lines' ++ more.filter test) := by
  obtain ⟨written, rfl, rfl⟩ := h
  refine ⟨written ++ more, List.append_assoc .., ?_⟩
  rw [List.filter_append, List.append_assoc]

namespace Render

variable {α : Type} {S : Session → Session → Prop} {first second : Render α} {good : α → Prop}

/-- What one of two steps that agree ensures is so for both. -/
theorem Agree.ensuring {contract : Contract} (h : Agree S Eq first second)
    (hsessions : ∀ {session session'}, S session session' → contract.session session)
    (hensures : contract.Ensures good first) :
    Agree S (fun value value' => value = value' ∧ good value) first second := by
  intro session session' sessions
  have hstep := h session session' sessions
  have hending := (hensures session (hsessions sessions)).1
  generalize first session = ended, second session' = ended' at hstep hending
  cases hstep with
  | value related after => exact .value ⟨related, hending⟩ after
  | failed failure after => exact .failed failure after
  | stopped reason after => exact .stopped reason after

end Render

namespace Evaluator

open Template Element
open Render (Agree Matches MatchAt)

/-! ## What can be told -/

/-- Failures that are not soft can be told. -/
def tellable : Contract where
  session _ := True
  failure failure := failure.isSoft = true ∨ failure.Told
  stop _ := True

section

variable {settings : Settings} {frame : Frame}

/-- Every failure of the reporter can be told. -/
theorem failWith_tellable {α : Type} {good : α → Prop} (code : String) (values : Entries) :
    tellable.Ensures good
      (Render.failWith (settings.reporter.failure code values) : Render α) := by
  refine .failWith ⟨fun failure hfailure => .inr ?_, fun _ _ => trivial⟩
  obtain ⟨message, -, hmade⟩ := Except.bind_eq_ok.1 hfailure
  cases hmade
  exact fun told htold => ⟨message, List.mem_singleton.1 htold⟩

/-- A field that has no text makes a failure that can be told. -/
theorem textOf_tellable (subject : String) (field : Field) :
    tellable.KeptBy (textOf settings subject field) := by
  cases field with
  | text text => exact .pure trivial
  | present | items | values => exact failWith_tellable _ _

/-- So does a key, in a context whose failures can be told. -/
theorem lookup_tellable (htold : frame.context.Told) (key : String) (args : List String) :
    tellable.Ensures Field.Told (lookup settings frame key args) := by
  have hchain := htold.chain (Context.missing_told settings.reporter)
  intro session _
  unfold lookup Render.ask
  dsimp only
  refine ⟨?_, trivial⟩
  cases hanswer : ((Context.chain [frame.context, Context.missing settings.reporter]).lookup key
      args frame.subject).answer with
  | error reason => trivial
  | ok outcome =>
    have houtcome := hchain.answer hanswer
    cases outcome with
    | found field => exact houtcome
    | notFound messages => exact .inl rfl
    | failed failure => exact .inr houtcome

/-- The field of an expression is told, or why there is none can be told. -/
theorem fieldOf_tellable (htold : frame.context.Told) (expr : Expr) :
    tellable.Ensures Field.Told (fieldOf settings frame expr) :=
  fieldOf_ensures (lookup_tellable htold) (fun subject field _ => textOf_tellable subject field)
    (fun _ => trivial) expr (.inr fun _ => trivial)

end

/-! ## Two loggers -/

section

variable {settings : Settings} {log' : Option RenderLogger} {held : Option MemoryStore}
  {store : Option Store} {L : List Line → List Line → Prop} {frame frame' : Frame}

/-- Both evaluations have a logger or neither has, or else the failures of the context can be
told. -/
def Noted (log log' : Option RenderLogger) (context : Context) : Prop :=
  log.isSome = log'.isSome ∨ context.Told

/-- An event is logged on both sides as far as the second logger keeps it. -/
theorem note_observed (hkeep : RenderLogger.Keep L settings.log log') (event : RenderEvent) :
    Agree (Session.Observed store L) Eq (RenderLogger.note settings.log event)
      (RenderLogger.note log' event) := by
  obtain ⟨lines, lines', hlines, hlines', hkept⟩ := hkeep event
  rw [hlines, hlines']
  intro session session' hsessions
  refine .value rfl ⟨hsessions.held, ?_, hkept hsessions.lines⟩
  rw [hsessions.rest]

/-- The failure of a condition is logged alike, if its messages can be written. -/
theorem noteCondition_observed (hkeep : RenderLogger.Keep L settings.log log') (test : Expr)
    {failure : Failure} (hnoted : settings.log.isSome = log'.isSome ∨ failure.Told) :
    Agree (Session.Observed store L) Eq (noteCondition settings test failure)
      (noteCondition { settings with log := log' } test failure) := by
  cases htexts : Value.texts failure.messages with
  | ok trail =>
    rw [noteCondition_of_texts htexts, noteCondition_of_texts htexts]
    exact note_observed hkeep _
  | error misuse =>
    have hsame : settings.log.isSome = log'.isSome := by
      refine hnoted.resolve_right fun htold => ?_
      obtain ⟨texts, htold⟩ := htold.texts
      rw [htexts] at htold
      cases htold
    rw [noteCondition_of_untold htexts, noteCondition_of_untold htexts, hsame]
    split
    · exact .stop _
    · exact .pure rfl

/-- A lookup knows nothing of loggers. -/
theorem lookup_observed (hframes : frame.Alike Eq frame') (key : String) (args : List String) :
    Agree (Session.Observed store L) Eq (lookup settings frame key args)
      (lookup { settings with log := log' } frame' key args) := by
  unfold lookup
  rw [hframes.subject, ← hframes.context]
  refine ask_agree rfl fun hsessions => ⟨hsessions.held, ?_, hsessions.lines⟩
  rw [hsessions.rest]

/-- The settings differ in their logger alone. -/
theorem sameAnswers_observed : SameAnswers settings { settings with log := log' }
    (Session.Observed store L) Eq fun _ => True where
  reporter := rfl
  ident hframes _ := lookup_observed hframes _ []
  call hframes _ texts := lookup_observed hframes _ texts
  arguments _ _ _ := trivial

/-- One and the same frame, whose failures can be told where this makes a difference. -/
structure Frame.Observed (log log' : Option RenderLogger) (frame frame' : Frame) : Prop where
  same : frame' = frame
  noted : Noted log log' frame.context

/-- Frames that are observed in two ways see the same context and subject. -/
theorem Frame.Observed.alike {log : Option RenderLogger} (h : frame.Observed log log' frame') :
    frame.Alike Eq frame' := by
  rw [h.same]
  exact ⟨rfl, rfl, rfl, rfl⟩

/-- An expression has the same field for every logger. -/
theorem fieldOf_same (hframes : frame.Observed settings.log log' frame') (expr : Expr) :
    Agree (Session.Observed store L) Eq (fieldOf settings frame expr)
      (fieldOf { settings with log := log' } frame' expr) :=
  sameAnswers_observed.fieldOf hframes.alike expr trivial

/-- The field of an expression is the same with both loggers, and told where this makes a
difference. -/
theorem fieldOf_observed (hframes : frame.Observed settings.log log' frame') (expr : Expr) :
    Agree (Session.Observed store L)
      (fun field field' => field = field' ∧ (settings.log.isSome = log'.isSome ∨ field.Told))
      (fieldOf settings frame expr) (fieldOf { settings with log := log' } frame' expr) := by
  rcases hframes.noted with hlogs | htold
  · exact (fieldOf_same hframes expr).mono fun _ _ hsame => ⟨hsame, .inl hlogs⟩
  · refine ((fieldOf_same hframes expr).ensuring (fun _ => trivial)
      (fieldOf_tellable htold expr)).mono ?_
    exact fun _ _ hfield => hfield.imp_right .inr

/-- A test decides alike with both loggers. -/
theorem isPresent_observed (hkeep : RenderLogger.Keep L settings.log log')
    (hframes : frame.Observed settings.log log' frame') (test : Expr) :
    Agree (Session.Observed store L) Eq (isPresent settings frame test)
      (isPresent { settings with log := log' } frame' test) := by
  rcases hframes.noted with hlogs | htold
  · refine isPresent_same (fun _ => True) ?_
      fun failure _ _ => noteCondition_observed hkeep test (.inl hlogs)
    exact (fieldOf_same hframes test).attempt.mono fun _ _ hsame => ⟨hsame, fun _ _ => trivial⟩
  · refine isPresent_same tellable.failure ((fieldOf_same hframes test).attempt.ensuring
      (fun _ => trivial) (fieldOf_tellable htold test).attempt) ?_
    intro failure hfailure hhard
    refine noteCondition_observed hkeep test (.inr (hfailure.resolve_left fun hsoft => ?_))
    rw [hhard] at hsoft
    cases hsoft

/-- The frames of a loop are the same with both loggers. -/
theorem loopFrames_observed (hframes : frame.Observed settings.log log' frame') (field : Field)
    (hfield : settings.log.isSome = log'.isSome ∨ field.Told) :
    Option.Rel (List.Forall₂ (Except.Alike (Frame.Observed settings.log log')))
      (loopFrames frame field) (loopFrames frame' field) := by
  rw [hframes.same]
  cases field with
  | present | text => exact .none
  | items context subjects =>
    refine .some (List.forall₂_map_left_iff.2 (List.forall₂_map_right_iff.2 ?_))
    exact List.forall₂_same.2 fun subject _ => .ok ⟨rfl, hfield⟩
  | values members =>
    refine .some (List.forall₂_map_left_iff.2 (List.forall₂_map_right_iff.2 ?_))
    refine List.forall₂_same.2 fun member hmember => ?_
    cases hcontext : member.2 with
    | error reason => exact .error reason
    | ok context =>
      refine .ok ⟨rfl, ?_⟩
      rcases hfield with hlogs | hmembers
      · exact .inl hlogs
      · exact hframes.noted.imp_right fun htold =>
          (hmembers member hmember context hcontext).chain htold

/-- With both loggers, evaluations run in parallel. -/
theorem parallel_observed (hkeep : RenderLogger.Keep L settings.log log') :
    Parallel settings { settings with log := log' } (Session.Observed (held.map .memory) L) Eq
      (Frame.Observed settings.log log') fun _ => True where
  reporter := rfl
  tolerant := .eq
  origin hframes := by rw [hframes.same]
  value hframes _ := (sameAnswers_observed.textAt hframes.alike _ trivial).matches .eq
  test hframes _ := (isPresent_observed hkeep hframes _).matches .eq
  branches _ := ⟨fun _ _ => trivial, fun _ _ _ _ => trivial⟩
  head hframes _ := head_matches _ rfl .eq ((fieldOf_observed hframes _).matches .eq)
    (loopFrames_observed hframes)
  bodies _ := ⟨fun _ _ => trivial, fun _ _ _ _ => trivial⟩
  -- what is included is told to both loggers, in lines that keep the relation
  inclusion {_ _ frame frame' name} hframes _ henter := by
    have hname : Agree (Session.Observed (held.map .memory) L)
        (fun text text' => text = text' ∧ True)
        (textAt settings frame (Breadcrumb.inclusionSubject name) name)
        (textAt { settings with log := log' } frame' (Breadcrumb.inclusionSubject name) name) :=
      (sameAnswers_observed.textAt hframes.alike _ trivial).mono fun _ _ hsame => ⟨hsame, trivial⟩
    have hload : ∀ identifier, Agree (Session.Observed (held.map .memory) L)
        (fun template template' => template = template' ∧ True)
        (load settings identifier) (load { settings with log := log' } identifier) :=
      fun identifier => (load_agree_of_held (fun h => ⟨h.held, h.held'⟩) identifier).mono
        fun _ _ hsame => ⟨hsame.1, trivial⟩
    refine inclusion_matches .eq hframes.alike.subject hframes.alike.depth (hname.matches .eq)
      ((checkDepth_agree rfl rfl _).matches .eq)
      (fun identifier _ => (hload identifier).matches .eq)
      (fun identifier depth => (note_observed hkeep _).matches .eq) fun template _ => ?_
    refine henter _ _ template ⟨?_, hframes.noted⟩ fun _ _ => trivial
    rw [hframes.same]

/-- With both loggers, a template comes to the same ending, and to sessions that differ in their
lines alone. -/
theorem evaluate_alike (hkeep : RenderLogger.Keep L settings.log log') {context : Context}
    (hnoted : Noted settings.log log' context) (template : Template) (subject : Value)
    {session : Session} (hstore : session.store = held.map .memory)
    (hlines : L session.lines session.lines) :
    let first := evaluate settings template context subject session
    let second := evaluate { settings with log := log' } template context subject session
    second.1 = first.1 ∧ second.2 = { first.2 with lines := second.2.lines } ∧
      L first.2.lines second.2.lines := by
  intro first second
  have hmatch : MatchAt (Session.Observed (held.map .memory) L) Eq Eq first second :=
    (parallel_observed hkeep).evaluate (fun _ _ => trivial) ⟨rfl, hnoted⟩ ⟨hstore, rfl, hlines⟩ rfl
  generalize first = ended, second = ended' at hmatch
  cases hmatch with
  | value related sessions =>
    exact ⟨congrArg Ending.value related.symm, sessions.rest, sessions.lines⟩
  | failed related sessions =>
    exact ⟨congrArg Ending.failed related.symm, sessions.rest, sessions.lines⟩
  | stopped reason sessions => exact ⟨rfl, sessions.rest, sessions.lines⟩

end

/-! ## What is written -/

/-- Loggers that cut contexts at a whole number of characters can write every event. -/
theorem keep_any {log log' : Option RenderLogger} (hlog : ∀ one ∈ log, one.logger.CutsAtInteger)
    (hlog' : ∀ one ∈ log', one.logger.CutsAtInteger) :
    RenderLogger.Keep (fun _ _ => True) log log' := by
  intro event
  obtain ⟨lines, hlines⟩ := RenderLogger.exists_note hlog event
  obtain ⟨lines', hlines'⟩ := RenderLogger.exists_note hlog' event
  exact ⟨lines, lines', hlines, hlines', fun _ => trivial⟩

/-- Whoever writes everything writes, among other lines, those of the same logger tuned otherwise.
-/
theorem keep_tuned {log : RenderLogger} (hcuts : log.logger.CutsAtInteger)
    (hall : ∀ entry, log.logger.accepts entry = true) (level : Level)
    (components : List (String × Bool)) (start : List Line) :
    RenderLogger.Keep
      (Sifted start fun line => (log.logger.tuned level components).accepts line.entry)
      (some log) (some { log with logger := log.logger.tuned level components }) := by
  intro event
  obtain ⟨lines, hlines⟩ := Logger.exists_write hcuts (event.entry log.origin log.item)
  have htuned := Logger.write_tuned (hall _) hlines level components
  refine ⟨lines, lines.filter fun line => (log.logger.tuned level components).accepts line.entry,
    ?_, ?_, fun hsifted => hsifted.append lines⟩
  · rw [RenderLogger.note, RenderLogger.linesOf, hlines]
    rfl
  · rw [RenderLogger.note, RenderLogger.linesOf, htuned]
    rfl

/-- Logging only observes. Whatever the template and the context, with templates in memory, and with
any two loggers that cut contexts at a whole number of characters, or without one: evaluations end
in the same way, ask the same questions and leave everything else as it is but the log. If only one
of them has a logger, the failures of the context must be such that they can be told.

A logger of any level and with any switches writes, of the lines that it would write at the lowest
level with all components on, exactly those whose level is at least its own and whose component is
not switched off, in the same order. -/
theorem evaluate_observed (settings : Settings) (log' : Option RenderLogger)
    (hlog : ∀ one ∈ settings.log, one.logger.CutsAtInteger)
    (hlog' : ∀ one ∈ log', one.logger.CutsAtInteger) (context : Context)
    (hnoted : settings.log.isSome = log'.isSome ∨ context.Told) (template : Template)
    (subject : Value) (held : Option MemoryStore) (session : Session)
    (hstore : session.store = held.map .memory) :
    let first := evaluate settings template context subject session
    let second := evaluate { settings with log := log' } template context subject session
    second.1 = first.1 ∧ second.2.calls = first.2.calls ∧
      second.2 = { first.2 with lines := second.2.lines } ∧
      ∀ log level components, settings.log = some log →
        log' = some { log with logger := { log.logger with level, components } } →
        log.logger.level = .debug →
        (∀ component, (log.logger.components.lookup component).getD true = true) →
        ∃ written, first.2.lines = session.lines ++ written ∧
          second.2.lines = session.lines ++ written.filter fun line =>
            decide (level.rank ≤ line.entry.level.rank) &&
              (components.lookup line.entry.component).getD true := by
  intro first second
  obtain ⟨hending, hrest, -⟩ := evaluate_alike (keep_any hlog hlog') hnoted template subject hstore
    trivial
  refine ⟨hending, by rw [hrest], hrest, ?_⟩
  intro log level components hsome hsome' hlevel hcomponents
  have hkeep :=
    keep_tuned (hlog log hsome) (Logger.accepts_of_all hlevel hcomponents) level components
    session.lines
  -- at the start nothing has been written that could pass or fail the test
  have hstart : Sifted session.lines
      (fun line => (log.logger.tuned level components).accepts line.entry)
      session.lines session.lines := ⟨[], (List.append_nil _).symm, (List.append_nil _).symm⟩
  subst hsome'
  rw [← hsome] at hkeep
  exact (evaluate_alike hkeep hnoted template subject hstore hstart).2.2

/-- A context in which access is denied to everything. -/
def guarded : Context := .single fun _ _ _ =>
  pure (.failed ⟨[.text "access denied"], "E_ACCESS"⟩)

/-- All failures of the guarded context can be told. -/
theorem guarded_told : guarded.Told := by
  refine .of_answer fun key args subject outcome hanswer => ?_
  cases hanswer
  exact fun message hmessage => ⟨_, List.mem_singleton.1 hmessage⟩

/-- A page with a mark in drafts and a foot. -/
def footedPage : Template where
  origin := .text "page"
  elements := [.cond (.ident "draft") [.chunk "?"] none, .inclusion (.literal "foot")]

/-- A store that has the foot. -/
def footStore : MemoryStore := ⟨[("foot", ⟨.text "foot", [.chunk "bye"]⟩)]⟩

/-- A logger of the page that writes everything. -/
def clerk : RenderLogger where
  logger := { level := .debug, now := default }
  origin := .text "page"
  item := "index.md"

/-- The page comes to its foot if a logger is told that the mark cannot be had, as it does without
one; and a logger that only cares for warnings writes those of the lines that are warnings. -/
theorem footedPage_observed :
    let loud := evaluate ⟨⟨.builtin, default⟩, default, some 32, some clerk⟩ footedPage guarded
      .null { store := some (.memory footStore) }
    let quiet := evaluate ⟨⟨.builtin, default⟩, default, some 32,
      some { clerk with logger := { clerk.logger with level := .warn, components := [] } }⟩
      footedPage guarded .null { store := some (.memory footStore) }
    loud.1 = .value "bye" ∧ quiet.2.lines = loud.2.lines.filter fun line =>
      decide (Level.warn.rank ≤ line.entry.level.rank) := by
  intro loud quiet
  have hclerk : ∀ one ∈ some clerk, one.logger.CutsAtInteger := by
    rintro _ ⟨⟩
    rfl
  have hwarned : ∀ one ∈ some { clerk with
      logger := { clerk.logger with level := .warn, components := [] } },
      one.logger.CutsAtInteger := by
    rintro _ ⟨⟩
    rfl
  constructor
  · have h := evaluate_observed ⟨⟨.builtin, default⟩, default, some 32, none⟩ (some clerk)
      (fun _ hone => nomatch hone) hclerk guarded (.inr guarded_told) footedPage .null
      (some footStore) { store := some (.memory footStore) } rfl
    exact h.1
  · have h := evaluate_observed ⟨⟨.builtin, default⟩, default, some 32, some clerk⟩ _
      hclerk hwarned guarded (.inl rfl) footedPage .null (some footStore)
      { store := some (.memory footStore) } rfl
    obtain ⟨written, hloud, hquiet⟩ := h.2.2.2 clerk .warn [] rfl rfl rfl fun _ => rfl
    have hwritten : loud.2.lines = written := hloud
    rw [hwritten]
    exact hquiet.trans (List.filter_congr fun line _ => Bool.and_true _)

end Evaluator

end Inlay
