import Inlay.Proofs.Basic
import Inlay.Proofs.Context.Quiet
import Inlay.Proofs.Log.Lines
import Inlay.Proofs.Render.Failure

/-!
# What an evaluation looks at

The fields that are seen in a frame are those of its context about its subject. Neither the origin
of the template nor the depth of its inclusion takes part in them (`fieldOf_congr`), and of the
settings the limit is looked at by `checkDepth` alone. The frames of a loop see other fields, but
stay in the place of the loop (`frames_placed`).
-/

namespace Inlay

namespace Evaluator

open Template

/-- Two frames see the same fields. -/
structure Frame.SameView (frame frame' : Frame) : Prop where
  context : frame.context = frame'.context
  subject : frame.subject = frame'.subject

/-- Two settings differ in nothing but their limits. -/
structure Settings.SameButLimit (settings settings' : Settings) : Prop where
  reporter : settings.reporter = settings'.reporter
  workspace : settings.workspace = settings'.workspace
  log : settings.log = settings'.log

/-- Below the limit there is nothing to check. -/
theorem checkDepth_of_allowed {settings : Settings} {depth : Nat}
    (hallowed : ∀ limit ∈ settings.limit, (depth : Int) < limit) (session : Session) :
    checkDepth settings depth session = (.value (), session) :=
  checkDepth_eq_value.2 ⟨hallowed, rfl⟩

/-- A limit either allows for an inclusion or has been reached. -/
theorem allowed_or_reached (settings : Settings) (depth : Nat) :
    (∀ limit ∈ settings.limit, (depth : Int) < limit) ∨
      ∃ limit ∈ settings.limit, limit ≤ depth := by
  cases settings.limit with
  | none => exact .inl fun limit hlimit => nomatch hlimit
  | some limit =>
    rcases Int.lt_or_le depth limit with hless | hle
    · refine .inl fun limit' hlimit' => ?_
      cases hlimit'
      exact hless
    · exact .inr ⟨limit, rfl, hle⟩

/-- A body that is absent is evaluated like one without elements. -/
theorem optional_eq (settings : Settings) (enter : Enter) (frame : Frame)
    (body : Option (List Element)) :
    optional settings enter frame body = elements settings enter frame (body.getD []) := by
  cases body with
  | none => rw [optional, Option.getD_none, elements]
  | some body => rw [optional, Option.getD_some]

/-- An element alone is applied as it is. -/
theorem elements_singleton (settings : Settings) (enter : Enter) (frame : Frame)
    (only : Element) :
    elements settings enter frame [only] = element settings enter frame only := by
  rw [elements, elements]
  simp only [Render.pure_bind, String.append_empty, Render.bind_pure]

/-- Whatever room there is, something is done in place of inclusions. -/
theorem exists_within_eq (settings : Settings) (room : Nat) :
    ∃ enter, within settings room = elements settings enter := by
  cases room with
  | zero => exact ⟨_, rfl⟩
  | succ room => exact ⟨_, rfl⟩

section

variable {settings settings' : Settings} (hsame : settings.SameButLimit settings')

include hsame

/-- The text of a field does not depend on the limit. -/
theorem textOf_congr : textOf settings = textOf settings' := by
  funext subject field
  cases field with
  | text text => rfl
  | present | items | values => simp only [textOf, hsame.reporter]

/-- Nor does it, whether the failure of a condition is logged. -/
theorem noteCondition_congr : noteCondition settings = noteCondition settings' := by
  funext test failure
  rw [noteCondition, noteCondition, hsame.log]

/-- Templates are loaded in the same way under every limit. -/
theorem load_congr : load settings = load settings' := by
  funext identifier session
  rw [load, load, hsame.reporter, hsame.workspace]

/-- Loops find their frames in the same way. -/
theorem framesOf_congr : framesOf settings = framesOf settings' := by
  funext frame source field
  rw [framesOf, framesOf, hsame.reporter]

section

variable {frame frame' : Frame}

/-- What a key is depends on the context and the subject of a frame alone. -/
theorem lookup_congr (hview : frame.SameView frame') :
    lookup settings frame = lookup settings' frame' := by
  funext key args
  rw [lookup, lookup, hsame.reporter, hview.context, hview.subject]

mutual

/-- Where the same fields are seen, an expression stands for the same field. -/
theorem fieldOf_congr (hview : frame.SameView frame') : (expr : Expr) →
    fieldOf settings frame expr = fieldOf settings' frame' expr
  | .ident key => by rw [fieldOf, fieldOf, lookup_congr hsame hview]
  | .call key args => by
    rw [fieldOf, fieldOf, lookup_congr hsame hview, arguments_congr hview args]
  | .literal text => by rw [fieldOf, fieldOf]
  | .foreign kind => by rw [fieldOf, fieldOf, hsame.reporter]

/-- So do the texts of arguments. -/
theorem arguments_congr (hview : frame.SameView frame') : (args : List Expr) →
    arguments settings frame args = arguments settings' frame' args
  | [] => by rw [arguments, arguments]
  | arg :: rest => by
    rw [arguments, arguments, textOf_congr hsame, fieldOf_congr hview arg,
      arguments_congr hview rest]

end

/-- So does the text of an expression. -/
theorem textAt_congr (hview : frame.SameView frame') (subject : String) (expr : Expr) :
    textAt settings frame subject expr = textAt settings' frame' subject expr := by
  rw [textAt, textAt, textOf_congr hsame, fieldOf_congr hsame hview expr]

/-- So does a test. -/
theorem isPresent_congr (hview : frame.SameView frame') (test : Expr) :
    isPresent settings frame test = isPresent settings' frame' test := by
  rw [isPresent, isPresent, noteCondition_congr hsame, fieldOf_congr hsame hview test]

end

end

/-! ## The frames of a loop -/

/-- The frame with the place of another one: in a template, and so many inclusions deep. -/
def Frame.placedAt (place frame : Frame) : Frame :=
  { frame with origin := place.origin, depth := place.depth }

/-- A loop has the same frames wherever its list is seen, but for their place. -/
theorem loopFrames_placed {frame frame' : Frame} (hview : frame.SameView frame') (field : Field) :
    loopFrames frame' field
      = (loopFrames frame field).map (List.map (Except.map frame'.placedAt)) := by
  obtain ⟨context, subject, origin, depth⟩ := frame
  obtain ⟨context', subject', origin', depth'⟩ := frame'
  obtain ⟨rfl, rfl⟩ := hview
  cases field with
  | present | text => rfl
  | items context items => simp [loopFrames, Frame.placedAt, Except.map]
  | values members =>
    simp only [loopFrames, Option.map_some, List.map_map]
    congr 2
    funext member
    obtain ⟨value, reason | context⟩ := member <;> rfl

/-- Each frame of a loop is in the place of the loop. -/
theorem member_placed {frame inner : Frame} {field : Field} {members : List (Except Stop Frame)}
    (hmembers : loopFrames frame field = some members) (hmember : .ok inner ∈ members) :
    inner.origin = frame.origin ∧ inner.depth = frame.depth := by
  cases field with
  | present | text => cases hmembers
  | items context items =>
    cases hmembers
    obtain ⟨subject, -, h⟩ := List.mem_map.1 hmember
    cases h
    exact ⟨rfl, rfl⟩
  | values values =>
    cases hmembers
    obtain ⟨⟨_, member⟩, -, h⟩ := List.mem_map.1 hmember
    cases member <;> cases h
    exact ⟨rfl, rfl⟩

/-- If all frames of a loop are found, they are in the place of the loop. -/
theorem frames_placed {frame : Frame} {field : Field} {members : List (Except Stop Frame)}
    {frames : List Frame} (hmembers : loopFrames frame field = some members)
    (hframes : members.mapM id = .ok frames) :
    ∀ inner ∈ frames, inner.origin = frame.origin ∧ inner.depth = frame.depth := fun inner hinner =>
  member_placed hmembers (Except.mem_of_mapM hframes inner hinner)

/-! ## Conditions that fail -/

section

variable {settings : Settings}

/-- Where it can be told why a condition failed, it is told. -/
theorem noteCondition_of_texts {failure : Failure} {trail : List String}
    (htexts : Value.texts failure.messages = .ok trail) (test : Expr) :
    noteCondition settings test failure
      = RenderLogger.note settings.log (.conditionError test.source trail) := by
  unfold noteCondition
  rw [htexts]
  cases settings.log <;> rfl

/-- Where it cannot be told, this stops an evaluation that has a logger. -/
theorem noteCondition_of_untold {failure : Failure} {misuse : Misuse}
    (htexts : Value.texts failure.messages = .error misuse) (test : Expr) :
    noteCondition settings test failure
      = if settings.log.isSome then Render.stop (.misuse misuse) else pure () := by
  unfold noteCondition
  rw [htexts]
  rfl

/-- That a condition failed is noted by adding lines to the log, if it can be told why. -/
theorem exists_noteCondition (hlog : ∀ log ∈ settings.log, log.logger.CutsAtInteger) (test : Expr)
    {failure : Failure} (hfailure : failure.Told) :
    ∃ lines, noteCondition settings test failure = Render.addLines lines := by
  obtain ⟨texts, htexts⟩ := hfailure.texts
  rw [noteCondition_of_texts htexts]
  exact RenderLogger.exists_note hlog _

end

/-! ## Loads -/

/-- What comes of a template that was loaded, or could not be. -/
def given (settings : Settings) (identifier : String) : Except Stop Template → Render Template
  | .ok template => pure template
  | .error (.fault fault) =>
    Render.failWith (settings.reporter.loadFailure identifier fault.headline)
  | .error (.misuse misuse) => Render.stop (.misuse misuse)

/-- What loading comes to where there is a store. -/
theorem load_of_store {settings : Settings} {store : Store} {session : Session}
    (hstore : session.store = some store) (identifier : String) :
    load settings identifier session
      = let loaded := store.load settings.reporter settings.workspace identifier
        given settings identifier loaded.1
          { session with store := some loaded.2.2, lines := session.lines ++ loaded.2.1 } := by
  unfold load
  rw [hstore]
  simp only [Render.loadFrom]
  rcases store.load settings.reporter settings.workspace identifier with
    ⟨(fault | misuse) | template, lines, after⟩ <;> rfl

/-- Where the templates are in memory, the store stays as it is. -/
theorem load_memory {settings : Settings} {store : MemoryStore} {session : Session}
    (hstore : session.store = some (.memory store)) (identifier : String) :
    load settings identifier session
      = given settings identifier (store.load settings.reporter identifier) session := by
  have hsession : { session with
      store := some (.memory store), lines := session.lines ++ [] } = session := by
    rw [List.append_nil, ← hstore]
  rw [load_of_store hstore]
  exact congrArg (given settings identifier _) hsession

/-- A template that the store holds is loaded as it is. -/
theorem load_memory_found {settings : Settings} {store : MemoryStore} {session : Session}
    (hstore : session.store = some (.memory store)) {identifier : String} {template : Template}
    (hfind : store.find? identifier = some template) :
    load settings identifier session = (.value template, session) := by
  have hload : store.load settings.reporter identifier = .ok template := by
    unfold MemoryStore.load
    rw [hfind]
  rw [load_memory hstore, hload]
  rfl

end Evaluator

end Inlay
