import Inlay.Proofs.Context.Presence
import Inlay.Proofs.Render.FieldFailure
import Inlay.Proofs.Render.Simulation
import Inlay.Proofs.Template.Conditions

/-!
# Presence decides conditions

Of a key that templates only test, nothing comes through but whether there is a field. Two contexts
that agree on this, and answer alike otherwise, lead to the same ending of every evaluation: neither
what is found under the key, nor why it is not found, can be told from the ending. The log may tell,
since conditions that fail are logged.

Main statement: `evaluate_presence`.
-/

namespace Inlay.Evaluator

open Template Element
open Render (Agree)

/-- Both sessions have the store, and may differ in all else. -/
structure Share (store : Option Store) (session session' : Session) : Prop where
  held : session.store = store
  held' : session'.store = store

/-- Questions leave the stores as they are. -/
theorem Share.asked {store : Option Store} {session session' : Session}
    (h : Share store session session') (frame frame' : Frame) (key key' : String)
    (args args' : List String) : Share store (Evaluator.asked frame session key args)
      (Evaluator.asked frame' session' key' args') := ⟨h.held, h.held'⟩

/-- So do lines of the log, whatever they are. -/
theorem addLines_agree {store : Option Store} (lines lines' : List Log.Line) :
    Agree (Share store) Eq (Render.addLines lines) (Render.addLines lines') :=
  fun _ _ hshare => .value rfl ⟨hshare.held, hshare.held'⟩

/-- Sessions may share a store and have different logs. -/
theorem loggable_share {store : Option Store} : Loggable (Share store) :=
  fun h _ => ⟨h.held, h.held'⟩

/-! ## Frames -/

/-- Two frames in the same place, about the same subject. Their contexts answer alike about it but
for one key, of which they agree on whether there is a field. -/
structure Frame.SameBut (key : String) (frame frame' : Frame) : Prop where
  context : Context.SameBut key frame.subject frame.context frame'.context
  subject : frame'.subject = frame.subject
  origin : frame'.origin = frame.origin
  depth : frame'.depth = frame.depth

/-- A loop has frames in both contexts or in none, and they differ as the contexts do. -/
theorem loopFrames_sameBut {key : String} {frame frame' : Frame} (h : frame.SameBut key frame')
    (field : Field) :
    Option.Rel (List.Forall₂ (Except.Alike (Frame.SameBut key))) (loopFrames frame field)
      (loopFrames frame' field) := by
  cases field with
  | present | text => exact .none
  | items context subjects =>
    refine .some (List.forall₂_map_left_iff.2 (List.forall₂_map_right_iff.2 ?_))
    exact List.forall₂_same.2 fun subject _ =>
      .ok ⟨.refl key subject context, rfl, h.origin, h.depth⟩
  | values members =>
    refine .some (List.forall₂_map_left_iff.2 (List.forall₂_map_right_iff.2 ?_))
    refine List.forall₂_same.2 fun member _ => ?_
    obtain ⟨value, reason | context⟩ := member
    · exact .error reason
    · exact .ok ⟨h.context.behind context, h.subject, h.origin, h.depth⟩

section

variable {settings : Settings} {store : Option Store} {key : String} {frame frame' : Frame}

/-! ## Expressions -/

/-- Any other key than the one that the contexts differ in stands for the same field in both. -/
theorem lookup_agree (hregistry : settings.reporter.registry = .builtin)
    (hframes : frame.SameBut key frame') {other : String} (hother : other ≠ key)
    (args : List String) :
    Agree (Share store) Eq (lookup settings frame other args)
      (lookup settings frame' other args) := by
  intro session session' hshare
  rw [lookup_eq hregistry, lookup_eq hregistry, hframes.subject,
    hframes.context.others other args hother]
  rcases (frame'.context.lookup other args frame.subject).answer with
    reason | (field | messages | failure)
  · exact .stopped reason (hshare.asked ..)
  · exact .value rfl (hshare.asked ..)
  · exact .failed _ (hshare.asked ..)
  · exact .failed failure (hshare.asked ..)

/-- The text of one field agrees with itself from sessions with one store. -/
theorem textOf_agree (subject : String) (field : Field) :
    Agree (Share store) Eq (textOf settings subject field) (textOf settings subject field) := by
  cases field with
  | text text => exact .pure rfl
  | present | items | values => exact .failWith _

mutual

/-- An expression that avoids the key stands for the same field in both contexts. -/
theorem fieldOf_agree (hregistry : settings.reporter.registry = .builtin)
    (hframes : frame.SameBut key frame') : (expr : Expr) → expr.Avoids key →
    Agree (Share store) Eq (fieldOf settings frame expr) (fieldOf settings frame' expr)
  | .ident other, havoids => by
    rw [fieldOf, fieldOf]
    exact lookup_agree hregistry hframes havoids []
  | .call other args, havoids => by
    rw [fieldOf, fieldOf]
    exact (arguments_agree hregistry hframes args havoids.2).bind_eq fun texts =>
      lookup_agree hregistry hframes havoids.1 texts
  | .literal text, _ => by
    rw [fieldOf, fieldOf]
    exact .pure rfl
  | .foreign kind, _ => by
    rw [fieldOf, fieldOf]
    exact .stop _

/-- Arguments that avoid a key do not tell two contexts apart that differ in it. -/
theorem arguments_agree (hregistry : settings.reporter.registry = .builtin)
    (hframes : frame.SameBut key frame') : (args : List Expr) → Expr.AllAvoid key args →
    Agree (Share store) Eq (arguments settings frame args) (arguments settings frame' args)
  | [], _ => by
    rw [arguments, arguments]
    exact .pure rfl
  | arg :: rest, havoid => by
    rw [arguments, arguments]
    refine (fieldOf_agree hregistry hframes arg havoid.1).bind_eq fun field => ?_
    refine (textOf_agree _ field).bind_eq fun text => ?_
    exact (arguments_agree hregistry hframes rest havoid.2).bind_eq fun texts => .pure rfl

end

/-- Nor does the text of an expression that avoids it. -/
theorem textAt_agree (hregistry : settings.reporter.registry = .builtin)
    (hframes : frame.SameBut key frame') (subject : String) {expr : Expr}
    (havoids : expr.Avoids key) :
    Agree (Share store) Eq (textAt settings frame subject expr)
      (textAt settings frame' subject expr) :=
  (fieldOf_agree hregistry hframes expr havoids).bind_eq fun field => textOf_agree subject field

/-! ## Conditions -/

/-- Two results of a test lead to the same decision: both are fields, or neither is. -/
inductive SameDecision : Except Failure Field → Except Failure Field → Prop where
  | same (result : Except Failure Field) : SameDecision result result
  | present (field field' : Field) : SameDecision (.ok field) (.ok field')
  | absent {failure failure' : Failure} (h : failure.Told) (h' : failure'.Told) :
    SameDecision (.error failure) (.error failure')

/-- To ask for a field that is absent is to fail with messages that can be told. -/
theorem attempt_lookup_of_absent (hregistry : settings.reporter.registry = .builtin)
    {args : List String} {outcome : Outcome Field} (habsent : Context.Absent outcome)
    (hanswer : (frame.context.lookup key args frame.subject).answer = .ok outcome)
    (session : Session) :
    ∃ failure : Failure, failure.Told ∧ (lookup settings frame key args).attempt session
      = (.value (.error failure), asked frame session key args) := by
  unfold Render.attempt
  rw [lookup_eq hregistry, hanswer]
  cases outcome with
  | found field => exact habsent.elim
  | notFound messages =>
    exact ⟨_, fun message hmessage => ⟨_, List.mem_singleton.1 hmessage⟩, rfl⟩
  | failed failure => exact ⟨failure, habsent, rfl⟩

/-- Whatever the contexts have under a key, to ask for it leads to the same decision. -/
theorem attempt_lookup_agree (hregistry : settings.reporter.registry = .builtin)
    (hframes : frame.SameBut key frame') (other : String) (args : List String) :
    Agree (Share store) SameDecision (lookup settings frame other args).attempt
      (lookup settings frame' other args).attempt := by
  by_cases hother : other = key
  · subst hother
    intro session session' hshare
    have hpresence : Context.SamePresence
        (frame.context.lookup other args frame.subject).answer
        (frame'.context.lookup other args frame'.subject).answer := by
      rw [hframes.subject]
      exact hframes.context.presence args
    generalize hanswer : (frame.context.lookup other args frame.subject).answer = answer,
      hanswer' : (frame'.context.lookup other args frame'.subject).answer = answer' at hpresence
    -- the two answers are soft failures, fields, or one and the same answer
    cases hpresence with
    | absent habsent habsent' =>
      obtain ⟨failure, htold, heq⟩ :=
        attempt_lookup_of_absent hregistry habsent hanswer session
      obtain ⟨failure', htold', heq'⟩ :=
        attempt_lookup_of_absent hregistry habsent' hanswer' session'
      rw [heq, heq']
      exact .value (.absent htold htold') (hshare.asked ..)
    | found field field' =>
      simp only [Render.attempt, lookup_eq hregistry, hanswer, hanswer']
      exact .value (.present field field') (hshare.asked ..)
    | same =>
      simp only [Render.attempt, lookup_eq hregistry, hanswer, hanswer']
      rcases answer with reason | (field | messages | failure)
      · exact .stopped reason (hshare.asked ..)
      all_goals exact .value (.same _) (hshare.asked ..)
  · refine (lookup_agree hregistry hframes hother args).attempt.mono ?_
    rintro result _ rfl
    exact .same result

/-- A test that avoids the key in its arguments leads to the same decision. -/
theorem attempt_fieldOf_agree (hregistry : settings.reporter.registry = .builtin)
    (hframes : frame.SameBut key frame') {test : Expr} (htest : test.ArgumentsAvoid key) :
    Agree (Share store) SameDecision (fieldOf settings frame test).attempt
      (fieldOf settings frame' test).attempt := by
  cases test with
  | ident other =>
    rw [fieldOf, fieldOf]
    exact attempt_lookup_agree hregistry hframes other []
  | call other args =>
    rw [fieldOf, fieldOf, Render.attempt_bind, Render.attempt_bind]
    refine (arguments_agree hregistry hframes args htest).attempt.bind_eq fun result => ?_
    cases result with
    | ok texts => exact attempt_lookup_agree hregistry hframes other texts
    | error failure => exact .pure (.same _)
  | literal text =>
    rw [fieldOf, fieldOf]
    exact .pure (.same _)
  | foreign kind =>
    rw [fieldOf, fieldOf]
    exact .stop _

/-- A test that fails decides that nothing is there, and at most adds lines to the log. -/
theorem exists_absence (hlog : ∀ log ∈ settings.log, log.logger.CutsAtInteger) (test : Expr)
    {failure : Failure} (hfailure : failure.Told) :
    ∃ lines, (if failure.isSoft then pure false else do
        noteCondition settings test failure
        return false : Render Bool) = Render.addLines lines >>= fun _ => pure false := by
  split
  · exact ⟨[], by rw [Render.addLines_nil, Render.pure_bind]⟩
  · obtain ⟨lines, hlines⟩ := exists_noteCondition hlog test hfailure
    exact ⟨lines, by rw [hlines]⟩

/-- The fields of a test decide alike in both contexts; they may be logged differently. -/
theorem isPresent_agree (hregistry : settings.reporter.registry = .builtin)
    (hlog : ∀ log ∈ settings.log, log.logger.CutsAtInteger) (hframes : frame.SameBut key frame')
    {test : Expr} (htest : test.ArgumentsAvoid key) :
    Agree (Share store) Eq (isPresent settings frame test) (isPresent settings frame' test) := by
  unfold isPresent
  refine (attempt_fieldOf_agree hregistry hframes htest).bind ?_
  rintro result result' (⟨_⟩ | ⟨field, field'⟩ | ⟨htold, htold'⟩)
  · cases result with
    | ok field => exact .pure rfl
    | error failure =>
      dsimp only
      split
      · exact .pure rfl
      · exact (loggable_share.noteCondition settings test failure).bind_eq fun _ => .pure rfl
  · exact .pure rfl
  · obtain ⟨lines, hlines⟩ := exists_absence hlog test htold
    obtain ⟨lines', hlines'⟩ := exists_absence hlog test htold'
    dsimp only
    rw [hlines, hlines']
    exact (addLines_agree lines lines').bind_eq fun _ => .pure rfl

/-! ## Whole evaluations -/

variable {held : Option MemoryStore}

/-- A template that comes from the store only tests the key. -/
theorem load_agree (hheld : ∀ store ∈ held, store.OnlyTests key) (identifier : String) :
    Agree (Share (held.map .memory)) (fun template template' => template = template' ∧
      template.OnlyTests key) (load settings identifier) (load settings identifier) := by
  refine (load_agree_of_held (fun hshare => ⟨hshare.held, hshare.held'⟩) identifier).mono ?_
  rintro template _ ⟨rfl, store, hstore, hmem⟩
  exact ⟨rfl, hheld store hstore _ hmem⟩

/-- In both contexts, each construct that only tests the key comes to the same. -/
theorem parallel_sameBut (hregistry : settings.reporter.registry = .builtin)
    (hlog : ∀ log ∈ settings.log, log.logger.CutsAtInteger)
    (hheld : ∀ store ∈ held, store.OnlyTests key) :
    Parallel settings settings (Share (held.map .memory)) Eq (Frame.SameBut key)
      (Element.OnlyTests key) where
  reporter := rfl
  tolerant := .eq
  origin hframes := hframes.origin
  value hframes havoids := (textAt_agree hregistry hframes _ havoids).matches .eq
  test hframes htests := (isPresent_agree hregistry hlog hframes htests.1).matches .eq
  branches htests := ⟨allOnlyTest_iff.1 htests.2.1, allOnlyTest?_iff.1 htests.2.2⟩
  head {_ _ source _ _} hframes htests := by
    refine head_matches (fun _ => True) rfl .eq (Agree.matches ?_ .eq) fun field _ =>
      loopFrames_sameBut hframes field
    exact (fieldOf_agree hregistry hframes source htests.1).mono fun _ _ h => ⟨h, trivial⟩
  bodies htests := ⟨allOnlyTest_iff.1 htests.2.1, allOnlyTest?_iff.1 htests.2.2⟩
  inclusion {_ _ frame frame' name} hframes havoids henter := by
    have hname : Agree (Share (held.map .memory)) (fun text text' => text = text' ∧ True)
        (textAt settings frame (Breadcrumb.inclusionSubject name) name)
        (textAt settings frame' (Breadcrumb.inclusionSubject name) name) :=
      (textAt_agree hregistry hframes _ havoids).mono fun _ _ h => ⟨h, trivial⟩
    refine inclusion_matches .eq hframes.subject hframes.depth (hname.matches .eq)
      ((checkDepth_agree rfl rfl _).matches .eq)
      (fun identifier _ => (load_agree hheld identifier).matches .eq)
      (fun identifier depth => (loggable_share.note _ _).matches .eq) fun template htemplate => ?_
    exact henter _ _ template ⟨hframes.context, hframes.subject, rfl,
      congrArg (· + 1) hframes.depth⟩ (allOnlyTest_iff.1 htemplate)

/-- Elements that only test the key are evaluated in the same way in both contexts, whatever room
there is for inclusions. -/
theorem within_agree (hregistry : settings.reporter.registry = .builtin)
    (hlog : ∀ log ∈ settings.log, log.logger.CutsAtInteger)
    (hheld : ∀ store ∈ held, store.OnlyTests key) (room : Nat) :
    ∀ body frame frame', AllOnlyTest key body → Frame.SameBut key frame frame' →
      Agree (Share (held.map .memory)) Eq (within settings room frame body)
        (within settings room frame' body) := fun body frame frame' htests hframes =>
  ((parallel_sameBut hregistry hlog hheld).within room body frame frame'
    (allOnlyTest_iff.1 htests) hframes).agree

end

/-- Presence alone decides conditions. Let a template and all templates in memory ask for a key at
the heads of conditions only. If two contexts agree on whether there is a field under the key, and
give the same answers to all other questions about the subject, then the template comes to the same
ending in both of them, whatever is found under the key and for whatever reason nothing is. -/
theorem evaluate_presence (settings : Settings) (hregistry : settings.reporter.registry = .builtin)
    (hlog : ∀ log ∈ settings.log, log.logger.CutsAtInteger) (key : String)
    (template : Template) (htemplate : template.OnlyTests key)
    (held : Option MemoryStore) (hheld : ∀ store ∈ held, store.OnlyTests key)
    (session : Session) (hsession : session.store = held.map .memory)
    (subject : Value) (context context' : Context)
    (hcontexts : Context.SameBut key subject context context') :
    (evaluate settings template context subject session).1
      = (evaluate settings template context' subject session).1 := by
  have hagree : Render.AgreeAt (Share (held.map .memory)) Eq
      (evaluate settings template context subject session)
      (evaluate settings template context' subject session) :=
    within_agree hregistry hlog hheld session.room template.elements
      ⟨context, subject, template.origin, 0⟩ ⟨context', subject, template.origin, 0⟩ htemplate
      ⟨hcontexts, rfl, rfl, rfl⟩ session session ⟨hsession, hsession⟩
  generalize evaluate settings template context subject session = ended,
    evaluate settings template context' subject session = ended' at hagree
  cases hagree with
  | value related _ => exact congrArg Ending.value related
  | failed failure _ => rfl
  | stopped reason _ => rfl

/-- A context that knows the tags of a document, and whether it is a draft as it is told. -/
def tagged (draft : Outcome Field) : Context := .single fun key _ _ =>
  if key = "draft" then pure draft
  else Reply.ofExcept (Context.entryField key
    [(.text "tags", .list [.text "lean", .text "logic"])])

/-- The tags of a document. -/
def tagList : Template where
  origin := .text "tags"
  elements := [.loop (.ident "tags") [.inclusion (.literal "tag")] (some [.chunk ", "])]

/-- A store that has the entry of a tag, with a mark in drafts. -/
def tagStore : MemoryStore :=
  ⟨[("tag", ⟨.text "tag", [.value (.ident "item"), .cond (.ident "draft") [.chunk "?"] none]⟩)]⟩

/-- A list of tags is the same for a document that is no draft and for one of which this may not be
known. -/
theorem tagList_private :
    (evaluate ⟨⟨.builtin, default⟩, default, some 32, none⟩ tagList
      (tagged (.failed ⟨[.text "access denied"], "E_ACCESS"⟩)) .null
      { store := some (.memory tagStore) }).1 = .value "lean, logic" := by
  have hcontexts : Context.SameBut "draft" .null
      (tagged (.failed ⟨[.text "access denied"], "E_ACCESS"⟩)) (tagged (.notFound [])) := by
    refine ⟨fun other args hother => ?_, fun args => .absent ?_ trivial⟩
    · simp only [tagged, Context.lookup, Context.single, Context.providers, Context.ask, hother,
        if_false]
    · exact fun message hmessage => ⟨_, List.mem_singleton.1 hmessage⟩
  have htemplate : tagList.OnlyTests "draft" := by decide
  have hstore : tagStore.OnlyTests "draft" := by decide
  have h := evaluate_presence ⟨⟨.builtin, default⟩, default, some 32, none⟩ rfl
    (by simp) "draft" tagList htemplate (some tagStore)
    (fun _ hheld => Option.some.inj hheld ▸ hstore) { store := some (.memory tagStore) } rfl .null
    _ _ hcontexts
  rw [h]
  rfl

end Inlay.Evaluator
