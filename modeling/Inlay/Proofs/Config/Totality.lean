import Inlay.Proofs.Config.Validation
import Inlay.Proofs.Fault.Messages

/-!
# Which mappings can be checked

Validation writes the unknown keys of the root and the level of logging into its messages, and looks
the level up among those that log entries have. These are its only steps that can stop: an integer
may be too long to be written, and a list or a mapping cannot be looked up. A mapping is `Checkable`
if nothing of the kind stands in these places; whatever else it holds, it gets a verdict
(`exists_validate_iff`).

A load of a checkable mapping takes a configuration or reports an invalid one. A load of any other
one stops as its validation does.
-/

namespace Inlay

namespace Config

open File Log

variable {data : Entries}

/-! ## What can be told -/

/-- A value is shown in a message exactly if it has a text. -/
theorem exists_shown_iff {value : Value} :
    (∃ text, value.shown = .ok text) ↔ value.hasText = true := by
  unfold Value.shown
  cases value.hasText <;> simp

/-- If it has none, it is a bad form to show it. -/
theorem shown_eq_error {value : Value} {misuse : Misuse} (h : value.shown = .error misuse) :
    misuse = .badForm := by
  unfold Value.shown at h
  split at h
  · cases h
  · cases h
    rfl

/-! ## What can be checked -/

/-- The key names no group of settings. -/
def IsUnknown (key : Value) : Prop := ∀ name ∈ sections, key.sameKey (.text name) = false

/-- The unknown keys at the root have a text. -/
def KeysShown (data : Entries) : Prop :=
  ∀ entry ∈ data, IsUnknown entry.1 → entry.1.hasText = true

/-- Nothing keeps a mapping from being checked. -/
structure Checkable (data : Entries) : Prop where
  keys : KeysShown data
  level : ∀ level ∈ (sectionEntries data "logging").field? "level",
    isSought level = true ∧ level.hasText = true

/-- A key is unknown if it is the key of no group. -/
theorem not_any_sections_iff {key : Value} :
    (!sections.any fun name => key.sameKey (.text name)) = true ↔ IsUnknown key := by
  simp [IsUnknown]

/-- Each unknown key is warned about if it has a text. -/
theorem exists_unknownKeys_iff : (∃ issues, unknownKeys data = .ok issues) ↔ KeysShown data := by
  unfold unknownKeys KeysShown
  simp only [Except.exists_mapM_iff, List.mem_filter, not_any_sections_iff, and_imp]
  refine forall₃_congr fun entry _ _ => ?_
  rw [← exists_shown_iff]
  cases entry.1.shown <;> simp [bind, Except.bind, pure, Except.pure]

/-- Warnings cannot be told for want of a key's text alone. -/
theorem unknownKeys_eq_error {misuse : Misuse} (h : unknownKeys data = .error misuse) :
    misuse = .badForm := by
  obtain ⟨entry, -, hentry⟩ := Except.exists_of_mapM_eq_error h
  cases hshown : entry.1.shown with
  | error reason =>
    rw [hshown] at hentry
    cases hentry
    exact shown_eq_error hshown
  | ok text =>
    rw [hshown] at hentry
    cases hentry

/-- A level gets its error, or none, if it can be looked up and has a text. -/
theorem exists_levelIssue_iff {level : Value} :
    (∃ issues, levelIssue (some level) = .ok issues) ↔
      isSought level = true ∧ level.hasText = true := by
  unfold levelIssue
  dsimp only
  cases isSought level with
  | false => simp
  | true =>
    simp only [Bool.not_true, Bool.false_eq_true, if_false, true_and]
    split
    · -- a text has its text, whether or not it is known
      refine iff_of_true ?_ rfl
      split <;> exact ⟨_, rfl⟩
    · rw [if_neg Bool.false_ne_true, ← exists_shown_iff]
      cases level.shown <;> simp [bind, Except.bind]

/-- A level that gets no verdict cannot be looked up, or it cannot be shown. -/
theorem levelIssue_eq_error {level : Value} {misuse : Misuse}
    (h : levelIssue (some level) = .error misuse) :
    misuse = if isSought level then .badForm else .wrongKind := by
  unfold levelIssue at h
  dsimp only at h
  cases hsought : isSought level with
  | false =>
    rw [hsought] at h
    cases h
    rfl
  | true =>
    simp only [hsought, Bool.not_true, Bool.false_eq_true, if_false] at h
    split at h
    · split at h <;> cases h
    · rw [if_neg Bool.false_ne_true] at h
      cases hshown : level.shown with
      | error reason =>
        rw [hshown] at h
        cases h
        exact shown_eq_error hshown
      | ok text =>
        rw [hshown] at h
        cases h

/-! ## Verdicts -/

/-- All other checks come to an end on every mapping. -/
theorem exists_validate_of_parts {warnings level : List Issue}
    (hwarnings : unknownKeys data = .ok warnings)
    (hlevel : levelIssue ((sectionEntries data "logging").field? "level") = .ok level) :
    ∃ verdict, validate data = .ok verdict := by
  unfold validate
  simp only [hwarnings, hlevel, Except.ok_bind]
  exact ⟨_, rfl⟩

/-- Checkable mappings, and no others, get a verdict. -/
theorem exists_validate_iff : (∃ verdict, validate data = .ok verdict) ↔ Checkable data := by
  have hkeys : (∃ issues, unknownKeys data = .ok issues) ↔ KeysShown data := exists_unknownKeys_iff
  constructor
  · rintro ⟨verdict, hverdict⟩
    obtain ⟨warnings, hwarnings, hrest⟩ := Except.bind_eq_ok.1 hverdict
    obtain ⟨issues, hissues, -⟩ := Except.bind_eq_ok.1 hrest
    refine ⟨hkeys.1 ⟨warnings, hwarnings⟩, fun level hlevel => ?_⟩
    rw [Option.mem_def.1 hlevel] at hissues
    exact exists_levelIssue_iff.1 ⟨issues, hissues⟩
  · rintro ⟨hshown, hlevel⟩
    obtain ⟨warnings, hwarnings⟩ := hkeys.2 hshown
    cases hgiven : (sectionEntries data "logging").field? "level" with
    | none => exact exists_validate_of_parts hwarnings (congrArg levelIssue hgiven)
    | some level =>
      obtain ⟨issues, hissues⟩ := exists_levelIssue_iff.2 (hlevel level hgiven)
      exact exists_validate_of_parts hwarnings ((congrArg levelIssue hgiven).trans hissues)

/-- What stops a validation: a level that cannot be looked up, if all unknown keys can be told, and
else something that has no text. -/
theorem validate_eq_error {misuse : Misuse} (h : validate data = .error misuse) :
    misuse = .badForm ∨ misuse = .wrongKind ∧ KeysShown data ∧
      ∃ level ∈ (sectionEntries data "logging").field? "level", isSought level = false := by
  cases hwarnings : unknownKeys data with
  | error reason =>
    unfold validate at h
    rw [hwarnings] at h
    cases h
    exact .inl (unknownKeys_eq_error hwarnings)
  | ok warnings =>
    have hshown := exists_unknownKeys_iff.1 ⟨warnings, hwarnings⟩
    cases hissues : levelIssue ((sectionEntries data "logging").field? "level") with
    | ok issues =>
      obtain ⟨verdict, hverdict⟩ := exists_validate_of_parts hwarnings hissues
      rw [hverdict] at h
      cases h
    | error reason =>
      unfold validate at h
      simp only [hwarnings, hissues, Except.ok_bind] at h
      cases h
      cases hgiven : (sectionEntries data "logging").field? "level" with
      | none =>
        rw [hgiven] at hissues
        cases hissues
      | some level =>
        rw [hgiven] at hissues
        have hmisuse := levelIssue_eq_error hissues
        -- a level that can be looked up has failed by its text
        cases hsought : isSought level with
        | true => exact .inl (by rw [hmisuse, hsought, if_pos rfl])
        | false =>
          refine .inr ⟨?_, hshown, level, rfl, hsought⟩
          rw [hmisuse, hsought, if_neg Bool.false_ne_true]

/-! ## Loads -/

/-- A mapping with a verdict is read, or refused as invalid. -/
theorem ofEntries_of_verdict {verdict : Verdict} (reporter : Reporter)
    (hverdict : validate data = .ok verdict) :
    (∃ read, ofEntries reporter data = .ok read) ∨
      ∃ detail, ofEntries reporter data = .error (invalid reporter detail) := by
  cases hvalid : verdict.isValid with
  | false => exact .inr ⟨_, ofEntries_of_invalid hverdict hvalid⟩
  | true =>
    cases hread : read data with
    | ok config => exact .inl ⟨_, ofEntries_eq_ok_iff.2 ⟨verdict, hverdict, hvalid, hread, rfl⟩⟩
    | error message => exact .inr ⟨_, ofEntries_of_unread hverdict hvalid hread⟩

/-- With a logger, if any, that cuts contexts at a whole number of characters, and with the codes
that every registry starts with: a mapping gets a verdict exactly if it is checkable, and then its
load takes a configuration or reports that the mapping is invalid. Any other mapping stops its
validation, and its load in the same way; this is because of a level that cannot be looked up, or
because an unknown key or the level has no text. A load that takes no configuration leaves the
loader as it is. -/
theorem Loader.judged_iff_checkable (around : Surroundings)
    (hregistry : around.reporter.registry = .builtin) (loader : Loader)
    (hlogger : ∀ logger ∈ loader.logger, logger.CutsAtInteger) (data : Entries)
    (path : Option Path) :
    let load := loader.loadEntries around data path
    ((∃ verdict, validate data = .ok verdict) ↔ Checkable data) ∧
    (Checkable data → (∃ config, load.result = .ok config) ∨
      ∃ fault, fault.code = Code.configInvalid ∧
        load = { result := .error (.fault fault), loader }) ∧
    (¬ Checkable data → ∃ misuse, validate data = .error misuse ∧
      load = { result := .error (.misuse misuse), loader } ∧
      (misuse = .badForm ∨ misuse = .wrongKind ∧ KeysShown data ∧
        ∃ level ∈ (sectionEntries data "logging").field? "level", isSought level = false)) := by
  intro load
  refine ⟨exists_validate_iff, fun hcheckable => ?_, fun hnot => ?_⟩
  · obtain ⟨verdict, hverdict⟩ := exists_validate_iff.2 hcheckable
    obtain ⟨⟨config, warnings⟩, hread⟩ | ⟨detail, hinvalid⟩ :=
      ofEntries_of_verdict around.reporter hverdict
    · exact .inl ⟨config, result_loadEntries_eq_ok_iff.2 ⟨warnings, hread, note_of_cuts hlogger _⟩⟩
    · obtain ⟨fault, hfault, hcode⟩ := Reporter.exists_configInvalid hregistry detail
      refine .inr ⟨fault, hcode, loadEntries_of_error ?_⟩
      rw [hinvalid, invalid, hfault]
  · cases hverdict : validate data with
    | ok verdict => exact absurd (exists_validate_iff.1 ⟨verdict, hverdict⟩) hnot
    | error misuse =>
      refine ⟨misuse, rfl, loadEntries_of_error ?_, validate_eq_error hverdict⟩
      rw [ofEntries, hverdict]

/-- A number where a group belongs is found and reported, and the loader stays as it is. -/
theorem bareRender_refused :
    (∃ verdict, validate [named "render" (.int 3)] = .ok verdict ∧ verdict.isValid = false) ∧
      ∃ fault, fault.code = Code.configInvalid ∧
        ({} : Loader).loadEntries bareSurroundings [named "render" (.int 3)]
          = { result := .error (.fault fault), loader := {} } := by
  have h := Loader.judged_iff_checkable bareSurroundings rfl {} (fun _ hlogger => nomatch hlogger)
    [named "render" (.int 3)] none
  obtain ⟨verdict, hverdict, hinvalid⟩ : ∃ verdict,
      validate [named "render" (.int 3)] = .ok verdict ∧ verdict.isValid = false := ⟨_, rfl, rfl⟩
  refine ⟨⟨verdict, hverdict, hinvalid⟩, ?_⟩
  obtain ⟨config, hconfig⟩ | hrefused := h.2.1 (h.1.1 ⟨verdict, hverdict⟩)
  · have hfails : (({} : Loader).loadEntries bareSurroundings
        [named "render" (.int 3)]).result.isOk = false := by
      decide +kernel
    rw [hconfig] at hfails
    cases hfails
  · exact hrefused

/-- A list in the place of the level stops validation, and the load with it. -/
theorem listedLevel_stops :
    let data := [named "logging" (.map [named "level" (.list [])])]
    validate data = .error .wrongKind ∧
      (({} : Loader).loadEntries bareSurroundings data).result = .error (.misuse .wrongKind) :=
  ⟨rfl, rfl⟩

end Config

end Inlay
