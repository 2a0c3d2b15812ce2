import Inlay.Proofs.Config.Loading

/-!
# What validation says of loading

A mapping without errors has what the checks ask for (`Admissible`), and that is read whatever else
it holds, with one exception: the format of log lines is not checked, but a text that names no
format cannot be read (`exists_read_iff`). So a verdict foretells what a load ends in unless that is
what is wrong with the mapping (`Loader.loads_iff_valid`).
-/

namespace Inlay

namespace Log

/-- A level is found by its name and by no other. -/
theorem Level.ofName?_eq_some_iff {name : String} {level : Level} :
    Level.ofName? name = some level ↔ name = level.name := by
  constructor
  · intro h
    have hname := List.find?_some h
    exact (beq_iff_eq.1 hname).symm
  · rintro rfl
    cases level <;> rfl

/-- So is a format. -/
theorem Format.ofName?_eq_some_iff {name : String} {format : Format} :
    Format.ofName? name = some format ↔ name = format.name := by
  constructor
  · intro h
    have hname := List.find?_some h
    exact (beq_iff_eq.1 hname).symm
  · rintro rfl
    cases format <;> rfl

end Log

namespace Config

open File Log

variable {data : Entries} {verdict : Verdict}

/-! ## What the checks ask for -/

/-- What the checks ask of a mapping. -/
structure Admissible (data : Entries) : Prop where
  groups : ∀ name ∈ sections, notMapping (data.field? name) = false
  level : ∀ value ∈ (sectionEntries data "logging").field? "level",
    ∃ level : Level, value = .text level.name
  maxIncludeDepth : wrongDepth ((sectionEntries data "render").field? "max_include_depth") = false
  directory : wrongDirectory ((sectionEntries data "templates").field? "directory") = false
  extensions : wrongExtensions ((sectionEntries data "templates").field? "extensions") = false

/-- A check is silent exactly if nothing is wrong. -/
theorem issueIf_eq_nil_iff {wrong : Bool} {path message : String} :
    issueIf wrong path message = [] ↔ wrong = false := by
  cases wrong <;> simp [issueIf]

/-- There is no error about a level exactly if it is given by its name, or not at all. -/
theorem levelIssue_eq_nil_iff {level : Option Value} {issues : List Issue}
    (h : levelIssue level = .ok issues) :
    issues = [] ↔ ∀ value ∈ level, ∃ known : Level, value = .text known.name := by
  cases level with
  | none =>
    cases h
    simp
  | some value =>
    simp only [Option.mem_some_iff, forall_eq']
    unfold levelIssue at h
    dsimp only at h
    split at h
    · cases h
    -- only a text can be the name of a level
    · split at h
      · next name _ =>
        cases hname : Level.ofName? name with
        | some known =>
          simp only [hname, Option.isSome_some, if_true] at h
          cases h
          exact iff_of_true rfl ⟨known, by rw [Level.ofName?_eq_some_iff.1 hname]⟩
        | none =>
          simp only [hname, Option.isSome_none, Bool.false_eq_true, if_false] at h
          cases h
          refine iff_of_false (List.cons_ne_nil _ _) ?_
          rintro ⟨known, htext⟩
          rw [Level.ofName?_eq_some_iff.2 (Value.text.inj htext)] at hname
          cases hname
      · next htext =>
        simp only [Bool.false_eq_true, if_false] at h
        obtain ⟨text, -, hissues⟩ := Except.bind_eq_ok.1 h
        cases hissues
        exact iff_of_false (List.cons_ne_nil _ _) fun ⟨known, hknown⟩ => htext _ hknown

/-- A mapping is valid if it has what the checks ask for. -/
theorem isValid_iff (h : validate data = .ok verdict) :
    verdict.isValid = true ↔ Admissible data := by
  obtain ⟨warnings, -, hrest⟩ := Except.bind_eq_ok.1 h
  obtain ⟨level, hlevel, hverdict⟩ := Except.bind_eq_ok.1 hrest
  cases hverdict
  simp only [Verdict.isValid, List.isEmpty_iff, List.append_eq_nil_iff, List.flatMap_eq_nil_iff,
    sectionIssue, issueIf_eq_nil_iff, levelIssue_eq_nil_iff hlevel]
  constructor
  · rintro ⟨⟨⟨⟨hgroups, hdirectory⟩, hextensions⟩, hdepth⟩, hname⟩
    exact ⟨hgroups, hname, hdepth, hdirectory, hextensions⟩
  · rintro ⟨hgroups, hname, hdepth, hdirectory, hextensions⟩
    exact ⟨⟨⟨⟨hgroups, hdirectory⟩, hextensions⟩, hdepth⟩, hname⟩

/-! ## What can be read -/

/-- A format of log lines that is given as a text is given by its name. -/
def FormatKnown (data : Entries) : Prop :=
  ∀ name, (sectionEntries data "logging").field? "format" = some (.text name) →
    ∃ format : Format, name = format.name

/-- A text that names no format cannot be read as one. -/
theorem FormatSetting.read_of_unknown {name : String} (h : ∀ format : Format, name ≠ format.name) :
    FormatSetting.read (some (.text name))
      = .error (Text.quoted name ++ " is not a valid LogFormat") := by
  have hunknown : Format.ofName? name = none :=
    Option.eq_none_iff_forall_ne_some.2 fun format hformat =>
      h format (Format.ofName?_eq_some_iff.1 hformat)
  rw [FormatSetting.read, hunknown]

/-- Everything else is read, also what is no text. -/
theorem FormatSetting.exists_read_iff {given : Option Value} :
    (∃ format, FormatSetting.read given = .ok format) ↔
      ∀ name, given = some (.text name) → ∃ format : Format, name = format.name := by
  constructor
  · rintro ⟨format, hread⟩ name rfl
    refine Classical.byContradiction fun hunknown => ?_
    rw [FormatSetting.read_of_unknown (not_exists.1 hunknown)] at hread
    cases hread
  · intro h
    unfold FormatSetting.read
    split
    · exact ⟨_, rfl⟩
    · next name =>
      obtain ⟨format, hname⟩ := h name rfl
      rw [Format.ofName?_eq_some_iff.2 hname]
      exact ⟨_, rfl⟩
    · exact ⟨_, rfl⟩

/-- The only thing that keeps a mapping from being read is the name of a format. -/
theorem exists_read_iff : (∃ config, read data = .ok config) ↔ FormatKnown data := by
  unfold FormatKnown
  rw [← FormatSetting.exists_read_iff]
  unfold read Logging.read
  cases FormatSetting.read ((sectionEntries data "logging").field? "format") with
  | ok format => exact ⟨fun _ => ⟨_, rfl⟩, fun _ => ⟨_, rfl⟩⟩
  | error message =>
    constructor
    · rintro ⟨config, hconfig⟩
      cases hconfig
    · rintro ⟨format, hformat⟩
      cases hformat

/-- A configuration with such a format cannot be read either. -/
theorem read_of_unknown {name : String}
    (hgiven : (sectionEntries data "logging").field? "format" = some (.text name))
    (hunknown : ∀ format : Format, name ≠ format.name) :
    read data = .error (Text.quoted name ++ " is not a valid LogFormat") := by
  unfold read Logging.read
  rw [hgiven, FormatSetting.read_of_unknown hunknown]
  rfl

/-! ## Verdicts and loads -/

/-- With a logger, if any, that cuts contexts at a whole number of characters: a mapping that can be
validated is loaded exactly if it is valid and its format of log lines is known. So the verdict
foretells the load exactly if a valid mapping never names an unknown format. A mapping that is not
valid is refused with the list of its errors, and one that names an unknown format with the name;
both leave the loader as it is. -/
theorem Loader.loads_iff_valid (around : Surroundings) (loader : Loader)
    (hlogger : ∀ logger ∈ loader.logger, logger.CutsAtInteger) (path : Option Path)
    (hverdict : validate data = .ok verdict) :
    let load := loader.loadEntries around data path
    ((∃ config, load.result = .ok config) ↔ verdict.isValid = true ∧ FormatKnown data) ∧
    ((verdict.isValid = true ↔ ∃ config, load.result = .ok config) ↔
      (verdict.isValid = true → FormatKnown data)) ∧
    (verdict.isValid = false → load =
      { result := .error (invalid around.reporter ("Configuration validation failed:\n" ++
          "\n".intercalate (verdict.errors.map Issue.report)))
        loader }) ∧
    (verdict.isValid = true → ∀ name,
      (sectionEntries data "logging").field? "format" = some (.text name) →
      (∀ format : Format, name ≠ format.name) → load =
        { result := .error (invalid around.reporter ("Failed to parse configuration: " ++
            (Text.quoted name ++ " is not a valid LogFormat")))
          loader }) := by
  intro load
  -- the format is the only setting that is read and not checked
  have hloads : (∃ config, load.result = .ok config) ↔
      verdict.isValid = true ∧ FormatKnown data := by
    constructor
    · rintro ⟨config, hload⟩
      obtain ⟨warnings, hread, -⟩ := result_loadEntries_eq_ok_iff.1 hload
      obtain ⟨same, hsame, hvalid, hconfig, -⟩ := ofEntries_eq_ok_iff.1 hread
      cases hverdict.symm.trans hsame
      exact ⟨hvalid, exists_read_iff.1 ⟨config, hconfig⟩⟩
    · rintro ⟨hvalid, hknown⟩
      obtain ⟨config, hconfig⟩ := exists_read_iff.2 hknown
      exact ⟨config, result_loadEntries_eq_ok_iff.2 ⟨verdict.warnings,
        ofEntries_eq_ok_iff.2 ⟨verdict, hverdict, hvalid, hconfig, rfl⟩,
        note_of_cuts hlogger _⟩⟩
  refine ⟨hloads, ?_, fun hinvalid => ?_, fun hvalid name hgiven hunknown => ?_⟩
  · rw [hloads, iff_self_and]
  · exact loadEntries_of_error (ofEntries_of_invalid hverdict hinvalid)
  · have hread := read_of_unknown hgiven hunknown
    exact loadEntries_of_error (ofEntries_of_unread hverdict hvalid hread)

/-- A configuration that writes its log in a format that nobody knows, beside a key that is only
warned about. -/
def oddLog : Entries := [
  named "server" (.map []),
  named "logging" (.map [named "level" (.text "DEBUG"), named "format" (.text "xml")])]

/-- A loader that holds nothing yet and has no logger, among no files. -/
def bareSurroundings : Surroundings := ⟨⟨.builtin, default⟩, default, [], 100⟩

/-- An unknown format is refused although validation finds nothing wrong with it. -/
theorem oddLog_refused :
    ∃ verdict, validate oddLog = .ok verdict ∧ verdict.isValid = true ∧
      (({} : Loader).loadEntries bareSurroundings oddLog).result
        = .error (invalid bareSurroundings.reporter
            "Failed to parse configuration: 'xml' is not a valid LogFormat") := by
  obtain ⟨verdict, hverdict, hvalid⟩ : ∃ verdict, validate oddLog = .ok verdict ∧
      verdict.isValid = true := ⟨_, rfl, rfl⟩
  exact ⟨verdict, hverdict, hvalid, congrArg Load.result
    ((Loader.loads_iff_valid bareSurroundings {} (fun _ h => by cases h) none hverdict).2.2.2
      hvalid "xml" rfl (fun format => by cases format <;> decide))⟩

/-- Validation does not foretell what becomes of that mapping. -/
theorem verdict_deceives : ¬ ∀ verdict, validate oddLog = .ok verdict →
    (verdict.isValid = true ↔
      ∃ config, (({} : Loader).loadEntries bareSurroundings oddLog).result = .ok config) := by
  intro h
  have hfails : (({} : Loader).loadEntries bareSurroundings oddLog).result.isOk = false := by
    decide +kernel
  obtain ⟨config, hconfig⟩ := (h _ rfl).1 rfl
  rw [hconfig] at hfails
  cases hfails

end Config

end Inlay
