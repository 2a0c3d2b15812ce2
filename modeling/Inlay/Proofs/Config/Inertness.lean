import Inlay.Proofs.Config.Totality

/-!
# Unknown keys

Two mappings are alike if they give the same for every setting that there is (`Value.Alike`, along
the default configuration); what else they hold, and in which order, is up to each of them. All that
is checked and read is found under the names of settings, so alike mappings have the same errors
(`errors_validate_congr`) and are the same configuration (`read_congr`). Only the warnings tell them
apart: each unknown key at the root has one, as long as it can be written.
-/

namespace Inlay

/-! ## Alike mappings -/

namespace Value

mutual

/-- Do two values, if they are given, agree on what a default has? Mappings in the place of a
mapping need to agree on its entries, and other values are the same. -/
def Alike : Value → Option Value → Option Value → Prop
  | .map defaults, some (.map data), some (.map other) => AlikeEntries defaults data other
  | _, given, other => given = other

/-- Do two mappings agree on the entries of a default? -/
def AlikeEntries : Entries → Entries → Entries → Prop
  | [], _, _ => True
  | (key, default) :: rest, data, other =>
    Alike default (data.get? key) (other.get? key) ∧ AlikeEntries rest data other

end

mutual

/-- What is given is alike to itself, whatever the default has. -/
theorem Alike.refl (default : Value) (given : Option Value) : Alike default given given := by
  cases default with
  | map defaults =>
    cases given with
    | none => rfl
    | some value =>
      cases value with
      | map entries => exact AlikeEntries.refl defaults entries
      | _ => rfl
  | _ => rfl

theorem AlikeEntries.refl (defaults entries : Entries) : AlikeEntries defaults entries entries := by
  cases defaults with
  | nil => trivial
  | cons entry rest => exact ⟨Alike.refl entry.2 _, AlikeEntries.refl rest entries⟩

end

end Value

namespace Config

open Value File Log

variable {data other : Entries}

/-- Two mappings agree on the settings that a default has. -/
abbrev AgreeOn (default : Value) (data other : Entries) : Prop :=
  default.Alike (some (.map data)) (some (.map other))

/-! ## Groups of settings -/

section

variable {name : String} {defaults : Entries} {given twin : Option Value}

/-- Two alike groups are the same, or both of them are mappings. -/
theorem alike_cases (h : (Value.map defaults).Alike given twin) :
    given = twin ∨ ∃ data other, given = some (.map data) ∧ twin = some (.map other) ∧
      AgreeOn (.map defaults) data other := by
  unfold Value.Alike at h
  split at h
  · next hdefaults =>
    cases hdefaults
    exact .inr ⟨_, _, rfl, rfl, h⟩
  · exact .inl h

/-- Alike groups are both wrong in kind, or neither is. -/
theorem sectionIssue_congr (h : (Value.map defaults).Alike (data.field? name) (other.field? name)) :
    sectionIssue data name = sectionIssue other name := by
  unfold sectionIssue
  obtain hsame | ⟨inner, twin, hdata, hother, -⟩ := alike_cases h
  · rw [hsame]
  · rw [hdata, hother]
    rfl

/-- What stands in alike groups is alike. -/
theorem sectionEntries_agree
    (h : (Value.map defaults).Alike (data.field? name) (other.field? name)) :
    AgreeOn (.map defaults) (sectionEntries data name) (sectionEntries other name) := by
  unfold sectionEntries
  obtain hsame | ⟨inner, twin, hdata, hother, hagree⟩ := alike_cases h
  · rw [hsame]
    exact .refl _ _
  · rw [hdata, hother]
    exact hagree

/-- Alike groups are read to the same, if the reading of a group looks at its own settings alone. -/
theorem Section.read_congr {α : Type} {readFields : Entries → α}
    (hread : ∀ data other, AgreeOn (.map defaults) data other → readFields data = readFields other)
    (h : (Value.map defaults).Alike given twin) :
    Section.read readFields given = Section.read readFields twin := by
  obtain rfl | ⟨data, other, rfl, rfl, hagree⟩ := alike_cases h
  · rfl
  · exact congrArg Section.given (hread data other hagree)

end

/-! ## The settings of each group -/

/-- The settings of the template group are not groups, so alike ones are the same. -/
theorem Templates.fields_eq (h : AgreeOn ({} : Templates).dump data other) :
    data.field? "directory" = other.field? "directory" ∧
      data.field? "encoding" = other.field? "encoding" ∧
      data.field? "extensions" = other.field? "extensions" ∧
      data.field? "cache" = other.field? "cache" := by
  obtain ⟨hdirectory, hencoding, hextensions, hcache, -⟩ := h
  exact ⟨hdirectory, hencoding, hextensions, hcache⟩

/-- So the group is read to the same from both mappings. -/
theorem Templates.read_congr (h : AgreeOn ({} : Templates).dump data other) :
    Templates.read data = Templates.read other := by
  obtain ⟨hdirectory, hencoding, hextensions, hcache⟩ := fields_eq h
  unfold Templates.read setting
  rw [hdirectory, hencoding, hextensions, hcache]

/-- The settings of the render group are no groups either. -/
theorem Rendering.fields_eq (h : AgreeOn ({} : Rendering).dump data other) :
    data.field? "max_include_depth" = other.field? "max_include_depth" ∧
      data.field? "literal_origin" = other.field? "literal_origin" := by
  obtain ⟨hdepth, horigin, -⟩ := h
  exact ⟨hdepth, horigin⟩

/-- It is read to the same as well. -/
theorem Rendering.read_congr (h : AgreeOn ({} : Rendering).dump data other) :
    Rendering.read data = Rendering.read other := by
  obtain ⟨hdepth, horigin⟩ := fields_eq h
  unfold Rendering.read setting
  rw [hdepth, horigin]

/-- So are the switches of the components. -/
theorem Components.read_congr (h : AgreeOn ({} : Components).dump data other) :
    Components.read data = Components.read other := by
  obtain ⟨hrender, hstore, hconfig, -⟩ := h
  have hrender : data.field? "render" = other.field? "render" := hrender
  have hstore : data.field? "store" = other.field? "store" := hstore
  have hconfig : data.field? "config" = other.field? "config" := hconfig
  unfold Components.read setting
  rw [hrender, hstore, hconfig]

/-- So are the options of the log. -/
theorem LogOptions.read_congr (h : AgreeOn ({} : LogOptions).dump data other) :
    LogOptions.read data = LogOptions.read other := by
  obtain ⟨hparams, hcut, -⟩ := h
  have hparams : data.field? "show_params" = other.field? "show_params" := hparams
  have hcut : data.field? "truncate_at" = other.field? "truncate_at" := hcut
  unfold LogOptions.read setting
  rw [hparams, hcut]

/-- The level and the format are the same, and the two groups within the log group are alike. -/
theorem Logging.fields_eq (h : AgreeOn ({} : Logging).dump data other) :
    data.field? "level" = other.field? "level" ∧ data.field? "format" = other.field? "format" ∧
      ({} : Components).dump.Alike (data.field? "components") (other.field? "components") ∧
      ({} : LogOptions).dump.Alike (data.field? "options") (other.field? "options") := by
  obtain ⟨hlevel, hformat, hcomponents, hoptions, -⟩ := h
  exact ⟨hlevel, hformat, hcomponents, hoptions⟩

/-- So the log group is read to the same, with the groups in it. -/
theorem Logging.read_congr (h : AgreeOn ({} : Logging).dump data other) :
    Logging.read data = Logging.read other := by
  obtain ⟨hlevel, hformat, hcomponents, hoptions⟩ := fields_eq h
  unfold Logging.read
  rw [hlevel, hformat, Section.read_congr (fun _ _ => Components.read_congr) hcomponents,
    Section.read_congr (fun _ _ => LogOptions.read_congr) hoptions]

/-! ## Configurations -/

/-- Mappings that agree on all settings have alike groups. -/
theorem groups_alike (h : AgreeOn ({} : Config).dump data other) :
    ({} : Templates).dump.Alike (data.field? "templates") (other.field? "templates") ∧
      ({} : Rendering).dump.Alike (data.field? "render") (other.field? "render") ∧
      ({} : Logging).dump.Alike (data.field? "logging") (other.field? "logging") := by
  obtain ⟨htemplates, hrender, hlogging, -⟩ := h
  exact ⟨htemplates, hrender, hlogging⟩

/-- Mappings that agree on all settings are the same configuration. -/
theorem read_congr (h : AgreeOn ({} : Config).dump data other) : read data = read other := by
  obtain ⟨htemplates, hrender, hlogging⟩ := groups_alike h
  unfold read
  rw [Templates.read_congr (sectionEntries_agree htemplates),
    Rendering.read_congr (sectionEntries_agree hrender),
    Logging.read_congr (sectionEntries_agree hlogging)]

/-- An unknown key at the root is warned about. -/
def unknownWarning (key : Value) : Issue where
  path := key
  message := "Unknown configuration key: " ++ key.asText
  severity := .warning

instance : DecidablePred IsUnknown := fun key =>
  inferInstanceAs (Decidable (∀ name ∈ sections, key.sameKey (.text name) = false))

/-- Each unknown key is warned about once, in the order of the keys. -/
theorem unknownKeys_of_shown (h : KeysShown data) :
    unknownKeys data
      = .ok ((data.filter fun entry => IsUnknown entry.1).map fun entry =>
          unknownWarning entry.1) := by
  have hfilter : (data.filter fun entry => !sections.any fun name => entry.1.sameKey (.text name))
      = data.filter fun entry => IsUnknown entry.1 :=
    List.filter_congr fun entry _ => by
      rw [Bool.eq_iff_iff, not_any_sections_iff, decide_eq_true_iff]
  rw [unknownKeys, hfilter]
  refine Except.mapM_eq_ok_map fun entry hentry => ?_
  obtain ⟨hmem, hunknown⟩ := List.mem_filter.1 hentry
  have hshown : entry.1.shown = .ok entry.1.asText :=
    if_pos (h entry hmem (of_decide_eq_true hunknown))
  rw [hshown]
  rfl

/-- Mappings that agree on all settings have the same errors, and each has its own warnings. -/
theorem validate_congr (h : AgreeOn ({} : Config).dump data other) (hdata : KeysShown data)
    (hother : KeysShown other) :
    (validate data).map Verdict.errors = (validate other).map Verdict.errors := by
  obtain ⟨htemplates, hrender, hlogging⟩ := groups_alike h
  obtain ⟨hdirectory, -, hextensions, -⟩ := Templates.fields_eq (sectionEntries_agree htemplates)
  obtain ⟨hdepth, -⟩ := Rendering.fields_eq (sectionEntries_agree hrender)
  obtain ⟨hlevel, -⟩ := Logging.fields_eq (sectionEntries_agree hlogging)
  have hsections :
      sections.flatMap (sectionIssue data) = sections.flatMap (sectionIssue other) := by
    simp only [sections, List.flatMap_cons, sectionIssue_congr htemplates,
      sectionIssue_congr hrender, sectionIssue_congr hlogging, List.flatMap_nil]
  unfold validate
  rw [unknownKeys_of_shown hdata, unknownKeys_of_shown hother, Except.ok_bind, Except.ok_bind,
    hlevel, hsections, hdirectory, hextensions, hdepth]
  cases levelIssue ((sectionEntries other "logging").field? "level") <;> rfl

/-- The settings that an error may be about. -/
def checkedPaths : List String := [
  "logging", "logging.level", "render", "render.max_include_depth", "templates",
  "templates.directory", "templates.extensions"]

/-- A check that fails tells the path it was made for. -/
theorem path_of_issueIf {wrong : Bool} {path message : String} :
    ∀ error ∈ issueIf wrong path message, error.path = .text path := by
  cases wrong <;> simp [issueIf, issue]

/-- What is wrong with the level is told under the level's path. -/
theorem path_of_levelIssue {level : Option Value} {issues : List Issue}
    (h : levelIssue level = .ok issues) : ∀ error ∈ issues, error.path = .text "logging.level" := by
  unfold levelIssue at h
  split at h
  · cases h
    simp
  · dsimp only at h
    split at h
    · cases h
    · split at h
      · split at h <;> cases h <;> simp [issue]
      · simp only [Bool.false_eq_true, if_false] at h
        obtain ⟨text, -, hissues⟩ := Except.bind_eq_ok.1 h
        cases hissues
        simp [issue]

/-- Every error is about a setting that is checked. -/
theorem path_of_error {verdict : Verdict} (h : validate data = .ok verdict) :
    ∀ error ∈ verdict.errors, ∃ path ∈ checkedPaths, error.path = .text path := by
  obtain ⟨warnings, -, hrest⟩ := Except.bind_eq_ok.1 h
  obtain ⟨level, hlevel, hverdict⟩ := Except.bind_eq_ok.1 hrest
  cases hverdict
  simp only [List.forall_mem_append]
  refine ⟨⟨⟨⟨?_, ?_⟩, ?_⟩, ?_⟩, ?_⟩ <;> intro error herror
  case refine_1 =>
    obtain ⟨name, hname, hissue⟩ := List.mem_flatMap.1 herror
    have hchecked : ∀ name ∈ sections, name ∈ checkedPaths := by decide
    exact ⟨name, hchecked name hname, path_of_issueIf error hissue⟩
  case refine_5 => exact ⟨_, by decide, path_of_levelIssue hlevel error herror⟩
  all_goals exact ⟨_, by decide, path_of_issueIf error herror⟩

/-- The configuration that a mapping is depends on its warnings in no way. -/
theorem map_fst_ofEntries (reporter : Reporter) (data : Entries) :
    (ofEntries reporter data).map Prod.fst
      = match (validate data).map Verdict.errors with
        | .error misuse => .error (.misuse misuse)
        | .ok [] => (read data).mapError fun message =>
            invalid reporter ("Failed to parse configuration: " ++ message)
        | .ok errors => .error (invalid reporter ("Configuration validation failed:\n" ++
            "\n".intercalate (errors.map Issue.report))) := by
  rw [ofEntries]
  cases validate data with
  | error misuse => rfl
  | ok verdict =>
    rw [Except.map]
    dsimp only
    rw [Verdict.isValid]
    cases verdict.errors with
    | nil => cases read data <;> rfl
    | cons error rest => rfl

namespace Loader

variable {loader : Loader} (around : Surroundings)
  (hlogger : ∀ logger ∈ loader.logger, logger.CutsAtInteger) (data : Entries) (path : Option Path)

include hlogger

/-- What comes of a load is what comes of the mapping, if the logger writes all lines. -/
theorem result_loadEntries :
    (loader.loadEntries around data path).result
      = (ofEntries around.reporter data).map Prod.fst := by
  cases hread : ofEntries around.reporter data with
  | error reason => rw [loadEntries_of_error hread]; rfl
  | ok read => rw [loadEntries_of_note hread (note_of_cuts hlogger _)]; rfl

/-- The loader holds what was loaded, and stays as it is where nothing was. -/
theorem loader_loadEntries :
    (loader.loadEntries around data path).loader
      = match (ofEntries around.reporter data).map Prod.fst with
        | .ok config => { loader with config := some config, path }
        | .error _ => loader := by
  cases hread : ofEntries around.reporter data with
  | error reason => rw [loadEntries_of_error hread]; rfl
  | ok read => rw [loadEntries_of_note hread (note_of_cuts hlogger _)]; rfl

end Loader

/-- Two mappings that agree on all settings, whatever unknown keys they hold and in whatever order,
have the same errors and are loaded alike: as the same configuration, or neither, for the same
reason. What is unknown shows in the warnings only: one for each key at the root. -/
theorem Loader.unknown_keys_inert (around : Surroundings) (loader : Loader)
    (hlogger : ∀ logger ∈ loader.logger, logger.CutsAtInteger) (path : Option Path)
    (hagree : AgreeOn ({} : Config).dump data other) (hdata : KeysShown data)
    (hother : KeysShown other) :
    (validate data).map Verdict.errors = (validate other).map Verdict.errors ∧
    (loader.loadEntries around data path).result = (loader.loadEntries around other path).result ∧
    (loader.loadEntries around data path).loader = (loader.loadEntries around other path).loader ∧
    ∀ verdict, validate data = .ok verdict →
      verdict.warnings = ((data.filter fun entry => IsUnknown entry.1).map fun entry =>
        unknownWarning entry.1) ∧
      ∀ error ∈ verdict.errors, ∃ path ∈ checkedPaths, error.path = .text path := by
  have herrors := validate_congr hagree hdata hother
  have hread : (ofEntries around.reporter data).map Prod.fst
      = (ofEntries around.reporter other).map Prod.fst := by
    rw [map_fst_ofEntries, map_fst_ofEntries, herrors, read_congr hagree]
  refine ⟨herrors, ?_, ?_, fun verdict hverdict => ⟨?_, path_of_error hverdict⟩⟩
  · rw [result_loadEntries around hlogger, result_loadEntries around hlogger, hread]
  · rw [loader_loadEntries around hlogger, loader_loadEntries around hlogger, hread]
  · have hwarnings := unknownKeys_of_validate hverdict
    rw [unknownKeys_of_shown hdata] at hwarnings
    exact (Except.ok.inj hwarnings).symm

/-- A configuration beside settings of some other program. -/
def sharedSettings : Entries := [
  named "server" (.map [named "port" (.int 80)]),
  named "render" (.map [named "colour" (.text "red"), named "max_include_depth" (.int 5)])]

/-- The same settings without the others. -/
def ownSettings : Entries := [named "render" (.map [named "max_include_depth" (.int 5)])]

/-- The settings of the other program do not matter. -/
theorem sharedSettings_inert :
    AgreeOn ({} : Config).dump sharedSettings ownSettings ∧
      KeysShown sharedSettings ∧ KeysShown ownSettings ∧
      (({} : Loader).loadEntries bareSurroundings sharedSettings).result
        = (({} : Loader).loadEntries bareSurroundings ownSettings).result := by
  have hagree : AgreeOn ({} : Config).dump sharedSettings ownSettings := by
    refine ⟨rfl, ⟨rfl, rfl, trivial⟩, rfl, trivial⟩
  have hshared : KeysShown sharedSettings := by simp [KeysShown, sharedSettings, named]; decide
  have hown : KeysShown ownSettings := by simp [KeysShown, ownSettings, named]; decide
  exact ⟨hagree, hshared, hown, (Loader.unknown_keys_inert bareSurroundings {}
    (fun _ hlogger => nomatch hlogger) none hagree hshared hown).2.1⟩

/-- An unknown key that cannot be written stops a load. -/
theorem Loader.result_loadEntries_of_unshown (around : Surroundings) (loader : Loader)
    (path : Option Path) {key value : Value} (hkey : (key, value) ∈ data)
    (hunknown : IsUnknown key) (hlong : key.hasText = false) :
    (loader.loadEntries around data path).result = .error (.misuse .badForm) := by
  have hvalidate : validate data = .error .badForm := by
    cases hwarnings : unknownKeys data with
    | ok warnings =>
      have hshown := exists_unknownKeys_iff.1 ⟨warnings, hwarnings⟩ (key, value) hkey hunknown
      exact absurd (hlong.symm.trans hshown) Bool.false_ne_true
    | error misuse =>
      rw [validate, hwarnings, unknownKeys_eq_error hwarnings]
      rfl
  have hread : ofEntries around.reporter data = .error (.misuse .badForm) := by
    rw [ofEntries, hvalidate]
  rw [loadEntries_of_error hread]

/-- A key with too many digits stops a load, though its mapping agrees with an empty one on all
settings. -/
theorem long_key_stops :
    AgreeOn ({} : Config).dump [(.int (.ofNat Value.tooLong), .null)] [] ∧
      (({} : Loader).loadEntries bareSurroundings []).result.isOk = true ∧
      (({} : Loader).loadEntries bareSurroundings [(.int (.ofNat Value.tooLong), .null)]).result
        = .error (.misuse .badForm) := by
  have hagree : ∀ n : Int, AgreeOn ({} : Config).dump [(.int n, .null)] [] :=
    fun _ => ⟨rfl, rfl, rfl, trivial⟩
  have hunknown : ∀ n : Int, IsUnknown (.int n) := fun _ _ _ => rfl
  have hlong : (Value.int (.ofNat Value.tooLong)).hasText = false := by decide +kernel
  exact ⟨hagree _, rfl,
    Loader.result_loadEntries_of_unshown _ _ _ List.mem_cons_self (hunknown _) hlong⟩

end Config

end Inlay
