import Inlay.Proofs.Config.Typing

/-!
# Configurations that are written out

A configuration is written out as a mapping with every setting (`dump`). Reading undoes this group
by group, whatever the settings are (`Templates.read_dump_entries` and its like). Only where another
value was given in place of a group or of the format could the two be confused: a mapping would be
read as a group, and a text as the name of a format. Reading leaves no such value in such a place
(`settled_of_read`), so a configuration that was read is what its mapping is read as
(`read_dump_entries`).

The mapping passes all checks, and has no key that is warned about (`exists_verdict_dump`). So it is
loaded as the configuration that was written out (`Loader.loadEntries_dump`).
-/

namespace Inlay

/-- The entries of a mapping. Other values have none. -/
def Value.entries : Value → Entries
  | .map entries => entries
  | _ => []

namespace Config

open File Log

/-! ## Reading a group that was written out -/

/-- Names that are written out as texts are read back. -/
theorem textsOf_map_text (names : List String) : textsOf (names.map .text) = names := by
  rw [textsOf, List.filterMap_map]
  exact List.filterMap_some

/-- The template group is read back as it was written out. -/
theorem Templates.read_dump_entries (templates : Templates) :
    read templates.dump.entries = templates := by
  obtain ⟨directory, encoding, extensions, cache⟩ := templates
  cases extensions with
  | none => rfl
  | some names =>
    have hnames : some (textsOf (names.map .text)) = some names :=
      congrArg some (textsOf_map_text names)
    exact congrArg (fun extensions => Templates.mk directory encoding extensions cache) hnames

/-- So is the render group, with or without a limit. -/
theorem Rendering.read_dump_entries (render : Rendering) : read render.dump.entries = render := by
  obtain ⟨maxIncludeDepth, literalOrigin⟩ := render
  cases maxIncludeDepth <;> rfl

/-- So are the switches of the components. -/
theorem Components.read_dump_entries (components : Components) :
    read components.dump.entries = components := rfl

/-- So are the options of the log. -/
theorem LogOptions.read_dump_entries (options : LogOptions) : read options.dump.entries = options :=
  rfl

/-! ## What reading leaves -/

/-- No mapping stands in place of the group: it would be the group. -/
def Section.Settled {α : Type} (group : Section α) : Prop :=
  ∀ entries, group ≠ .other (.map entries)

/-- No text stands in place of the format: it would be its name. -/
def FormatSetting.Settled (format : FormatSetting) : Prop := ∀ name, format ≠ .other (.text name)

/-- No setting could be taken for another one once it is written out. -/
structure Settled (config : Config) : Prop where
  maxIncludeDepth : ∀ depth ∈ config.render.maxIncludeDepth, 0 < depth
  format : config.logging.format.Settled
  components : config.logging.components.Settled
  options : config.logging.options.Settled

variable {data : Entries} {config : Config}

/-- A group that was read holds no mapping in place of itself. -/
theorem Section.settled_read {α : Type} (readFields : Entries → α) (given : Option Value) :
    (Section.read readFields given).Settled := by
  intro entries
  unfold Section.read
  split
  · simp
  · simp
  · next value hvalue =>
    rintro ⟨⟩
    exact hvalue entries rfl

/-- A format that was read holds no text in place of its name. -/
theorem FormatSetting.settled_of_read {given : Option Value} {format : FormatSetting}
    (h : FormatSetting.read given = .ok format) : format.Settled := by
  rintro name rfl
  unfold FormatSetting.read at h
  split at h
  · cases h
  · split at h <;> cases h
  · next value hvalue =>
    cases h
    exact hvalue name rfl

/-- So a configuration that was read leaves nothing to be read in another way. -/
theorem settled_of_read (h : read data = .ok config) (hdata : Admissible data) :
    config.Settled := by
  obtain ⟨logging, hread, hconfig⟩ := Except.bind_eq_ok.1 h
  obtain ⟨format, hformat, hlogging⟩ := Except.bind_eq_ok.1 hread
  cases hconfig
  cases hlogging
  exact ⟨Rendering.pos_of_mem_maxIncludeDepth hdata.maxIncludeDepth,
    FormatSetting.settled_of_read hformat, Section.settled_read _ _, Section.settled_read _ _⟩

/-! ## Reading what was written out -/

/-- A group that holds no mapping in its place is read back if its settings are. -/
theorem Section.read_dump {α : Type} {readFields : Entries → α} {dumpFields : α → Value}
    {group : Section α} (hgroup : group.Settled)
    (h : ∀ settings, ∃ entries, dumpFields settings = .map entries ∧
      readFields entries = settings) :
    Section.read readFields (some (group.dump dumpFields)) = group := by
  cases group with
  | given settings =>
    obtain ⟨entries, hdump, hread⟩ := h settings
    rw [Section.dump, hdump, Section.read, hread]
  | other value =>
    cases value with
    | map entries => exact absurd rfl (hgroup entries)
    | _ => rfl

/-- A format that holds no text in its place is read back. -/
theorem FormatSetting.read_dump {format : FormatSetting} (h : format.Settled) :
    FormatSetting.read (some format.dump) = .ok format := by
  cases format with
  | known format => cases format <;> rfl
  | other value =>
    cases value with
    | text name => exact absurd rfl (h name)
    | _ => rfl

/-- The log group is read back, with the groups and the format in it. -/
theorem Logging.read_dump_entries {logging : Logging} (hformat : logging.format.Settled)
    (hcomponents : logging.components.Settled) (hoptions : logging.options.Settled) :
    read logging.dump.entries = .ok logging := by
  have hread : FormatSetting.read (logging.dump.entries.field? "format") = .ok logging.format :=
    FormatSetting.read_dump hformat
  have hswitches : Section.read Components.read (logging.dump.entries.field? "components")
      = logging.components :=
    Section.read_dump hcomponents fun settings => ⟨_, rfl, settings.read_dump_entries⟩
  have hshown : Section.read LogOptions.read (logging.dump.entries.field? "options")
      = logging.options :=
    Section.read_dump hoptions fun settings => ⟨_, rfl, settings.read_dump_entries⟩
  obtain ⟨level, format, components, options⟩ := logging
  rw [read, hread, hswitches, hshown]
  cases level <;> rfl

/-- What a configuration is written out as is read as this configuration. -/
theorem read_dump_entries (h : config.Settled) : read config.dump.entries = .ok config := by
  have htemplates : Templates.read (sectionEntries config.dump.entries "templates")
      = config.templates := config.templates.read_dump_entries
  have hrender : Rendering.read (sectionEntries config.dump.entries "render") = config.render :=
    config.render.read_dump_entries
  have hlogging : Logging.read (sectionEntries config.dump.entries "logging")
      = .ok config.logging := Logging.read_dump_entries h.format h.components h.options
  rw [read, htemplates, hrender, hlogging]
  rfl

/-! ## Checking what was written out -/

/-- A configuration that is written out passes all checks. -/
theorem admissible_dump (h : config.Settled) : Admissible config.dump.entries where
  groups := by
    simp only [sections, List.forall_mem_cons]
    exact ⟨rfl, rfl, rfl, by simp⟩
  level := by
    rintro value ⟨⟩
    exact ⟨config.logging.level, rfl⟩
  maxIncludeDepth := by
    have hpositive := h.maxIncludeDepth
    obtain ⟨templates, ⟨maxIncludeDepth, literalOrigin⟩, logging⟩ := config
    cases maxIncludeDepth with
    | none => rfl
    | some depth =>
      have hdepth : 0 < depth := hpositive depth rfl
      exact decide_eq_false (by omega)
  directory := rfl
  extensions := by
    obtain ⟨⟨directory, encoding, extensions, cache⟩, render, logging⟩ := config
    cases extensions with
    | none => rfl
    | some names =>
      have htexts : (names.map Value.text).all isText = true := by simp [isText]
      exact congrArg (!·) htexts

/-- Nothing is wrong with what a configuration is written out as, not even a key. -/
theorem exists_verdict_dump (h : config.Settled) :
    ∃ verdict, validate config.dump.entries = .ok verdict ∧ verdict.isValid = true ∧
      verdict.warnings = [] := by
  obtain ⟨verdict, hverdict, hwarnings⟩ : ∃ verdict,
      validate config.dump.entries = .ok verdict ∧ verdict.warnings = [] := by
    obtain ⟨templates, render, ⟨level, format, components, options⟩⟩ := config
    cases level <;> exact ⟨_, rfl, rfl⟩
  exact ⟨verdict, hverdict, (isValid_iff hverdict).2 (admissible_dump h), hwarnings⟩

/-- So it is loaded from what was written out, without a warning. -/
theorem ofEntries_dump (reporter : Reporter) (h : config.Settled) :
    ofEntries reporter config.dump.entries = .ok (config, []) := by
  obtain ⟨verdict, hverdict, hvalid, hwarnings⟩ := exists_verdict_dump h
  exact ofEntries_eq_ok_iff.2 ⟨verdict, hverdict, hvalid, read_dump_entries h, hwarnings⟩

/-- A configuration that was loaded can be written out: as a mapping with every setting, which is
found valid without a warning and read as this configuration. Any loader that tells the same logger
loads it, from whatever path and among whatever files it is. -/
theorem Loader.loadEntries_dump {around : Surroundings} {loader : Loader} {path : Option Path}
    (h : (loader.loadEntries around data path).result = .ok config) :
    config.dump = .map config.dump.entries ∧
    (∀ reporter, ofEntries reporter config.dump.entries = .ok (config, [])) ∧
    ∀ (around' : Surroundings) (other : Loader) (path' : Option Path),
      other.logger = loader.logger →
      (other.loadEntries around' config.dump.entries path').result = .ok config ∧
      (other.loadEntries around' config.dump.entries path').loader
        = { other with config := some config, path := path' } := by
  obtain ⟨warnings, hread, hnote⟩ := result_loadEntries_eq_ok_iff.1 h
  obtain ⟨verdict, hverdict, hvalid, hconfig, -⟩ := ofEntries_eq_ok_iff.1 hread
  have hsettled : config.Settled := settled_of_read hconfig ((isValid_iff hverdict).1 hvalid)
  refine ⟨rfl, fun reporter => ofEntries_dump reporter hsettled, ?_⟩
  intro around' other path' hlogger
  -- what is told of the mapping was told of the first one, too
  have hfewer : account [] ⊆ account warnings := List.subset_append_right _ _
  have htold : (other.note (account [])).2 = .ok () := by
    rw [note_congr hlogger]
    exact note_of_subset hnote hfewer
  rw [loadEntries_of_note (ofEntries_dump around'.reporter hsettled) htold]
  exact ⟨rfl, rfl⟩

/-- Settings of which few are what they should be, beside keys that nobody knows. -/
def patchwork : Entries := [
  named "server" (.map []),
  named "templates" (.map [named "extensions" .null, named "cache" (.list [.int 1]),
    named "suffix" (.text ".md")]),
  named "render" (.map [named "max_include_depth" (.int 7)]),
  named "logging" (.map [named "format" (.list [.text "json"]), named "components" (.text "all"),
    named "options" (.map [named "truncate_at" .null])])]

/-- They are loaded again as they were loaded first. -/
theorem patchwork_restored :
    ∃ config, (({} : Loader).loadEntries bareSurroundings patchwork).result = .ok config ∧
      (({} : Loader).loadEntries bareSurroundings config.dump.entries).result = .ok config := by
  obtain ⟨config, hload⟩ : ∃ config,
      (({} : Loader).loadEntries bareSurroundings patchwork).result = .ok config := ⟨_, rfl⟩
  obtain ⟨-, -, hagain⟩ := Loader.loadEntries_dump hload
  exact ⟨config, hload, (hagain bareSurroundings {} none rfl).1⟩

end Config

end Inlay
