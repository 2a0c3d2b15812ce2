import Inlay.Config.Loader
import Inlay.Proofs.Log.Lines

/-!
# What a load does

A load reads a mapping (`ofEntries`), takes its configuration, and tells the logger about it. It
ends well if the mapping can be read and the logger can write what it is told
(`result_loadEntries_eq_ok_iff`); a logger that cuts contexts at a whole number of characters always
can.

The contents of a file are a configuration of their own (`Loader.contents`). Overrides are laid over
them: no key of the file goes away (`Entries.mem_keys_overlay`), so what the file alone is warned
about is warned about with overrides, too (`unknownKeys_subset`).
-/

namespace Inlay

namespace Entries

variable {key : Value} {base upper : Entries}

/-- A key that is there stays there when an entry is put in. -/
theorem mem_keys_put (name value : Value) (h : key ∈ base.map Prod.fst) :
    key ∈ (put name value base).map Prod.fst := by
  induction base with
  | nil => cases h
  | cons entry rest ih =>
    rw [put]
    rw [List.map_cons] at h
    split
    · exact h
    · rw [List.map_cons]
      rcases List.mem_cons.1 h with rfl | hrest
      · exact List.mem_cons_self
      · exact List.mem_cons_of_mem _ (ih hrest)

/-- A mapping that is laid over another takes no key away. -/
theorem mem_keys_overlay (h : key ∈ base.map Prod.fst) :
    key ∈ (overlay base upper).map Prod.fst := by
  induction upper generalizing base with
  | nil => rwa [overlay]
  | cons entry rest ih =>
    obtain ⟨name, value⟩ := entry
    rw [overlay]
    exact ih (mem_keys_put name _ h)

end Entries

namespace Config

open File Log

/-! ## Reading a mapping -/

section

variable {reporter : Reporter} {data : Entries} {config : Config} {warnings : List Issue}

/-- A mapping is read if it is found valid and the format of log lines can be read. -/
theorem ofEntries_eq_ok_iff :
    ofEntries reporter data = .ok (config, warnings) ↔ ∃ verdict, validate data = .ok verdict ∧
      verdict.isValid = true ∧ read data = .ok config ∧ verdict.warnings = warnings := by
  unfold ofEntries
  cases validate data with
  | error misuse => simp
  | ok verdict =>
    simp only [Except.ok.injEq, exists_eq_left']
    split
    · next hvalid => cases read data <;> simp [hvalid]
    · next hinvalid => simp [hinvalid]

/-- A mapping with errors is refused with the list of them. -/
theorem ofEntries_of_invalid {verdict : Verdict} (hverdict : validate data = .ok verdict)
    (hinvalid : verdict.isValid = false) :
    ofEntries reporter data
      = .error (invalid reporter ("Configuration validation failed:\n" ++
          "\n".intercalate (verdict.errors.map Issue.report))) := by
  rw [ofEntries, hverdict]
  dsimp only
  rw [hinvalid, if_neg Bool.false_ne_true]

/-- A mapping that passes all checks may still not be read, which is told with the reason. -/
theorem ofEntries_of_unread {verdict : Verdict} {message : String}
    (hverdict : validate data = .ok verdict) (hvalid : verdict.isValid = true)
    (hread : read data = .error message) :
    ofEntries reporter data
      = .error (invalid reporter ("Failed to parse configuration: " ++ message)) := by
  rw [ofEntries, hverdict]
  dsimp only
  rw [if_pos hvalid, hread]

/-- The mapping that holds nothing is the default configuration. -/
theorem ofEntries_nil (reporter : Reporter) : ofEntries reporter [] = .ok ({}, []) := rfl

/-- The warnings about a mapping are those about its keys. -/
theorem unknownKeys_of_validate {verdict : Verdict} (h : validate data = .ok verdict) :
    unknownKeys data = .ok verdict.warnings := by
  obtain ⟨warnings, hwarnings, hrest⟩ := Except.bind_eq_ok.1 h
  obtain ⟨level, -, hverdict⟩ := Except.bind_eq_ok.1 hrest
  cases hverdict
  exact hwarnings

/-- The warnings of a load are about the keys that are unknown. -/
theorem unknownKeys_of_ofEntries (h : ofEntries reporter data = .ok (config, warnings)) :
    unknownKeys data = .ok warnings := by
  obtain ⟨verdict, hvalidate, -, -, rfl⟩ := ofEntries_eq_ok_iff.1 h
  exact unknownKeys_of_validate hvalidate

/-- Where more keys are there, there are more warnings. -/
theorem unknownKeys_subset {more : Entries} {others : List Issue}
    (hkeys : ∀ key ∈ data.map Prod.fst, key ∈ more.map Prod.fst)
    (hdata : unknownKeys data = .ok warnings) (hmore : unknownKeys more = .ok others) :
    warnings ⊆ others := by
  intro warning hwarning
  obtain ⟨⟨key, value⟩, hmem, hissue⟩ := (Except.mem_mapM_iff hdata warning).1 hwarning
  obtain ⟨hentry, hunknown⟩ := List.mem_filter.1 hmem
  obtain ⟨⟨same, other⟩, hother, rfl⟩ := List.mem_map.1 (hkeys key (List.mem_map_of_mem hentry))
  -- a warning tells the key, whatever stands under it
  exact (Except.mem_mapM_iff hmore warning).2
    ⟨(same, other), List.mem_filter.2 ⟨hother, hunknown⟩, hissue⟩

end

namespace Loader

variable {around : Surroundings} {loader : Loader} {data : Entries} {path : Option Path}
  {config : Config} {warnings : List Issue}

/-! ## What the logger is told -/

/-- The logger is told about the warnings and then about the load. -/
def account (warnings : List Issue) : List Log.Entry :=
  warnings.map warningEntry ++ [loadedEntry]

/-- A loader with another configuration tells the same. -/
theorem note_congr {other : Loader} (h : other.logger = loader.logger) (entries : List Log.Entry) :
    other.note entries = loader.note entries := by
  induction entries with
  | nil => rfl
  | cons entry rest ih => rw [note, note, h, ih]

/-- A logger stops a row of entries exactly if it cannot write one of them. -/
theorem note_eq_ok_iff {entries : List Log.Entry} :
    (loader.note entries).2 = .ok () ↔
      ∀ logger ∈ loader.logger, ∀ entry ∈ entries, ∃ lines, logger.write entry = .ok lines := by
  induction entries with
  | nil => simp [note]
  | cons entry rest ih =>
    rw [note]
    cases hlogger : loader.logger with
    | none => simp
    | some logger =>
      rw [hlogger] at ih
      simp only [Option.mem_some_iff, forall_eq', List.forall_mem_cons] at ih ⊢
      cases logger.write entry with
      | error misuse => simp
      | ok lines => simp [ih]

/-- Whoever can tell a row of entries can tell some of them. -/
theorem note_of_subset {entries more : List Log.Entry} (h : (loader.note more).2 = .ok ())
    (hsubset : entries ⊆ more) : (loader.note entries).2 = .ok () :=
  note_eq_ok_iff.2 fun logger hlogger entry hentry =>
    note_eq_ok_iff.1 h logger hlogger entry (hsubset hentry)

/-- With a logger that cuts contexts at a whole number of characters, everything can be told. -/
theorem note_of_cuts (h : ∀ logger ∈ loader.logger, logger.CutsAtInteger)
    (entries : List Log.Entry) : (loader.note entries).2 = .ok () :=
  note_eq_ok_iff.2 fun logger hlogger entry _ => Logger.exists_write (h logger hlogger) entry

/-- Of a mapping on its own there is no more to tell than of one with overrides. -/
theorem account_subset {reporter : Reporter} {overrides : Entries} {overridden : Config}
    {others : List Issue} (hdata : ofEntries reporter data = .ok (config, warnings))
    (hmore : ofEntries reporter (data.overlay overrides) = .ok (overridden, others)) :
    account warnings ⊆ account others := by
  have hfewer : warnings ⊆ others :=
    unknownKeys_subset (fun _ hkey => Entries.mem_keys_overlay hkey)
      (unknownKeys_of_ofEntries hdata) (unknownKeys_of_ofEntries hmore)
  exact List.append_subset.2
    ⟨fun _ hentry => List.mem_append_left _ (List.map_subset _ hfewer hentry),
      fun _ hentry => List.mem_append_right _ hentry⟩

/-! ## Loading a mapping -/

/-- A mapping that cannot be read leaves the loader as it is. -/
theorem loadEntries_of_error {reason : Stop} (h : ofEntries around.reporter data = .error reason) :
    loader.loadEntries around data path = { result := .error reason, loader } := by
  rw [loadEntries, h]

/-- A mapping that can be read is taken, and told if the logger can write it. -/
theorem loadEntries_of_ok (h : ofEntries around.reporter data = .ok (config, warnings)) :
    loader.loadEntries around data path
      = { result := match (loader.note (account warnings)).2 with
            | .ok () => .ok config
            | .error misuse => .error (.misuse misuse)
          lines := (loader.note (account warnings)).1
          loader := { loader with config := some config, path } } := by
  let loaded : Loader := { loader with config := some config, path }
  have hlogger : loaded.logger = loader.logger := rfl
  have hnote : loaded.note (account warnings) = loader.note (account warnings) :=
    note_congr hlogger _
  cases hresult : (loader.note (account warnings)).2
  all_goals
    rw [loadEntries, h]
    dsimp only
    rw [← account, hnote, hresult]

/-- A mapping is loaded with its account on the log, and the loader holds it. -/
theorem loadEntries_of_note (h : ofEntries around.reporter data = .ok (config, warnings))
    (hnote : (loader.note (account warnings)).2 = .ok ()) :
    loader.loadEntries around data path
      = { result := .ok config
          lines := (loader.note (account warnings)).1
          loader := { loader with config := some config, path } } := by
  rw [loadEntries_of_ok h, hnote]

/-- A load ends well exactly if the mapping can be read and what is told of it can be written. -/
theorem result_loadEntries_eq_ok_iff :
    (loader.loadEntries around data path).result = .ok config ↔
      ∃ warnings, ofEntries around.reporter data = .ok (config, warnings) ∧
        (loader.note (account warnings)).2 = .ok () := by
  constructor
  · intro hresult
    cases h : ofEntries around.reporter data with
    | error reason =>
      rw [loadEntries_of_error h] at hresult
      cases hresult
    | ok read =>
      rw [loadEntries_of_ok h] at hresult
      dsimp only at hresult
      split at hresult
      · next hnote =>
        cases hresult
        exact ⟨read.2, rfl, hnote⟩
      · cases hresult
  · rintro ⟨warnings, h, hnote⟩
    rw [loadEntries_of_note h hnote]

/-! ## Loading a file -/

/-- The configuration that the contents of a file are on their own. -/
def contents (around : Surroundings) (path : Path) (bytes : ByteArray) :
    Except Stop (Config × List Issue) := do
  ofEntries around.reporter (← mappingOf around path (.ofBytes bytes.toList))

/-- The contents of a file go by the mapping that it gives. -/
theorem contents_of_mapping {path : Path} {bytes : ByteArray}
    (h : mappingOf around path (.ofBytes bytes.toList) = .ok data) :
    contents around path bytes = ofEntries around.reporter data := by
  rw [contents, h, Except.ok_bind]

/-- A file that gives none has no contents. -/
theorem contents_of_error {path : Path} {bytes : ByteArray} {reason : Stop}
    (h : mappingOf around path (.ofBytes bytes.toList) = .error reason) :
    contents around path bytes = .error reason := by
  rw [contents, h]
  rfl

/-- The path that a load is about. -/
def target (around : Surroundings) (path : Option Path) : Except Misuse Path :=
  path.map Except.ok |>.getD (defaultPath around)

variable {target : Path} {place : Location} {bytes : ByteArray}

/-- A path with a file is loaded from the file, and defaults play no part. -/
theorem loadPath_of_file (useDefaults : Bool) (overrides : Entries)
    (hfile : around.workspace.find target = .ok (some (place, .file bytes))) :
    loader.loadPath around target useDefaults overrides
      = loader.loadFile around target overrides bytes := by
  unfold loadPath
  rw [hfile]

/-- So is a request that leads to such a path. -/
theorem load_of_file {request : Option Path} (useDefaults : Bool) (overrides : Entries)
    (htarget : Loader.target around request = .ok target)
    (hfile : around.workspace.find target = .ok (some (place, .file bytes))) :
    loader.load around request useDefaults overrides
      = loader.loadFile around target overrides bytes := by
  unfold Loader.target at htarget
  unfold load
  rw [htarget]
  exact loadPath_of_file useDefaults overrides hfile

/-- The mapping of a file is loaded with the overrides laid over it. -/
theorem loadFile_of_mapping (overrides : Entries)
    (h : mappingOf around target (.ofBytes bytes.toList) = .ok data) :
    loader.loadFile around target overrides bytes
      = loader.loadEntries around (data.overlay overrides) (some target) := by
  unfold loadFile
  rw [h]

/-- A file that holds no mapping leaves the loader as it is. -/
theorem loadFile_of_error {reason : Stop} (overrides : Entries)
    (h : mappingOf around target (.ofBytes bytes.toList) = .error reason) :
    loader.loadFile around target overrides bytes = { result := .error reason, loader } := by
  unfold loadFile
  rw [h]

/-- A file is loaded if it holds a mapping that can be read once the overrides are laid over it. The
loader then holds the configuration, and remembers the file. -/
theorem exists_mapping_of_loadFile {overrides : Entries}
    (h : (loader.loadFile around target overrides bytes).result = .ok config) :
    ∃ data warnings, mappingOf around target (.ofBytes bytes.toList) = .ok data ∧
      ofEntries around.reporter (data.overlay overrides) = .ok (config, warnings) ∧
      (loader.note (account warnings)).2 = .ok () ∧
      (loader.loadFile around target overrides bytes).loader
        = { loader with config := some config, path := some target } := by
  cases hmapping : mappingOf around target (.ofBytes bytes.toList) with
  | error reason =>
    rw [loadFile_of_error overrides hmapping] at h
    cases h
  | ok data =>
    rw [loadFile_of_mapping overrides hmapping] at h ⊢
    obtain ⟨warnings, hread, hnote⟩ := result_loadEntries_eq_ok_iff.1 h
    refine ⟨data, warnings, rfl, hread, hnote, ?_⟩
    rw [loadEntries_of_note hread hnote]

end Loader

end Config

end Inlay
