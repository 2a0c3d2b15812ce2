import Inlay.Proofs.Config.Loading

/-!
# Reloads

A loader that has read a file reads it again when it is asked to reload, and takes what the file
holds on its own (`contents`). Overrides of the first load are not laid over it once more, so a
reload of an unchanged file is the same configuration only if the file alone is
(`reload_of_unchanged`).

As long as the file is there, a reload either takes and announces what it holds, or is refused and
changes nothing (`Reloading.Tied`). Where nothing is there, a reload takes and announces the
defaults, and the loader forgets the file (`reload_of_missing`). So a loader stays tied to its file
through a run exactly if each reload finds something that it can read (`reloads_tied_iff`).
-/

namespace Inlay.Config

open File Log

/-- A load that ended well, with those told who asked to be told. -/
def Load.announced (load : Load) : Load :=
  match load.result with
  | .ok config => { load with told := load.loader.listeners.map fun name => (name, config) }
  | .error _ => load

namespace Loader

variable {around : Surroundings} {loader : Loader} {path : Path} {place : Location}
  {bytes : ByteArray} {config : Config} {warnings : List Issue} {reason : Stop}

/-! ## One reload -/

/-- A reload is a load of the path at hand, with defaults where no file is and without overrides,
that is announced. -/
theorem reload_eq (hpath : loader.path = some path) :
    loader.reload around = (loader.loadPath around path true []).announced := by
  rw [reload, hpath]
  rfl

/-- What a file holds is taken. -/
theorem loadFile_of_contents (hcontents : contents around path bytes = .ok (config, warnings))
    (hnote : (loader.note (account warnings)).2 = .ok ()) :
    loader.loadFile around path [] bytes
      = { result := .ok config
          lines := (loader.note (account warnings)).1
          loader := { loader with config := some config, path := some path } } := by
  cases hmapping : mappingOf around path (.ofBytes bytes.toList) with
  | error reason =>
    rw [contents_of_error hmapping] at hcontents
    cases hcontents
  | ok data =>
    rw [contents_of_mapping hmapping] at hcontents
    rw [loadFile_of_mapping [] hmapping, Entries.overlay, loadEntries_of_note hcontents hnote]

/-- A file that holds no configuration changes nothing. -/
theorem loadFile_of_refused (hcontents : contents around path bytes = .error reason) :
    loader.loadFile around path [] bytes = { result := .error reason, loader } := by
  cases hmapping : mappingOf around path (.ofBytes bytes.toList) with
  | error cause =>
    rw [contents_of_error hmapping] at hcontents
    cases hcontents
    exact loadFile_of_error [] hmapping
  | ok data =>
    rw [contents_of_mapping hmapping] at hcontents
    rw [loadFile_of_mapping [] hmapping, Entries.overlay, loadEntries_of_error hcontents]

/-- What the file holds by now is taken and told. -/
theorem reload_of_contents (hpath : loader.path = some path)
    (hfile : around.workspace.find path = .ok (some (place, .file bytes)))
    (hcontents : contents around path bytes = .ok (config, warnings))
    (hnote : (loader.note (account warnings)).2 = .ok ()) :
    loader.reload around
      = { result := .ok config
          lines := (loader.note (account warnings)).1
          told := loader.listeners.map fun name => (name, config)
          loader := { loader with config := some config, path := some path } } := by
  rw [reload_eq hpath, loadPath_of_file true [] hfile, loadFile_of_contents hcontents hnote]
  rfl

/-- What is wrong with the file refuses the reload. -/
theorem reload_of_refused (hpath : loader.path = some path)
    (hfile : around.workspace.find path = .ok (some (place, .file bytes)))
    (hcontents : contents around path bytes = .error reason) :
    loader.reload around = { result := .error reason, loader } := by
  rw [reload_eq hpath, loadPath_of_file true [] hfile, loadFile_of_refused hcontents]
  rfl

/-- Where nothing is at a path, the defaults are loaded, and no path is remembered. -/
theorem exists_loadPath_of_missing (hlogger : ∀ logger ∈ loader.logger, logger.CutsAtInteger)
    (hmissing : around.workspace.find path = .ok none) :
    ∃ lines, loader.loadPath around path true []
      = { result := .ok {}
          lines
          loader := { loader with config := some {}, path := none } } := by
  have hnotice := note_of_cuts hlogger [noFileEntry path]
  have hdefaults : loader.loadEntries around []
      = { result := .ok {}
          lines := (loader.note (account [])).1
          loader := { loader with config := some {}, path := none } } :=
    loadEntries_of_note (ofEntries_nil around.reporter) (note_of_cuts hlogger (account []))
  unfold loadPath
  rw [hmissing]
  dsimp only
  unfold loadMissing
  rw [if_pos rfl]
  split
  · next lines misuse hstopped =>
    rw [hstopped] at hnotice
    cases hnotice
  · rw [hdefaults]
    exact ⟨_, rfl⟩

/-- What stands at a path and is no file cannot be loaded, and a path that cannot be followed leads
to no file. -/
theorem exists_loadPath_of_no_file (hthere : around.workspace.find path ≠ .ok none)
    (hfile : ∀ place bytes, around.workspace.find path ≠ .ok (some (place, .file bytes))) :
    ∃ misuse, loader.loadPath around path true []
      = { result := .error (.misuse misuse), loader } := by
  unfold loadPath
  split
  · exact ⟨_, rfl⟩
  · next hmissing => exact absurd hmissing hthere
  · exact ⟨_, rfl⟩
  · next place bytes hfound => exact absurd hfound (hfile place bytes)

/-- So a reload announces the defaults where nothing is at the path, and the path is forgotten. -/
theorem reload_of_missing (hpath : loader.path = some path)
    (hlogger : ∀ logger ∈ loader.logger, logger.CutsAtInteger)
    (hmissing : around.workspace.find path = .ok none) :
    ∃ lines, loader.reload around
      = { result := .ok {}
          lines
          told := loader.listeners.map fun name => (name, {})
          loader := { loader with config := some {}, path := none } } := by
  obtain ⟨lines, hload⟩ := exists_loadPath_of_missing hlogger hmissing
  refine ⟨lines, ?_⟩
  rw [reload_eq hpath, hload]
  rfl

/-- A path that cannot be looked up, or leads to a directory, is misuse. -/
theorem reload_of_no_file (hpath : loader.path = some path)
    (hthere : around.workspace.find path ≠ .ok none)
    (hfile : ∀ place bytes, around.workspace.find path ≠ .ok (some (place, .file bytes))) :
    ∃ misuse, loader.reload around = { result := .error (.misuse misuse), loader } := by
  obtain ⟨misuse, hload⟩ := exists_loadPath_of_no_file hthere hfile
  refine ⟨misuse, ?_⟩
  rw [reload_eq hpath, hload]
  rfl

/-! ## Files that stay as they are -/

/-- Whatever overrides a file was loaded with, a reload ends in what the file is on its own. So it
gives the configuration that the load gave exactly if that is what the file is without the
overrides, and it does if there were none. -/
theorem reload_of_unchanged (around : Surroundings) (loader : Loader) (useDefaults : Bool)
    (overrides : Entries) {request : Option Path}
    (hrequest : target around request = .ok path)
    (hfile : around.workspace.find path = .ok (some (place, .file bytes)))
    (hload : (loader.load around request useDefaults overrides).result = .ok config) :
    let again := (loader.load around request useDefaults overrides).loader.reload around
    again.result = (contents around path bytes).map Prod.fst ∧
    ((again.result = .ok config ∧ again.loader.get around = .ok config) ↔
      ∃ warnings, contents around path bytes = .ok (config, warnings)) ∧
    (overrides = [] → again.result = .ok config ∧ again.loader.get around = .ok config) := by
  rw [load_of_file useDefaults overrides hrequest hfile] at hload ⊢
  obtain ⟨data, others, hmapping, hread, hnote, hloader⟩ := exists_mapping_of_loadFile hload
  rw [hloader]
  have hcontents := contents_of_mapping hmapping
  generalize hloaded : ({ loader with config := some config, path := some path } : Loader) = loaded
  have hpath : loaded.path = some path := by rw [← hloaded]
  have hlogger : loaded.logger = loader.logger := by rw [← hloaded]
  have hagain : ∀ {own warnings}, contents around path bytes = .ok (own, warnings) →
      (loaded.reload around).result = .ok own ∧
        (loaded.reload around).loader.get around = .ok own := by
    intro own warnings hown
    -- without the overrides there is no more to tell, so it can be told
    have htold : (loaded.note (account warnings)).2 = .ok () := by
      rw [note_congr hlogger]
      exact note_of_subset hnote (account_subset (hcontents.symm.trans hown) hread)
    rw [reload_of_contents hpath hfile hown htold]
    exact ⟨rfl, rfl⟩
  have hresult : (loaded.reload around).result = (contents around path bytes).map Prod.fst := by
    cases hown : contents around path bytes with
    | ok own => exact (hagain hown).1
    | error reason =>
      rw [reload_of_refused hpath hfile hown]
      rfl
  refine ⟨hresult, ⟨fun hsame => ?_, fun ⟨_, hown⟩ => hagain hown⟩, fun hnone => ?_⟩
  · have hconfig := hresult.symm.trans hsame.1
    cases hown : contents around path bytes with
    | error reason =>
      rw [hown] at hconfig
      cases hconfig
    | ok own =>
      rw [hown] at hconfig
      cases hconfig
      exact ⟨own.2, rfl⟩
  · subst hnone
    rw [Entries.overlay] at hread
    exact hagain (hcontents.trans hread)

/-- The bytes of a text of ASCII characters. -/
def bytesOf (text : String) : ByteArray :=
  ⟨(text.toList.map fun c => UInt8.ofNat c.toNat).toArray⟩

/-- The files of a site that has its settings in one file. -/
def siteFiles (text : String) : List (List String × File.Entry) :=
  [(["site.yaml"], .file (bytesOf text))]

/-- What a loader finds around it at the site. -/
def site (text : String) : Surroundings where
  reporter := ⟨.builtin, default⟩
  workspace := { name := "here", place := .top, entries := siteFiles text }
  environment := []
  room := 100

/-- The file of the site. -/
def sitePath : Path := .ofString "site.yaml"

/-- Overrides that set the limit. -/
def limited (depth : Int) : Entries :=
  [named "render" (.map [named "max_include_depth" (.int depth)])]

/-- The limit of a configuration, if there is one. -/
def limit? (result : Except Stop Config) : Option (Option Nat) :=
  result.toOption.map fun config => config.render.maxIncludeDepth

/-- There is a configuration where there is a limit to read from it. -/
theorem exists_of_limit? {result : Except Stop Config} {limit : Option Nat}
    (h : limit? result = some limit) : ∃ config, result = .ok config := by
  cases result with
  | ok config => exact ⟨config, rfl⟩
  | error reason => cases h

/-- The file of a site is found under its path. -/
theorem find_site (text : String) :
    ∃ place, (site text).workspace.find sitePath = .ok (some (place, .file (bytesOf text))) :=
  ⟨_, rfl⟩

/-- A file with nothing but a comment gives the empty mapping. -/
theorem mappingOf_comment :
    mappingOf (site "# nothing yet") sitePath (.ofBytes (bytesOf "# nothing yet").toList)
      = .ok [] := by
  have hempty : (match mappingOf (site "# nothing yet") sitePath
        (.ofBytes (bytesOf "# nothing yet").toList) with
      | .ok entries => entries.isEmpty
      | .error _ => false) = true := by decide +kernel
  split at hempty
  · next h => rw [h, List.isEmpty_iff.1 hempty]
  · cases hempty

/-- Overrides that say what is so anyway are not missed by a reload. -/
theorem idle_override_reloaded :
    let load := ({} : Loader).load (site "# nothing yet") (some sitePath) true (limited 32)
    ∃ config, load.result = .ok config ∧
      (load.loader.reload (site "# nothing yet")).result = .ok config := by
  obtain ⟨place, hfile⟩ := find_site "# nothing yet"
  have hload : (({} : Loader).load (site "# nothing yet") (some sitePath) true
      (limited 32)).result = .ok {} := by
    rw [load_of_file true (limited 32) rfl hfile, loadFile_of_mapping _ mappingOf_comment]
    exact result_loadEntries_eq_ok_iff.2 ⟨[], rfl, rfl⟩
  have hcontents : contents (site "# nothing yet") sitePath (bytesOf "# nothing yet")
      = .ok ({}, []) := contents_of_mapping mappingOf_comment
  exact ⟨{}, hload,
    ((reload_of_unchanged _ {} true (limited 32) rfl hfile hload).2.1.2 ⟨[], hcontents⟩).1⟩

/-- An override that sets another limit is lost, although the file stays as it is. -/
theorem override_lost :
    let around := site "render:\n  max_include_depth: 5\n"
    let load := ({} : Loader).load around (some sitePath) true (limited 7)
    limit? load.result = some (some 7) ∧
      limit? (load.loader.reload around).result = some (some 5) ∧
      ¬ ∃ config, load.result = .ok config ∧
        (load.loader.reload around).result = .ok config := by
  intro around load
  have hfirst : limit? load.result = some (some 7) := by decide +kernel
  have hagain : limit? (load.loader.reload around).result = some (some 5) := by decide +kernel
  refine ⟨hfirst, hagain, fun ⟨config, hload, hreload⟩ => ?_⟩
  rw [hload] at hfirst
  rw [hreload, hfirst] at hagain
  cases hagain

/-! ## Runs -/

/-- What happens in the course of a run: the files change, so that these are the ones that there
are, or the loader is asked to reload. -/
inductive Turn where
  | change (entries : List (List String × File.Entry))
  | reload

/-- A reload within a run: what was there, the loader before, and what came of it. -/
structure Reloading where
  around : Surroundings
  before : Loader
  load : Load

/-- The reloads of a run, in order. -/
def reloads (around : Surroundings) (loader : Loader) : List Turn → List Reloading
  | [] => []
  | .change entries :: rest =>
    reloads { around with workspace := { around.workspace with entries } } loader rest
  | .reload :: rest =>
    let load := loader.reload around
    ⟨around, loader, load⟩ :: reloads around load.loader rest

namespace Reloading

/-- What the file holds is taken, and all are told. -/
def Installs (path : Path) (reloading : Reloading) : Prop :=
  ∃ place bytes config warnings,
    reloading.around.workspace.find path = .ok (some (place, .file bytes)) ∧
    contents reloading.around path bytes = .ok (config, warnings) ∧
    reloading.load.result = .ok config ∧
    reloading.load.loader.get reloading.around = .ok config ∧
    reloading.load.told = reloading.before.listeners.map fun name => (name, config)

/-- A fault is reported. The configuration stays, and nobody is told. -/
def Refuses (reloading : Reloading) : Prop :=
  ∃ fault, reloading.load.result = .error (.fault fault) ∧
    reloading.load.loader.get reloading.around = reloading.before.get reloading.around ∧
    reloading.load.told = []

/-- The reload goes by the file in one of these two ways, and the file is remembered. -/
structure Tied (path : Path) (reloading : Reloading) : Prop where
  outcome : reloading.Installs path ∨ reloading.Refuses
  path_eq : reloading.load.loader.path = some path

end Reloading

/-- The file is there, and what is wrong with it, if anything is, can be reported as a fault. -/
def Readable (around : Surroundings) (path : Path) : Prop :=
  ∃ place bytes, around.workspace.find path = .ok (some (place, .file bytes)) ∧
    ∀ misuse, contents around path bytes ≠ .error (.misuse misuse)

/-- A reload that goes by its file ends with a configuration or a fault. -/
theorem Reloading.Tied.result_ne_misuse {reloading : Reloading} (h : reloading.Tied path)
    (misuse : Misuse) : reloading.load.result ≠ .error (.misuse misuse) := by
  intro hmisuse
  obtain ⟨_, _, _, _, _, _, hresult, -, -⟩ | ⟨_, hresult, -, -⟩ := h.outcome
  · cases hmisuse.symm.trans hresult
  · cases hmisuse.symm.trans hresult

/-- A reload of a file that can be read goes by the file, and keeps the logger. -/
theorem tied_of_readable (hpath : loader.path = some path)
    (hlogger : ∀ logger ∈ loader.logger, logger.CutsAtInteger) (h : Readable around path) :
    Reloading.Tied path ⟨around, loader, loader.reload around⟩ ∧
      (loader.reload around).loader.logger = loader.logger := by
  obtain ⟨place, bytes, hfile, hmisuse⟩ := h
  cases hcontents : contents around path bytes with
  | ok read =>
    obtain ⟨config, warnings⟩ := read
    rw [reload_of_contents hpath hfile hcontents (note_of_cuts hlogger _)]
    exact ⟨⟨.inl ⟨place, bytes, config, warnings, hfile, hcontents, rfl, rfl, rfl⟩, rfl⟩, rfl⟩
  | error reason =>
    cases reason with
    | misuse misuse => exact absurd hcontents (hmisuse misuse)
    | fault fault =>
      rw [reload_of_refused hpath hfile hcontents]
      exact ⟨⟨.inr ⟨fault, rfl, rfl, rfl⟩, hpath⟩, rfl⟩

/-- A reload of anything else does not. -/
theorem readable_of_tied (hpath : loader.path = some path)
    (hlogger : ∀ logger ∈ loader.logger, logger.CutsAtInteger)
    (h : Reloading.Tied path ⟨around, loader, loader.reload around⟩) : Readable around path := by
  by_cases hthere : around.workspace.find path = .ok none
  · obtain ⟨lines, hreload⟩ := reload_of_missing hpath hlogger hthere
    have hforgotten : (loader.reload around).loader.path = none := by rw [hreload]
    cases hforgotten.symm.trans h.path_eq
  · refine Classical.byContradiction fun hunreadable => ?_
    by_cases hfile : ∃ place bytes,
        around.workspace.find path = .ok (some (place, .file bytes))
    · obtain ⟨place, bytes, hfile⟩ := hfile
      refine hunreadable ⟨place, bytes, hfile, fun misuse hcontents => ?_⟩
      have hreload := reload_of_refused hpath hfile hcontents
      exact h.result_ne_misuse misuse (by rw [hreload])
    · obtain ⟨misuse, hreload⟩ := reload_of_no_file hpath hthere
        fun place bytes hfound => hfile ⟨place, bytes, hfound⟩
      exact h.result_ne_misuse misuse (by rw [hreload])

/-- A loader that remembers a file goes by it in all reloads of a run exactly if the file can be
read whenever it is asked to reload. -/
theorem forall_tied_iff (around : Surroundings) (hpath : loader.path = some path)
    (hlogger : ∀ logger ∈ loader.logger, logger.CutsAtInteger) (turns : List Turn) :
    (∀ reloading ∈ reloads around loader turns, reloading.Tied path) ↔
      ∀ reloading ∈ reloads around loader turns, Readable reloading.around path := by
  induction turns generalizing around loader with
  | nil => simp [reloads]
  | cons turn rest ih =>
    cases turn with
    | change entries => exact ih _ hpath hlogger
    | reload =>
      -- the rest of the run begins with a loader that remembers the file only if this reload goes
      -- by it
      have hrest : Readable around path →
          ((∀ reloading ∈ reloads around (loader.reload around).loader rest,
              reloading.Tied path) ↔
            ∀ reloading ∈ reloads around (loader.reload around).loader rest,
              Readable reloading.around path) := by
        intro hreadable
        obtain ⟨htied, hkept⟩ := tied_of_readable hpath hlogger hreadable
        refine ih around htied.path_eq ?_
        rw [hkept]
        exact hlogger
      rw [reloads]
      simp only [List.forall_mem_cons]
      constructor
      · rintro ⟨hfirst, hlater⟩
        have hreadable := readable_of_tied hpath hlogger hfirst
        exact ⟨hreadable, (hrest hreadable).1 hlater⟩
      · rintro ⟨hreadable, hlater⟩
        exact ⟨(tied_of_readable hpath hlogger hreadable).1, (hrest hreadable).2 hlater⟩

/-- After a load of a file, with a logger, if any, that cuts contexts at a whole number of
characters: whatever becomes of the files, each reload takes and announces what the file then holds,
or is refused with a fault and changes nothing, and the loader remembers the file. This is so
exactly as long as the file is there whenever the loader is asked to reload, and can be read. -/
theorem reloads_tied_iff (around : Surroundings) (loader : Loader)
    (hlogger : ∀ logger ∈ loader.logger, logger.CutsAtInteger) (useDefaults : Bool)
    (overrides : Entries) {request : Option Path}
    (hrequest : target around request = .ok path)
    (hfile : around.workspace.find path = .ok (some (place, .file bytes)))
    (hload : (loader.load around request useDefaults overrides).result = .ok config)
    (turns : List Turn) :
    let loaded := (loader.load around request useDefaults overrides).loader
    (∀ reloading ∈ reloads around loaded turns, reloading.Tied path) ↔
      ∀ reloading ∈ reloads around loaded turns, Readable reloading.around path := by
  rw [load_of_file useDefaults overrides hrequest hfile] at hload ⊢
  obtain ⟨data, warnings, -, -, -, hloader⟩ := exists_mapping_of_loadFile hload
  let loaded : Loader := { loader with config := some config, path := some path }
  have hpath : loaded.path = some path := rfl
  rw [hloader]
  exact forall_tied_iff around hpath hlogger turns

/-- Is this what breaks a load off? -/
def breaksOff {α : Type} : Except Stop α → Bool
  | .error (.misuse _) => true
  | _ => false

/-- The file of a site can be read if its contents are not broken off. -/
theorem readable_site (text : String)
    (h : breaksOff (contents (site text) sitePath (bytesOf text)) = false) :
    Readable (site text) sitePath := by
  obtain ⟨place, hfile⟩ := find_site text
  refine ⟨place, bytesOf text, hfile, fun misuse hmisuse => ?_⟩
  rw [hmisuse] at h
  cases h

/-- A file that is spoilt and then mended is followed all the way. -/
theorem mended_file_followed :
    let loaded := (({} : Loader).load (site "render:\n  max_include_depth: 5\n")
      (some sitePath)).loader
    ∀ reloading ∈ reloads (site "render:\n  max_include_depth: 5\n") loaded [
        .change (siteFiles "render: ["), .reload,
        .change (siteFiles "render:\n  max_include_depth: 9\n"), .reload],
      reloading.Tied sitePath := by
  obtain ⟨place, hfile⟩ := find_site "render:\n  max_include_depth: 5\n"
  have hfirst : limit? (({} : Loader).load (site "render:\n  max_include_depth: 5\n")
      (some sitePath)).result = some (some 5) := by decide +kernel
  obtain ⟨config, hload⟩ := exists_of_limit? hfirst
  refine (reloads_tied_iff _ {} (fun _ h => by cases h) true [] rfl hfile hload _).2 ?_
  simp only [reloads, List.forall_mem_cons]
  exact ⟨readable_site "render: [" (by decide +kernel),
    readable_site "render:\n  max_include_depth: 9\n" (by decide +kernel), by simp⟩

/-- A file that is away for a moment is forgotten: the defaults are announced in its place, and when
it is back it cannot be reloaded. -/
theorem absent_file_forgotten :
    let loaded := (({ listeners := ["pages"] } : Loader).load
      (site "render:\n  max_include_depth: 5\n") (some sitePath)).loader
    let run := reloads (site "render:\n  max_include_depth: 5\n") loaded [
      .change [], .reload, .change (siteFiles "render:\n  max_include_depth: 5\n"), .reload]
    (run.map fun reloading => (limit? reloading.load.result, reloading.load.told.map Prod.fst,
        reloading.load.loader.path)) = [(some (some 32), ["pages"], none), (none, [], none)] ∧
      ¬ ∀ reloading ∈ run, reloading.Tied sitePath := by
  intro loaded run
  have hrun : (run.map fun reloading => (limit? reloading.load.result,
        reloading.load.told.map Prod.fst, reloading.load.loader.path))
      = [(some (some 32), ["pages"], none), (none, [], none)] := by decide +kernel
  refine ⟨hrun, fun htied => ?_⟩
  -- the first reload leaves the loader without a path
  have hforgotten : ∃ reloading ∈ run, reloading.load.loader.path = none := by
    have hfirst : (some (some 32), ["pages"], none) ∈ run.map fun reloading =>
        (limit? reloading.load.result, reloading.load.told.map Prod.fst,
          reloading.load.loader.path) := by
      rw [hrun]
      exact List.mem_cons_self
    obtain ⟨reloading, hmem, heq⟩ := List.mem_map.1 hfirst
    exact ⟨reloading, hmem, congrArg (fun told => told.2.2) heq⟩
  obtain ⟨reloading, hmem, hpath⟩ := hforgotten
  cases hpath.symm.trans (htied reloading hmem).path_eq

end Loader

end Inlay.Config
