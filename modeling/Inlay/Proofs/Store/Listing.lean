import Inlay.Proofs.File.Tree
import Inlay.Proofs.Store.Mirroring
import Mathlib.Data.List.Induction
import Mathlib.Data.List.Nodup

/-!
# The templates that a directory lists

A directory lists the identifiers of the files below it that have one of its extensions, each once
and in order (`Lists`). The identifier of a file leads back to it, so a load of what is listed comes
to that file: it ends as the bytes of the file say (`templateOf`), which are decoded and compiled.

A directory in use may have kept a template. The invariant `Sourced` says that it was then compiled
from bytes that the file held at some moment of the run.
-/

namespace Inlay.DirectoryStore

open File Log

variable {reporter : Reporter} {workspace : Workspace} {store : DirectoryStore}
  {identifier : String}

/-! ## Loads of files -/

/-- What the bytes of a file come to under an identifier: a template, or the reason why they cannot
be decoded or compiled. -/
def templateOf (reporter : Reporter) (store : DirectoryStore) (identifier : String)
    (bytes : ByteArray) : Except Stop Template :=
  match store.decode bytes with
  | .error misuse => .error (.misuse misuse)
  | .ok none => .error (absent reporter identifier .unreadable)
  | .ok (some text) =>
    Template.compile reporter (.text identifier) (.ofList (Text.plainLines text.toList))

/-- A logger that stops nothing changes no result. -/
theorem result_logged (hlogs : ∀ logger ∈ store.logger, logger.NeverStops) (event : StoreEvent)
    (result : Except Stop Template) (after : DirectoryStore) :
    (store.logged event result after).result = result := by
  obtain ⟨lines, hlogged⟩ := exists_logged hlogs event result after
  rw [hlogged]

/-- A load that is not answered from the cache ends as the bytes say that are found where its
identifier leads. -/
theorem loadFile_result (hlogs : ∀ logger ∈ store.logger, logger.NeverStops) {location : Location}
    (hresolve : store.resolve workspace identifier = .ok location) {bytes : ByteArray}
    (hprobe : workspace.probe location = .ok (some (.file bytes))) :
    (store.loadFile reporter workspace identifier).result
      = store.templateOf reporter identifier bytes := by
  rw [loadFile_of_resolve hresolve, readAt, hprobe, templateOf]
  dsimp only
  cases hdecode : store.decode bytes with
  | error misuse => rfl
  | ok decoded =>
    cases decoded with
    | none => exact result_logged hlogs ..
    | some text =>
      rw [Except.ok_bind]
      dsimp only
      cases hcompile : Template.compile reporter (.text identifier)
          (.ofList (Text.plainLines text.toList)) with
      | error reason => rfl
      | ok template => exact result_logged hlogs ..

/-- What stands at the end of a path that is too long for the system cannot be read. -/
theorem readAt_of_long {location : Location}
    (hlong : Workspace.longestPath < location.text.utf8ByteSize) :
    store.readAt workspace location = .ok (.error .unreadable) := by
  have hprobe : workspace.probe location = .error .refusedPath := by
    unfold Workspace.probe
    rw [if_pos hlong]
    rfl
  rw [readAt, hprobe]

/-- A path that is too long for the system cannot be read. -/
theorem loadFile_result_of_long (hlogs : ∀ logger ∈ store.logger, logger.NeverStops)
    {location : Location} (hresolve : store.resolve workspace identifier = .ok location)
    (hlong : Workspace.longestPath < location.text.utf8ByteSize) :
    (store.loadFile reporter workspace identifier).result
      = .error (absent reporter identifier .unreadable) := by
  rw [loadFile_of_resolve hresolve, readAt_of_long hlong]
  exact result_logged hlogs ..

/-- A template that is read comes from bytes of the file where its identifier leads, by a path that
is not too long. -/
theorem exists_templateOf_of_loadFile {location : Location} {template : Template}
    (hresolve : store.resolve workspace identifier = .ok location)
    (h : (store.loadFile reporter workspace identifier).result = .ok template) :
    location.text.utf8ByteSize ≤ Workspace.longestPath ∧
      ∃ bytes, workspace.entryAt? location = some (.file bytes) ∧
        store.templateOf reporter identifier bytes = .ok template := by
  constructor
  · refine Nat.le_of_not_lt fun hlong => ?_
    rw [loadFile_of_resolve hresolve, readAt_of_long hlong] at h
    cases result_of_logged_eq_ok h
  · obtain ⟨bytes, text, hentry, hdecode, hcompile⟩ := exists_file_of_loadFile hresolve h
    exact ⟨bytes, hentry, by simp only [templateOf, hdecode, hcompile]⟩

/-- That a file is not there, or is outside of the directory, is never what its bytes come to. -/
theorem detail_of_templateOf {bytes : ByteArray} {fault : Fault}
    (h : store.templateOf reporter identifier bytes = .error (.fault fault))
    (hcode : fault.code = Code.templateNotFound) :
    fault.detail = .text (NoTemplate.unreadable.detail identifier) := by
  unfold templateOf at h
  split at h
  · cases h
  · exact detail_of_absent (Except.error.inj h)
  · exact absurd (hcode.symm.trans (code_of_compile h)) (by decide)

/-! ## What is kept -/

/-- In the course of a run, identifiers lead to the same places. -/
theorem Guarded.resolve_eq {shelf : Shelf} (h : Guarded workspace store shelf)
    (identifier : String) :
    shelf.store.resolve shelf.workspace identifier = store.resolve workspace identifier := by
  rw [h.settings, resolve, resolve, Workspace.locate, Workspace.locate, h.place]

/-- In the course of a run, sources are compiled in the same way. -/
theorem Guarded.templateOf_eq {shelf : Shelf} (h : Guarded workspace store shelf)
    (reporter : Reporter) (identifier : String) :
    shelf.store.templateOf reporter identifier = store.templateOf reporter identifier := by
  rw [h.settings]
  rfl

/-- In the course of a run, a file with these bytes stood at the location. -/
def HasStood (reporter : Reporter) (start : Shelf) (actions : List Action) (location : Location)
    (bytes : ByteArray) : Prop :=
  ∃ moment, moment <+: actions ∧
    (run reporter start moment).2.workspace.entryAt? location = some (.file bytes)

/-- The last action of a run is taken where the others have led. -/
theorem run_concat (reporter : Reporter) (shelf : Shelf) (actions : List Action) (action : Action) :
    (run reporter shelf (actions ++ [action])).2
      = (act reporter (run reporter shelf actions).2 action).2 := by
  induction actions generalizing shelf with
  | nil => rfl
  | cons first rest ih => exact ih _

/-- Whatever is kept was compiled from bytes that the file where its identifier leads had in the
course of the run. -/
def Sourced (reporter : Reporter) (start : Shelf) (actions : List Action) (shelf : Shelf) : Prop :=
  ∀ identifier template, shelf.store.cache.lookup identifier = some template →
    ∃ location bytes, start.store.resolve start.workspace identifier = .ok location ∧
      location.text.utf8ByteSize ≤ Workspace.longestPath ∧
      HasStood reporter start actions location bytes ∧
      start.store.templateOf reporter identifier bytes = .ok template

namespace Sourced

/-- No action puts a template into the cache that was not read from its file. -/
theorem act {actions : List Action} {shelf : Shelf} (hguarded : Guarded workspace store shelf)
    (hreached : (run reporter ⟨workspace, store⟩ actions).2 = shelf)
    (h : Sourced reporter ⟨workspace, store⟩ actions shelf) (action : Action) :
    Sourced reporter ⟨workspace, store⟩ (actions ++ [action]) (act reporter shelf action).2 := by
  have hbefore : ∀ identifier template, shelf.store.cache.lookup identifier = some template →
      ∃ location bytes, store.resolve workspace identifier = .ok location ∧
        location.text.utf8ByteSize ≤ Workspace.longestPath ∧
        HasStood reporter ⟨workspace, store⟩ (actions ++ [action]) location bytes ∧
        store.templateOf reporter identifier bytes = .ok template := by
    intro identifier template hkept
    obtain ⟨location, bytes, hresolve, hpath, ⟨moment, hmoment, hfile⟩, hbytes⟩ :=
      h identifier template hkept
    exact ⟨location, bytes, hresolve, hpath,
      ⟨moment, hmoment.trans (List.prefix_append ..), hfile⟩, hbytes⟩
  intro identifier template hkept
  cases action with
  | change entries => exact hbefore identifier template hkept
  | invalidate dropped =>
    cases dropped with
    | none => cases hkept
    | some dropped =>
      have hlookup := (lookup_filter shelf.store.cache dropped identifier).symm.trans hkept
      split at hlookup
      · cases hlookup
      · exact hbefore identifier template hlookup
  | load loaded =>
    obtain hsame | ⟨read, hread, hkeep⟩ :=
      load_store_cases reporter shelf.workspace shelf.store loaded
    · simp only [DirectoryStore.act, hsame] at hkept
      exact hbefore identifier template hkept
    simp only [DirectoryStore.act, hkeep] at hkept
    obtain hkept | ⟨rfl, rfl⟩ := lookup_keep hkept
    · exact hbefore identifier template hkept
    -- it was read just now
    obtain ⟨location, hresolve⟩ := exists_resolve_of_loadFile hread
    obtain ⟨hpath, bytes, hfile, hbytes⟩ := exists_templateOf_of_loadFile hresolve hread
    rw [hguarded.resolve_eq] at hresolve
    rw [hguarded.templateOf_eq] at hbytes
    refine ⟨location, bytes, hresolve, hpath, ⟨actions, List.prefix_append .., ?_⟩, hbytes⟩
    rw [hreached]
    exact hfile

/-- So after any run from an empty cache, whatever is kept was read from its file. -/
theorem run (workspace : Workspace) (hfresh : store.cache = []) (reporter : Reporter)
    (actions : List Action) :
    Sourced reporter ⟨workspace, store⟩ actions (run reporter ⟨workspace, store⟩ actions).2 := by
  induction actions using List.reverseRecOn with
  | nil =>
    intro identifier template hkept
    simp [DirectoryStore.run, hfresh] at hkept
  | append_singleton rest action ih =>
    have hguarded := (Guarded.of_fresh workspace hfresh).run reporter rest
    rw [run_concat]
    exact ih.act hguarded rfl action

end Sourced

/-! ## Listing -/

/-- The identifiers are those of the files below a location that have one of the extensions, each
once and in the order of their characters. -/
structure Lists (workspace : Workspace) (root : Location) (extensions identifiers : List String) :
    Prop where
  increasing : identifiers.Pairwise (· < ·)
  mem_iff : ∀ identifier, identifier ∈ identifiers ↔
    ∃ (location : Location) (names : List String) (bytes : ByteArray),
      identifier = "/".intercalate names ∧ location.parts = root.parts ++ names ∧
      workspace.entryAt? location = some (.file bytes) ∧
      ∃ extension ∈ extensions, Path.IsExtension (names.getLastD "") extension

/-- Where there is a directory, the names that lead down to a file are not none, and are names. -/
theorem names_of_file {root location : Location} {names : List String} {bytes : ByteArray}
    (h : workspace.TreeBelow root) (hroot : workspace.entryAt? root = some .directory)
    (hlocation : location.parts = root.parts ++ names)
    (hfile : workspace.entryAt? location = some (.file bytes)) :
    names ≠ [] ∧ ∀ name ∈ names, IsName name := by
  refine ⟨?_, (h.stands_of_file hlocation hfile).name⟩
  rintro rfl
  have hsame : location = root := Location.eq_of_parts (hlocation.trans (List.append_nil _))
  rw [hsame, hroot] at hfile
  cases hfile

/-- Sorted texts that are all different increase. -/
theorem increasing_mergeSort {texts : List String} (h : texts.Nodup) :
    (texts.mergeSort fun a b => !decide (b < a)).Pairwise (· < ·) := by
  have hle (a b : String) : (!decide (b < a)) = true ↔ a ≤ b := by
    rw [Bool.not_eq_true', decide_eq_false_iff_not, String.not_lt]
  have htrans (a b c : String) (hab : (!decide (b < a)) = true) (hbc : (!decide (c < b)) = true) :
      (!decide (c < a)) = true :=
    (hle a c).2 (String.le_trans ((hle a b).1 hab) ((hle b c).1 hbc))
  have htotal (a b : String) : (!decide (b < a) || !decide (a < b)) = true := by
    rw [Bool.or_eq_true, hle, hle]
    exact String.le_total a b
  have hsorted := List.pairwise_mergeSort htrans htotal texts
  have hdiffer := (List.mergeSort_perm texts fun a b => !decide (b < a)).nodup_iff.2 h
  refine (hsorted.and hdiffer).imp fun {a b} ⟨hab, hne⟩ => ?_
  refine Decidable.byContradiction fun hlt => hne ?_
  exact String.le_antisymm ((hle a b).1 hab) (String.not_lt.1 hlt)

/-- The files below a directory that have one of the extensions are listed, in the order of their
texts. -/
theorem lists_of_directory {root : Location} (h : workspace.TreeBelow root)
    (hroot : workspace.entryAt? root = some .directory) (extensions : List String) :
    Lists workspace root extensions
      ((((workspace.filesBelow root).filter fun parts =>
        extensions.contains (Path.extension (parts.getLastD ""))).map
          fun parts => "/".intercalate parts).mergeSort fun a b => !decide (b < a)) := by
  have hnames : ∀ names ∈ workspace.filesBelow root, names ≠ [] ∧ ∀ name ∈ names, IsName name := by
    intro names hmem
    obtain ⟨location, bytes, hlocation, hfile⟩ := h.mem_filesBelow_iff.1 hmem
    exact names_of_file h hroot hlocation hfile
  constructor
  · refine increasing_mergeSort (List.Nodup.map_on ?_ (h.nodup_filesBelow.filter _))
    -- names that are joined to the same identifier are its components
    intro names hmem names' hmem' hsame
    obtain ⟨hsome, hname⟩ := hnames names (List.mem_of_mem_filter hmem)
    obtain ⟨hsome', hname'⟩ := hnames names' (List.mem_of_mem_filter hmem')
    rw [← components_intercalate hsome hname, hsame, components_intercalate hsome' hname']
  · intro identifier
    simp only [List.mem_mergeSort, List.mem_map, List.mem_filter, h.mem_filesBelow_iff,
      List.contains_iff_mem]
    constructor
    · rintro ⟨names, ⟨⟨location, bytes, hlocation, hfile⟩, hextension⟩, rfl⟩
      exact ⟨location, names, bytes, rfl, hlocation, hfile, _, hextension,
        Path.extension_eq_iff.1 rfl⟩
    · rintro ⟨location, names, bytes, rfl, hlocation, hfile, extension, hmem, hextension⟩
      refine ⟨names, ⟨⟨location, bytes, hlocation, hfile⟩, ?_⟩, rfl⟩
      rwa [Path.extension_eq_iff.2 hextension]

/-- What a directory lists, by what its path leads to. -/
theorem discover_of_refuses (h : workspace.Refuses store.path) :
    store.discover workspace = .error .refusedPath := by
  rw [discover, Workspace.find_eq_error_iff.2 ⟨rfl, h⟩]
  rfl

/-- Where no directory is, there is nothing to discover. -/
theorem discover_of_missing (hrefuses : ¬ workspace.Refuses store.path)
    (h : ¬ workspace.HasDirectory store.path) : store.discover workspace = .ok [] := by
  rw [discover]
  cases hfind : workspace.find store.path with
  | error misuse => exact absurd (Workspace.find_eq_error_iff.1 hfind).2 hrefuses
  | ok found =>
    rw [Except.ok_bind]
    obtain _ | ⟨location, _ | _⟩ := found
    · rfl
    · rfl
    · exact absurd (Workspace.find_eq_directory_iff.1 hfind).2 h

/-- A directory is gone through as a whole, or some path in it is too long. -/
theorem discover_of_directory (h : workspace.HasDirectory store.path)
    (htree : workspace.TreeBelow (workspace.locate store.path)) :
    (¬ workspace.Reaches store.path → store.discover workspace = .error .refusedPath) ∧
    (workspace.Reaches store.path → ∃ identifiers, store.discover workspace = .ok identifiers ∧
      Lists workspace (workspace.locate store.path) store.extensions identifiers) := by
  have hroot : workspace.entryAt? (workspace.locate store.path) = some .directory :=
    h.leads _ List.prefix_rfl
  rw [discover, Workspace.find_eq_directory_iff.2 ⟨rfl, h⟩, Except.ok_bind,
    ← Workspace.isWithinReach_iff htree]
  dsimp only
  constructor
  · intro hreach
    rw [if_neg hreach]
  · intro hreach
    rw [if_pos hreach]
    exact ⟨_, rfl, lists_of_directory htree hroot store.extensions⟩

/-! ## Listed templates are there -/

/-- How a load ends after a run. -/
def loadedAfter (reporter : Reporter) (start : Shelf) (actions : List Action)
    (identifier : String) : Except Stop Template :=
  let shelf := (run reporter start actions).2
  (shelf.store.load reporter shelf.workspace identifier).result

/-- After a run that left a file with these bytes at the location, a load of the identifier comes to
that file. -/
structure LoadsFrom (reporter : Reporter) (start : Shelf) (actions : List Action)
    (identifier : String) (location : Location) (bytes : ByteArray) : Prop where
  /-- The load ends as the bytes say, or those that the file had when the template was kept. -/
  of_fits : location.text.utf8ByteSize ≤ Workspace.longestPath →
    ∃ seen, HasStood reporter start actions location seen ∧
      loadedAfter reporter start actions identifier
        = start.store.templateOf reporter identifier seen ∧
      (start.store.caches = false ∨
        (run reporter start actions).2.store.cache.lookup identifier = none → seen = bytes)
  /-- A path from the top that is too long for the system keeps the file from being read. -/
  of_long : Workspace.longestPath < location.text.utf8ByteSize →
    loadedAfter reporter start actions identifier
      = .error (absent reporter identifier .unreadable)
  /-- The load does not end with the report that the identifier leads out of the directory, nor with
  the one that no file is there. -/
  ne_missing : ∀ fault, loadedAfter reporter start actions identifier = .error (.fault fault) →
    fault.code = Code.templateNotFound →
    fault.detail = .text ("Cannot read template '" ++ identifier ++ "': <reason>")

section

variable {shelf : Shelf} {location : Location} {bytes : ByteArray}

/-- A file that is there is what a load of its identifier comes to, or it was, when the template was
kept. The load fails if the path from the top is too long. -/
theorem load_cases (hguarded : Guarded workspace store shelf) {actions : List Action}
    (hsourced : Sourced reporter ⟨workspace, store⟩ actions shelf)
    (hlogs : ∀ logger ∈ store.logger, logger.NeverStops)
    (hresolve : store.resolve workspace identifier = .ok location)
    (hprobe : location.text.utf8ByteSize ≤ Workspace.longestPath →
      shelf.workspace.probe location = .ok (some (.file bytes)))
    (hstood : HasStood reporter ⟨workspace, store⟩ actions location bytes) :
    (location.text.utf8ByteSize ≤ Workspace.longestPath ∧
      ∃ seen, HasStood reporter ⟨workspace, store⟩ actions location seen ∧
        (shelf.store.load reporter shelf.workspace identifier).result
          = store.templateOf reporter identifier seen ∧
        (store.caches = false ∨ shelf.store.cache.lookup identifier = none → seen = bytes)) ∨
    (Workspace.longestPath < location.text.utf8ByteSize ∧
      (shelf.store.load reporter shelf.workspace identifier).result
        = .error (absent reporter identifier .unreadable)) := by
  have hlogs' : ∀ logger ∈ shelf.store.logger, logger.NeverStops := by
    rw [hguarded.settings]
    exact hlogs
  have hresolve' := (hguarded.resolve_eq identifier).trans hresolve
  rw [load]
  split
  · next template hkept =>
    -- what is kept was read once, so the path is not too long
    left
    obtain ⟨hcaching, hlookup⟩ := Option.ite_none_right_eq_some.1 hkept
    obtain ⟨place, seen, hplace, hfits, hseen, htemplate⟩ := hsourced _ _ hlookup
    obtain rfl : place = location := Except.ok.inj (hplace.symm.trans hresolve)
    refine ⟨hfits, seen, hseen, ?_, ?_⟩
    · rw [result_logged hlogs', htemplate]
    · rw [hguarded.settings] at hcaching
      rintro (hnever | hnone)
      · exact absurd (hnever.symm.trans hcaching) (by decide)
      · exact absurd (hnone.symm.trans hlookup) (by simp)
  · by_cases hfits : location.text.utf8ByteSize ≤ Workspace.longestPath
    · refine .inl ⟨hfits, bytes, hstood, ?_, fun _ => rfl⟩
      rw [loadFile_result hlogs' hresolve' (hprobe hfits), hguarded.templateOf_eq]
    · have hlong := Nat.lt_of_not_le hfits
      exact .inr ⟨hlong, loadFile_result_of_long hlogs' hresolve' hlong⟩

/-- A file below the directory is what its identifier is loaded from, after any run. -/
theorem loadsFrom_of_file (hfresh : store.cache = [])
    (hlogs : ∀ logger ∈ store.logger, logger.NeverStops) (hpath : store.path.hasNul = false)
    (hidentifier : Canonical identifier)
    (hlocation : location.parts = (workspace.locate store.path).parts ++ components identifier)
    {actions : List Action}
    (htree : (run reporter ⟨workspace, store⟩ actions).2.workspace.TreeBelow
      (workspace.locate store.path))
    (hfile : (run reporter ⟨workspace, store⟩ actions).2.workspace.entryAt? location
      = some (.file bytes)) :
    LoadsFrom reporter ⟨workspace, store⟩ actions identifier location bytes := by
  have hresolve : store.resolve workspace identifier = .ok location := by
    obtain ⟨place, hplace, hparts⟩ := @exists_resolve_of_canonical workspace _ _ hpath hidentifier
    rw [hplace, Location.eq_of_parts (hparts.trans hlocation.symm)]
  have hstood : HasStood reporter ⟨workspace, store⟩ actions location bytes :=
    ⟨actions, List.prefix_rfl, hfile⟩
  obtain ⟨hfits, hend⟩ | ⟨hlong, hend⟩ :=
    load_cases ((Guarded.of_fresh workspace hfresh).run reporter actions)
      (Sourced.run workspace hfresh reporter actions) hlogs hresolve
      (htree.probe_of_file hlocation hfile) hstood
  · refine ⟨fun _ => hend, fun hlong => absurd hfits (Nat.not_le.2 hlong), fun fault hfault => ?_⟩
    obtain ⟨seen, -, hseen, -⟩ := hend
    exact detail_of_templateOf (hseen.symm.trans hfault)
  · refine ⟨fun hfits => absurd hfits (Nat.not_le.2 hlong), fun _ => hend, fun fault hfault _ => ?_⟩
    exact detail_of_absent (Except.error.inj (hend.symm.trans hfault))

end

/-- After any run of a directory that keeps nothing at first: if what is below it is a tree, the
directory lists the files that have one of the extensions, and nothing if it is not there. That it
cannot tell happens only because of a path that the system refuses for its length: its own, or that
of something below it. Whatever is done after that, an identifier that is listed comes to its file
as long as there is one. The load ends as the bytes of the file say, unless the path from the top is
too long for the system. -/
theorem discover_loadable (reporter : Reporter) (workspace : Workspace) (store : DirectoryStore)
    (hfresh : store.cache = []) (extensions : List String) (hsome : extensions ≠ [])
    (hextensions : store.extensions = listed extensions) (actions : List Action) :
    let shelf := (run reporter ⟨workspace, store⟩ actions).2
    let root := workspace.locate store.path
    shelf.workspace.TreeBelow root →
    (shelf.workspace.Refuses store.path →
      shelf.store.discover shelf.workspace = .error .refusedPath) ∧
    (¬ shelf.workspace.Refuses store.path → ¬ shelf.workspace.HasDirectory store.path →
      shelf.store.discover shelf.workspace = .ok []) ∧
    (shelf.workspace.HasDirectory store.path → ¬ shelf.workspace.Reaches store.path →
      shelf.store.discover shelf.workspace = .error .refusedPath) ∧
    (shelf.workspace.HasDirectory store.path → shelf.workspace.Reaches store.path →
      ∃ identifiers, shelf.store.discover shelf.workspace = .ok identifiers ∧
        Lists shelf.workspace root extensions identifiers ∧
        ((∀ logger ∈ store.logger, logger.NeverStops) → ∀ identifier ∈ identifiers,
          ∃ location : Location, location.parts = root.parts ++ components identifier ∧
            (∃ bytes, shelf.workspace.entryAt? location = some (.file bytes)) ∧
            ∀ later bytes,
              let after := (run reporter ⟨workspace, store⟩ (actions ++ later)).2.workspace
              after.TreeBelow root → after.entryAt? location = some (.file bytes) →
              LoadsFrom reporter ⟨workspace, store⟩ (actions ++ later) identifier location
                bytes)) := by
  have hguarded := (Guarded.of_fresh workspace hfresh).run reporter actions
  dsimp only
  -- all that matters of the run is that it keeps the settings and the place
  generalize (run reporter ⟨workspace, store⟩ actions).2 = shelf at hguarded ⊢
  intro htree
  have hpath : shelf.store.path = store.path := by rw [hguarded.settings]
  have hlisted : shelf.store.extensions = extensions := by
    rw [hguarded.settings]
    exact hextensions.trans (if_neg (by simpa using hsome))
  have hroot : shelf.workspace.locate store.path = workspace.locate store.path := by
    rw [Workspace.locate, Workspace.locate, hguarded.place]
  rw [← hpath] at htree hroot ⊢
  rw [← hroot] at htree ⊢
  refine ⟨discover_of_refuses, discover_of_missing, fun hdirectory => ?_, fun hdirectory => ?_⟩
  · exact (discover_of_directory hdirectory htree).1
  intro hreach
  obtain ⟨identifiers, hdiscover, hlists⟩ := (discover_of_directory hdirectory htree).2 hreach
  rw [hlisted] at hlists
  refine ⟨identifiers, hdiscover, hlists, fun hlogs identifier hmem => ?_⟩
  obtain ⟨location, names, bytes, rfl, hlocation, hfile, -⟩ := (hlists.mem_iff identifier).1 hmem
  obtain ⟨hsome, hname⟩ := names_of_file htree (hdirectory.leads _ List.prefix_rfl) hlocation hfile
  rw [← components_intercalate hsome hname] at hlocation
  -- the file is loaded in any later run in which it still stands
  refine ⟨location, hlocation, ⟨bytes, hfile⟩, fun later bytes hafter hlater => ?_⟩
  rw [hroot, hpath] at hlocation hafter
  refine loadsFrom_of_file hfresh hlogs ?_ (canonical_intercalate hsome hname) hlocation hafter
    hlater
  rw [← hpath]
  exact hdirectory.noNul

/-- A directory of pages with another one in it that is named like a page, and a page in that. The
file that is named like an extension has none. -/
def nestedPages : Workspace where
  name := "here"
  place := onePage.place
  entries := [
    (["srv", "pages"], .directory),
    (["srv", "pages", ".html"], .file ⟨#[]⟩),
    (["srv", "pages", "old.html"], .directory),
    (["srv", "pages", "old.html", "a.b.html"], .file ⟨#[104, 105]⟩)]

/-- The nested pages are a tree. -/
theorem nestedPages_treeBelow : nestedPages.TreeBelow (nestedPages.locate pages.path) := by
  have hkeys : nestedPages.entries.map Prod.fst = [["srv", "pages"], ["srv", "pages", ".html"],
      ["srv", "pages", "old.html"], ["srv", "pages", "old.html", "a.b.html"]] := rfl
  refine .of_parents (by rw [hkeys]; decide +kernel) ?_ ?_ fun names entry hmem => ?_
  · simp [nestedPages, onePage]
  · simp [nestedPages, onePage]
  · have hall : ∀ parts ∈ nestedPages.entries.map Prod.fst, ∀ name ∈ parts,
        IsName name ∧ name.utf8ByteSize ≤ Workspace.longestName := by
      rw [hkeys]
      decide +kernel
    have hparts := hall _ (List.mem_map_of_mem hmem)
    exact ⟨fun name hname => (hparts name (List.mem_append_right _ hname)).1,
      fun name hname => (hparts name hname).2⟩

/-- The page below the directory that is named like one is listed, and loaded as its bytes say. -/
theorem nestedPages_listed :
    nestedPages.TreeBelow (nestedPages.locate pages.path) ∧
      nestedPages.HasDirectory pages.path ∧ nestedPages.Reaches pages.path ∧
      pages.discover nestedPages = .ok ["old.html/a.b.html"] ∧
      (pages.load ⟨.builtin, default⟩ nestedPages "old.html/a.b.html").result
        = pages.templateOf ⟨.builtin, default⟩ "old.html/a.b.html" ⟨#[104, 105]⟩ := by
  have hdirectory : nestedPages.HasDirectory pages.path := by
    refine ⟨by decide +kernel, by decide +kernel, by decide +kernel, ?_⟩
    have hparts : pages.path.parts = ["pages"] := by decide +kernel
    rw [hparts, Workspace.leads_cons, Workspace.leads_nil]
    exact ⟨rfl, rfl⟩
  have hreach : nestedPages.Reaches pages.path :=
    (Workspace.isWithinReach_iff nestedPages_treeBelow).1 (by decide +kernel)
  have hdiscover : pages.discover nestedPages = .ok ["old.html/a.b.html"] := by decide +kernel
  refine ⟨nestedPages_treeBelow, hdirectory, hreach, hdiscover, ?_⟩
  -- the directory is as it was at the start, so the run is the empty one
  obtain ⟨identifiers, hlist, -, hloads⟩ := (discover_loadable ⟨.builtin, default⟩ nestedPages pages
    rfl [".html"] (by decide) rfl [] nestedPages_treeBelow).2.2.2 hdirectory hreach
  cases hdiscover.symm.trans hlist
  obtain ⟨location, hlocation, -, hload⟩ := hloads (fun _ hnone => nomatch hnone)
    "old.html/a.b.html" List.mem_cons_self
  have hparts : location.parts = ["srv", "pages", "old.html", "a.b.html"] := by
    rw [hlocation]
    decide +kernel
  have hfile : nestedPages.entryAt? location = some (.file ⟨#[104, 105]⟩) :=
    Workspace.entryAt?_of_mem nestedPages_treeBelow.nodup (by rw [hparts]; decide)
      (by rw [hparts]; simp [nestedPages])
  have hfits : location.text.utf8ByteSize ≤ Workspace.longestPath := by
    rw [Location.text, hparts]
    decide +kernel
  obtain ⟨seen, -, hended, hseen⟩ :=
    (hload [] ⟨#[104, 105]⟩ nestedPages_treeBelow hfile).of_fits hfits
  rw [← hseen (.inr rfl)]
  exact hended

/-- A name that is too long for the system. -/
def longName : String := .ofList (List.replicate 256 'n')

/-- A directory under such a name. -/
def longNamed : DirectoryStore where
  path := .ofString longName

/-- Where there is no directory and the system refuses its name, nothing is listed. That there is
nothing is not found either. -/
theorem longNamed_refused :
    let workspace : Workspace := { name := "here", place := onePage.place }
    workspace.TreeBelow (workspace.locate longNamed.path) ∧
      workspace.entryAt? (workspace.locate longNamed.path) = none ∧
      longNamed.discover workspace = .error .refusedPath := by
  intro workspace
  -- for any length, since evaluation would have to go through all of the characters
  have hname (length : Nat) : IsName (.ofList (List.replicate (length + 1) 'n')) := by
    have hall (c : Char) (hc : c ∈ (String.ofList (List.replicate (length + 1) 'n')).toList) :
        c = 'n' := by
      rw [String.toList_ofList] at hc
      exact List.eq_of_mem_replicate hc
    refine ⟨⟨fun h => ?_, fun h => ?_, fun h => ?_⟩, fun h => ?_, fun h => ?_⟩
    · simpa [List.replicate_succ] using congrArg String.toList h
    · simpa [List.replicate_succ] using congrArg String.toList h
    · simpa [List.replicate_succ] using congrArg String.toList h
    · exact absurd (hall _ h) (by decide)
    · exact absurd (hall _ h) (by decide)
  have hnone (name : String) (h : IsName name) :
      workspace.entryAt? (workspace.locate ⟨"", [name]⟩) = none := by
    have hplace : (workspace.locate ⟨"", [name]⟩).parts = ["srv", name] := by
      show (workspace.place.step name).parts = _
      rw [Location.parts_step _ ⟨h.proper.1, h.proper.2.1⟩, follow]
      simp [h.proper, workspace, onePage]
    rw [Workspace.entryAt?, Location.holds, hplace]
    simp [workspace, onePage]
  have hrefuses (name : String) (h : IsName name)
      (hlong : Workspace.longestName < name.utf8ByteSize) : workspace.Refuses ⟨"", [name]⟩ :=
    ⟨by simpa [Path.hasNul] using h.noNul,
      .inr ⟨[], name, [], rfl, Workspace.leads_nil.2 rfl, hlong⟩⟩
  have hpath : longNamed.path = ⟨"", [longName]⟩ := Path.ofString_of_isName (hname 255)
  refine ⟨⟨List.nodup_nil, fun _ _ hmem => by cases hmem⟩, ?_, discover_of_refuses ?_⟩
  · rw [hpath]
    exact hnone longName (hname 255)
  · rw [hpath]
    exact hrefuses longName (hname 255) (by decide +kernel)

end Inlay.DirectoryStore
