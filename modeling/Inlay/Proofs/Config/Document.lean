import Inlay.Proofs.Config.Reloading
import Inlay.Proofs.Config.Resolution

/-!
# Documents and the loads of them

The text of a file is one value, its document; an empty file has null for it. A mapping gives
itself, null gives an empty one, and no other document gives a mapping (`Value.mapping?`).

A load goes by its document (`Composes`) if it is the load of one mapping: that of the document with
its references replaced, and with the overrides laid over it. What cannot be resolved is complained
about before anything is checked, and a document that gives no mapping is refused; both leave the
loader as it is. Nothing else gets into a load: it ends in the same way wherever the file is, and
whatever the loader held before (`loadFile_congr`).

Each document that holds nothing is taken for null, an empty list and `false` like an empty file. So
a load goes by its document exactly if this gives a mapping or holds something, and is the load of
the overrides alone if not (`composes_iff`).
-/

namespace Inlay

namespace Value

variable {document : Value} {entries : Entries}

/-- The mapping that a document gives. -/
def mapping? : Value → Option Entries
  | .null => some []
  | .map entries => some entries
  | _ => none

/-- A mapping that holds nothing is the one that null gives. -/
theorem mapping?_orElse (h : document.mapping? = some entries) :
    (document.orElse .null).mapping? = some entries := by
  rw [orElse]
  split
  · exact h
  · next hidle =>
    cases document with
    | null => exact h
    | map held =>
      cases h
      cases entries with
      | nil => rfl
      | cons entry rest => exact absurd rfl hidle
    | _ => cases h

end Value

namespace Config

open File Log Loader

variable {around elsewhere : Surroundings} {loader other : Loader} {path : Path} {place : Location}
  {bytes : ByteArray} {document : Value} {entries data : Entries}

/-! ## Documents -/

/-- The document of a file. -/
def documentOf (bytes : ByteArray) : Except Yaml.Problem Value :=
  (Yaml.load (.ofBytes bytes.toList)).map fun found => found.getD .null

/-- What holds nothing is taken for null. -/
theorem rootOf_of_document (h : documentOf bytes = .ok document) :
    rootOf bytes = (document.orElse .null).mapping? := by
  unfold documentOf at h
  unfold rootOf
  cases hload : Yaml.load (.ofBytes bytes.toList) with
  | error problem =>
    rw [hload] at h
    cases h
  | ok found =>
    rw [hload] at h
    cases h
    dsimp only
    generalize found.getD .null = document
    unfold Value.orElse
    cases htruthy : document.isTruthy with
    | false => rfl
    | true =>
      rw [if_pos rfl, if_pos rfl]
      cases document with
      | null => cases htruthy
      | _ => rfl

/-- A document that holds nothing, of whatever kind, gives the empty mapping. -/
theorem rootOf_of_idle (h : documentOf bytes = .ok document) (hidle : document.isTruthy = false) :
    rootOf bytes = some [] := by
  rw [rootOf_of_document h, Value.orElse, hidle]
  rfl

/-- The complaint about a document that gives no mapping. -/
def rootComplaint (path : Path) : String := "Configuration root must be a mapping: " ++ path.text

/-- No other document gives a mapping, and the load is refused with the path of the file. -/
theorem mappingOf_of_no_root (h : documentOf bytes = .ok document) (hroot : rootOf bytes = none) :
    mappingOf around path (.ofBytes bytes.toList)
      = .error (invalid around.reporter (rootComplaint path)) := by
  unfold documentOf at h
  unfold rootOf at hroot
  unfold mappingOf
  split at hroot
  · next found hload =>
    rw [hload]
    dsimp only
    generalize (found.getD .null).orElse (.map []) = held at hroot ⊢
    cases held with
    | map entries => cases hroot
    | _ => rfl
  · next problem hload =>
    rw [hload] at h
    cases h

/-! ## Loads of documents -/

/-- What ends a load whose references cannot be replaced. -/
def Unresolved.stop (reporter : Reporter) : Unresolved → Stop
  | .required message => invalid reporter message
  | .endless => .misuse .endless

/-- A report of an invalid configuration carries what is wrong. -/
theorem detail_of_invalid {reporter : Reporter} {detail : String} {fault : Fault}
    (h : invalid reporter detail = .fault fault) : fault.detail = .text detail :=
  Reporter.detail_of_stop rfl h

/-- A file with a mapping at its root is loaded with its references replaced, or refused for them.
-/
theorem loadFile_of_root (hroot : rootOf bytes = some entries) (overrides : Entries) :
    loader.loadFile around path overrides bytes
      = match resolveEntries around.environment around.room entries with
        | .ok data => loader.loadEntries around (Entries.overlay data overrides) (some path)
        | .error reason => { result := .error (reason.stop around.reporter), loader } := by
  have hmapping := @mappingOf_of_root around path bytes entries hroot
  cases hresolve : resolveEntries around.environment around.room entries with
  | ok data =>
    rw [hresolve] at hmapping
    exact loadFile_of_mapping overrides hmapping
  | error reason =>
    rw [hresolve] at hmapping
    cases reason <;> exact loadFile_of_error overrides hmapping

/-- A file without one is refused, whatever the overrides are. -/
theorem loadFile_of_no_root (h : documentOf bytes = .ok document) (hroot : rootOf bytes = none)
    (overrides : Entries) :
    loader.loadFile around path overrides bytes
      = { result := .error (invalid around.reporter (rootComplaint path)), loader } :=
  loadFile_of_error overrides (mappingOf_of_no_root h hroot)

/-- A load of a mapping ends in the same way and logs the same for all loaders with one logger, with
any path to remember. -/
theorem loadEntries_congr (hreporter : elsewhere.reporter = around.reporter)
    (hlogger : other.logger = loader.logger) (data : Entries) (path twin : Option Path) :
    (other.loadEntries elsewhere data twin).result
        = (loader.loadEntries around data path).result ∧
      (other.loadEntries elsewhere data twin).lines
        = (loader.loadEntries around data path).lines := by
  cases hread : ofEntries around.reporter data with
  | error reason =>
    have htwin : ofEntries elsewhere.reporter data = .error reason := by rw [hreporter, hread]
    rw [loadEntries_of_error hread, loadEntries_of_error htwin]
    exact ⟨rfl, rfl⟩
  | ok read =>
    have htwin : ofEntries elsewhere.reporter data = .ok read := by rw [hreporter, hread]
    rw [loadEntries_of_ok hread, loadEntries_of_ok htwin, note_congr hlogger]
    exact ⟨rfl, rfl⟩

/-- How a load of a path goes by its document. -/
structure Composes (around : Surroundings) (loader : Loader) (path : Path) (overrides : Entries)
    (document : Value) (load : Load) : Prop where
  /-- It loads the mapping with its references replaced and the overrides laid over it, and ends as
  a load of that mapping without any file. -/
  checked : ∀ entries data, document.mapping? = some entries →
    resolveEntries around.environment around.room entries = .ok data →
    load = loader.loadEntries around (Entries.overlay data overrides) (some path) ∧
      load.result = (loader.loadEntries around (Entries.overlay data overrides)).result
  /-- If references cannot be replaced, this is the reason, whatever else is wrong. -/
  unresolved : ∀ entries reason, document.mapping? = some entries →
    resolveEntries around.environment around.room entries = .error reason →
    load = { result := .error (reason.stop around.reporter), loader }
  /-- A document that gives no mapping is reported. -/
  refused : document.mapping? = none → ∃ fault, fault.code = Code.configInvalid ∧
    fault.detail = .text (rootComplaint path) ∧ load = { result := .error (.fault fault), loader }

/-- A file with a mapping for its document is loaded as `Composes` says. -/
theorem composes_of_mapping (h : documentOf bytes = .ok document)
    (hmapping : document.mapping? = some entries) (overrides : Entries) :
    Composes around loader path overrides document
      (loader.loadFile around path overrides bytes) := by
  have hroot : rootOf bytes = some entries :=
    (rootOf_of_document h).trans (Value.mapping?_orElse hmapping)
  have hload := @loadFile_of_root around loader path bytes entries hroot overrides
  refine ⟨?_, ?_, ?_⟩
  · intro given data hgiven hdata
    cases hmapping.symm.trans hgiven
    rw [hdata] at hload
    rw [hload]
    exact ⟨rfl, (loadEntries_congr rfl rfl _ _ _).1⟩
  · intro given reason hgiven hreason
    cases hmapping.symm.trans hgiven
    rw [hreason] at hload
    exact hload
  · intro hnone
    cases hmapping.symm.trans hnone

/-- So is one whose document holds something else than a mapping. -/
theorem composes_of_truthy (hregistry : around.reporter.registry = .builtin)
    (h : documentOf bytes = .ok document) (hmapping : document.mapping? = none)
    (htruthy : document.isTruthy = true) (overrides : Entries) :
    Composes around loader path overrides document
      (loader.loadFile around path overrides bytes) := by
  have hroot : rootOf bytes = none := by
    rw [rootOf_of_document h, Value.orElse, if_pos htruthy, hmapping]
  obtain ⟨fault, hfault, hcode⟩ := Reporter.exists_configInvalid hregistry (rootComplaint path)
  refine ⟨?_, ?_, ?_⟩
  · intro entries data hentries
    cases hmapping.symm.trans hentries
  · intro entries reason hentries
    cases hmapping.symm.trans hentries
  · intro _
    refine ⟨fault, hcode, detail_of_invalid hfault, ?_⟩
    rw [loadFile_of_no_root h hroot, invalid, hfault]

/-- A document that holds nothing is loaded as the overrides are on their own. -/
theorem loadFile_of_idle (h : documentOf bytes = .ok document) (hidle : document.isTruthy = false)
    (overrides : Entries) :
    loader.loadFile around path overrides bytes
      = loader.loadEntries around (Entries.overlay [] overrides) (some path) :=
  loadFile_of_root (rootOf_of_idle h hidle) overrides

/-! ## What a load of a mapping complains about -/

/-- The complaints about a mapping. -/
inductive Complains : String → Prop where
  | invalid (errors : String) : Complains ("Configuration validation failed:\n" ++ errors)
  | unread (message : String) : Complains ("Failed to parse configuration: " ++ message)

/-- What is wrong with a mapping is misuse or one of the two complaints about mappings. -/
theorem ofEntries_complains {reporter : Reporter} {reason : Stop}
    (h : ofEntries reporter data = .error reason) :
    (∃ misuse, reason = .misuse misuse) ∨
      ∃ detail, Complains detail ∧ reason = invalid reporter detail := by
  cases hverdict : validate data with
  | error misuse =>
    rw [ofEntries, hverdict] at h
    cases h
    exact .inl ⟨misuse, rfl⟩
  | ok verdict =>
    cases hvalid : verdict.isValid with
    | false =>
      rw [ofEntries_of_invalid hverdict hvalid] at h
      cases h
      exact .inr ⟨_, .invalid _, rfl⟩
    | true =>
      cases hread : read data with
      | ok config =>
        have hok : ofEntries reporter data = .ok (config, verdict.warnings) :=
          ofEntries_eq_ok_iff.2 ⟨verdict, hverdict, hvalid, hread, rfl⟩
        rw [hok] at h
        cases h
      | error message =>
        rw [ofEntries_of_unread hverdict hvalid hread] at h
        cases h
        exact .inr ⟨_, .unread _, rfl⟩

/-- A load that is reported as a fault is so with one of them. -/
theorem complains_of_loadEntries {path : Option Path} {fault : Fault}
    (h : (loader.loadEntries around data path).result = .error (.fault fault)) :
    ∃ detail, Complains detail ∧ fault.detail = .text detail := by
  cases hread : ofEntries around.reporter data with
  | ok read =>
    -- it can only be the logger that stops such a load
    rw [loadEntries_of_ok hread] at h
    dsimp only at h
    split at h <;> cases h
  | error reason =>
    rw [loadEntries_of_error hread] at h
    cases h
    obtain ⟨misuse, hmisuse⟩ | ⟨detail, hcomplains, hinvalid⟩ := ofEntries_complains hread
    · cases hmisuse
    · exact ⟨detail, hcomplains, detail_of_invalid hinvalid.symm⟩

/-- What stands behind a text does not show in its first characters. -/
theorem take_toList_append {front : String} {count : Nat} (h : count ≤ front.toList.length)
    (rest : String) : (front ++ rest).toList.take count = front.toList.take count := by
  rw [String.toList_append, List.take_append_of_le_length h]

/-- None of them is about the document. -/
theorem not_complains_rootComplaint (path : Path) : ¬ Complains (rootComplaint path) := by
  intro h
  have hroot : (rootComplaint path).toList.take 15 = "Configuration r".toList :=
    take_toList_append (by decide) _
  generalize rootComplaint path = detail at h hroot
  cases h with
  | invalid errors =>
    exact absurd ((take_toList_append (by decide) _).symm.trans hroot) (by decide)
  | unread message =>
    exact absurd ((take_toList_append (by decide) _).symm.trans hroot) (by decide)

/-- So a document that holds nothing and gives no mapping is never refused for that. -/
theorem not_composes_of_idle (h : documentOf bytes = .ok document)
    (hmapping : document.mapping? = none) (hidle : document.isTruthy = false)
    (overrides : Entries) :
    ¬ Composes around loader path overrides document
      (loader.loadFile around path overrides bytes) := by
  intro hcomposes
  obtain ⟨fault, -, hdetail, hload⟩ := hcomposes.refused hmapping
  rw [loadFile_of_idle h hidle] at hload
  obtain ⟨detail, hcomplains, hsame⟩ := complains_of_loadEntries (congrArg Load.result hload)
  cases hdetail.symm.trans hsame
  exact not_complains_rootComplaint path hcomplains

/-! ## What a load goes by -/

/-- Files with one document are loaded alike where there is as much room: what else stands around a
loader, and what it held before, have no part in how a load ends. -/
theorem loadFile_congr {twin : ByteArray} (hreporter : elsewhere.reporter = around.reporter)
    (henvironment : elsewhere.environment = around.environment)
    (hroom : elsewhere.room = around.room) (hlogger : other.logger = loader.logger)
    (h : documentOf bytes = .ok document) (htwin : documentOf twin = .ok document)
    (overrides : Entries) :
    (other.loadFile elsewhere path overrides twin).result
        = (loader.loadFile around path overrides bytes).result ∧
      (other.loadFile elsewhere path overrides twin).lines
        = (loader.loadFile around path overrides bytes).lines := by
  have hsame : rootOf twin = rootOf bytes :=
    (rootOf_of_document htwin).trans (rootOf_of_document h).symm
  cases hroot : rootOf bytes with
  | none =>
    rw [loadFile_of_no_root h hroot, loadFile_of_no_root htwin (hsame.trans hroot), hreporter]
    exact ⟨rfl, rfl⟩
  | some entries =>
    rw [loadFile_of_root hroot, loadFile_of_root (hsame.trans hroot), henvironment, hroom]
    cases resolveEntries around.environment around.room entries with
    | error reason =>
      rw [hreporter]
      exact ⟨rfl, rfl⟩
    | ok data => exact loadEntries_congr hreporter hlogger _ _ _

/-- With the codes that every registry starts with, a load of a file goes by its document exactly if
this gives a mapping or holds something. What holds nothing is loaded as the overrides are on their
own. Files with one document, under one path, are loaded alike with the same overrides, the same
environment and as much room, whatever else there is and whatever the loader held before. -/
theorem Loader.composes_iff (around : Surroundings)
    (hregistry : around.reporter.registry = .builtin) (loader : Loader) (useDefaults : Bool)
    (overrides : Entries) {request : Option Path}
    (htarget : Loader.target around request = .ok path)
    (hfile : around.workspace.find path = .ok (some (place, .file bytes)))
    (hdocument : documentOf bytes = .ok document) :
    let load := loader.load around request useDefaults overrides
    (Composes around loader path overrides document load ↔
      (document.mapping? = none → document.isTruthy = true)) ∧
    (document.isTruthy = false →
      load = loader.loadEntries around (Entries.overlay [] overrides) (some path)) ∧
    ∀ (elsewhere : Surroundings) (other : Loader) (mayDefault : Bool) (question : Option Path)
      (there : Location) (twin : ByteArray),
      elsewhere.reporter = around.reporter → elsewhere.environment = around.environment →
      elsewhere.room = around.room → other.logger = loader.logger →
      Loader.target elsewhere question = .ok path →
      elsewhere.workspace.find path = .ok (some (there, .file twin)) →
      documentOf twin = .ok document →
      (other.load elsewhere question mayDefault overrides).result = load.result ∧
        (other.load elsewhere question mayDefault overrides).lines = load.lines := by
  intro load
  have hload : load = loader.loadFile around path overrides bytes :=
    load_of_file useDefaults overrides htarget hfile
  rw [hload]
  refine ⟨⟨fun hcomposes hmapping => ?_, fun hgiven => ?_⟩, fun hidle => ?_, ?_⟩
  · cases hidle : document.isTruthy with
    | true => rfl
    | false => exact absurd hcomposes (not_composes_of_idle hdocument hmapping hidle overrides)
  · cases hmapping : document.mapping? with
    | some entries => exact composes_of_mapping hdocument hmapping overrides
    | none => exact composes_of_truthy hregistry hdocument hmapping (hgiven hmapping) overrides
  · exact loadFile_of_idle hdocument hidle overrides
  · -- the second load goes by the same document, so by the same mapping
    intro elsewhere other mayDefault question there twin hreporter henvironment hroom hlogger
      hquestion hthere htwin
    rw [load_of_file mayDefault overrides hquestion hthere]
    exact loadFile_congr hreporter henvironment hroom hlogger hdocument htwin overrides

/-- The directory of the templates of a configuration. -/
def directory? (result : Except Stop Config) : Option String :=
  result.toOption.map fun config => config.templates.directory

/-- A site with its templates in a directory that the environment names. -/
def mountedText : String := "templates:\n  directory: $\x7bROOT\x7d/pages\n"

/-- What a loader finds around it there. -/
def mountedSite : Surroundings :=
  { site mountedText with environment := [("ROOT", "/srv")] }

/-- A document that is read to a mapping has that mapping. -/
theorem exists_mapping (bytes : ByteArray)
    (h : ((documentOf bytes).toOption.bind Value.mapping?).isSome = true) :
    ∃ document entries, documentOf bytes = .ok document ∧ document.mapping? = some entries := by
  cases hdocument : documentOf bytes with
  | error problem =>
    rw [hdocument] at h
    cases h
  | ok document =>
    rw [hdocument] at h
    obtain ⟨entries, hentries⟩ := Option.isSome_iff_exists.1 h
    exact ⟨document, entries, rfl, hentries⟩

/-- Its settings are loaded with the name of the directory put in and with the limit of the
overrides. -/
theorem mountedSite_composed :
    let load := ({} : Loader).load mountedSite (some sitePath) true (limited 7)
    ∃ document entries data, documentOf (bytesOf mountedText) = .ok document ∧
      document.mapping? = some entries ∧
      resolveEntries [("ROOT", "/srv")] mountedSite.room entries = .ok data ∧
      load = ({} : Loader).loadEntries mountedSite (Entries.overlay data (limited 7))
        (some sitePath) ∧
      directory? load.result = some "/srv/pages" ∧ limit? load.result = some (some 7) := by
  intro load
  have hdirectory : directory? load.result = some "/srv/pages" := by decide +kernel
  have hlimit : limit? load.result = some (some 7) := by decide +kernel
  obtain ⟨document, entries, hdocument, hmapping⟩ :=
    exists_mapping (bytesOf mountedText) (by decide +kernel)
  obtain ⟨place, hfile⟩ := find_site mountedText
  have htarget : Loader.target mountedSite (some sitePath) = .ok sitePath := rfl
  have hgiven : document.mapping? = none → document.isTruthy = true := by
    intro hnone
    cases hmapping.symm.trans hnone
  have hcomposes := (Loader.composes_iff mountedSite rfl {} true (limited 7) htarget hfile
    hdocument).1.2 hgiven
  cases hresolve : resolveEntries mountedSite.environment mountedSite.room entries with
  | ok data =>
    exact ⟨document, entries, data, hdocument, hmapping, hresolve,
      (hcomposes.checked entries data hmapping hresolve).1, hdirectory, hlimit⟩
  | error reason =>
    have hrefused : load = _ := hcomposes.unresolved entries reason hmapping hresolve
    rw [hrefused] at hlimit
    cases hlimit

/-- Is the document an empty list? -/
def isEmptyList : Except Yaml.Problem Value → Bool
  | .ok (.list members) => members.isEmpty
  | _ => false

/-- Nothing else is an empty list. -/
theorem eq_of_isEmptyList {found : Except Yaml.Problem Value} (h : isEmptyList found = true) :
    found = .ok (.list []) := by
  unfold isEmptyList at h
  split at h
  · next members => rw [List.isEmpty_iff.1 h]
  · cases h

/-- An empty list in the place of the settings is loaded in their stead, so that the limit that was
set is gone. -/
theorem empty_list_loaded :
    let loader := (({} : Loader).load (site "render:\n  max_include_depth: 5\n")
      (some sitePath)).loader
    let load := loader.load (site "[]\n") (some sitePath)
    documentOf (bytesOf "[]\n") = .ok (.list []) ∧
      limit? (loader.get (site "[]\n")) = some (some 5) ∧
      limit? load.result = some (some 32) ∧
      limit? (load.loader.get (site "[]\n")) = some (some 32) ∧
      ¬ Composes (site "[]\n") loader sitePath [] (.list []) load := by
  intro loader load
  have hlimit : limit? load.result = some (some 32) := by decide +kernel
  refine ⟨eq_of_isEmptyList (by decide +kernel), by decide +kernel, hlimit, by decide +kernel,
    fun hcomposes => ?_⟩
  obtain ⟨fault, -, -, hrefused⟩ := hcomposes.refused rfl
  rw [hrefused] at hlimit
  cases hlimit

end Config

end Inlay
