import Inlay.Proofs.Config.Reloading

/-!
# Loads that are refused

Where nothing stops its logger, a loader ends a load in one of two ways (`Ends`): it takes a
configuration together with the path that it is from, and tells whom there is to tell, or it refuses
the load, for whatever reason, and stays as it is. Everything that a loader can be asked for ends so
(`answer_ends`), and none of it changes the logger or those who listen.

So in each state that a loader can be brought to, a request that is refused changes nothing and
nobody is told, and a reload that is not refused tells all who asked to be told, in the order in
which they asked (`refused_or_told`).
-/

namespace Inlay.Config.Loader

open File Log

variable {around : Surroundings} {loader : Loader} {load : Load} {names : List String}

/-- How a load may end: with a configuration that the loader holds from now on, and of which the
names are told, or with the loader as it was. -/
inductive Ends (loader : Loader) (names : List String) : Load → Prop where
  | taken (config : Config) (path : Option Path) (lines : List Line) :
    Ends loader names {
      result := .ok config
      lines
      told := names.map fun name => (name, config)
      loader := { loader with config := some config, path } }
  | refused (reason : Stop) (lines : List Line) :
    Ends loader names { result := .error reason, lines, loader }

namespace Ends

/-- No load changes the logger. -/
theorem logger_eq (h : Ends loader names load) : load.loader.logger = loader.logger := by
  cases h <;> rfl

/-- Nor those who listen. -/
theorem listeners_eq (h : Ends loader names load) : load.loader.listeners = loader.listeners := by
  cases h <;> rfl

/-- A load that is refused does nothing. -/
theorem of_error (h : Ends loader names load) {reason : Stop}
    (hresult : load.result = .error reason) : load.loader = loader ∧ load.told = [] := by
  cases h with
  | taken config path lines => cases hresult
  | refused reason lines => exact ⟨rfl, rfl⟩

/-- The configuration that a load takes is the one that the loader holds and that is told. -/
theorem of_ok (h : Ends loader names load) {config : Config} (hresult : load.result = .ok config) :
    load.loader.config = some config ∧ load.told = names.map fun name => (name, config) := by
  cases h with
  | taken config path lines =>
    cases hresult
    exact ⟨rfl, rfl⟩
  | refused reason lines => cases hresult

/-- Lines that were logged before do not matter. -/
theorem behind (h : Ends loader names load) (before : List Line) :
    Ends loader names { load with lines := before ++ load.lines } := by
  cases h with
  | taken config path lines => exact .taken config path (before ++ lines)
  | refused reason lines => exact .refused reason (before ++ lines)

/-- A load that is announced tells all who listen, if it has taken anything. -/
theorem announced (h : Ends loader [] load) : Ends loader loader.listeners load.announced := by
  cases h with
  | taken config path lines => exact .taken config path lines
  | refused reason lines => exact .refused reason lines

end Ends

/-! ## Loads -/

/-- If the loader has a logger, nothing stops it. -/
def Tells (loader : Loader) : Prop := ∀ logger ∈ loader.logger, logger.NeverStops

/-- A loader that can tell everything writes whatever it is to log. -/
theorem Tells.note (h : loader.Tells) (entries : List Log.Entry) :
    (loader.note entries).2 = .ok () :=
  note_eq_ok_iff.2 fun logger hlogger entry _ => h logger hlogger entry

/-- A load of a mapping takes its configuration or refuses it, and tells nobody. -/
theorem loadEntries_ends (h : loader.Tells) (around : Surroundings) (data : Entries)
    (path : Option Path) : Ends loader [] (loader.loadEntries around data path) := by
  cases hread : ofEntries around.reporter data with
  | error reason =>
    rw [loadEntries_of_error hread]
    exact .refused reason []
  | ok read =>
    rw [loadEntries_of_note hread (h.note _)]
    exact .taken read.1 path _

/-- So does a load of a file. -/
theorem loadFile_ends (h : loader.Tells) (path : Path) (overrides : Entries) (bytes : ByteArray) :
    Ends loader [] (loader.loadFile around path overrides bytes) := by
  cases hmapping : mappingOf around path (.ofBytes bytes.toList) with
  | error reason =>
    rw [loadFile_of_error overrides hmapping]
    exact .refused reason []
  | ok data =>
    rw [loadFile_of_mapping overrides hmapping]
    exact loadEntries_ends h around _ _

/-- So does a load of a path where there is none. -/
theorem loadMissing_ends (h : loader.Tells) (path : Path) (useDefaults : Bool)
    (overrides : Entries) :
    Ends loader [] (loader.loadMissing around path useDefaults overrides) := by
  have hnotice := h.note [noFileEntry path]
  unfold loadMissing
  split
  · split
    · next lines misuse hstopped =>
      rw [hstopped] at hnotice
      cases hnotice
    · next lines _ => exact (loadEntries_ends h around overrides none).behind lines
  · exact .refused _ []

/-- So does a load of any path. -/
theorem loadPath_ends (h : loader.Tells) (path : Path) (useDefaults : Bool) (overrides : Entries) :
    Ends loader [] (loader.loadPath around path useDefaults overrides) := by
  unfold loadPath
  split
  · exact .refused _ []
  · exact loadMissing_ends h path useDefaults overrides
  · exact .refused _ []
  · exact loadFile_ends h path overrides _

/-- So does a load that may have to find its path first. -/
theorem load_ends (h : loader.Tells) (path : Option Path) (useDefaults : Bool)
    (overrides : Entries) : Ends loader [] (loader.load around path useDefaults overrides) := by
  unfold load
  split
  · exact .refused _ []
  · exact loadPath_ends h _ useDefaults overrides

/-- A reload tells all who listen what it takes. -/
theorem reload_ends (h : loader.Tells) : Ends loader loader.listeners (loader.reload around) := by
  cases hpath : loader.path with
  | none =>
    unfold reload
    rw [hpath]
    exact .refused _ []
  | some path =>
    rw [reload_eq hpath]
    exact (loadPath_ends h path true []).announced

/-! ## Requests and states -/

/-- What a loader may be asked for. -/
inductive Request where
  /-- To load a path, or the first of the usual ones. -/
  | load (path : Option Path) (useDefaults : Bool) (overrides : Entries)
  /-- To load a mapping, as what a file holds or on its own. -/
  | loadEntries (data : Entries) (path : Option Path)
  | loadDefaults
  | reload

/-- What comes of a request. -/
def answer (around : Surroundings) (loader : Loader) : Request → Load
  | .load path useDefaults overrides => loader.load around path useDefaults overrides
  | .loadEntries data path => loader.loadEntries around data path
  | .loadDefaults => loader.loadDefaults around
  | .reload => loader.reload around

/-- Those whom a request is to tell about what it takes. -/
def audience (loader : Loader) : Request → List String
  | .reload => loader.listeners
  | _ => []

/-- Whatever a loader is asked for ends in one of the two ways. -/
theorem answer_ends (h : loader.Tells) (around : Surroundings) (request : Request) :
    Ends loader (loader.audience request) (loader.answer around request) := by
  cases request with
  | load path useDefaults overrides => exact load_ends h path useDefaults overrides
  | loadEntries data path => exact loadEntries_ends h around data path
  | loadDefaults => exact loadEntries_ends h around [] none
  | reload => exact reload_ends h

/-- What is done with a loader: it is asked for something, with what is around it then, or someone
asks it to be told of reloads. -/
inductive Step where
  | ask (around : Surroundings) (request : Request)
  | listen (name : String)

/-- The loader behind a row of steps. -/
def follow (loader : Loader) : List Step → Loader
  | [] => loader
  | .ask around request :: rest => (loader.answer around request).loader.follow rest
  | .listen name :: rest => (loader.onChange name).follow rest

/-- Those who asked to be told, in order. -/
def listening (steps : List Step) : List String :=
  steps.filterMap fun
    | .ask _ _ => none
    | .listen name => some name

/-- No step touches the logger, and none but those who ask to be told are. -/
theorem follow_kept (h : loader.Tells) (steps : List Step) :
    (loader.follow steps).logger = loader.logger ∧
      (loader.follow steps).listeners = loader.listeners ++ listening steps := by
  induction steps generalizing loader with
  | nil => exact ⟨rfl, (List.append_nil _).symm⟩
  | cons step rest ih =>
    cases step with
    | ask around request =>
      have hends := answer_ends h around request
      -- the loader behind the step tells what this one does, for the steps that remain
      have htells : (loader.answer around request).loader.Tells := by
        intro logger hlogger
        rw [hends.logger_eq] at hlogger
        exact h logger hlogger
      obtain ⟨hlogger, hlisteners⟩ := ih htells
      rw [hends.logger_eq] at hlogger
      rw [hends.listeners_eq] at hlisteners
      exact ⟨hlogger, hlisteners⟩
    | listen name =>
      have htells : (loader.onChange name).Tells := h
      obtain ⟨hlogger, hlisteners⟩ := ih htells
      refine ⟨hlogger, ?_⟩
      show ((loader.onChange name).follow rest).listeners
        = loader.listeners ++ (name :: listening rest)
      rw [hlisteners, onChange, List.append_assoc, List.singleton_append]

/-- A loader that was brought to any state, by any requests in any surroundings, and is then asked
for something: if the request is refused, whatever the reason is, the loader is as before, so that
it answers with the same configuration and remembers the same path, and nobody is told. If it was
asked to reload and takes a configuration, all who asked to be told are told of it, each as often
as they asked and in the order in which they did, and it is the configuration that the loader then
answers with. -/
theorem refused_or_told (logger : Option Logger) (hlogger : ∀ log ∈ logger, log.NeverStops)
    (steps : List Step) (around : Surroundings) (request : Request) :
    let loader := ({ logger } : Loader).follow steps
    let load := loader.answer around request
    (∀ reason, load.result = .error reason →
      load.loader = loader ∧ (∀ later, load.loader.get later = loader.get later) ∧
        load.told = []) ∧
    (∀ config, request = .reload → load.result = .ok config →
      load.told = (listening steps).map (fun name => (name, config)) ∧
        ∀ later, load.loader.get later = .ok config) := by
  intro loader load
  have hstart : ({ logger } : Loader).Tells := hlogger
  obtain ⟨hkept, hlisteners⟩ := follow_kept hstart steps
  -- the steps have not changed the logger, so nothing stops it now
  have htells : loader.Tells := by
    intro log hlog
    rw [hkept] at hlog
    exact hlogger log hlog
  have hends : Ends loader (loader.audience request) load := answer_ends htells around request
  constructor
  · intro reason hrefused
    obtain ⟨hloader, htold⟩ := hends.of_error hrefused
    exact ⟨hloader, fun later => by rw [hloader], htold⟩
  · intro config hreload htaken
    obtain ⟨hconfig, htold⟩ := hends.of_ok htaken
    subst hreload
    refine ⟨?_, fun later => by rw [get, hconfig]⟩
    rw [htold, audience, hlisteners, List.nil_append]

/-- A site whose settings are spoilt keeps the ones that it had, and nobody is told; once they are
mended, both who asked are told of them. -/
theorem spoilt_file_refused :
    let loader := ({ logger := some { now := default } } : Loader).follow [
      .listen "pages",
      .ask (site "render:\n  max_include_depth: 5\n") (.load (some sitePath) true []),
      .listen "feeds"]
    let spoilt := loader.answer (site "render: [") .reload
    let mended := loader.answer (site "render:\n  max_include_depth: 9\n") .reload
    (∃ reason, spoilt.result = .error reason) ∧ spoilt.loader = loader ∧ spoilt.told = [] ∧
      ∃ config, mended.result = .ok config ∧
        mended.told = [("pages", config), ("feeds", config)] := by
  intro loader spoilt mended
  have hlogger : ∀ log ∈ some ({ now := default } : Logger), log.NeverStops := by
    rintro _ ⟨⟩
    exact Logger.CutsAtInteger.neverStops rfl
  have hspoilt : limit? spoilt.result = none := by decide +kernel
  have hmended : limit? mended.result = some (some 9) := by decide +kernel
  obtain ⟨config, hconfig⟩ := exists_of_limit? hmended
  have hrefused : ∃ reason, spoilt.result = .error reason := by
    cases hresult : spoilt.result with
    | ok config =>
      rw [hresult] at hspoilt
      cases hspoilt
    | error reason => exact ⟨reason, rfl⟩
  obtain ⟨reason, hreason⟩ := hrefused
  obtain ⟨hloader, -, htold⟩ := (refused_or_told _ hlogger _ _ _).1 reason hreason
  obtain ⟨hall, -⟩ := (refused_or_told _ hlogger _ _ _).2 config rfl hconfig
  exact ⟨⟨reason, hreason⟩, hloader, htold, config, hconfig, hall⟩

end Inlay.Config.Loader
