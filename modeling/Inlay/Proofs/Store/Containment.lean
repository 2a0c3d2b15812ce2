import Inlay.Proofs.Fault.Messages
import Inlay.Proofs.File.Path
import Inlay.Proofs.Store.Memoisation

/-!
# Templates stay inside of their directory

An identifier is followed from the directory, component by component, and what counts is where it
ends: inside of the directory by whole names, or not. Outside, it is refused as it stands, whatever
the files are (`loadFile_of_outside`). Inside, it is never refused for that, and the only file that
is read is the one where it ends.

A template is kept under its identifier, so this holds of a directory in use as long as nothing is
kept under an identifier that is refused. The invariant `Guarded` says so, and every run keeps it.
-/

namespace Inlay.DirectoryStore

open File Log

variable {reporter : Reporter} {workspace : Workspace} {store : DirectoryStore}
  {identifier : String}

/-! ## Where identifiers lead -/

/-- A directory whose path cannot be followed refuses every identifier for that. -/
theorem resolve_of_nul {directory : String} (hpath : store.path = .ofString directory)
    (hdirectory : '\x00' ∈ directory.toList) :
    store.resolve workspace identifier = .error .unreadable := by
  have hnul : store.path.hasNul = true := by
    rw [hpath, Path.hasNul_ofString]
    exact hdirectory
  simp [resolve, hnul]

/-- An identifier leads to where its components lead from the directory, as long as that is inside
of the directory by whole names. -/
theorem exists_resolve_eq (workspace : Workspace) (hpath : store.path.hasNul = false)
    (hidentifier : '\x00' ∉ identifier.toList) :
    ∃ location : Location,
      location.parts = normalized (workspace.locate store.path).parts identifier ∧
      store.resolve workspace identifier
        = if (workspace.locate store.path).parts <+: location.parts then .ok location
          else .error .escapes := by
  have hidentifierNul : (Path.ofString identifier).hasNul = false := by
    rw [Bool.eq_false_iff, ne_eq, Path.hasNul_ofString]
    exact hidentifier
  refine ⟨(workspace.locate store.path).ofPath (.ofString identifier),
    Location.parts_ofPath_ofString .., ?_⟩
  rw [resolve]
  dsimp only
  rw [hpath, hidentifierNul, if_neg (by decide)]
  simp only [Location.holds_iff]

/-- The same, where the path of the directory is given as it is written. -/
theorem resolve_eq (workspace : Workspace) {directory : String}
    (hpath : store.path = .ofString directory) (hdirectory : '\x00' ∉ directory.toList)
    (hidentifier : '\x00' ∉ identifier.toList) :
    ∃ location : Location,
      location.parts = normalized (normalized workspace.place.parts directory) identifier ∧
      store.resolve workspace identifier
        = if normalized workspace.place.parts directory <+: location.parts then .ok location
          else .error .escapes := by
  have hroot : (workspace.locate store.path).parts
      = normalized workspace.place.parts directory := by
    rw [Workspace.locate, hpath, Location.parts_ofPath_ofString]
  have hpathNul : store.path.hasNul = false := by
    rw [hpath, Bool.eq_false_iff, ne_eq, Path.hasNul_ofString]
    exact hdirectory
  rw [← hroot]
  exact exists_resolve_eq workspace hpathNul hidentifier

/-! ## Loads from files -/

/-- An identifier that leads out of the directory is refused, and no file is looked at. -/
theorem loadFile_of_outside (h : store.resolve workspace identifier = .error .escapes) :
    store.loadFile reporter workspace identifier
      = ⟨.error (absent reporter identifier .escapes), [], store⟩ := by
  rw [loadFile, read, h]

/-- An identifier that cannot be followed is refused, and no file is looked at. -/
theorem loadFile_of_unreadable (h : store.resolve workspace identifier = .error .unreadable) :
    store.loadFile reporter workspace identifier
      = store.logged (.missing identifier) (.error (absent reporter identifier .unreadable))
          store := by
  rw [loadFile, read, h]

/-- The load of an identifier that leads to a location inside of the directory ends as what stands
there says. -/
theorem loadFile_congr_files {location : Location} {entries : List (List String × File.Entry)}
    (h : store.resolve workspace identifier = .ok location)
    (hprobe : { workspace with entries }.probe location = workspace.probe location) :
    store.loadFile reporter { workspace with entries } identifier
      = store.loadFile reporter workspace identifier := by
  have hresolve : store.resolve { workspace with entries } identifier = .ok location := h
  have htext : { workspace with entries }.textOf = workspace.textOf := rfl
  have hread : store.read { workspace with entries } identifier
      = store.read workspace identifier := by
    rw [read, read, hresolve, h]
    dsimp only
    rw [readAt, readAt, hprobe, htext]
  rw [loadFile, loadFile, hread, htext]

/-- A load that is logged has found what it has found without the log. -/
theorem result_of_logged_eq_ok {event : StoreEvent} {result : Except Stop Template}
    {after : DirectoryStore} {template : Template}
    (h : (store.logged event result after).result = .ok template) : result = .ok template := by
  rw [logged] at h
  split at h
  · exact h
  · cases h

/-- It reports what is reported without the log, too. -/
theorem result_of_logged_eq_fault {event : StoreEvent} {result : Except Stop Template}
    {after : DirectoryStore} {fault : Fault}
    (h : (store.logged event result after).result = .error (.fault fault)) :
    result = .error (.fault fault) := by
  rw [logged] at h
  split at h
  · exact h
  · cases h

/-- A source that is read is the text of the file at its location. -/
theorem exists_file_of_readAt {location : Location} {source : String}
    (h : store.readAt workspace location = .ok (.ok source)) :
    ∃ bytes text, workspace.entryAt? location = some (.file bytes) ∧
      store.decode bytes = .ok (some text) ∧
      source = .ofList (Text.plainLines text.toList) := by
  rw [readAt] at h
  split at h
  · cases h
  · next bytes hprobe =>
    obtain ⟨decoded, hdecode, h⟩ := Except.bind_eq_ok.1 h
    cases decoded with
    | none => cases h
    | some text =>
      cases h
      exact ⟨bytes, text, Workspace.entryAt?_of_probe hprobe, hdecode, rfl⟩
  · cases h

/-- What keeps a location from being read is never that it is outside of the directory. -/
theorem readAt_ne_escapes (workspace : Workspace) (store : DirectoryStore) (location : Location) :
    store.readAt workspace location ≠ .ok (.error .escapes) := by
  intro h
  rw [readAt] at h
  split at h
  · cases h
  · obtain ⟨decoded, -, h⟩ := Except.bind_eq_ok.1 h
    cases decoded <;> cases h
  · cases h

/-- What the load of an identifier inside of the directory makes of what stands where it leads. -/
theorem loadFile_of_resolve {location : Location}
    (h : store.resolve workspace identifier = .ok location) :
    store.loadFile reporter workspace identifier
      = match store.readAt workspace location with
        | .error misuse => ⟨.error (.misuse misuse), [], store⟩
        | .ok (.error reason) =>
          store.logged (.missing identifier) (.error (absent reporter identifier reason)) store
        | .ok (.ok source) =>
          match Template.compile reporter (.text identifier) source with
          | .error reason => ⟨.error reason, [], store⟩
          | .ok template =>
            store.logged (.loaded identifier (workspace.textOf location)) (.ok template)
              (store.keep identifier template) := by
  have hread : store.read workspace identifier
      = (store.readAt workspace location).map (Except.map fun source => (location, source)) := by
    rw [read, h]
    dsimp only
    cases store.readAt workspace location <;> rfl
  have hinside := readAt_ne_escapes workspace store location
  rw [loadFile, hread]
  cases hfile : store.readAt workspace location with
  | error misuse => rfl
  | ok found =>
    cases found with
    | ok source => rfl
    | error reason =>
      cases reason with
      | escapes => exact absurd hfile hinside
      | unreadable | noFile => rfl

/-- A template that is read is that of the file to which its identifier leads. -/
theorem exists_file_of_loadFile {location : Location} {template : Template}
    (hresolve : store.resolve workspace identifier = .ok location)
    (h : (store.loadFile reporter workspace identifier).result = .ok template) :
    ∃ bytes text, workspace.entryAt? location = some (.file bytes) ∧
      store.decode bytes = .ok (some text) ∧
      Template.compile reporter (.text identifier) (.ofList (Text.plainLines text.toList))
        = .ok template := by
  rw [loadFile_of_resolve hresolve] at h
  split at h
  · cases h
  · cases result_of_logged_eq_ok h
  · next source hread =>
    obtain ⟨bytes, text, hentry, hdecode, rfl⟩ := exists_file_of_readAt hread
    refine ⟨bytes, text, hentry, hdecode, ?_⟩
    split at h
    · cases h
    · next compiled hcompile =>
      cases result_of_logged_eq_ok h
      exact hcompile

/-- Only what is inside of the directory is read. -/
theorem exists_resolve_of_loadFile {template : Template}
    (h : (store.loadFile reporter workspace identifier).result = .ok template) :
    ∃ location, store.resolve workspace identifier = .ok location := by
  cases hresolve : store.resolve workspace identifier with
  | ok location => exact ⟨location, rfl⟩
  | error reason =>
    have hrefused : store.read workspace identifier = .ok (.error reason) := by
      rw [read, hresolve]
    rw [loadFile, hrefused] at h
    split at h
    · cases h
    · cases h
    · cases result_of_logged_eq_ok h
    · next hread => cases hread

/-- A template that is not there is reported with the reason for that. -/
theorem detail_of_absent {reason : NoTemplate} {fault : Fault}
    (h : absent reporter identifier reason = .fault fault) :
    fault.detail = .text (reason.detail identifier) :=
  Reporter.detail_of_stop rfl h

/-- A template that is malformed is reported as such. -/
theorem code_of_compile {origin : Value} {source : String} {fault : Fault}
    (h : Template.compile reporter origin source = .error (.fault fault)) :
    fault.code = Code.templateParseError := by
  unfold Template.compile Template.readElements at h
  cases hread : Template.Element.ofSource source.toList with
  | ok elements =>
    rw [hread] at h
    cases h
  | error error =>
    rw [hread] at h
    exact Reporter.code_of_stop (Except.error.inj h)

/-- No other reason is told in the words that an identifier leads out of the directory in. -/
theorem detail_ne_escapes {reason : NoTemplate} (h : reason ≠ .escapes) :
    reason.detail identifier ≠ NoTemplate.escapes.detail identifier := by
  have hescapes : (NoTemplate.escapes.detail identifier).toList.head? = some 'I' := by
    show ("Identifier escapes the templates directory: " ++ identifier).toList.head? = _
    rw [String.toList_append]
    rfl
  intro heq
  rw [← heq] at hescapes
  cases reason with
  | escapes => exact h rfl
  | unreadable =>
    have hhead : ("Cannot read template '" ++ identifier ++ "': <reason>").toList.head?
        = some 'C' := by
      rw [String.toList_append, String.toList_append]
      rfl
    exact absurd (hhead.symm.trans hescapes) (by decide)
  | noFile location =>
    have hhead : ("No file at " ++ location).toList.head? = some 'N' := by
      rw [String.toList_append]
      rfl
    exact absurd (hhead.symm.trans hescapes) (by decide)

/-- Inside of the directory, no load ends with the report that the identifier leads out of it. -/
theorem loadFile_ne_escapes {location : Location} {fault : Fault}
    (hresolve : store.resolve workspace identifier = .ok location)
    (h : (store.loadFile reporter workspace identifier).result = .error (.fault fault))
    (hcode : fault.code = Code.templateNotFound) :
    fault.detail ≠ .text (NoTemplate.escapes.detail identifier) := by
  rw [loadFile_of_resolve hresolve] at h
  split at h
  · cases h
  · next reason hread =>
    have hreason : reason ≠ .escapes := by
      rintro rfl
      exact readAt_ne_escapes workspace store location hread
    have hfault := result_of_logged_eq_fault h
    rw [detail_of_absent (Except.error.inj hfault)]
    exact fun heq => detail_ne_escapes hreason (Value.text.inj heq)
  · split at h
    · next reason hcompile =>
      cases h
      exact absurd (hcode.symm.trans (code_of_compile hcompile)) (by decide)
    · cases result_of_logged_eq_fault h

/-! ## A directory in use -/

/-- A load leaves the store as it is, or keeps a template that was read. -/
theorem load_store_cases (reporter : Reporter) (workspace : Workspace) (store : DirectoryStore)
    (identifier : String) :
    (store.load reporter workspace identifier).store = store ∨
      ∃ template, (store.loadFile reporter workspace identifier).result = .ok template ∧
        (store.load reporter workspace identifier).store = store.keep identifier template := by
  obtain hsame | ⟨template, lines, hcaches, -, -, hload, hresult, hstore⟩ :=
    load_store_eq_or_kept reporter workspace store identifier
  · exact .inl hsame
  · exact .inr ⟨template, hresult, by rw [hload, hstore, keep, if_pos hcaches]⟩

/-- To keep a template changes the cache only. -/
theorem keep_eq (store : DirectoryStore) (identifier : String) (template : Template) :
    store.keep identifier template
      = { store with cache := (store.keep identifier template).cache } := by
  rw [keep]
  split <;> rfl

/-- What is kept under an identifier was there, or is what it is now kept for. -/
theorem lookup_keep {identifier other : String} {kept template : Template}
    (h : (store.keep identifier template).cache.lookup other = some kept) :
    store.cache.lookup other = some kept ∨ other = identifier ∧ kept = template := by
  rw [keep] at h
  split at h
  · rw [List.lookup_append, Option.or_eq_some_iff] at h
    obtain hbefore | ⟨-, hnew⟩ := h
    · exact .inl hbefore
    · rw [List.lookup_cons] at hnew
      split at hnew
      · next hsame =>
        cases hnew
        exact .inr ⟨by simpa using hsame, rfl⟩
      · cases hnew
  · exact .inl h

/-- The store is the one that was there first, but for its cache, and so is the place where the
program works. Nothing is kept under an identifier that is refused. -/
structure Guarded (workspace : Workspace) (store : DirectoryStore) (shelf : Shelf) : Prop where
  settings : shelf.store = { store with cache := shelf.store.cache }
  place : shelf.workspace.place = workspace.place
  kept : ∀ identifier template, shelf.store.cache.lookup identifier = some template →
    ∃ location, shelf.store.resolve shelf.workspace identifier = .ok location

namespace Guarded

variable {shelf : Shelf}

/-- Where nothing is kept, nothing that is refused is. -/
theorem of_fresh (workspace : Workspace) (hfresh : store.cache = []) :
    Guarded workspace store ⟨workspace, store⟩ := by
  refine ⟨rfl, rfl, fun identifier template hkept => ?_⟩
  rw [hfresh] at hkept
  cases hkept

/-- Every action keeps the invariant. -/
theorem act (h : Guarded workspace store shelf) (reporter : Reporter) (action : Action) :
    Guarded workspace store (act reporter shelf action).2 := by
  cases action with
  | change entries => exact ⟨h.settings, h.place, h.kept⟩
  | invalidate dropped =>
    cases dropped with
    | none =>
      refine ⟨?_, h.place, fun identifier template hkept => by cases hkept⟩
      rw [DirectoryStore.act, invalidate, h.settings]
    | some dropped =>
      refine ⟨?_, h.place, fun identifier template hkept => ?_⟩
      · rw [DirectoryStore.act, invalidate, h.settings]
      -- what is still kept was kept before
      have hlookup := (lookup_filter shelf.store.cache dropped identifier).symm.trans hkept
      split at hlookup
      · cases hlookup
      · exact h.kept identifier template hlookup
  | load identifier =>
    obtain hsame | ⟨template, hread, hkeep⟩ :=
      load_store_cases reporter shelf.workspace shelf.store identifier
    · simp only [DirectoryStore.act, hsame]
      exact h
    · have hsettings := keep_eq shelf.store identifier template
      simp only [DirectoryStore.act, hkeep]
      refine ⟨?_, h.place, fun other found hfound => ?_⟩
      · rw [hsettings, h.settings]
      -- keeping a template does not change where identifiers lead
      have hresolve : (shelf.store.keep identifier template).resolve shelf.workspace other
          = shelf.store.resolve shelf.workspace other := by
        rw [hsettings]
        rfl
      rw [hresolve]
      obtain hkept | ⟨rfl, -⟩ := lookup_keep hfound
      · exact h.kept other found hkept
      · exact exists_resolve_of_loadFile hread

/-- So does every run. -/
theorem run (h : Guarded workspace store shelf) (reporter : Reporter) (actions : List Action) :
    Guarded workspace store (run reporter shelf actions).2 := by
  induction actions generalizing shelf with
  | nil => exact h
  | cons action rest ih => exact ih (h.act reporter action)

end Guarded

/-- What is refused is not kept, so a load of it goes to the files. -/
theorem Guarded.load_eq_loadFile {shelf : Shelf} (h : Guarded workspace store shelf)
    {reason : NoTemplate}
    (hrefused : shelf.store.resolve shelf.workspace identifier = .error reason)
    (reporter : Reporter) (files : Workspace) :
    shelf.store.load reporter files identifier
      = shelf.store.loadFile reporter files identifier := by
  refine load_of_lookup_none (Option.eq_none_iff_forall_ne_some.2 fun template hkept => ?_)
  obtain ⟨location, hlocation⟩ := h.kept identifier template hkept
  rw [hrefused] at hlocation
  cases hlocation

/-! ## Containment -/

/-- A load of an identifier has to do with one location only. -/
structure AnswersFrom (reporter : Reporter) (shelf : Shelf) (identifier : String)
    (location : Location) : Prop where
  /-- The load does not end with the report that the identifier leads out of the directory. -/
  ne_escapes : ∀ fault,
    (shelf.store.load reporter shelf.workspace identifier).result = .error (.fault fault) →
    fault.code = Code.templateNotFound →
    fault.detail ≠ .text ("Identifier escapes the templates directory: " ++ identifier)
  /-- Among other files, the load ends in the same way if the same is found at the location. -/
  load_congr : ∀ entries,
    { shelf.workspace with entries }.probe location = shelf.workspace.probe location →
    shelf.store.load reporter { shelf.workspace with entries } identifier
      = shelf.store.load reporter shelf.workspace identifier
  /-- A template that was not kept is that of the file at the location. -/
  exists_file : shelf.store.cache.lookup identifier = none → ∀ template,
    (shelf.store.load reporter shelf.workspace identifier).result = .ok template →
    ∃ bytes text, shelf.workspace.entryAt? location = some (.file bytes) ∧
      shelf.store.decode bytes = .ok (some text) ∧
      Template.compile reporter (.text identifier) (.ofList (Text.plainLines text.toList))
        = .ok template

/-- The load of an identifier that leads to a location inside of the directory has to do with that
location only. -/
theorem answersFrom_of_resolve (reporter : Reporter) {shelf : Shelf} {location : Location}
    (h : shelf.store.resolve shelf.workspace identifier = .ok location) :
    AnswersFrom reporter shelf identifier location where
  ne_escapes fault hfault hcode := by
    rw [load] at hfault
    split at hfault
    · cases result_of_logged_eq_fault hfault
    · exact loadFile_ne_escapes h hfault hcode
  load_congr entries hprobe := by
    rw [load, load, loadFile_congr_files h hprobe]
  exists_file hlookup template htemplate := by
    rw [load_of_lookup_none hlookup] at htemplate
    exact exists_file_of_loadFile h htemplate

/-- That there is no template can be reported, whatever the reason. -/
theorem exists_absent (h : reporter.registry = .builtin) (identifier : String)
    (reason : NoTemplate) : ∃ fault, absent reporter identifier reason = .fault fault ∧
      fault.code = Code.templateNotFound := by
  obtain ⟨fault, hfault⟩ : ∃ fault, absent reporter identifier reason = .fault fault := by
    obtain ⟨_, now⟩ := reporter
    subst h
    exact ⟨_, rfl⟩
  exact ⟨fault, hfault, Reporter.code_of_stop hfault⟩

/-- The report that an identifier leads out of the directory, in the usual words. -/
theorem exists_escapes (h : reporter.registry = .builtin) (identifier : String) :
    ∃ fault, absent reporter identifier .escapes = .fault fault ∧
      fault.code = Code.templateNotFound ∧
      fault.detail = .text ("Identifier escapes the templates directory: " ++ identifier) := by
  obtain ⟨fault, hfault, hcode⟩ := exists_absent h identifier .escapes
  exact ⟨fault, hfault, hcode, detail_of_absent hfault⟩

/-- After any run of a directory, under any path and with any files: an identifier that leads out
of the directory is refused in these words, whatever files there are, so that none is read. One that
leads to a place inside is never refused so, and its load has to do with that place only. A
directory whose own path cannot be followed has neither an inside nor an outside, and reads no
file. -/
theorem load_contained (reporter : Reporter) (workspace : Workspace) (store : DirectoryStore)
    (hfresh : store.cache = []) (directory : String) (hpath : store.path = .ofString directory)
    (actions : List Action) (identifier : String) (hidentifier : '\x00' ∉ identifier.toList) :
    let shelf := (DirectoryStore.run reporter ⟨workspace, store⟩ actions).2
    let root := normalized workspace.place.parts directory
    let place := normalized root identifier
    ('\x00' ∉ directory.toList → ¬ root <+: place →
      (∀ entries, shelf.store.load reporter { shelf.workspace with entries } identifier
        = ⟨.error (absent reporter identifier .escapes), [], shelf.store⟩) ∧
      (reporter.registry = .builtin → ∃ fault,
        absent reporter identifier .escapes = .fault fault ∧
        fault.code = Code.templateNotFound ∧
        fault.detail = .text ("Identifier escapes the templates directory: " ++ identifier))) ∧
    ('\x00' ∉ directory.toList → root <+: place →
      ∃ location : Location, location.parts = place ∧
        AnswersFrom reporter shelf identifier location) ∧
    ('\x00' ∈ directory.toList → ∀ entries,
      shelf.store.load reporter { shelf.workspace with entries } identifier
        = shelf.store.logged (.missing identifier)
            (.error (absent reporter identifier .unreadable)) shelf.store) := by
  have hrun := (Guarded.of_fresh workspace hfresh).run reporter actions
  generalize DirectoryStore.run reporter ⟨workspace, store⟩ actions = ran at hrun ⊢
  obtain ⟨past, shelf⟩ := ran
  dsimp only at hrun ⊢
  have hshelf : shelf.store.path = .ofString directory := by
    rw [hrun.settings]
    exact hpath
  -- no action of the run moves the directory or the place to look from
  rw [← hrun.place]
  refine ⟨fun hdirectory hout => ⟨fun entries => ?_, fun hbuiltin => ?_⟩,
    fun hdirectory hin => ?_, fun hdirectory entries => ?_⟩
  · obtain ⟨location, hplace, hresolve⟩ :=
      resolve_eq shelf.workspace hshelf hdirectory hidentifier
    rw [hplace, if_neg hout] at hresolve
    rw [hrun.load_eq_loadFile hresolve, loadFile_of_outside]
    exact hresolve
  · exact exists_escapes hbuiltin identifier
  · obtain ⟨location, hplace, hresolve⟩ :=
      resolve_eq shelf.workspace hshelf hdirectory hidentifier
    rw [hplace, if_pos hin] at hresolve
    exact ⟨location, hplace, answersFrom_of_resolve reporter hresolve⟩
  · have hresolve : shelf.store.resolve shelf.workspace identifier = .error .unreadable :=
      resolve_of_nul hshelf hdirectory
    rw [hrun.load_eq_loadFile hresolve, loadFile_of_unreadable]
    exact hresolve

/-- A directory with a name that only starts like the name of the pages is outside of them, and a
path that leaves the pages and comes back is inside. -/
theorem neighbours_contained :
    pages.load ⟨.builtin, default⟩ onePage "../pages-old/a"
        = ⟨.error (absent ⟨.builtin, default⟩ "../pages-old/a" .escapes), [], pages⟩ ∧
      ∃ location : Location, location.parts = ["srv", "pages", "a"] ∧
        AnswersFrom ⟨.builtin, default⟩ ⟨onePage, pages⟩ "./..//pages/a" location := by
  have hroot : normalized onePage.place.parts "pages" = ["srv", "pages"] := by decide +kernel
  have hdirectory : '\x00' ∉ "pages".toList := by decide
  constructor
  · have hout : normalized ["srv", "pages"] "../pages-old/a" = ["srv", "pages-old", "a"] := by
      decide +kernel
    refine ((load_contained ⟨.builtin, default⟩ onePage pages rfl "pages" rfl []
      "../pages-old/a" (by decide)).1 hdirectory ?_).1 onePage.entries
    rw [hroot, hout]
    decide
  · have hin : normalized ["srv", "pages"] "./..//pages/a" = ["srv", "pages", "a"] := by
      decide +kernel
    obtain ⟨location, hplace, hanswers⟩ := (load_contained ⟨.builtin, default⟩ onePage pages rfl
      "pages" rfl [] "./..//pages/a" (by decide)).2.1 hdirectory (by rw [hroot, hin]; decide)
    rw [hroot, hin] at hplace
    exact ⟨location, hplace, hanswers⟩

end Inlay.DirectoryStore
