import Inlay.Proofs.Store.Containment

/-!
# What a directory logs

A load of a directory ends in one of six ways (`Access`), and each of them has its own entries: one
for a template that was kept, one for a template that was read, one for a template that is not
there, and none for a malformed source. An identifier that leads out of the directory is the
exception: it is reported like a template that is not there, and nothing is logged of it.

Which of the ways it is can be told from what happened before and from where the identifier leads,
so after any run the log accounts for the next load (`load_accounted`).
-/

namespace Inlay.DirectoryStore

open File Log

variable {reporter : Reporter} {workspace : Workspace} {store : DirectoryStore}
  {identifier : String}

/-! ## Entries of a load -/

/-- The store has a logger that writes every event of stores. -/
def TellsAll (store : DirectoryStore) : Prop :=
  ∃ logger, store.logger = some logger ∧ logger.level = .debug ∧
    (logger.components.lookup "store").getD true = true

/-- Each event is written as one entry. -/
theorem TellsAll.entries_of_note (h : store.TellsAll) {event : StoreEvent} {lines : List Line}
    (hnote : store.note event = .ok lines) : lines.map Line.entry = [event.entry] := by
  obtain ⟨logger, hlogger, hlevel, hstore⟩ := h
  have hcomponent : event.entry.component = "store" := by cases event <;> rfl
  have haccepts : logger.accepts event.entry = true :=
    Logger.accepts_of_debug hlevel (by rw [hcomponent, hstore])
  rw [note, hlogger] at hnote
  dsimp only at hnote
  rw [Logger.write, if_pos haccepts] at hnote
  obtain ⟨text, -, hlines⟩ := Except.bind_eq_ok.1 hnote
  cases hlines
  rfl

/-- A template is kept under the identifier, and it is asked for. -/
def Keeps (store : DirectoryStore) (identifier : String) : Prop :=
  store.caches = true ∧ (store.cache.lookup identifier).isSome = true

/-- The ways in which a load may end, each with the entries that are logged of it. -/
inductive Access (reporter : Reporter) (workspace : Workspace) (store : DirectoryStore)
    (identifier : String) : Except Stop Template → List Log.Entry → Prop where
  | hit {template : Template} (hkeeps : store.Keeps identifier) :
      Access reporter workspace store identifier (.ok template)
        [(StoreEvent.cacheHit identifier).entry]
  | loaded {template : Template} {location : Location} (hkeeps : ¬ store.Keeps identifier)
      (hresolve : store.resolve workspace identifier = .ok location) :
      Access reporter workspace store identifier (.ok template)
        [(StoreEvent.loaded identifier (workspace.textOf location)).entry]
  | missing {reason : NoTemplate}
      (hresolve : store.resolve workspace identifier ≠ .error .escapes) :
      Access reporter workspace store identifier (.error (absent reporter identifier reason))
        [(StoreEvent.missing identifier).entry]
  /-- The identifier leads out of the directory. -/
  | outside (hresolve : store.resolve workspace identifier = .error .escapes) :
      Access reporter workspace store identifier (.error (absent reporter identifier .escapes)) []
  | malformed {source : String} {reason : Stop}
      (hcompile : Template.compile reporter (.text identifier) source = .error reason) :
      Access reporter workspace store identifier (.error reason) []
  /-- The encoding of the files is not known, or the logger cannot write the event. -/
  | misused {misuse : Misuse} :
      Access reporter workspace store identifier (.error (.misuse misuse)) []

/-- A load that tells an event ends as it would without a logger, unless that stops it. -/
theorem TellsAll.access_logged (h : store.TellsAll) {event : StoreEvent}
    {result : Except Stop Template}
    (haccess : Access reporter workspace store identifier result [event.entry])
    (after : DirectoryStore) :
    Access reporter workspace store identifier (store.logged event result after).result
      ((store.logged event result after).lines.map Line.entry) := by
  rw [logged]
  cases hnote : store.note event with
  | error misuse => exact .misused
  | ok lines =>
    dsimp only
    rwa [h.entries_of_note hnote]

/-- A load of a file ends in one of the ways for templates that are not kept. -/
theorem TellsAll.access_loadFile (h : store.TellsAll) (reporter : Reporter)
    (workspace : Workspace) (hkeeps : ¬ store.Keeps identifier) :
    Access reporter workspace store identifier
      (store.loadFile reporter workspace identifier).result
      ((store.loadFile reporter workspace identifier).lines.map Line.entry) := by
  cases hresolve : store.resolve workspace identifier with
  | error reason =>
    cases reason with
    | escapes =>
      rw [loadFile_of_outside hresolve]
      exact .outside hresolve
    | unreadable | noFile =>
      rw [loadFile, read, hresolve]
      exact h.access_logged (.missing (by simp [hresolve])) store
  | ok location =>
    rw [loadFile_of_resolve hresolve]
    split
    · exact .misused
    · exact h.access_logged (.missing (by simp [hresolve])) store
    · split
      · next hcompile => exact .malformed hcompile
      · exact h.access_logged (.loaded hkeeps hresolve) _

/-- What a load looks for first is whether the template is kept. -/
theorem keeps_iff :
    store.Keeps identifier ↔
      (if store.caches then store.cache.lookup identifier else none).isSome = true := by
  unfold Keeps
  cases store.caches <;> simp

/-- What is not kept is read from its file. -/
theorem load_of_not_keeps (h : ¬ store.Keeps identifier) :
    store.load reporter workspace identifier = store.loadFile reporter workspace identifier := by
  rw [keeps_iff, Option.not_isSome_iff_eq_none] at h
  rw [load, h]

/-- Every load ends in one of the ways. -/
theorem TellsAll.access_load (h : store.TellsAll) (reporter : Reporter) (workspace : Workspace)
    (identifier : String) :
    Access reporter workspace store identifier
      (store.load reporter workspace identifier).result
      ((store.load reporter workspace identifier).lines.map Line.entry) := by
  by_cases hkeeps : store.Keeps identifier
  · obtain ⟨template, hkept⟩ := Option.isSome_iff_exists.1 (keeps_iff.1 hkeeps)
    rw [load, hkept]
    exact h.access_logged (.hit hkeeps) store
  · rw [load_of_not_keeps hkeeps]
    exact h.access_loadFile reporter workspace hkeeps

/-- A template that was not kept is that of the file to which the identifier leads. -/
theorem exists_file_of_not_keeps {template : Template} (hkeeps : ¬ store.Keeps identifier)
    (h : (store.load reporter workspace identifier).result = .ok template) :
    ∃ location bytes text, store.resolve workspace identifier = .ok location ∧
      workspace.entryAt? location = some (.file bytes) ∧ store.decode bytes = .ok (some text) ∧
      Template.compile reporter (.text identifier) (.ofList (Text.plainLines text.toList))
        = .ok template := by
  rw [load_of_not_keeps hkeeps] at h
  obtain ⟨location, hresolve⟩ := exists_resolve_of_loadFile h
  obtain ⟨bytes, text, hfile⟩ := exists_file_of_loadFile hresolve h
  exact ⟨location, bytes, text, hresolve, hfile⟩

namespace Access

variable {result : Except Stop Template} {written : List Log.Entry}

/-- A hit is logged exactly if the template was kept. -/
theorem hit_iff (h : Access reporter workspace store identifier result written) :
    written = [(StoreEvent.cacheHit identifier).entry] ↔
      (∃ template, result = .ok template) ∧ store.Keeps identifier := by
  cases h with
  | hit hkeeps => simp [hkeeps]
  | loaded hkeeps => simp [hkeeps, StoreEvent.entry]
  | missing => simp [StoreEvent.entry]
  | outside | malformed | misused => simp

/-- That a template was read is logged exactly if it was not kept and there is one. -/
theorem loaded_iff (h : Access reporter workspace store identifier result written) :
    (∃ location, store.resolve workspace identifier = .ok location ∧
      written = [(StoreEvent.loaded identifier (workspace.textOf location)).entry]) ↔
        (∃ template, result = .ok template) ∧ ¬ store.Keeps identifier := by
  cases h with
  | hit hkeeps => simp [hkeeps, StoreEvent.entry]
  | loaded hkeeps hresolve => simp [hkeeps, hresolve]
  | missing => simp [StoreEvent.entry]
  | outside | malformed | misused => simp

/-- That a source is malformed is not reported as that there is no template. -/
theorem code_of_malformed {origin : Value} {source : String} {reason : Stop} {fault : Fault}
    (hcompile : Template.compile reporter origin source = .error reason)
    (hfault : reason = .fault fault) : fault.code ≠ Code.templateNotFound := by
  rw [hfault] at hcompile
  rw [code_of_compile hcompile]
  decide

/-- That none is there is logged exactly if this is reported and the identifier does not lead out.
-/
theorem missing_iff (h : Access reporter workspace store identifier result written)
    (hbuiltin : reporter.registry = .builtin) :
    written = [(StoreEvent.missing identifier).entry] ↔
      (∃ fault, result = .error (.fault fault) ∧ fault.code = Code.templateNotFound) ∧
        store.resolve workspace identifier ≠ .error .escapes := by
  cases h with
  | hit | loaded => simp [StoreEvent.entry]
  | @missing reason hresolve =>
    obtain ⟨fault, hfault, hcode⟩ := exists_absent hbuiltin identifier reason
    simp [hresolve, hfault, hcode]
  | outside hresolve => simp [hresolve]
  | malformed hcompile =>
    refine iff_of_false (by simp) ?_
    rintro ⟨⟨fault, hfault, hcode⟩, -⟩
    exact code_of_malformed hcompile (Except.error.inj hfault) hcode
  | misused => simp

/-- Nothing is logged of a source that is malformed. -/
theorem not_written_of_malformed (h : Access reporter workspace store identifier result written)
    {fault : Fault} (hfault : result = .error (.fault fault))
    (hcode : fault.code = Code.templateParseError) : written = [] := by
  cases h with
  | hit | loaded => cases hfault
  | missing =>
    have habsent := Reporter.code_of_stop (Except.error.inj hfault)
    exact absurd (habsent.symm.trans hcode) (by decide)
  | outside | malformed | misused => rfl

end Access

/-! ## A directory in use -/

/-- What is kept and asked for is what the past makes one remember. -/
theorem keeps_run_iff (reporter : Reporter) (workspace : Workspace) (hfresh : store.cache = [])
    (actions : List Action) :
    (run reporter ⟨workspace, store⟩ actions).2.store.Keeps identifier ↔
      store.caches = true ∧
        (remembered identifier (run reporter ⟨workspace, store⟩ actions).1).isSome = true := by
  have hsettings := ((Guarded.of_fresh workspace hfresh).run reporter actions).settings
  have hcaches : (run reporter ⟨workspace, store⟩ actions).2.store.caches = store.caches := by
    rw [hsettings]
  rw [Keeps, hcaches]
  refine and_congr_right fun h => ?_
  have hrun := (Faithful.of_fresh workspace hfresh).run h reporter actions
  rw [List.nil_append] at hrun
  rw [hrun.cache]

/-- After any run, the log accounts for the next load. A template that is given was in the cache, or
was read from its file and compiled, and which of the two is told; that there is no template is told
unless the identifier leads out of the directory. Of a malformed source, nothing is told. -/
theorem load_accounted (reporter : Reporter) (hbuiltin : reporter.registry = .builtin)
    (workspace : Workspace) (store : DirectoryStore) (hfresh : store.cache = [])
    (htells : store.TellsAll) (actions : List Action) (identifier : String) :
    let (past, shelf) := run reporter ⟨workspace, store⟩ actions
    let loading := shelf.store.load reporter shelf.workspace identifier
    let written := loading.lines.map Line.entry
    let served := store.caches = true ∧ (remembered identifier past).isSome = true
    let gives := ∃ template, loading.result = .ok template
    let raises (code : String) :=
      ∃ fault, loading.result = .error (.fault fault) ∧ fault.code = code
    let outside := shelf.store.resolve shelf.workspace identifier = .error .escapes
    (written = [(StoreEvent.cacheHit identifier).entry] ↔ gives ∧ served) ∧
    ((∃ location, shelf.store.resolve shelf.workspace identifier = .ok location ∧
      written = [(StoreEvent.loaded identifier (shelf.workspace.textOf location)).entry]) ↔
        gives ∧ ¬ served) ∧
    (∀ template, loading.result = .ok template → ¬ served → ∃ location bytes text,
      shelf.store.resolve shelf.workspace identifier = .ok location ∧
      shelf.workspace.entryAt? location = some (.file bytes) ∧
      shelf.store.decode bytes = .ok (some text) ∧
      Template.compile reporter (.text identifier) (.ofList (Text.plainLines text.toList))
        = .ok template) ∧
    (written = [(StoreEvent.missing identifier).entry] ↔
      raises Code.templateNotFound ∧ ¬ outside) ∧
    (outside → raises Code.templateNotFound ∧ written = []) ∧
    (raises Code.templateParseError → written = []) := by
  have hguarded := (Guarded.of_fresh workspace hfresh).run reporter actions
  have hkeeps := @keeps_run_iff store identifier reporter workspace hfresh actions
  generalize DirectoryStore.run reporter ⟨workspace, store⟩ actions = ran at hguarded hkeeps ⊢
  obtain ⟨past, shelf⟩ := ran
  dsimp only at hguarded hkeeps ⊢
  have htold : shelf.store.TellsAll := by
    rw [hguarded.settings]
    exact htells
  -- each of the statements is about one of the ways in which a load may end
  have haccess := htold.access_load reporter shelf.workspace identifier
  rw [← hkeeps]
  refine ⟨haccess.hit_iff, haccess.loaded_iff, fun template hgiven hunkept =>
    exists_file_of_not_keeps hunkept hgiven, haccess.missing_iff hbuiltin, fun houtside => ?_, ?_⟩
  · obtain ⟨fault, hfault, hcode⟩ := exists_absent hbuiltin identifier .escapes
    rw [hguarded.load_eq_loadFile houtside, loadFile_of_outside houtside, hfault]
    exact ⟨⟨fault, rfl, hcode⟩, rfl⟩
  · rintro ⟨fault, hfault, hcode⟩
    exact haccess.not_written_of_malformed hfault hcode

/-- The directory of pages with a logger that writes everything. -/
def toldPages : DirectoryStore := { pages with logger := some { level := .debug, now := default } }

/-- The directory logs down to the lowest level. -/
theorem toldPages_tellsAll : toldPages.TellsAll := ⟨_, rfl, rfl, rfl⟩

/-- A page beside the directory is reported as missing, and nothing is logged of it. -/
theorem neighbour_untold :
    let loading := toldPages.load ⟨.builtin, default⟩ onePage "../a"
    toldPages.TellsAll ∧
      (∃ fault, loading.result = .error (.fault fault) ∧ fault.code = Code.templateNotFound) ∧
      loading.lines = [] := by
  have houtside : toldPages.resolve onePage "../a" = .error .escapes := by rfl
  obtain ⟨fault, hfault, hcode⟩ := @exists_absent ⟨.builtin, default⟩ rfl "../a" .escapes
  have hload : toldPages.load ⟨.builtin, default⟩ onePage "../a"
      = ⟨.error (.fault fault), [], toldPages⟩ := by
    rw [load_of_lookup_none rfl, loadFile_of_outside houtside, hfault]
  rw [hload]
  exact ⟨toldPages_tellsAll, ⟨fault, rfl, hcode⟩, rfl⟩

/-- The second load of a page is logged as one from the cache. -/
theorem second_load_accounted :
    let (past, shelf) := run ⟨.builtin, default⟩ ⟨onePage, toldPages⟩ [.load "a"]
    toldPages.TellsAll ∧ (remembered "a" past).isSome = true ∧
      (shelf.store.load ⟨.builtin, default⟩ shelf.workspace "a").lines.map Line.entry
        = [(StoreEvent.cacheHit "a").entry] := by
  have hremembered : (remembered "a" (run ⟨.builtin, default⟩ ⟨onePage, toldPages⟩
      [.load "a"]).1).isSome = true := by
    decide +kernel
  have hok : ((run ⟨.builtin, default⟩ ⟨onePage, toldPages⟩ [.load "a"]).2.store.load
      ⟨.builtin, default⟩ onePage "a").result.isOk = true := by
    decide +kernel
  have hgives : ∀ result : Except Stop Template, result.isOk = true →
      ∃ template, result = .ok template := by
    rintro (reason | template) hresult
    · cases hresult
    · exact ⟨template, rfl⟩
  exact ⟨toldPages_tellsAll, hremembered, (load_accounted ⟨.builtin, default⟩ rfl onePage toldPages
    rfl toldPages_tellsAll [.load "a"] "a").1.2 ⟨hgives _ hok, rfl, hremembered⟩⟩

end Inlay.DirectoryStore
