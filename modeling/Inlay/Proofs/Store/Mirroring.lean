import Inlay.Proofs.File.Holding
import Inlay.Proofs.Store.Containment

/-!
# A directory with the templates in memory

Sources may be registered in memory, or written to files below a directory. Of all identifiers that
are canonical, both stores then have the same templates. The invariant `Mirrors` says that a
directory is such a mirror of what is in memory, with what it has kept so far. A load under any
identifier keeps it (`Mirrors.load_store`), and so does every run (`Mirrors.run`) as long as the
files stay as they are. A load under a canonical identifier ends as it does in memory, but for the
detail of the report that there is no template (`Mirrors.load_result`).
-/

namespace Inlay

/-! ## Sources in UTF-8 -/

namespace Text

/-- A text that was written as UTF-8 is read back. -/
theorem decode?_toUTF8 (source : String) : Encoding.utf8.decode? source.toUTF8 = some source := by
  show String.fromUTF8? source.toByteArray = some source
  rw [String.fromUTF8?, dif_pos source.isValidUTF8]
  rfl

/-- Lines that are ended by line feeds alone stay as they are. -/
theorem plainLines_eq {chars : List Char} (h : '\r' ∉ chars) : plainLines chars = chars := by
  induction chars with
  | nil => rfl
  | cons c rest ih =>
    obtain ⟨hc, hrest⟩ := not_or.1 (mt List.mem_cons.2 h)
    have hplain : plainLines (c :: rest) = c :: plainLines rest := by
      rw [plainLines.eq_def]
      split
      · next heq => cases heq
      · next heq => cases heq; exact absurd rfl hc
      · next heq => cases heq; exact absurd rfl hc
      · next heq => cases heq; rfl
    rw [hplain, ih hrest]

end Text

/-! ## Templates in memory -/

namespace MemoryStore

theorem lookup_cons (name other : String) (template : Template)
    (entries : List (String × Template)) :
    List.lookup other ((name, template) :: entries)
      = if other = name then some template else entries.lookup other := by
  by_cases hother : other = name
  · rw [if_pos hother, hother, List.lookup_cons_self]
  · have hne : (other == name) = false := by simpa using hother
    rw [if_neg hother, List.lookup_cons, hne]

/-- An entry is found under its own name, and all others as before. -/
theorem lookup_put (identifier other : String) (template : Template)
    (entries : List (String × Template)) :
    (put identifier template entries).lookup other
      = if other = identifier then some template else entries.lookup other := by
  induction entries with
  | nil => exact lookup_cons identifier other template []
  | cons entry rest ih =>
    obtain ⟨name, found⟩ := entry
    rw [put]
    by_cases hname : name = identifier
    · rw [if_pos hname, lookup_cons, lookup_cons, hname]
      by_cases hother : other = identifier <;> simp [hother]
    · rw [if_neg hname, lookup_cons, lookup_cons, ih]
      by_cases hother : other = name
      · rw [if_pos hother, if_pos hother, if_neg (hother ▸ hname)]
      · rw [if_neg hother, if_neg hother]

/-- The sources that are registered in a row are there, each under its identifier, if no identifier
is given twice. Other identifiers are not. -/
theorem find?_ofList {reporter : Reporter} {files : List (String × String)}
    (hnames : (files.map Prod.fst).Nodup) {memory : MemoryStore}
    (h : ofList reporter (files.map fun file => (file.1, .source file.2)) = .ok memory) :
    (∀ file ∈ files, ∃ template, Template.compile reporter (.text file.1) file.2 = .ok template ∧
      memory.find? file.1 = some template) ∧
    ∀ identifier, (∀ file ∈ files, file.1 ≠ identifier) → memory.find? identifier = none := by
  -- what is registered later leaves alone what is there under other identifiers
  have hfold : ∀ start : MemoryStore,
      (files.map fun file => (file.1, Registrable.source file.2)).foldlM
        (fun store entry => do return (← store.register reporter entry.1 entry.2).1) start
        = Except.ok memory →
      (∀ file ∈ files, ∃ template, Template.compile reporter (.text file.1) file.2 = .ok template ∧
        memory.find? file.1 = some template) ∧
      ∀ identifier, (∀ file ∈ files, file.1 ≠ identifier) →
        memory.find? identifier = start.find? identifier := by
    clear h
    induction files with
    | nil =>
      intro start h
      cases h
      exact ⟨fun _ hmem => (nomatch hmem), fun _ _ => rfl⟩
    | cons file rest ih =>
      intro start h
      obtain ⟨hfresh, hrest⟩ := List.nodup_cons.1 hnames
      rw [List.map_cons, List.foldlM_cons] at h
      obtain ⟨after, hafter, hlater⟩ := Except.bind_eq_ok.1 h
      obtain ⟨⟨_, template⟩, hregister, hstore⟩ := Except.bind_eq_ok.1 hafter
      obtain ⟨_, hcompile, hboth⟩ := Except.bind_eq_ok.1 hregister
      cases hboth
      cases hstore
      have hput : ∀ other, (start.insert file.1 template).find? other
          = if other = file.1 then some template else start.find? other :=
        fun other => lookup_put file.1 other template start.entries
      obtain ⟨hthere, hothers⟩ := ih hrest _ hlater
      refine ⟨List.forall_mem_cons.2 ⟨⟨template, hcompile, ?_⟩, hthere⟩,
        fun identifier hidentifier => ?_⟩
      · have hnot : ∀ other ∈ rest, other.1 ≠ file.1 := fun other hother hsame =>
          hfresh (List.mem_map.2 ⟨other, hother, hsame⟩)
        rw [hothers file.1 hnot, hput, if_pos rfl]
      · obtain ⟨hfirst, hlast⟩ := List.forall_mem_cons.1 hidentifier
        rw [hothers identifier hlast, hput, if_neg (Ne.symm hfirst)]
  exact hfold {} h

end MemoryStore

namespace DirectoryStore

open File Log

section

variable {workspace : Workspace} {store : DirectoryStore} {identifier : String}

/-- Nothing keeps an event from being logged by a logger that can write whatever it is told. -/
theorem exists_logged (h : ∀ logger ∈ store.logger, logger.NeverStops) (event : StoreEvent)
    (result : Except Stop Template) (after : DirectoryStore) :
    ∃ lines, store.logged event result after = ⟨result, lines, after⟩ := by
  obtain ⟨lines, hlines⟩ : ∃ lines, store.note event = .ok lines := by
    unfold note
    cases hlogger : store.logger with
    | none => exact ⟨[], rfl⟩
    | some logger => exact h logger hlogger event.entry
  exact ⟨lines, by rw [logged, hlines]⟩

/-- A canonical identifier leads to a place inside of the directory. -/
theorem exists_resolve_of_canonical (h : store.path.hasNul = false)
    (hidentifier : Canonical identifier) :
    ∃ location : Location, store.resolve workspace identifier = .ok location ∧
      location.parts = (workspace.locate store.path).parts ++ components identifier := by
  obtain ⟨location, hparts, hresolve⟩ := exists_resolve_eq workspace h hidentifier.2
  rw [hidentifier.normalized_eq] at hparts
  rw [hparts, if_pos (List.prefix_append ..)] at hresolve
  exact ⟨location, hresolve, hparts⟩

end

/-- The directory can be followed and is read in UTF-8, the logger can write whatever it is told,
and the files below the directory are these, with lines that are ended by line feeds alone. -/
structure Serves (workspace : Workspace) (files : List (String × String))
    (store : DirectoryStore) : Prop where
  path : store.path.hasNul = false
  decodes : ∀ bytes, store.decode bytes = .ok (Text.Encoding.utf8.decode? bytes)
  logs : ∀ logger ∈ store.logger, logger.NeverStops
  holds : workspace.Holds (workspace.locate store.path) files
  plain : ∀ file ∈ files, '\r' ∉ file.2.toList

namespace Serves

variable {reporter : Reporter} {workspace : Workspace} {files : List (String × String)}
  {store : DirectoryStore} {identifier : String}

/-- What is kept makes no difference. -/
theorem of_cache (h : Serves workspace files store) (cache : List (String × Template)) :
    Serves workspace files { store with cache } := ⟨h.path, h.decodes, h.logs, h.holds, h.plain⟩

/-- A file is read and compiled under its identifier. -/
theorem loadFile_of_mem (h : Serves workspace files store) {file : String × String}
    (hfile : file ∈ files) (hidentifier : Canonical file.1) {template : Template}
    (hcompile : Template.compile reporter (.text file.1) file.2 = .ok template) :
    ∃ lines, store.loadFile reporter workspace file.1
      = ⟨.ok template, lines, store.keep file.1 template⟩ := by
  obtain ⟨location, hresolve, hparts⟩ := exists_resolve_of_canonical h.path hidentifier
  have hread : store.readAt workspace location = .ok (.ok file.2) := by
    rw [readAt, h.holds.probe_of_mem hfile hparts]
    dsimp only
    rw [h.decodes, Except.ok_bind, Text.decode?_toUTF8]
    dsimp only
    rw [Text.plainLines_eq (h.plain file hfile), String.ofList_toList]
  rw [loadFile_of_resolve hresolve, hread]
  dsimp only
  rw [hcompile]
  exact exists_logged h.logs _ _ _

/-- Where there is no file, the load ends with the report that there is no template. -/
theorem loadFile_of_not_mem (h : Serves workspace files store)
    (hidentifier : Canonical identifier) (hnone : ∀ file ∈ files, file.1 ≠ identifier) :
    ∃ reason lines, store.loadFile reporter workspace identifier
      = ⟨.error (absent reporter identifier reason), lines, store⟩ := by
  obtain ⟨location, hresolve, hparts⟩ := exists_resolve_of_canonical h.path hidentifier
  have hprobe := h.holds.probe_ne_file hnone hparts
  obtain ⟨reason, hread⟩ : ∃ reason, store.readAt workspace location = .ok (.error reason) := by
    rw [readAt]
    split
    · exact ⟨_, rfl⟩
    · next bytes hfile => exact absurd hfile (hprobe bytes)
    · exact ⟨_, rfl⟩
  obtain ⟨lines, hlogged⟩ := exists_logged h.logs (.missing identifier)
    (.error (absent reporter identifier reason)) store
  refine ⟨reason, lines, ?_⟩
  rw [loadFile_of_resolve hresolve, hread]
  exact hlogged

end Serves

/-! ## The invariant -/

/-- The directory has the files whose sources are registered in memory, and has kept no other
templates under canonical identifiers than those in memory. -/
structure Mirrors (reporter : Reporter) (workspace : Workspace) (memory : MemoryStore)
    (store : DirectoryStore) : Prop where
  serves : ∃ files, Serves workspace files store ∧
    (∀ file ∈ files, ∃ template, Template.compile reporter (.text file.1) file.2 = .ok template ∧
      memory.find? file.1 = some template) ∧
    ∀ identifier, (∀ file ∈ files, file.1 ≠ identifier) → memory.find? identifier = none
  kept : ∀ identifier template, Canonical identifier →
    store.cache.lookup identifier = some template → memory.find? identifier = some template

namespace Mirrors

variable {reporter : Reporter} {workspace : Workspace} {memory : MemoryStore}
  {store : DirectoryStore} {identifier : String}

/-- A load from the files ends as it does in memory. -/
theorem loadFile_result (h : Mirrors reporter workspace memory store)
    (hidentifier : Canonical identifier) :
    (∃ template, memory.find? identifier = some template ∧
      (store.loadFile reporter workspace identifier).result = .ok template) ∨
    memory.find? identifier = none ∧ ∃ reason,
      (store.loadFile reporter workspace identifier).result
        = .error (absent reporter identifier reason) := by
  obtain ⟨files, hserves, hthere, hothers⟩ := h.serves
  by_cases hfile : ∃ file ∈ files, file.1 = identifier
  · obtain ⟨file, hmem, rfl⟩ := hfile
    obtain ⟨template, hcompile, hfind⟩ := hthere file hmem
    obtain ⟨lines, hload⟩ := hserves.loadFile_of_mem hmem hidentifier hcompile
    exact .inl ⟨template, hfind, congrArg Loading.result hload⟩
  · have hnone : ∀ file ∈ files, file.1 ≠ identifier := fun file hmem hsame =>
      hfile ⟨file, hmem, hsame⟩
    obtain ⟨reason, lines, hload⟩ := hserves.loadFile_of_not_mem hidentifier hnone
    exact .inr ⟨hothers identifier hnone, reason, congrArg Loading.result hload⟩

/-- So does every load. -/
theorem load_result (h : Mirrors reporter workspace memory store)
    (hidentifier : Canonical identifier) :
    (∃ template, memory.find? identifier = some template ∧
      (store.load reporter workspace identifier).result = .ok template) ∨
    memory.find? identifier = none ∧ ∃ reason,
      (store.load reporter workspace identifier).result
        = .error (absent reporter identifier reason) := by
  rw [load]
  split
  · next template hkept =>
    have hlookup : store.cache.lookup identifier = some template := by
      split at hkept
      · exact hkept
      · cases hkept
    obtain ⟨files, hserves, -⟩ := h.serves
    obtain ⟨lines, hlogged⟩ := exists_logged hserves.logs (.cacheHit identifier) (.ok template)
      store
    exact .inl ⟨template, h.kept identifier template hidentifier hlookup,
      congrArg Loading.result hlogged⟩
  · exact h.loadFile_result hidentifier

/-- What is kept under canonical identifiers may be anything that is in memory under them. -/
theorem of_cache (h : Mirrors reporter workspace memory store) {cache : List (String × Template)}
    (hcache : ∀ identifier template, Canonical identifier →
      cache.lookup identifier = some template → memory.find? identifier = some template) :
    Mirrors reporter workspace memory { store with cache } := by
  obtain ⟨⟨files, hserves, hmemory⟩, -⟩ := h
  exact ⟨⟨files, hserves.of_cache cache, hmemory⟩, hcache⟩

/-- A load keeps the invariant, whatever the identifier. -/
theorem load_store (h : Mirrors reporter workspace memory store) (identifier : String) :
    Mirrors reporter workspace memory (store.load reporter workspace identifier).store := by
  obtain hsame | ⟨template, hread, hkeep⟩ :=
    load_store_cases reporter workspace store identifier
  · rw [hsame]
    exact h
  rw [hkeep, keep_eq]
  refine h.of_cache fun other found hother hfound => ?_
  obtain hbefore | ⟨rfl, rfl⟩ := lookup_keep hfound
  · exact h.kept other found hother hbefore
  -- what was read under a canonical identifier is the template in memory
  obtain ⟨_, hfind, hresult⟩ | ⟨-, reason, hresult⟩ := h.loadFile_result hother
  · rw [hread] at hresult
    cases hresult
    exact hfind
  · rw [hread] at hresult
    cases hresult

/-- Actions that leave the files alone keep the invariant. -/
theorem act (h : Mirrors reporter workspace memory store) {action : Action}
    (haction : ∀ entries, action ≠ .change entries) :
    (act reporter ⟨workspace, store⟩ action).2.workspace = workspace ∧
      Mirrors reporter workspace memory (act reporter ⟨workspace, store⟩ action).2.store := by
  cases action with
  | load identifier => exact ⟨rfl, h.load_store identifier⟩
  | invalidate dropped =>
    refine ⟨rfl, ?_⟩
    cases dropped with
    | none => exact h.of_cache fun _ _ _ hnone => by cases hnone
    | some dropped =>
      refine h.of_cache fun identifier template hidentifier hkept => ?_
      rw [lookup_filter] at hkept
      split at hkept
      · cases hkept
      · exact h.kept identifier template hidentifier hkept
  | change entries => exact absurd rfl (haction entries)

/-- So does every run of them. -/
theorem run (h : Mirrors reporter workspace memory store) {actions : List Action}
    (hactions : ∀ action ∈ actions, ∀ entries, action ≠ .change entries) :
    Mirrors reporter workspace memory
      (run reporter ⟨workspace, store⟩ actions).2.store := by
  induction actions generalizing store with
  | nil => exact h
  | cons action rest ih =>
    obtain ⟨hfirst, hrest⟩ := List.forall_mem_cons.1 hactions
    obtain ⟨hworkspace, hstore⟩ := h.act hfirst
    show Mirrors reporter workspace memory
      (DirectoryStore.run reporter (DirectoryStore.act reporter ⟨workspace, store⟩ action).2
        rest).2.store
    generalize DirectoryStore.act reporter ⟨workspace, store⟩ action = acted at hworkspace hstore ⊢
    obtain ⟨happening, ⟨workspace', store'⟩⟩ := acted
    cases hworkspace
    exact ih hstore hrest

end Mirrors

end DirectoryStore

end Inlay
