import Inlay.Proofs.Log.Lines

/-!
# The cache of a directory

A directory of templates that keeps what it has read answers a load in one of two ways: with the
template that was first read under the identifier since it was last told to forget it, or as a
directory would that keeps nothing and looks at the files as they are now.

What happened in a run tells which of the two it is (`remembered`). The invariant `Faithful` says
that the cache holds what the run makes one remember, and nothing else; every action keeps it
(`faithful_act`), and so does a run (`faithful_run`).
-/

namespace Inlay.DirectoryStore

open File Log

/-! ## Runs -/

/-- What is done to a directory of templates, and to the files by others. -/
inductive Action where
  | load (identifier : String)
  /-- Forget one template, or all. -/
  | invalidate (identifier : Option String)
  /-- Files are written and deleted, so that these are the ones that there are. -/
  | change (entries : List (List String × File.Entry))

/-- What came of an action. -/
inductive Happening where
  | loaded (identifier : String) (result : Except Stop Template) (lines : List Line)
  | invalidated (identifier : Option String)
  | changed

/-- A directory of templates among its files. -/
structure Shelf where
  workspace : Workspace
  store : DirectoryStore

/-- Carry out an action. -/
def act (reporter : Reporter) (shelf : Shelf) : Action → Happening × Shelf
  | .load identifier =>
    let loading := shelf.store.load reporter shelf.workspace identifier
    (.loaded identifier loading.result loading.lines, { shelf with store := loading.store })
  | .invalidate identifier =>
    (.invalidated identifier, { shelf with store := shelf.store.invalidate identifier })
  | .change entries =>
    (.changed, { shelf with workspace := { shelf.workspace with entries } })

/-- Carry out actions in a row: what came of each, and what is left. -/
def run (reporter : Reporter) : Shelf → List Action → List Happening × Shelf
  | shelf, [] => ([], shelf)
  | shelf, action :: rest =>
    let (happening, after) := act reporter shelf action
    let (more, last) := run reporter after rest
    (happening :: more, last)

namespace Happening

/-- Is the template of the identifier forgotten? -/
def forgets (identifier : String) : Happening → Bool
  | .invalidated none => true
  | .invalidated (some other) => other == identifier
  | _ => false

/-- The template that was loaded under the identifier, if it was. -/
def template? (identifier : String) : Happening → Option Template
  | .loaded other (.ok template) _ => if other = identifier then some template else none
  | _ => none

end Happening

/-- The template that was first loaded under the identifier since it was last forgotten. -/
def remembered (identifier : String) (past : List Happening) : Option Template :=
  (past.reverse.takeWhile fun happening => !happening.forgets identifier).reverse.findSome?
    (Happening.template? identifier)

/-- The last happening forgets what was remembered, or adds to it. -/
theorem remembered_append (identifier : String) (past : List Happening) (happening : Happening) :
    remembered identifier (past ++ [happening])
      = if happening.forgets identifier then none
        else (remembered identifier past).or (happening.template? identifier) := by
  rw [remembered, List.reverse_append, List.reverse_singleton, List.singleton_append]
  split
  · next hforgets =>
    rw [List.takeWhile_cons_of_neg (by simpa using hforgets)]
    rfl
  · next hkeeps =>
    rw [List.takeWhile_cons_of_pos (by simpa using hkeeps), List.reverse_cons,
      List.findSome?_append, remembered]
    simp

section

variable (identifier other : String) (past : List Happening)

@[simp] theorem remembered_loaded (template : Template) (lines : List Line) :
    remembered identifier (past ++ [.loaded other (.ok template) lines])
      = (remembered identifier past).or (if other = identifier then some template else none) := by
  rw [remembered_append]
  rfl

@[simp] theorem remembered_failed (reason : Stop) (lines : List Line) :
    remembered identifier (past ++ [.loaded other (.error reason) lines])
      = remembered identifier past := by
  rw [remembered_append]
  exact Option.or_none

@[simp] theorem remembered_changed :
    remembered identifier (past ++ [.changed]) = remembered identifier past := by
  rw [remembered_append]
  exact Option.or_none

@[simp] theorem remembered_invalidated_all :
    remembered identifier (past ++ [.invalidated none]) = none := by
  rw [remembered_append]
  rfl

@[simp] theorem remembered_invalidated :
    remembered identifier (past ++ [.invalidated (some other)])
      = if other = identifier then none else remembered identifier past := by
  rw [remembered_append, Happening.template?, Option.or_none, Happening.forgets]
  · simp only [beq_iff_eq]
  · simp

end

/-! ## Loads -/

variable {reporter : Reporter} {workspace : Workspace} {store : DirectoryStore}
  {identifier : String}

/-- A template that is kept is given from the cache. -/
theorem load_of_lookup {template : Template} {lines : List Line} (hcaches : store.caches = true)
    (hlookup : store.cache.lookup identifier = some template)
    (hnote : store.note (.cacheHit identifier) = .ok lines) :
    store.load reporter workspace identifier = ⟨.ok template, lines, store⟩ := by
  rw [load, if_pos hcaches, hlookup]
  dsimp only
  rw [logged, hnote]

/-- One that is not is loaded from its file. -/
theorem load_of_lookup_none (hlookup : store.cache.lookup identifier = none) :
    store.load reporter workspace identifier
      = store.loadFile reporter workspace identifier := by
  rw [load, hlookup, ite_self]

/-- A load from a file that fails leaves the store as it is; one that succeeds was told, and keeps
the template. -/
theorem loadFile_cases (reporter : Reporter) (workspace : Workspace) (store : DirectoryStore)
    (identifier : String) :
    (∃ reason lines, store.loadFile reporter workspace identifier
        = ⟨.error reason, lines, store⟩) ∨
    ∃ template place lines told, store.note (.loaded identifier place) = .ok told ∧
      store.loadFile reporter workspace identifier
        = ⟨.ok template, lines, store.keep identifier template⟩ := by
  rw [loadFile]
  split
  · exact .inl ⟨_, _, rfl⟩
  · exact .inl ⟨_, _, rfl⟩
  · rw [logged]
    split
    · exact .inl ⟨_, _, rfl⟩
    · exact .inl ⟨_, _, rfl⟩
  · split
    · exact .inl ⟨_, _, rfl⟩
    · rw [logged]
      split
      · next told htold => exact .inr ⟨_, _, _, told, htold, rfl⟩
      · exact .inl ⟨_, _, rfl⟩

/-- What is read from a file and what is logged of it have nothing to do with the cache. -/
theorem loadFile_congr (reporter : Reporter) (workspace : Workspace) (store : DirectoryStore)
    (identifier : String) (caches : Bool) (cache : List (String × Template)) :
    ({ store with caches, cache }.loadFile reporter workspace identifier).result
        = (store.loadFile reporter workspace identifier).result ∧
      ({ store with caches, cache }.loadFile reporter workspace identifier).lines
        = (store.loadFile reporter workspace identifier).lines := by
  have hread : { store with caches, cache }.read workspace identifier
      = store.read workspace identifier := rfl
  have hlogged : ∀ event result after after',
      ({ store with caches, cache }.logged event result after).result
          = (store.logged event result after').result ∧
        ({ store with caches, cache }.logged event result after).lines
          = (store.logged event result after').lines := by
    intro event result after after'
    have hnote : { store with caches, cache }.note event = store.note event := rfl
    rw [logged, logged, hnote]
    cases store.note event <;> exact ⟨rfl, rfl⟩
  rw [loadFile, loadFile, hread]
  split
  · exact ⟨rfl, rfl⟩
  · exact ⟨rfl, rfl⟩
  · exact hlogged _ _ _ _
  · split
    · exact ⟨rfl, rfl⟩
    · exact hlogged _ _ _ _

/-- A load leaves the store as it is, or it reads a file and keeps what is there for the first time,
and it can be told that this is in the cache. -/
theorem load_store_eq_or_kept (reporter : Reporter) (workspace : Workspace)
    (store : DirectoryStore) (identifier : String) :
    (store.load reporter workspace identifier).store = store ∨
    ∃ template lines, store.caches = true ∧ store.cache.lookup identifier = none ∧
      store.note (.cacheHit identifier) = .ok lines ∧
      store.load reporter workspace identifier = store.loadFile reporter workspace identifier ∧
      (store.loadFile reporter workspace identifier).result = .ok template ∧
      (store.loadFile reporter workspace identifier).store
        = { store with cache := store.cache ++ [(identifier, template)] } := by
  cases hkept : if store.caches then store.cache.lookup identifier else none with
  | some template =>
    -- a hit leaves the cache alone, whether or not it can be logged
    left
    rw [load, hkept]
    dsimp only
    rw [logged]
    split <;> rfl
  | none =>
    have hload : store.load reporter workspace identifier
        = store.loadFile reporter workspace identifier := by
      rw [load, hkept]
    rw [hload]
    obtain ⟨reason, lines, hfile⟩ | ⟨template, place, lines, told, htold, hfile⟩ :=
      loadFile_cases reporter workspace store identifier
    · exact .inl (by rw [hfile])
    · rw [hfile, keep]
      cases hcaches : store.caches with
      | false => exact .inl rfl
      | true =>
        rw [hcaches, if_pos rfl] at hkept
        -- what could be logged of the load can be logged of a hit, which is told in fewer
        -- characters
        obtain ⟨lines, hhit⟩ := exists_note_cacheHit htold
        exact .inr ⟨template, lines, rfl, hkept, hhit, rfl, rfl, by rw [if_pos rfl]⟩

/-! ## The invariant -/

/-- A name that is dropped from the cache is no longer found there, and all others are. -/
theorem lookup_filter (cache : List (String × Template)) (dropped identifier : String) :
    (cache.filter fun entry => entry.1 != dropped).lookup identifier
      = if dropped = identifier then none else cache.lookup identifier := by
  induction cache with
  | nil => simp
  | cons entry rest ih =>
    obtain ⟨name, template⟩ := entry
    by_cases hdropped : name = dropped
    · subst hdropped
      rw [List.filter_cons_of_neg (by simp), ih]
      by_cases hname : name = identifier
      · rw [if_pos hname, if_pos hname]
      · have hne : (identifier == name) = false := by simpa using Ne.symm hname
        rw [if_neg hname, if_neg hname, List.lookup_cons, hne]
    · rw [List.filter_cons_of_pos (by simpa using hdropped)]
      by_cases hname : name = identifier
      · subst hname
        rw [List.lookup_cons_self, List.lookup_cons_self, if_neg (Ne.symm hdropped)]
      · have hne : (identifier == name) = false := by simpa using Ne.symm hname
        rw [List.lookup_cons, List.lookup_cons, hne, ih]

/-- The cache holds what the past makes one remember, and all of that can be told to be in it. Apart
from the cache, the store is the one that the run began with. -/
structure Faithful (store : DirectoryStore) (past : List Happening) (shelf : Shelf) : Prop where
  settings : shelf.store = { store with cache := shelf.store.cache }
  cache : ∀ identifier, shelf.store.cache.lookup identifier = remembered identifier past
  told : ∀ identifier template, remembered identifier past = some template →
    ∃ lines, store.note (.cacheHit identifier) = .ok lines

namespace Faithful

variable {past : List Happening} {shelf : Shelf}

/-- Where nothing is kept yet, nothing is remembered. -/
theorem of_fresh (workspace : Workspace) (hfresh : store.cache = []) :
    Faithful store [] ⟨workspace, store⟩ := by
  refine ⟨rfl, fun identifier => ?_, fun identifier template htemplate => ?_⟩
  · show store.cache.lookup identifier = none
    rw [hfresh]
    rfl
  · cases htemplate

/-- A run does not change whether the store keeps templates. -/
theorem caches_eq (h : Faithful store past shelf) : shelf.store.caches = store.caches := by
  rw [h.settings]

/-- Nor what it logs. -/
theorem note_eq (h : Faithful store past shelf) (event : StoreEvent) :
    shelf.store.note event = store.note event := by
  rw [h.settings]
  rfl

/-- What changes nothing that is remembered, and nothing of the store, keeps the invariant. -/
theorem of_remembered_eq (h : Faithful store past shelf) {more : List Happening} {after : Shelf}
    (hstore : after.store = shelf.store)
    (hremembered : ∀ identifier, remembered identifier more = remembered identifier past) :
    Faithful store more after where
  settings := by rw [hstore, ← h.settings]
  cache identifier := by rw [hstore, h.cache, hremembered]
  told identifier template htemplate := by
    rw [hremembered] at htemplate
    exact h.told identifier template htemplate

/-- A template that is remembered is what a load gives, and the load changes nothing. -/
theorem load_eq_of_remembered (h : Faithful store past shelf) (hcaches : store.caches = true)
    {template : Template} (htemplate : remembered identifier past = some template)
    (reporter : Reporter) (workspace : Workspace) :
    ∃ lines, shelf.store.load reporter workspace identifier
      = ⟨.ok template, lines, shelf.store⟩ := by
  obtain ⟨lines, hlines⟩ := h.told identifier template htemplate
  refine ⟨lines, load_of_lookup (h.caches_eq.trans hcaches) ?_ ?_⟩
  · rw [h.cache, htemplate]
  · rw [h.note_eq, hlines]

/-- Where nothing is remembered, a load reads the file. -/
theorem load_eq_of_remembered_none (h : Faithful store past shelf)
    (hnone : remembered identifier past = none) (reporter : Reporter) (workspace : Workspace) :
    shelf.store.load reporter workspace identifier
      = shelf.store.loadFile reporter workspace identifier := by
  refine load_of_lookup_none ?_
  rw [h.cache, hnone]

/-- A load that fails leaves the store as it is. -/
theorem load_store_of_error (h : Faithful store past shelf) (hcaches : store.caches = true)
    {reason : Stop}
    (herror : (shelf.store.load reporter workspace identifier).result = .error reason) :
    (shelf.store.load reporter workspace identifier).store = shelf.store := by
  cases hremembered : remembered identifier past with
  | some template =>
    obtain ⟨lines, hload⟩ := h.load_eq_of_remembered hcaches hremembered reporter workspace
    rw [hload]
  | none =>
    rw [h.load_eq_of_remembered_none hremembered] at herror ⊢
    obtain ⟨_, lines, hload⟩ | ⟨template, place, lines, told, -, hload⟩ :=
      loadFile_cases reporter workspace shelf.store identifier
    · rw [hload]
    · rw [hload] at herror
      cases herror

/-- A load keeps the invariant. -/
theorem load (h : Faithful store past shelf) (hcaches : store.caches = true)
    (reporter : Reporter) (identifier : String) :
    Faithful store (past ++ [(act reporter shelf (.load identifier)).1])
      (act reporter shelf (.load identifier)).2 := by
  cases hremembered : remembered identifier past with
  | some template =>
    obtain ⟨lines, hload⟩ :=
      h.load_eq_of_remembered hcaches hremembered reporter shelf.workspace
    simp only [act, hload]
    refine h.of_remembered_eq rfl fun other => ?_
    rw [remembered_loaded]
    by_cases hother : identifier = other
    · rw [← hother, hremembered]
      rfl
    · rw [if_neg hother, Option.or_none]
  | none =>
    -- nothing is remembered, so the file is read
    have hload := h.load_eq_of_remembered_none hremembered reporter shelf.workspace
    obtain ⟨reason, lines, hfile⟩ | ⟨template, place, lines, told, htold, hfile⟩ :=
      loadFile_cases reporter shelf.workspace shelf.store identifier
    · simp only [act, hload, hfile]
      exact h.of_remembered_eq rfl fun other => remembered_failed ..
    · have hkeep : shelf.store.keep identifier template
          = { shelf.store with cache := shelf.store.cache ++ [(identifier, template)] } :=
        if_pos (h.caches_eq.trans hcaches)
      simp only [act, hload, hfile, hkeep]
      refine ⟨?_, fun other => ?_, fun other found hfound => ?_⟩
      -- the settings stay, the cache grows by this template, and its hits can be written
      · rw [h.settings]
      · rw [remembered_loaded, List.lookup_append, h.cache]
        by_cases hother : identifier = other
        · rw [if_pos hother, hother, List.lookup_cons_self]
        · have hne : (other == identifier) = false := by simpa using Ne.symm hother
          rw [if_neg hother, List.lookup_cons, hne]
          rfl
      · rw [remembered_loaded] at hfound
        by_cases hother : identifier = other
        · rw [← hother, ← h.note_eq]
          exact exists_note_cacheHit htold
        · rw [if_neg hother, Option.or_none] at hfound
          exact h.told other found hfound

/-- Forgetting keeps the invariant. -/
theorem invalidate (h : Faithful store past shelf) (reporter : Reporter)
    (dropped : Option String) :
    Faithful store (past ++ [(act reporter shelf (.invalidate dropped)).1])
      (act reporter shelf (.invalidate dropped)).2 := by
  cases dropped with
  | none =>
    refine ⟨?_, fun identifier => ?_, fun identifier template htemplate => ?_⟩
    · rw [act, DirectoryStore.invalidate, h.settings]
    · exact (remembered_invalidated_all identifier past).symm
    · exact absurd ((remembered_invalidated_all identifier past).symm.trans htemplate) (by simp)
  | some dropped =>
    refine ⟨?_, fun identifier => ?_, fun identifier template htemplate => ?_⟩
    · rw [act, DirectoryStore.invalidate, h.settings]
    · refine .trans ?_ (remembered_invalidated identifier dropped past).symm
      rw [← h.cache]
      exact lookup_filter shelf.store.cache dropped identifier
    · have hkept := (remembered_invalidated identifier dropped past).symm.trans htemplate
      split at hkept
      · cases hkept
      · exact h.told identifier template hkept

/-- Every action keeps the invariant. -/
theorem act (h : Faithful store past shelf) (hcaches : store.caches = true)
    (reporter : Reporter) (action : Action) :
    Faithful store (past ++ [(act reporter shelf action).1]) (act reporter shelf action).2 := by
  cases action with
  | load identifier => exact h.load hcaches reporter identifier
  | invalidate dropped => exact h.invalidate reporter dropped
  | change entries =>
    exact h.of_remembered_eq rfl fun identifier => remembered_changed identifier past

/-- So does every run. -/
theorem run (h : Faithful store past shelf) (hcaches : store.caches = true)
    (reporter : Reporter) (actions : List Action) :
    Faithful store (past ++ (run reporter shelf actions).1) (run reporter shelf actions).2 := by
  induction actions generalizing past shelf with
  | nil =>
    rw [DirectoryStore.run, List.append_nil]
    exact h
  | cons action rest ih =>
    have hrest := ih (h.act hcaches reporter action)
    rwa [List.append_assoc] at hrest

end Faithful

/-! ## Memoisation -/

/-- After any run of loads, of forgetting and of changes to the files, on a directory that keeps
what it reads: a template that is remembered is what a load gives, whatever has become of its file;
where none is remembered, a load ends as it does for a directory that keeps nothing, on the files
that there are. A load that fails makes no difference to what comes of later actions, and when one
template is forgotten, the others that are remembered are still given. -/
theorem load_memoised (reporter : Reporter) (workspace : Workspace) (store : DirectoryStore)
    (hcaches : store.caches = true) (hfresh : store.cache = []) (actions : List Action)
    (identifier : String) :
    let (past, shelf) := run reporter ⟨workspace, store⟩ actions
    let loading := shelf.store.load reporter shelf.workspace identifier
    let plain := { store with caches := false }.load reporter shelf.workspace identifier
    (∀ template, remembered identifier past = some template → loading.result = .ok template) ∧
    (remembered identifier past = none →
      loading.result = plain.result ∧ loading.lines = plain.lines) ∧
    (∀ reason, loading.result = .error reason → ∀ later : List Action,
      run reporter (act reporter shelf (.load identifier)).2 later = run reporter shelf later) ∧
    ∀ other template, other ≠ identifier → remembered other past = some template →
      ∀ files : Workspace,
        ((shelf.store.invalidate (some identifier)).load reporter files other).result
          = .ok template := by
  have hrun := (Faithful.of_fresh workspace hfresh).run hcaches reporter actions
  rw [List.nil_append] at hrun
  generalize run reporter ⟨workspace, store⟩ actions = ran at hrun ⊢
  obtain ⟨past, shelf⟩ := ran
  dsimp only at hrun ⊢
  refine ⟨fun template htemplate => ?_, fun hnone => ?_, fun reason herror later => ?_,
    fun other template hother htemplate files => ?_⟩
  · obtain ⟨lines, hload⟩ := hrun.load_eq_of_remembered hcaches htemplate reporter shelf.workspace
    rw [hload]
  · -- both read the file, and what they read is settled by what they have in common
    have hplain : { store with caches := false }.load reporter shelf.workspace identifier
        = { store with caches := false }.loadFile reporter shelf.workspace identifier :=
      load_of_lookup_none (by simp [hfresh])
    have hload := hrun.load_eq_of_remembered_none hnone reporter shelf.workspace
    have hsettings : { shelf.store with caches := false, cache := store.cache }
        = { store with caches := false } := by
      rw [hrun.settings]
    obtain ⟨hresult, hlines⟩ :=
      loadFile_congr reporter shelf.workspace shelf.store identifier false store.cache
    rw [hsettings] at hresult hlines
    rw [hload, hplain]
    exact ⟨hresult.symm, hlines.symm⟩
  -- a load that fails puts nothing into the cache
  · have hsame : (act reporter shelf (.load identifier)).2 = shelf := by
      rw [act, hrun.load_store_of_error hcaches herror]
    rw [hsame]
  · have hforget := hrun.invalidate reporter (some identifier)
    have hkept : remembered other (past ++ [(act reporter shelf (.invalidate (some identifier))).1])
        = some template := by
      rw [act, remembered_invalidated, if_neg (Ne.symm hother), htemplate]
    obtain ⟨lines, hload⟩ := hforget.load_eq_of_remembered hcaches hkept reporter files
    exact congrArg Loading.result hload

/-- A directory of pages. -/
def pages : DirectoryStore where
  path := .ofString "pages"
  encoding := .text "ascii"

/-- The directory with one page. -/
def onePage : Workspace where
  name := "here"
  place := ⟨["srv"], by decide⟩
  entries := [(["srv", "pages"], .directory), (["srv", "pages", "a"], .file ⟨#[104, 105]⟩)]

/-- A page that was read is still given when its file is gone and another page was looked for. -/
theorem deleted_page_remembered :
    let (past, shelf) := run ⟨.builtin, default⟩ ⟨onePage, pages⟩
      [.load "a", .change [], .load "b", .invalidate (some "b")]
    shelf.workspace.entries = [] ∧ ∃ template, remembered "a" past = some template ∧
      (shelf.store.load ⟨.builtin, default⟩ shelf.workspace "a").result = .ok template := by
  have hremembered : (remembered "a" (run ⟨.builtin, default⟩ ⟨onePage, pages⟩
      [.load "a", .change [], .load "b", .invalidate (some "b")]).1).isSome = true := by
    decide +kernel
  obtain ⟨template, htemplate⟩ := Option.isSome_iff_exists.1 hremembered
  exact ⟨rfl, template, htemplate,
    (load_memoised ⟨.builtin, default⟩ onePage pages rfl rfl _ "a").1 template htemplate⟩

end Inlay.DirectoryStore
