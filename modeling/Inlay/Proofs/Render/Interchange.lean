import Inlay.Proofs.Render.Simulation
import Inlay.Proofs.Store.Mirroring

/-!
# Stores that can be interchanged

The same sources may be registered in memory or be files of a directory. Under canonical identifiers
both stores give the same templates, or report that there is none. So a template that includes
others under such identifiers only comes to the same ending with either store. What can be told
apart is the reason why a template cannot be loaded, at the end of the message about it.

Main statement: `stores_interchangeable`.
-/

namespace Inlay

open File

/-- Two failures are the same, but for the reason why a template that is missing cannot be
loaded. -/
inductive Failure.SameButReason (missing : String → Prop) : Failure → Failure → Prop where
  | same (failure : Failure) : SameButReason missing failure failure
  | reason {identifier : String} (h : missing identifier) (trail : List Value)
    (reason reason' : String) : SameButReason missing
      ⟨trail ++ [.text ("Failed to load template '" ++ identifier ++ "': " ++ reason)],
        Code.partialLoadFailed⟩
      ⟨trail ++ [.text ("Failed to load template '" ++ identifier ++ "': " ++ reason')],
        Code.partialLoadFailed⟩

/-- Breadcrumbs on failures that differ in a reason leave them so. -/
theorem Failure.SameButReason.tolerant (missing : String → Prop) :
    Render.Tolerant (Failure.SameButReason missing) where
  refl := .same
  below h breadcrumb := by
    cases h with
    | same failure => exact .same _
    | reason h trail reason reason' => exact .reason h (.text breadcrumb :: trail) reason reason'

/-- The name of an inclusion is a canonical identifier, written as it is. -/
def Template.Expr.IsCanonical : Template.Expr → Prop
  | .literal identifier => Canonical identifier
  | _ => False

instance : DecidablePred Template.Expr.IsCanonical
  | .ident _ => .isFalse not_false
  | .call _ _ => .isFalse not_false
  | .literal identifier => inferInstanceAs (Decidable (Canonical identifier))
  | .foreign _ => .isFalse not_false

/-- Two sessions in which the same was asked. One has the templates in memory, and the other one a
directory that mirrors them. -/
structure Session.Interchanged (reporter : Reporter) (workspace : Workspace) (memory : MemoryStore)
    (session session' : Session) : Prop where
  held : session.store = some (.memory memory)
  mirrored : ∃ store, session'.store = some (.directory store) ∧
    DirectoryStore.Mirrors reporter workspace memory store
  calls : session'.calls = session.calls

namespace Evaluator

open Template
open Render (Agree Matches MatchAt)

section

variable {settings : Settings} {memory : MemoryStore}

/-- Asking a context has nothing to do with the store. -/
theorem askable_interchanged : Askable
    (Session.Interchanged settings.reporter settings.workspace memory) :=
  fun h _ => ⟨h.held, h.mirrored, by rw [h.calls]⟩

/-- Nor has logging. -/
theorem loggable_interchanged : Loggable
    (Session.Interchanged settings.reporter settings.workspace memory) :=
  fun h _ => ⟨h.held, h.mirrored, h.calls⟩

/-- Under a canonical identifier, both stores give the same template, or fail to load one. -/
theorem load_interchanged (hregistry : settings.reporter.registry = .builtin)
    (hmemory : memory.Only (fun _ => True) Expr.IsCanonical) {identifier : String}
    (hidentifier : Canonical identifier) :
    Matches (Session.Interchanged settings.reporter settings.workspace memory)
      (Failure.SameButReason fun identifier => memory.find? identifier = none)
      (fun template template' => template = template' ∧
        template.Only (fun _ => True) Expr.IsCanonical)
      (load settings identifier) (load settings identifier) := by
  intro session session' hsessions
  obtain ⟨store, hstore, hmirrors⟩ := hsessions.mirrored
  have hafter : ∀ lines, Session.Interchanged settings.reporter settings.workspace memory session
      { session' with
        store := some (.directory
          (store.load settings.reporter settings.workspace identifier).store),
        lines } :=
    fun lines => ⟨hsessions.held, ⟨_, rfl, hmirrors.load_store identifier⟩, hsessions.calls⟩
  rw [load_of_store hstore]
  simp only [Store.load]
  obtain ⟨template, hfind, hresult⟩ | ⟨hnone, reason, hresult⟩ :=
    hmirrors.load_result hidentifier
  · rw [load_memory_found hsessions.held hfind, hresult]
    exact .value ⟨rfl, hmemory _ (MemoryStore.mem_of_find hfind)⟩ (hafter _)
  · -- neither of the stores has it; what differs is the reason that they give
    obtain ⟨fault, hfault⟩ := Reporter.exists_templateNotFound hregistry identifier
    obtain ⟨fault', hfault', -⟩ := DirectoryStore.exists_absent hregistry identifier reason
    have hload : memory.load settings.reporter identifier = .error (.fault fault) := by
      rw [MemoryStore.load, hnone, hfault]
    rw [load_memory hsessions.held, hload, hresult, hfault', given, given]
    rw [Reporter.loadFailure_eq hregistry, Reporter.loadFailure_eq hregistry]
    exact .failed (.reason hnone [] _ _) (hafter _)

/-- Evaluations with both stores run side by side. -/
theorem simulation_interchanged (hregistry : settings.reporter.registry = .builtin)
    (hmemory : memory.Only (fun _ => True) Expr.IsCanonical) :
    Simulation settings settings
      (Session.Interchanged settings.reporter settings.workspace memory)
      (Failure.SameButReason fun identifier => memory.find? identifier = none) Eq
      (fun _ => True) Expr.IsCanonical Canonical where
  toSameAnswers := askable_interchanged.sameAnswers settings
  limit := rfl
  tolerant := Failure.SameButReason.tolerant _
  surrounding := .eq
  name {_ _ expr} _ hnamed subject := by
    cases expr with
    | literal identifier =>
      unfold textAt
      rw [fieldOf, fieldOf]
      exact .pure ⟨rfl, hnamed⟩
    | ident | call | foreign => exact hnamed.elim
  load := load_interchanged hregistry hmemory
  included _ _ := loggable_interchanged.note _ _
  condition := loggable_interchanged.noteCondition settings

end

/-- Directory and memory can be interchanged. Let sources be registered in memory, and let a
directory hold exactly these files in UTF-8, whether or not it keeps what it reads, and whatever has
been loaded from it and forgotten. Then under every canonical identifier both give the same
template, or both report that there is none. Every template that includes others under such
identifiers only, as all that are stored do, comes to the same text with either of them, or to
failures that differ in nothing but the reason why a missing template cannot be loaded. -/
theorem stores_interchangeable (settings : Settings)
    (hregistry : settings.reporter.registry = .builtin) (files : List (String × String))
    (hnames : (files.map Prod.fst).Nodup) (hplain : ∀ file ∈ files, '\r' ∉ file.2.toList)
    (memory : MemoryStore) (hmemory : MemoryStore.ofList settings.reporter
      (files.map fun file => (file.1, .source file.2)) = .ok memory)
    (directory : DirectoryStore) (hpath : directory.path.hasNul = false)
    (hdecodes : ∀ bytes, directory.decode bytes = .ok (Text.Encoding.utf8.decode? bytes))
    (hlogs : ∀ logger ∈ directory.logger, logger.NeverStops) (hfresh : directory.cache = [])
    (hholds : settings.workspace.Holds (settings.workspace.locate directory.path) files)
    (actions : List DirectoryStore.Action)
    (hactions : ∀ action ∈ actions, ∀ entries, action ≠ .change entries) :
    let used := (DirectoryStore.run settings.reporter ⟨settings.workspace, directory⟩
      actions).2.store
    (∀ identifier, Canonical identifier →
      let loaded := memory.load settings.reporter identifier
      let loaded' := (used.load settings.reporter settings.workspace identifier).result
      (∃ template, loaded = .ok template ∧ loaded' = .ok template) ∨
        ∃ fault fault', loaded = .error (.fault fault) ∧ loaded' = .error (.fault fault') ∧
          fault.code = Code.templateNotFound ∧ fault'.code = Code.templateNotFound) ∧
    ∀ template : Template, template.Only (fun _ => True) Expr.IsCanonical →
      memory.Only (fun _ => True) Expr.IsCanonical →
      ∀ (context : Context) (subject : Value) (session : Session),
      MatchAt (Session.Interchanged settings.reporter settings.workspace memory)
        (Failure.SameButReason fun identifier => memory.find? identifier = none) Eq
        (evaluate settings template context subject
          { session with store := some (.memory memory) })
        (evaluate settings template context subject
          { session with store := some (.directory used) }) := by
  intro used
  obtain ⟨hthere, hothers⟩ := MemoryStore.find?_ofList hnames hmemory
  have hstart : DirectoryStore.Mirrors settings.reporter settings.workspace memory directory := by
    refine ⟨⟨files, ⟨hpath, hdecodes, hlogs, hholds, hplain⟩, hthere, hothers⟩, ?_⟩
    intro identifier template _ hkept
    rw [hfresh] at hkept
    cases hkept
  -- what was done with the directory before leaves it a mirror of the memory
  have hused : DirectoryStore.Mirrors settings.reporter settings.workspace memory used :=
    hstart.run hactions
  refine ⟨fun identifier hidentifier => ?_, fun template htemplate hincluded context subject
    session => ?_⟩
  · obtain ⟨template, hfind, hresult⟩ | ⟨hnone, reason, hresult⟩ :=
      hused.load_result hidentifier
    · refine .inl ⟨template, ?_, hresult⟩
      rw [MemoryStore.load, hfind]
    · obtain ⟨fault, hfault⟩ := Reporter.exists_templateNotFound hregistry identifier
      obtain ⟨fault', hfault', hcode'⟩ := DirectoryStore.exists_absent hregistry identifier reason
      refine .inr ⟨fault, fault', ?_, hresult.trans (congrArg Except.error hfault'),
        Reporter.code_of_stop hfault, hcode'⟩
      rw [MemoryStore.load, hnone, hfault]
  · exact (simulation_interchanged hregistry hincluded).evaluate htemplate rfl subject
      ⟨rfl, ⟨used, rfl, hused⟩, rfl⟩ rfl

/-- The source of a site. -/
def siteFiles : List (String × String) := [("parts/head", "$title$!")]

/-- The directory of the site. -/
def siteDirectory : DirectoryStore := { path := .ofString "site" }

/-- The path of the directory has no step upwards. -/
theorem parent_not_mem_srv : ".." ∉ ["srv"] := by decide

/-- The directory with its file. -/
def siteWorkspace : Workspace where
  name := "here"
  place := ⟨["srv"], parent_not_mem_srv⟩
  entries := [(["srv", "site"], .directory), (["srv", "site", "parts"], .directory),
    (["srv", "site", "parts", "head"], .file "$title$!".toUTF8)]

/-- The workspace holds the files of the site. -/
theorem siteWorkspace_holds :
    siteWorkspace.Holds (siteWorkspace.locate siteDirectory.path) siteFiles := by
  have hroot : (siteWorkspace.locate siteDirectory.path).parts = ["srv", "site"] := by
    decide +kernel
  have hhead : components "parts/head" = ["parts", "head"] := by decide +kernel
  have hentry : ∀ location : Location, siteWorkspace.entryAt? location
      = if location.parts.isPrefixOf ["srv"] then some .directory
        else siteWorkspace.entries.lookup location.parts := fun _ => rfl
  constructor
  · intro location _ bytes
    simp only [hroot, siteFiles, List.mem_singleton, exists_eq_left, hhead, hentry]
    constructor
    · intro hfile
      split at hfile
      · cases hfile
      · obtain ⟨before, after, hentries, -⟩ := List.lookup_eq_some_iff.1 hfile
        have hmem : (location.parts, Entry.file bytes) ∈ siteWorkspace.entries := by
          rw [hentries]
          exact List.mem_append_right _ List.mem_cons_self
        simpa [siteWorkspace] using hmem
    · rintro ⟨hparts, rfl⟩
      rw [hparts]
      rfl
  · intro file hfile location hlocation hne
    cases List.mem_singleton.1 hfile
    simp only [hroot, hhead, List.cons_append, List.nil_append, List.prefix_cons_iff,
      List.prefix_nil] at hlocation hne
    -- the locations between the root and the file are directories
    rcases hlocation with hparts | ⟨_, hparts, rfl | ⟨_, rfl, rfl | ⟨_, rfl, rfl | ⟨_, rfl, rfl⟩⟩⟩⟩
    all_goals first | exact absurd hparts hne | (rw [hentry, hparts]; rfl)
  · rw [hroot]
    decide +kernel
  · rw [hroot]
    decide +kernel

/-- The text that an evaluation has come to. -/
def text? : Ending String → Option String
  | .value text => some text
  | _ => none

/-- Endings that match have the same text, or none. -/
theorem text?_eq {S : Session → Session → Prop} {F : Failure → Failure → Prop}
    {ended ended' : Ending String × Session} (h : MatchAt S F Eq ended ended') :
    text? ended'.1 = text? ended.1 := by
  cases h with
  | value related => exact congrArg some related.symm
  | failed | stopped => rfl

/-- The head of a page is the same from memory and from a directory that has read it before and was
told to forget it. -/
theorem head_interchanged :
    let settings : Settings := ⟨⟨.builtin, default⟩, siteWorkspace, some 32, none⟩
    let used := (DirectoryStore.run ⟨.builtin, default⟩ ⟨siteWorkspace, siteDirectory⟩
      [.load "parts/head", .invalidate none]).2.store
    text? (evaluate settings ⟨.null, [.inclusion (.literal "parts/head")]⟩
      (.const "title" (.text "News")) .null { store := some (.directory used) }).1
        = some "News!" := by
  intro settings used
  have hregistered : (MemoryStore.ofList ⟨.builtin, default⟩
      (siteFiles.map fun file => (file.1, .source file.2))).toOption.any (fun memory => decide
        (memory.Only (fun _ => True) Expr.IsCanonical ∧
          text? (evaluate settings ⟨.null, [.inclusion (.literal "parts/head")]⟩
            (.const "title" (.text "News")) .null { store := some (.memory memory) }).1
              = some "News!")) = true := by
    decide +kernel
  obtain ⟨memory, hmemory, hboth⟩ := (Option.any_eq_true _ _).1 hregistered
  have hlist : MemoryStore.ofList ⟨.builtin, default⟩
      (siteFiles.map fun file => (file.1, .source file.2)) = .ok memory := by
    revert hmemory
    cases MemoryStore.ofList ⟨.builtin, default⟩
      (siteFiles.map fun file => (file.1, .source file.2)) <;> simp [Except.toOption]
  obtain ⟨honly, htext⟩ := of_decide_eq_true hboth
  have h := (stores_interchangeable settings rfl siteFiles (by decide) (by decide) memory hlist
    siteDirectory rfl (fun _ => rfl) (fun _ hlogger => nomatch hlogger) rfl siteWorkspace_holds
    [.load "parts/head", .invalidate none] (by simp)).2
    ⟨.null, [.inclusion (.literal "parts/head")]⟩ (by decide +kernel) honly
    (.const "title" (.text "News")) .null {}
  exact (text?_eq h).trans htext

end Evaluator

end Inlay
