import Inlay.Proofs.Store.Mirroring

/-!
# Registering templates in memory

A store in memory is filled by registrations, some of which fail. What a registration gives depends
on what is registered and under which identifier, and on nothing else (`given?`); what a run of them
leaves under an identifier is what the last one gave that succeeded (`last?`). One registration sets
the template of its own identifier, or nothing at all (`find?_attempt`), and from this follows what
a run leaves behind (`find?_run`). Loads and questions for identifiers then say the same of it.
-/

namespace Inlay.MemoryStore

open Template

/-! ## Registrations -/

/-- What is registered, and under which identifier. -/
abbrev Registration := String × Registrable

/-- The template that a registration gives if it succeeds: a ready-made one, or that of the source
under the identifier. -/
def given? (reporter : Reporter) : Registration → Option Template
  | (identifier, .source text) =>
    match Template.compile reporter (.text identifier) text with
    | .ok template => some template
    | .error _ => none
  | (_, .ready template) => some template

/-- The template that the last registration of an identifier gave, of those that succeeded. -/
def last? (reporter : Reporter) (identifier : String) (registrations : List Registration) :
    Option Template :=
  registrations.reverse.findSome? fun registration =>
    if registration.1 = identifier then given? reporter registration else none

/-- Carry out a registration: how it ends, and the store that there is then. -/
def attempt (reporter : Reporter) (store : MemoryStore) (registration : Registration) :
    Except Stop Template × MemoryStore :=
  match store.register reporter registration.1 registration.2 with
  | .ok (after, template) => (.ok template, after)
  | .error reason => (.error reason, store)

/-- Carry out registrations in a row, whether or not they succeed. -/
def run (reporter : Reporter) (store : MemoryStore) (registrations : List Registration) :
    MemoryStore :=
  registrations.foldl (fun store registration => (store.attempt reporter registration).2) store

/-! ## One registration -/

variable {reporter : Reporter} {store : MemoryStore} {registration : Registration}

/-- A registration that gives a template ends with it, and sets it. -/
theorem attempt_of_given (store : MemoryStore) {template : Template}
    (h : given? reporter registration = some template) :
    store.attempt reporter registration = (.ok template, store.insert registration.1 template) := by
  obtain ⟨identifier, text | ready⟩ := registration
  · simp only [given?] at h
    split at h
    · next hcompile =>
      cases h
      simp only [attempt, register, Registrable.template, hcompile]
      rfl
    · cases h
  · cases h
    rfl

/-- A registration that gives no template is that of a malformed source. It ends with the report of
this, and sets nothing. -/
theorem attempt_of_given_none (store : MemoryStore) (h : given? reporter registration = none) :
    ∃ text error, registration.2 = .source text ∧
      Element.ofSource text.toList = .error error ∧
      store.attempt reporter registration
        = (.error (reporter.stop Code.templateParseError [
            (.text "origin", .text registration.1),
            (.text "detail", .text (error.message registration.1 text.toList))]), store) := by
  obtain ⟨identifier, text | ready⟩ := registration
  · simp only [given?] at h
    split at h
    · cases h
    · next reason hcompile =>
      cases hsource : Element.ofSource text.toList with
      | ok elements =>
        simp only [Template.compile, readElements, hsource] at hcompile
        cases hcompile
      | error error =>
        refine ⟨text, error, rfl, hsource, ?_⟩
        simp only [attempt, register, Registrable.template, Template.compile, readElements, hsource]
        rfl
  · cases h

/-- A registration comes to a template exactly if it gives one. -/
theorem attempt_eq_ok_iff {template : Template} :
    (store.attempt reporter registration).1 = .ok template ↔
      given? reporter registration = some template := by
  cases hgiven : given? reporter registration with
  | some given => simp [attempt_of_given store hgiven]
  | none =>
    obtain ⟨text, error, -, -, hattempt⟩ := attempt_of_given_none store hgiven
    simp [hattempt]

/-- A registration sets the template of its identifier if it gives one, and leaves all others. -/
theorem find?_attempt (reporter : Reporter) (store : MemoryStore) (registration : Registration)
    (identifier : String) :
    (store.attempt reporter registration).2.find? identifier
      = (if registration.1 = identifier then given? reporter registration else none).or
          (store.find? identifier) := by
  cases hgiven : given? reporter registration with
  | some template =>
    rw [attempt_of_given store hgiven, find?, insert, lookup_put]
    by_cases hidentifier : registration.1 = identifier
    · rw [if_pos hidentifier, if_pos hidentifier.symm]
      rfl
    · rw [if_neg hidentifier, if_neg (Ne.symm hidentifier)]
      rfl
  | none =>
    obtain ⟨text, error, -, -, hattempt⟩ := attempt_of_given_none store hgiven
    rw [hattempt, ite_self]
    rfl

/-! ## Runs -/

/-- A run leaves under an identifier what its last registration gave, or what was there. -/
theorem find?_run (reporter : Reporter) (store : MemoryStore) (registrations : List Registration)
    (identifier : String) :
    (store.run reporter registrations).find? identifier
      = (last? reporter identifier registrations).or (store.find? identifier) := by
  induction registrations generalizing store with
  | nil => rfl
  | cons registration rest ih =>
    have hlast : last? reporter identifier (registration :: rest)
        = (last? reporter identifier rest).or
            (if registration.1 = identifier then given? reporter registration else none) := by
      rw [last?, List.reverse_cons, List.findSome?_append, last?, List.findSome?_singleton]
    rw [run, List.foldl_cons, hlast, Option.or_assoc, ← find?_attempt]
    exact ih _

/-- Registrations all of which give a template make a store to start with. -/
theorem ofList_eq_run {entries : List Registration}
    (h : ∀ entry ∈ entries, (given? reporter entry).isSome = true) :
    ofList reporter entries = .ok (run reporter {} entries) := by
  -- a store is filled from any start as registrations are made from there
  have hfold : ∀ start : MemoryStore, entries.foldlM
      (fun store entry => do return (← store.register reporter entry.1 entry.2).1) start
        = Except.ok (start.run reporter entries) := by
    induction entries with
    | nil => exact fun start => rfl
    | cons entry rest ih =>
      intro start
      obtain ⟨hentry, hrest⟩ := List.forall_mem_cons.1 h
      obtain ⟨template, hgiven⟩ := Option.isSome_iff_exists.1 hentry
      have hattempt := attempt_of_given start hgiven
      have hregister : start.register reporter entry.1 entry.2
          = .ok (start.insert entry.1 template, template) := by
        unfold attempt at hattempt
        split at hattempt
        · next hregister =>
          cases hattempt
          exact hregister
        · cases hattempt
      rw [List.foldlM_cons, hregister, run, List.foldl_cons, hattempt]
      exact ih hrest _
  exact hfold {}

/-! ## Loads -/

/-- The reason to stop is a fault of the code, unless misuse keeps it from being reported. The
registry that is there from the start leaves no room for that. -/
def Reports (reporter : Reporter) (code : String) (reason : Stop) : Prop :=
  (∀ fault, reason = .fault fault → fault.code = code) ∧
    (reporter.registry = .builtin → ∃ fault, reason = .fault fault)

/-- What the store holds is loaded. -/
theorem load_of_find? {identifier : String} {template : Template}
    (h : store.find? identifier = some template) :
    store.load reporter identifier = .ok template := by
  rw [load, h]

/-- What it does not hold is reported as not found. -/
theorem load_of_find?_none (reporter : Reporter) {identifier : String}
    (h : store.find? identifier = none) :
    ∃ reason, store.load reporter identifier = .error reason ∧
      Reports reporter Code.templateNotFound reason := by
  refine ⟨_, by rw [load, h], fun fault hfault => Reporter.code_of_stop hfault, fun hbuiltin => ?_⟩
  exact Reporter.exists_templateNotFound hbuiltin identifier

/-- The store contains exactly what can be loaded from it. -/
theorem contains_iff (reporter : Reporter) (store : MemoryStore) (identifier : String) :
    store.contains identifier = true ↔
      ∃ template, store.load reporter identifier = .ok template := by
  rw [contains]
  cases hfind : store.find? identifier with
  | some template => exact ⟨fun _ => ⟨template, load_of_find? hfind⟩, fun _ => rfl⟩
  | none =>
    obtain ⟨reason, hload, -⟩ := load_of_find?_none reporter hfind
    simp [hload]

/-- What comes of one registration: it ends with the template that it gives, or, for a malformed
source, with the report of that and the store as it was. Nothing changes under other identifiers. -/
structure Registers (reporter : Reporter) (store : MemoryStore) (registration : Registration)
    (result : Except Stop Template) (after : MemoryStore) : Prop where
  result_eq_ok_iff : ∀ template, result = .ok template ↔
    given? reporter registration = some template
  of_error : ∀ reason, result = .error reason → after = store ∧
    (∃ text, registration.2 = .source text) ∧ Reports reporter Code.templateParseError reason
  others : ∀ other, other ≠ registration.1 →
    after.load reporter other = store.load reporter other ∧
      after.contains other = store.contains other

/-- Every registration goes as `Registers` says, also a failed one. -/
theorem attempt_registers (reporter : Reporter) (store : MemoryStore)
    (registration : Registration) :
    Registers reporter store registration (store.attempt reporter registration).1
      (store.attempt reporter registration).2 where
  result_eq_ok_iff template := attempt_eq_ok_iff
  of_error reason hreason := by
    cases hgiven : given? reporter registration with
    | some template =>
      rw [attempt_of_given store hgiven] at hreason
      cases hreason
    | none =>
      obtain ⟨text, error, hsource, -, hattempt⟩ := attempt_of_given_none store hgiven
      rw [hattempt] at hreason ⊢
      cases hreason
      refine ⟨rfl, ⟨text, hsource⟩, fun fault hfault => Reporter.code_of_stop hfault,
        fun hbuiltin => ?_⟩
      obtain ⟨fault, hfault, -⟩ := Reporter.exists_templateParseError hbuiltin registration.1
        (error.message registration.1 text.toList)
      exact ⟨fault, hfault⟩
  others other hother := by
    have hfind : (store.attempt reporter registration).2.find? other = store.find? other := by
      rw [find?_attempt, if_neg (Ne.symm hother)]
      rfl
    rw [load, load, contains, contains, hfind]
    exact ⟨rfl, rfl⟩

/-- Let a store be made of entries all of which can be compiled, and let registrations follow, of
any kind and in any order. A load then gives the template of the last registration of its identifier
that succeeded, the entries counted among them, or it reports that there is none. The identifier is
in the store exactly if the load gives a template. What is registered next ends with its template or
leaves the store as it is, and makes no difference to other identifiers. -/
theorem load_last_registered (reporter : Reporter) (entries registrations : List Registration)
    (hcompilable : ∀ entry ∈ entries, (given? reporter entry).isSome = true) :
    ∃ start, ofList reporter entries = .ok start ∧
      let store := start.run reporter registrations
      (∀ identifier template,
        last? reporter identifier (entries ++ registrations) = some template →
        store.load reporter identifier = .ok template) ∧
      (∀ identifier, last? reporter identifier (entries ++ registrations) = none →
        ∃ reason, store.load reporter identifier = .error reason ∧
          Reports reporter Code.templateNotFound reason) ∧
      (∀ identifier, store.contains identifier = true ↔
        ∃ template, store.load reporter identifier = .ok template) ∧
      ∀ registration, Registers reporter store registration
        (store.attempt reporter registration).1 (store.attempt reporter registration).2 := by
  have hfind : ∀ identifier, ((run reporter {} entries).run reporter registrations).find? identifier
      = last? reporter identifier (entries ++ registrations) := by
    intro identifier
    have hall : (run reporter {} entries).run reporter registrations
        = run reporter {} (entries ++ registrations) := List.foldl_append.symm
    rw [hall, find?_run]
    exact Option.or_none
  exact ⟨_, ofList_eq_run hcompilable,
    fun identifier template hlast => load_of_find? ((hfind identifier).trans hlast),
    fun identifier hlast => load_of_find?_none reporter ((hfind identifier).trans hlast),
    contains_iff reporter _, attempt_registers reporter _⟩

/-- The text of a template that holds nothing else. -/
def plainText? : Template → Option String
  | ⟨_, []⟩ => some ""
  | ⟨_, [.chunk text]⟩ => some text
  | _ => none

/-- Two pages. -/
def firstPages : List Registration := [("page", .source "Hello"), ("blank", .source "x")]

/-- Three pages more, two of which have a tag left open. -/
def laterPages : List Registration :=
  [("page", .source "$if(title)$"), ("blank", .source ""), ("draft", .source "$")]

/-- A page that is registered anew with a block left open stays what it was, and one that becomes
empty is there as any other. -/
theorem open_block_refused :
    ∃ start, ofList ⟨.builtin, default⟩ firstPages = .ok start ∧
      (∃ template, (start.run ⟨.builtin, default⟩ laterPages).load ⟨.builtin, default⟩ "page"
          = .ok template ∧ plainText? template = some "Hello") ∧
      (start.run ⟨.builtin, default⟩ laterPages).contains "blank" = true ∧
      ∃ fault, (start.run ⟨.builtin, default⟩ laterPages).load ⟨.builtin, default⟩ "draft"
          = .error (.fault fault) ∧ fault.code = Code.templateNotFound := by
  have hpage : (last? ⟨.builtin, default⟩ "page" (firstPages ++ laterPages)).bind plainText?
      = some "Hello" := by
    decide +kernel
  have hblank : (last? ⟨.builtin, default⟩ "blank" (firstPages ++ laterPages)).bind plainText?
      = some "" := by
    decide +kernel
  have hdraft : (last? ⟨.builtin, default⟩ "draft" (firstPages ++ laterPages)).isNone = true := by
    decide +kernel
  obtain ⟨page, hpage, htext⟩ := Option.bind_eq_some_iff.1 hpage
  obtain ⟨blank, hblank, -⟩ := Option.bind_eq_some_iff.1 hblank
  obtain ⟨start, hstart, hloads, habsent, hcontains, -⟩ :=
    load_last_registered ⟨.builtin, default⟩ firstPages laterPages (by decide +kernel)
  obtain ⟨reason, hreason, hcode, hfault⟩ := habsent "draft" (Option.isNone_iff_eq_none.1 hdraft)
  obtain ⟨fault, rfl⟩ := hfault rfl
  exact ⟨start, hstart, ⟨page, hloads "page" page hpage, htext⟩,
    (hcontains "blank").2 ⟨blank, hloads "blank" blank hblank⟩, fault, hreason, hcode fault rfl⟩

end Inlay.MemoryStore
