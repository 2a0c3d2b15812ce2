import Inlay.Proofs.Config.Reloading
import Inlay.Proofs.Config.Reference
import Inlay.Proofs.Fault.Messages

/-!
# References in a configuration

Replacing the references in a value goes through its texts in order (`textsOfValue`): those of lists
and of the values of mappings, at every depth. Where all of them can be resolved, each text is put
in its place and everything else is as it was (`replaceInValue`); else the first that cannot be
resolved is complained about. What is nested too deep ends in neither way (`Settles`).

A load replaces the references of the file before the overrides are laid over it
(`references_replaced`).
-/

namespace Inlay.Config

/-! ## The texts of a value -/

mutual

/-- The texts of a value, in order; the keys of mappings are not among them. -/
def textsOfValue : Value → List String
  | .text text => [text]
  | .list members => textsOfMembers members
  | .map entries => textsOfEntries entries
  | _ => []

def textsOfMembers : List Value → List String
  | [] => []
  | member :: rest => textsOfValue member ++ textsOfMembers rest

def textsOfEntries : List (Value × Value) → List String
  | [] => []
  | (_, value) :: rest => textsOfValue value ++ textsOfEntries rest

end

mutual

/-- The value with another text in the place of each of its texts. -/
def replaceInValue (replace : String → String) : Value → Value
  | .text text => .text (replace text)
  | .list members => .list (replaceInMembers replace members)
  | .map entries => .map (replaceInEntries replace entries)
  | value => value

def replaceInMembers (replace : String → String) : List Value → List Value
  | [] => []
  | member :: rest => replaceInValue replace member :: replaceInMembers replace rest

def replaceInEntries (replace : String → String) : List (Value × Value) → List (Value × Value)
  | [] => []
  | (key, value) :: rest => (key, replaceInValue replace value) :: replaceInEntries replace rest

end

mutual

/-- The value is nested at most so deep, and nothing stands in itself. -/
def ValueFits (depth : Nat) : Value → Prop
  | .list members => depth ≠ 0 ∧ MembersFit (depth - 1) members
  | .map entries => depth ≠ 0 ∧ EntriesFit (depth - 1) entries
  | .again _ => False
  | _ => True

def MembersFit (depth : Nat) : List Value → Prop
  | [] => True
  | member :: rest => ValueFits depth member ∧ MembersFit depth rest

def EntriesFit (depth : Nat) : List (Value × Value) → Prop
  | [] => True
  | (_, value) :: rest => ValueFits depth value ∧ EntriesFit depth rest

end

/-! ## How replacing ends -/

variable {environment : Environment} {α β γ : Type}

/-- A text with its references replaced, or as it is if one of them cannot be resolved. -/
def resolved (environment : Environment) (text : String) : String :=
  (resolveText environment text).toOption.getD text

/-- What is complained about in a text. -/
def complaint? (environment : Environment) (text : String) : Option String :=
  match resolveText environment text with
  | .ok _ => none
  | .error message => some message

/-- The complaint about the first of these texts that cannot be resolved. -/
def firstComplaint? (environment : Environment) (texts : List String) : Option String :=
  texts.findSome? (complaint? environment)

/-- How replacing the references of these texts ends: with what is expected if all can be resolved,
with the complaint about the first that cannot, or in neither way if the value does not fit. -/
def Settles (environment : Environment) (texts : List String) (fits : Prop) (expected : α) :
    Except Unresolved α → Prop
  | .ok result => fits ∧ firstComplaint? environment texts = none ∧ result = expected
  | .error (.required message) => firstComplaint? environment texts = some message
  | .error .endless => ¬ fits

namespace Settles

variable {texts more : List String} {fits fits' : Prop} {expected : α} {expected' : β}
  {first : Except Unresolved α} {second : Except Unresolved β}

/-- What replaces no text gives what is expected. -/
theorem pure (environment : Environment) (expected : α) :
    Settles environment [] True expected (.ok expected) := ⟨trivial, rfl, rfl⟩

/-- A part behind another one is looked at if nothing is complained about in the first. -/
theorem seq (hfirst : Settles environment texts fits expected first)
    (hsecond : Settles environment more fits' expected' second) (join : α → β → γ) :
    Settles environment (texts ++ more) (fits ∧ fits') (join expected expected')
      (first >>= fun a => second >>= fun b => .ok (join a b)) := by
  have happend : firstComplaint? environment (texts ++ more)
      = (firstComplaint? environment texts).or (firstComplaint? environment more) :=
    List.findSome?_append
  cases first with
  | error reason =>
    -- the second part is not looked at, whatever there is to complain about in it
    cases reason with
    | required message => exact happend.trans (by rw [hfirst]; rfl)
    | endless => exact fun h => hfirst h.1
  | ok a =>
    obtain ⟨hfits, hnone, rfl⟩ := hfirst
    rw [hnone, Option.none_or] at happend
    cases second with
    | error reason =>
      cases reason with
      | required message => exact happend.trans hsecond
      | endless => exact fun h => hsecond h.2
    | ok b =>
      obtain ⟨hfits', hnone', rfl⟩ := hsecond
      exact ⟨⟨hfits, hfits'⟩, happend.trans hnone', rfl⟩

/-- What is made of a settled part is settled in the same way. -/
theorem map (h : Settles environment texts fits expected first) (wrap : α → β) :
    Settles environment texts fits (wrap expected) (first >>= fun a => .ok (wrap a)) := by
  cases first with
  | error reason => cases reason <;> exact h
  | ok a =>
    obtain ⟨hfits, hnone, rfl⟩ := h
    exact ⟨hfits, hnone, rfl⟩

/-- What is nested one level deeper needs room for it. -/
theorem nested {depth : Nat} (h : Settles environment texts fits expected first) :
    Settles environment texts (depth ≠ 0 ∧ fits) expected
      (if depth = 0 then .error .endless else first) := by
  split
  · next hzero => exact fun h => h.1 hzero
  · next hroom =>
    cases first with
    | error reason =>
      cases reason with
      | required message => exact h
      | endless => exact fun hfits => h hfits.2
    | ok a => exact ⟨⟨hroom, h.1⟩, h.2⟩

end Settles

/-! ## Replacing the references of a value -/

/-- A text is replaced by what it is resolved to, or its own complaint is made. -/
theorem settles_text (environment : Environment) (text : String) :
    Settles environment [text] True (.text (resolved environment text))
      (match resolveText environment text with
        | .ok text => .ok (Value.text text)
        | .error message => .error (.required message)) := by
  have hone : firstComplaint? environment [text] = complaint? environment text := by
    simp [firstComplaint?, List.findSome?_cons]
    cases complaint? environment text <;> rfl
  cases h : resolveText environment text with
  | error message => exact hone.trans (by rw [complaint?, h])
  | ok value =>
    refine ⟨trivial, hone.trans (by rw [complaint?, h]), ?_⟩
    rw [resolved, h]
    rfl

mutual

/-- A value is replaced at every place that holds a text, down to the depth that there is room for.
-/
theorem settles_value (environment : Environment) (depth : Nat) : (value : Value) →
    Settles environment (textsOfValue value) (ValueFits depth value)
      (replaceInValue (resolved environment) value) (resolveValue environment depth value)
  | .text text => settles_text environment text
  | .list members => by
    rw [textsOfValue, ValueFits, replaceInValue, resolveValue]
    exact ((settles_members environment (depth - 1) members).map Value.list).nested
  | .map entries => by
    rw [textsOfValue, ValueFits, replaceInValue, resolveValue]
    exact ((settles_entries environment (depth - 1) entries).map Value.map).nested
  | .again _ => id
  | .null => .pure environment _
  | .bool _ => .pure environment _
  | .int _ => .pure environment _
  | .float _ => .pure environment _
  | .moment _ => .pure environment _
  | .bytes _ => .pure environment _
  | .set _ => .pure environment _
  | .pair _ _ => .pure environment _
  | .item _ _ _ => .pure environment _

/-- So are the members of a list, in their order. -/
theorem settles_members (environment : Environment) (depth : Nat) : (members : List Value) →
    Settles environment (textsOfMembers members) (MembersFit depth members)
      (replaceInMembers (resolved environment) members) (resolveMembers environment depth members)
  | [] => .pure environment _
  | member :: rest => by
    rw [textsOfMembers, MembersFit, replaceInMembers, resolveMembers]
    exact (settles_value environment depth member).seq
      (settles_members environment depth rest) List.cons

/-- So are the entries of a mapping: their values, and not their keys. -/
theorem settles_entries (environment : Environment) (depth : Nat) :
    (entries : List (Value × Value)) →
    Settles environment (textsOfEntries entries) (EntriesFit depth entries)
      (replaceInEntries (resolved environment) entries) (resolveEntries environment depth entries)
  | [] => .pure environment _
  | (key, value) :: rest => by
    rw [textsOfEntries, EntriesFit, replaceInEntries, resolveEntries]
    exact (settles_value environment depth value).seq
      (settles_entries environment depth rest) fun value rest => (key, value) :: rest

end

/-! ## Loading a file -/

open File Loader

variable {around : Surroundings} {loader : Loader} {request : Option Path} {path : Path}
  {place : Location} {bytes : ByteArray} {entries : Entries}

/-- The mapping at the root of a file, before its references are replaced. -/
def rootOf (bytes : ByteArray) : Option Entries :=
  match Yaml.load (.ofBytes bytes.toList) with
  | .ok found =>
    match (found.getD .null).orElse (.map []) with
    | .map entries => some entries
    | _ => none
  | .error _ => none

/-- The mapping of a file is the one at its root with its references replaced. -/
theorem mappingOf_of_root (h : rootOf bytes = some entries) :
    mappingOf around path (.ofBytes bytes.toList)
      = match resolveEntries around.environment around.room entries with
        | .ok entries => .ok entries
        | .error (.required message) => .error (invalid around.reporter message)
        | .error .endless => .error (.misuse .endless) := by
  unfold rootOf at h
  unfold mappingOf
  split at h
  · next found hload =>
    rw [hload]
    dsimp only
    generalize (found.getD .null).orElse (.map []) = held at h ⊢
    cases held with
    | map held =>
      cases h
      rfl
    | _ => cases h
  · cases h

/-- How a load of a file with this mapping at its root goes, with references to the environment in
its texts. -/
structure Referring (around : Surroundings) (loader : Loader) (path : Path) (entries : Entries)
    (overrides : Entries) (load : Load) : Prop where
  /-- If all texts can be resolved, the overrides, as they are, are laid over the mapping with its
  texts replaced. -/
  replaced : EntriesFit around.room entries →
    firstComplaint? around.environment (textsOfEntries entries) = none →
    load = loader.loadEntries around
      (Entries.overlay (replaceInEntries (resolved around.environment) entries) overrides) path
  /-- Else the load is refused with the complaint about the first that cannot. -/
  refused : ∀ message, EntriesFit around.room entries →
    firstComplaint? around.environment (textsOfEntries entries) = some message →
    load = { result := .error (invalid around.reporter message), loader }
  /-- What is nested too deep is not loaded. -/
  tooDeep : ¬ EntriesFit around.room entries →
    load = { result := .error (.misuse .endless), loader } ∨
      ∃ message, firstComplaint? around.environment (textsOfEntries entries) = some message ∧
        load = { result := .error (invalid around.reporter message), loader }

/-- A file goes by the references in its mapping as `Referring` says. -/
theorem loadFile_referring (hroot : rootOf bytes = some entries) (overrides : Entries) :
    Referring around loader path entries overrides
      (loader.loadFile around path overrides bytes) := by
  have hmapping := @mappingOf_of_root around path bytes entries hroot
  have hsettles := settles_entries around.environment around.room entries
  cases hresolve : resolveEntries around.environment around.room entries with
  | ok data =>
    rw [hresolve] at hmapping hsettles
    obtain ⟨hfits, hnone, rfl⟩ := hsettles
    rw [loadFile_of_mapping overrides hmapping]
    refine ⟨fun _ _ => rfl, ?_, fun hdeep => absurd hfits hdeep⟩
    intro message _ hsome
    rw [hnone] at hsome
    cases hsome
  | error reason =>
    rw [hresolve] at hmapping hsettles
    cases reason with
    | required message =>
      have hsome : firstComplaint? around.environment (textsOfEntries entries) = some message :=
        hsettles
      rw [loadFile_of_error overrides hmapping]
      refine ⟨?_, ?_, fun _ => .inr ⟨message, hsome, rfl⟩⟩
      · intro _ hnone
        rw [hnone] at hsome
        cases hsome
      · intro other _ hother
        rw [hsome] at hother
        cases hother
        rfl
    | endless =>
      -- nothing is complained about, as there was no room to look at all texts
      have hdeep : ¬ EntriesFit around.room entries := hsettles
      rw [loadFile_of_error overrides hmapping]
      exact ⟨fun hfits => absurd hfits hdeep, fun _ hfits => absurd hfits hdeep,
        fun _ => .inl rfl⟩

/-- Where there is no file, the overrides are loaded as they are. -/
theorem load_of_missing (htarget : Loader.target around request = .ok path)
    (hmissing : around.workspace.find path = .ok none)
    (hnote : (loader.note [noFileEntry path]).2 = .ok ()) (overrides : Entries) :
    loader.load around request true overrides
      = { loader.loadEntries around overrides with
          lines := (loader.note [noFileEntry path]).1 ++
            (loader.loadEntries around overrides).lines } := by
  unfold Loader.target at htarget
  unfold load
  rw [htarget]
  dsimp only
  unfold loadPath
  rw [hmissing]
  dsimp only
  unfold loadMissing
  rw [if_pos rfl]
  split
  · next misuse heq =>
    rw [heq] at hnote
    cases hnote
  · next heq => rw [heq]

/-! ## Both together -/

/-- With the codes that every registry starts with: where each reference of a text has its variable
set or a default, replacing gives what the segments stand for, one after the other; else the first
reference without either is reported as an invalid configuration, with its own message or the usual
one. A load of a file replaces the references in the texts of its lists and mappings and nowhere
else: keys and everything that is no text stay as they are, and so do overrides, with a file or
without one. -/
theorem references_replaced (around : Surroundings)
    (hregistry : around.reporter.registry = .builtin) :
    (∀ segments, Segmented segments →
      (∀ values, segments.mapM (Segment.value? around.environment) = some values →
        resolveText around.environment (written segments) = .ok (String.join values)) ∧
      (∀ front segment back, segments = front ++ segment :: back →
        (∀ first ∈ front, first.value? around.environment ≠ none) →
        segment.value? around.environment = none →
        resolveText around.environment (written segments) = .error segment.complaint)) ∧
    (∀ message, ∃ fault, invalid around.reporter message = .fault fault ∧
      fault.code = Code.configInvalid ∧ fault.detail = .text message) ∧
    (∀ (loader : Loader) (request : Option Path) (path : Path),
      Loader.target around request = .ok path →
      (∀ place bytes entries, around.workspace.find path = .ok (some (place, .file bytes)) →
        rootOf bytes = some entries → ∀ useDefaults overrides,
        Referring around loader path entries overrides
          (loader.load around request useDefaults overrides)) ∧
      (around.workspace.find path = .ok none →
        (loader.note [noFileEntry path]).2 = .ok () → ∀ overrides,
        loader.load around request true overrides
          = { loader.loadEntries around overrides with
              lines := (loader.note [noFileEntry path]).1 ++
                (loader.loadEntries around overrides).lines })) := by
  refine ⟨?_, ?_, ?_⟩
  · intro segments hsegments
    rw [resolveText_written hsegments]
    refine ⟨fun values hvalues => meaning_of_values hvalues, ?_⟩
    rintro front segment back rfl hfront hsegment
    exact meaning_of_unset hfront hsegment
  · intro message
    obtain ⟨fault, hfault, hcode⟩ := Reporter.exists_configInvalid hregistry message
    exact ⟨fault, hfault, hcode, Reporter.detail_of_stop rfl hfault⟩
  · intro loader request path htarget
    refine ⟨?_, fun hmissing hnote => load_of_missing htarget hmissing hnote⟩
    intro place bytes entries hfile hroot useDefaults overrides
    rw [load_of_file useDefaults overrides htarget hfile]
    exact loadFile_referring hroot overrides

/-- The directory, the extensions and the encoding of the templates of a configuration. -/
def templates? (result : Except Stop Config) :
    Option (String × Option (List String) × Option String) :=
  result.toOption.map fun config =>
    (config.templates.directory, config.templates.extensions, config.templates.encoding.text?)

/-- The settings of a site that refer to the environment in a mapping and in a list. -/
def referringText : String :=
  "templates:\n  directory: $\x7bHOME\x7d/pages\n  extensions:\n  - $\x7bEXT:-.html\x7d\n"

/-- What a loader finds around it there. -/
def referringSite : Surroundings :=
  { site referringText with environment := [("HOME", "/h")] }

/-- Overrides that look like a reference. -/
def referringOverrides : Entries :=
  [named "templates" (.map [named "encoding" (.text (written [.reference "HOME" .none]))])]

/-- A file whose root can be had has a mapping there. -/
theorem exists_rootOf (bytes : ByteArray) (h : (rootOf bytes).isSome = true) :
    ∃ entries, rootOf bytes = some entries := Option.isSome_iff_exists.1 h

/-- The home directory in a path, behind a dollar sign, and a default that looks like a reference; a
port that nobody set, in front of a host that nobody set; and a file with references in a mapping
and in a list, which are replaced, and overrides, which stay as they are. -/
theorem references_replaced_path :
    let environment : Environment := [("HOME", "/h")]
    let load := ({} : Loader).load referringSite (some sitePath) true referringOverrides
    resolveText environment (written
      [.literal "$", .reference "HOME" .none, .literal "/",
        .reference "MODE" (.fallback "$\x7bA"), .literal "!"]) = .ok "$/h/$\x7bA!" ∧
    resolveText environment (written
      [.reference "HOME" .none, .literal ":", .reference "PORT" (.required "no port"),
        .reference "HOST" .none]) = .error "no port" ∧
    templates? load.result = some ("/h/pages", some [".html"], some "$\x7bHOME\x7d") ∧
    ∃ entries, rootOf (bytesOf referringText) = some entries ∧
      load = ({} : Loader).loadEntries referringSite
        (Entries.overlay (replaceInEntries (resolved environment) entries) referringOverrides)
        (some sitePath) := by
  intro environment load
  obtain ⟨htexts, -, hloads⟩ := references_replaced referringSite rfl
  refine ⟨?_, ?_, ?_⟩
  · refine (htexts _ ⟨?_, ?_⟩).1 ["$", "/h", "/", "$\x7bA", "!"] rfl
    · decide
    · decide
  · refine (htexts _ ⟨?_, ?_⟩).2 [.reference "HOME" .none, .literal ":"]
      (.reference "PORT" (.required "no port")) [.reference "HOST" .none] rfl ?_ rfl
    · decide
    · decide
    · decide
  have htemplates : templates? load.result
      = some ("/h/pages", some [".html"], some "$\x7bHOME\x7d") := by decide +kernel
  -- no other end of the load than that of the replaced mapping has templates
  have htaken : ∀ reason, load.result ≠ .error reason := by
    intro reason hreason
    rw [hreason] at htemplates
    cases htemplates
  obtain ⟨place, hfile⟩ := find_site referringText
  obtain ⟨entries, hroot⟩ := exists_rootOf (bytesOf referringText) (by decide +kernel)
  have hreferring := (hloads {} (some sitePath) sitePath rfl).1 place _ entries hfile hroot true
    referringOverrides
  have hfits : EntriesFit referringSite.room entries := by
    by_contra hdeep
    obtain hstopped | ⟨message, -, hrefused⟩ := hreferring.tooDeep hdeep
    · exact htaken _ (congrArg Load.result hstopped)
    · exact htaken _ (congrArg Load.result hrefused)
  refine ⟨htemplates, entries, hroot, hreferring.replaced hfits ?_⟩
  cases hcomplaint : firstComplaint? referringSite.environment (textsOfEntries entries) with
  | none => rfl
  | some message =>
    exact absurd (congrArg Load.result (hreferring.refused message hfits hcomplaint)) (htaken _)

end Inlay.Config
