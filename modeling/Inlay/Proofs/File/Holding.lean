import Inlay.Proofs.File.Path

/-!
# Directories that hold given files

An identifier is *canonical* if each of its components is a name. Then it leads from a directory to
where these names lead, and no other canonical identifier leads there.

A directory *holds* given files if these are the files below it, under their identifiers and in
UTF-8, and nothing keeps them from being found (`Holds.probe_of_mem`). No other file is found then
(`Holds.probe_ne_file`).
-/

namespace Inlay.File

/-! ## Canonical identifiers -/

/-- The components of a written path. -/
def components (path : String) : List String := (path.toList.splitOn '/').map String.ofList

/-- Each component of the path is a name, and no name holds the character that none can. -/
def Canonical (path : String) : Prop :=
  (∀ name ∈ components path, name ≠ "" ∧ name ≠ "." ∧ name ≠ "..") ∧ '\x00' ∉ path.toList

instance (path : String) : Decidable (Canonical path) := inferInstanceAs (Decidable (_ ∧ _))

/-- An identifier is told by its components. -/
theorem components_injective : Function.Injective components := by
  intro path path' h
  have hpieces : path.toList.splitOn '/' = path'.toList.splitOn '/' :=
    (List.map_inj_right fun _ _ hpiece => String.ofList_injective hpiece).1 h
  have hchars := congrArg (List.intercalate ['/']) hpieces
  rw [List.intercalate_splitOn, List.intercalate_splitOn] at hchars
  exact String.toList_injective hchars

/-- Names are followed by going into what they name. -/
theorem foldl_follow {names : List String}
    (h : ∀ name ∈ names, name ≠ "" ∧ name ≠ "." ∧ name ≠ "..") (base : List String) :
    names.foldl follow base = base ++ names := by
  induction names generalizing base with
  | nil => rw [List.foldl_nil, List.append_nil]
  | cons name rest ih =>
    obtain ⟨hempty, hpoint, hpoints⟩ := h name List.mem_cons_self
    have hfollow : follow base name = base ++ [name] := by
      rw [follow, if_neg (by simp [hempty, hpoint]), if_neg hpoints]
    rw [List.foldl_cons, hfollow, ih fun other hother => h other (List.mem_cons_of_mem _ hother),
      List.append_assoc, List.singleton_append]

/-- A canonical identifier does not start from the top, and leads to where its components do. -/
theorem Canonical.normalized_eq {path : String} (h : Canonical path) (base : List String) :
    normalized base path = base ++ components path := by
  have hhead : path.toList.head? ≠ some '/' := by
    intro hhead
    obtain ⟨rest, hrest⟩ := List.head?_eq_some_iff.1 hhead
    have hempty : "" ∈ components path := by
      rw [components, ← splitAt_eq_splitOn, hrest, splitAt, if_pos rfl, List.map_cons]
      exact List.mem_cons_self
    exact (h.1 "" hempty).1 rfl
  rw [normalized, if_neg hhead]
  exact foldl_follow h.1 base

namespace Workspace

variable {workspace : Workspace}

/-! ## What is found -/

/-- Names are followed to what stands where they lead, if there are directories all the way to it.
-/
theorem walk_eq {location target : Location} {names : List String}
    (htarget : target.parts = location.parts ++ names)
    (hdirectories : ∀ place : Location, location.parts <+: place.parts →
      place.parts <+: target.parts → place.parts ≠ target.parts →
      workspace.entryAt? place = some .directory)
    (hnames : ∀ name ∈ names, name.utf8ByteSize ≤ longestName) :
    workspace.walk location names
      = .ok ((workspace.entryAt? target).map fun entry => (target, entry)) := by
  induction names generalizing location with
  | nil =>
    obtain rfl : target = location := Location.eq_of_parts (htarget.trans (List.append_nil _))
    rw [walk]
  | cons name rest ih =>
    have hhere : workspace.entryAt? location = some .directory := by
      refine hdirectories location List.prefix_rfl (htarget ▸ List.prefix_append ..) ?_
      rw [htarget]
      simp
    have hname : name ≠ ".." := by
      rintro rfl
      exact target.named (htarget ▸ List.mem_append_right _ List.mem_cons_self)
    have hstep : (location.step name).parts = location.parts ++ [name] := by
      rw [Location.step, dif_neg hname]
    have hfits : ¬longestName < name.utf8ByteSize :=
      Nat.not_lt.2 (hnames name List.mem_cons_self)
    rw [walk, hhere]
    dsimp only
    rw [if_neg hfits]
    refine ih (by simp [hstep, htarget]) (fun place hplace => ?_)
      fun other hother => hnames other (List.mem_cons_of_mem _ hother)
    exact hdirectories place ((hstep ▸ List.prefix_append ..).trans hplace)

/-- What stands at a location is found there, if there are directories all the way to it and the
names are accepted. -/
theorem probe_eq {location : Location}
    (hdirectories : ∀ place : Location, place.parts <+: location.parts →
      place.parts ≠ location.parts → workspace.entryAt? place = some .directory)
    (hnames : ∀ name ∈ location.parts, name.utf8ByteSize ≤ longestName)
    (hpath : location.text.utf8ByteSize ≤ longestPath) :
    workspace.probe location = .ok (workspace.entryAt? location) := by
  have hwalk := @walk_eq workspace .top location location.parts rfl
    (fun place _ => hdirectories place) hnames
  unfold probe
  rw [if_neg (Nat.not_lt.2 hpath), hwalk]
  cases workspace.entryAt? location <;> rfl

/-- These files are below the directory, under their identifiers and in UTF-8, and no others. There
are directories all the way to them, and their names are accepted. -/
structure Holds (workspace : Workspace) (root : Location) (files : List (String × String)) :
    Prop where
  file_iff : ∀ location : Location, root.parts <+: location.parts → ∀ bytes,
    workspace.entryAt? location = some (.file bytes) ↔ ∃ file ∈ files,
      location.parts = root.parts ++ components file.1 ∧ bytes = file.2.toUTF8
  directory : ∀ file ∈ files, ∀ location : Location,
    location.parts <+: root.parts ++ components file.1 →
    location.parts ≠ root.parts ++ components file.1 →
    workspace.entryAt? location = some .directory
  name : ∀ file ∈ files, ∀ name ∈ root.parts ++ components file.1,
    name.utf8ByteSize ≤ longestName
  path : ∀ file ∈ files,
    ("/" ++ "/".intercalate (root.parts ++ components file.1)).utf8ByteSize ≤ longestPath

namespace Holds

variable {root location : Location} {files : List (String × String)}

/-- Each of the files is found where its identifier leads. -/
theorem probe_of_mem (h : workspace.Holds root files) {file : String × String}
    (hfile : file ∈ files) (hlocation : location.parts = root.parts ++ components file.1) :
    workspace.probe location = .ok (some (.file file.2.toUTF8)) := by
  have hentry : workspace.entryAt? location = some (.file file.2.toUTF8) := by
    refine (h.file_iff location ?_ _).2 ⟨file, hfile, hlocation, rfl⟩
    rw [hlocation]
    exact List.prefix_append ..
  have htext : location.text.utf8ByteSize ≤ longestPath := by
    rw [Location.text, hlocation]
    exact h.path file hfile
  rw [← hentry]
  refine probe_eq ?_ ?_ htext
  · rw [hlocation]
    exact h.directory file hfile
  · rw [hlocation]
    exact h.name file hfile

/-- Where the identifier of no file leads, no file is found. -/
theorem probe_ne_file (h : workspace.Holds root files) {path : String}
    (hpath : ∀ file ∈ files, file.1 ≠ path)
    (hlocation : location.parts = root.parts ++ components path) (bytes : ByteArray) :
    workspace.probe location ≠ .ok (some (.file bytes)) := by
  intro hprobe
  have hbelow : root.parts <+: location.parts := by
    rw [hlocation]
    exact List.prefix_append ..
  obtain ⟨file, hfile, hparts, -⟩ := (h.file_iff location hbelow bytes).1 (entryAt?_of_probe hprobe)
  rw [hlocation, List.append_right_inj] at hparts
  exact hpath file hfile (components_injective hparts.symm)

end Holds

end Workspace

end Inlay.File
