import Inlay.Proofs.File.Name

/-!
# Trees of files

What stands below a directory is a *tree* if everything in it has a name that files can have, and
there are directories all the way down to it (`TreeBelow`). Then every file in it is found from the
top, unless its path is too long for that (`TreeBelow.probe_of_file`), and each is listed once.

Whether a path leads to a directory (`HasDirectory`) depends on every directory that it passes. It
may also be refused (`Refuses`), because it is too long or a name in it is.
-/

namespace Inlay.File

namespace Workspace

variable {workspace : Workspace}

/-! ## Ways -/

/-- There are directories all the way along some names, and where they end. -/
def Leads (workspace : Workspace) (location : Location) (names : List String) : Prop :=
  ∀ passed, passed <+: names → workspace.entryAt? (passed.foldl .step location) = some .directory

/-- No names lead to a directory itself. -/
theorem leads_nil {location : Location} :
    workspace.Leads location [] ↔ workspace.entryAt? location = some .directory := by
  simp [Leads]

/-- The first of the names leads from a directory to where the others lead on. -/
theorem leads_cons {location : Location} {name : String} {rest : List String} :
    workspace.Leads location (name :: rest) ↔
      workspace.entryAt? location = some .directory ∧
        workspace.Leads (location.step name) rest := by
  constructor
  · intro h
    exact ⟨h [] (List.nil_prefix), fun passed hpassed =>
      h (name :: passed) (List.cons_prefix_cons.2 ⟨rfl, hpassed⟩)⟩
  · rintro ⟨hhere, hrest⟩ passed hpassed
    cases passed with
    | nil => exact hhere
    | cons first passed =>
      obtain ⟨rfl, hbehind⟩ := List.cons_prefix_cons.1 hpassed
      exact hrest passed hbehind

/-- A way ends at a directory exactly if it leads through directories only, and no name on it is too
long. -/
theorem walk_eq_directory_iff {location found : Location} {names : List String} :
    workspace.walk location names = .ok (some (found, .directory)) ↔
      found = names.foldl .step location ∧ workspace.Leads location names ∧
        ∀ name ∈ names, name.utf8ByteSize ≤ longestName := by
  induction names generalizing location with
  | nil =>
    rw [walk, leads_nil]
    cases workspace.entryAt? location <;> simp [eq_comm]
  | cons name rest ih =>
    rw [walk, leads_cons, List.forall_mem_cons, List.foldl_cons]
    split
    · next hhere =>
      split
      · next hlong => simp [Nat.not_le.2 hlong]
      · next hfits => simp [ih, hhere, Nat.not_lt.1 hfits]
    · next hother =>
      have hnone : workspace.entryAt? location ≠ some .directory := hother
      simp [hnone]

/-- A way is refused exactly if a name on it is too long for the directory that it is looked for
in. -/
theorem walk_eq_error_iff {location : Location} {names : List String} {misuse : Misuse} :
    workspace.walk location names = .error misuse ↔
      misuse = .refusedPath ∧ ∃ before name behind, names = before ++ name :: behind ∧
        workspace.Leads location before ∧ longestName < name.utf8ByteSize := by
  induction names generalizing location with
  | nil => simp [walk]
  | cons name rest ih =>
    rw [walk]
    split
    · next hhere =>
      split
      · next hlong =>
        constructor
        · intro h
          cases h
          exact ⟨rfl, [], name, rest, rfl, leads_nil.2 hhere, hlong⟩
        · rintro ⟨rfl, -⟩
          rfl
      · next hfits =>
        -- the name fits here, so it is not the one that is too long
        rw [ih]
        refine and_congr_right fun _ => ⟨?_, ?_⟩
        · rintro ⟨before, other, behind, rfl, hleads, hlong⟩
          exact ⟨name :: before, other, behind, rfl, leads_cons.2 ⟨hhere, hleads⟩, hlong⟩
        · rintro ⟨before, other, behind, hnames, hleads, hlong⟩
          cases before with
          | nil =>
            cases hnames
            exact absurd hlong hfits
          | cons first before =>
            cases hnames
            exact ⟨before, other, behind, rfl, (leads_cons.1 hleads).2, hlong⟩
    · next hother =>
      constructor
      · intro h
        cases h
      · rintro ⟨-, before, other, behind, -, hleads, -⟩
        exact absurd (hleads [] List.nil_prefix) hother

/-- A path leads to a directory: there is one at its end and wherever it passes. -/
structure HasDirectory (workspace : Workspace) (path : Path) : Prop where
  noNul : path.hasNul = false
  fits : path.text.utf8ByteSize ≤ longestPath
  names : ∀ name ∈ path.parts, name.utf8ByteSize ≤ longestName
  leads : workspace.Leads (workspace.place.start path) path.parts

/-- A path is refused: it is too long, or a name in it is, for the directory that it is looked for
in. -/
def Refuses (workspace : Workspace) (path : Path) : Prop :=
  path.hasNul = false ∧ (longestPath < path.text.utf8ByteSize ∨
    ∃ before name behind, path.parts = before ++ name :: behind ∧
      workspace.Leads (workspace.place.start path) before ∧ longestName < name.utf8ByteSize)

/-- A path is found to be a directory exactly if it is one. -/
theorem find_eq_directory_iff {path : Path} {location : Location} :
    workspace.find path = .ok (some (location, .directory)) ↔
      location = workspace.locate path ∧ workspace.HasDirectory path := by
  unfold find
  split
  · next hnul =>
    have hnot : ¬ workspace.HasDirectory path := fun h => by simp [h.noNul] at hnul
    simp [hnot]
  next hnul =>
  split
  · next hlong =>
    have hnot : ¬ workspace.HasDirectory path := fun h => Nat.not_lt.2 h.fits hlong
    simp [hnot]
  · next hfits =>
    rw [walk_eq_directory_iff]
    refine and_congr_right fun _ => ⟨fun ⟨hleads, hnames⟩ => ?_, fun h => ⟨h.leads, h.names⟩⟩
    exact ⟨Bool.eq_false_iff.2 hnul, Nat.not_lt.1 hfits, hnames, hleads⟩

/-- A path cannot be looked up exactly if the system refuses it. -/
theorem find_eq_error_iff {path : Path} {misuse : Misuse} :
    workspace.find path = .error misuse ↔ misuse = .refusedPath ∧ workspace.Refuses path := by
  unfold find Refuses
  split
  · next hnul => simp [hnul]
  next hnul =>
  have hnul : path.hasNul = false := Bool.eq_false_iff.2 hnul
  split
  · next hlong => simp [hnul, hlong, eq_comm]
  · next hfits => simp [hnul, hfits, walk_eq_error_iff]

/-! ## Trees -/

/-- A file that is found is one of the entries. -/
theorem mem_of_entryAt?_eq_file {location : Location} {content : ByteArray}
    (h : workspace.entryAt? location = some (.file content)) :
    (location.parts, .file content) ∈ workspace.entries := by
  unfold entryAt? at h
  split at h
  · cases h
  · obtain ⟨before, behind, hentries, -⟩ := List.lookup_eq_some_iff.1 h
    rw [hentries]
    exact List.mem_append_right _ List.mem_cons_self

/-- Something stands exactly where a place is occupied. -/
theorem mem_occupied_iff {location : Location} :
    location.parts ∈ workspace.occupied ↔ ∃ entry, workspace.entryAt? location = some entry := by
  -- the directories that hold the place to look from are there without an entry
  have hholds : location.parts ∈ (List.range (workspace.place.parts.length + 1)).map
      workspace.place.parts.take ↔ location.holds workspace.place = true := by
    rw [Location.holds_iff, List.mem_map]
    constructor
    · rintro ⟨length, -, hparts⟩
      rw [← hparts]
      exact List.take_prefix ..
    · intro hprefix
      refine ⟨location.parts.length, ?_, (List.prefix_iff_eq_take.1 hprefix).symm⟩
      rw [List.mem_range]
      exact Nat.lt_succ_of_le hprefix.length_le
  have hlisted : location.parts ∈ workspace.entries.map Prod.fst ↔
      ∃ entry, workspace.entries.lookup location.parts = some entry := by
    rw [← Option.isSome_iff_exists, List.mem_map, List.lookup_isSome_iff]
    constructor
    · rintro ⟨entry, hmem, hparts⟩
      exact ⟨entry, hmem, beq_iff_eq.2 hparts.symm⟩
    · rintro ⟨entry, hmem, hparts⟩
      exact ⟨entry, hmem, (beq_iff_eq.1 hparts).symm⟩
  rw [occupied, List.mem_append, hholds, hlisted, entryAt?]
  split
  · next hheld => simp [hheld]
  · next hheld => simp [hheld]

/-- An entry stands below a location: everything on the way down has a name that files can have,
there are directories all the way from the top, and nothing else stands at its place. -/
structure Stands (workspace : Workspace) (root : Location) (names : List String) (entry : Entry) :
    Prop where
  name : ∀ name ∈ names, IsName name
  fits : ∀ name ∈ root.parts ++ names, name.utf8ByteSize ≤ longestName
  held : ∀ place : Location, place.parts <+: root.parts ++ names →
    place.parts ≠ root.parts ++ names → workspace.entryAt? place = some .directory
  found : ∀ location : Location, location.parts = root.parts ++ names →
    workspace.entryAt? location = some entry

/-- What stands below a location is a tree. -/
structure TreeBelow (workspace : Workspace) (root : Location) : Prop where
  nodup : (workspace.entries.map Prod.fst).Nodup
  stands : ∀ names entry, (root.parts ++ names, entry) ∈ workspace.entries →
    workspace.Stands root names entry

/-- What is listed for a place stands there, unless the place holds the one where the program works.
-/
theorem entryAt?_of_mem (hnodup : (workspace.entries.map Prod.fst).Nodup) {location : Location}
    {entry : Entry} (hfree : ¬ location.parts <+: workspace.place.parts)
    (hmem : (location.parts, entry) ∈ workspace.entries) :
    workspace.entryAt? location = some entry := by
  rw [entryAt?, if_neg (mt (Location.holds_iff ..).1 hfree), List.lookup_eq_some_iff]
  obtain ⟨before, behind, hentries⟩ := List.append_of_mem hmem
  refine ⟨before, behind, hentries, fun other hother => ?_⟩
  rw [hentries, List.map_append, List.map_cons] at hnodup
  have hdiffer := (List.nodup_append.1 hnodup).2.2 other.1 (List.mem_map_of_mem hother)
    location.parts List.mem_cons_self
  simpa using hdiffer.symm

/-- To have a tree, it is enough that the directory which holds an entry is always there. -/
theorem TreeBelow.of_parents {root : Location}
    (hnodup : (workspace.entries.map Prod.fst).Nodup)
    (hfree : ∀ entry ∈ workspace.entries, ¬ entry.1 <+: workspace.place.parts)
    (hparent : ∀ entry ∈ workspace.entries, entry.1.dropLast <+: workspace.place.parts ∨
      (entry.1.dropLast, .directory) ∈ workspace.entries)
    (hnames : ∀ names entry, (root.parts ++ names, entry) ∈ workspace.entries →
      (∀ name ∈ names, IsName name) ∧
        ∀ name ∈ root.parts ++ names, name.utf8ByteSize ≤ longestName) :
    workspace.TreeBelow root := by
  have habove (place : Location) (h : place.parts <+: workspace.place.parts) :
      workspace.entryAt? place = some .directory := by
    rw [entryAt?, if_pos ((Location.holds_iff ..).2 h)]
  -- by induction on the length of the way down to an entry
  have hheld : ∀ length, ∀ entry ∈ workspace.entries, entry.1.length = length →
      ∀ place : Location, place.parts <+: entry.1 → place.parts ≠ entry.1 →
        workspace.entryAt? place = some .directory := by
    intro length
    induction length with
    | zero =>
      intro entry hmem hlength
      rw [List.length_eq_zero_iff] at hlength
      exact absurd (hlength ▸ List.nil_prefix) (hfree entry hmem)
    | succ length ih =>
      intro entry hmem hlength place hprefix hproper
      have hsome : entry.1 ≠ [] := List.ne_nil_of_length_eq_add_one hlength
      rw [← List.dropLast_concat_getLast hsome] at hprefix
      have hbelow : place.parts <+: entry.1.dropLast := by
        refine (List.prefix_concat_iff.1 hprefix).resolve_left fun hsame => hproper ?_
        rw [hsame, List.dropLast_concat_getLast]
      obtain hplace | hlisted := hparent entry hmem
      · exact habove place (hbelow.trans hplace)
      by_cases hsame : place.parts = entry.1.dropLast
      · rw [← hsame] at hlisted
        exact entryAt?_of_mem hnodup (hfree _ hlisted) hlisted
      · exact ih _ hlisted (by simp [hlength]) place hbelow hsame
  refine ⟨hnodup, fun names entry hmem => ?_⟩
  obtain ⟨hname, hfits⟩ := hnames names entry hmem
  refine ⟨hname, hfits, hheld _ _ hmem rfl, fun location hlocation => ?_⟩
  exact entryAt?_of_mem hnodup (hlocation ▸ hfree _ hmem) (hlocation ▸ hmem)

/-- What stands below a root has a location of its own. -/
theorem Stands.exists_location {root : Location} {names : List String} {entry : Entry}
    (h : workspace.Stands root names entry) :
    ∃ location : Location, location.parts = root.parts ++ names := by
  refine ⟨⟨root.parts ++ names, fun hpoints => ?_⟩, rfl⟩
  obtain hroot | hnames := List.mem_append.1 hpoints
  · exact root.named hroot
  · exact (h.name _ hnames).proper.2.2 rfl

namespace TreeBelow

variable {root location : Location} {names : List String} {content : ByteArray}

/-- A file that is found below a tree stands in it. -/
theorem stands_of_file (h : workspace.TreeBelow root)
    (hlocation : location.parts = root.parts ++ names)
    (hfile : workspace.entryAt? location = some (.file content)) :
    workspace.Stands root names (.file content) :=
  h.stands names _ (hlocation ▸ mem_of_entryAt?_eq_file hfile)

/-- A file is found from the top, unless its path is too long for that. -/
theorem probe_of_file (h : workspace.TreeBelow root)
    (hlocation : location.parts = root.parts ++ names)
    (hfile : workspace.entryAt? location = some (.file content))
    (hpath : location.text.utf8ByteSize ≤ longestPath) :
    workspace.probe location = .ok (some (.file content)) := by
  have hstands := h.stands_of_file hlocation hfile
  rw [← hfile]
  refine probe_eq ?_ ?_ hpath
  · rw [hlocation]
    exact hstands.held
  · rw [hlocation]
    exact hstands.fits

/-- The files below a location are listed by the names that lead down to them. -/
theorem mem_filesBelow_iff (h : workspace.TreeBelow root) :
    names ∈ workspace.filesBelow root ↔ ∃ location : Location, ∃ content,
      location.parts = root.parts ++ names ∧
        workspace.entryAt? location = some (.file content) := by
  -- listed is what is an entry below the root, which in a tree is what can be found there
  have hlisted : names ∈ workspace.filesBelow root ↔
      ∃ content, (root.parts ++ names, .file content) ∈ workspace.entries := by
    rw [filesBelow, List.mem_filterMap]
    constructor
    · rintro ⟨⟨parts, entry⟩, hmem, hlisted⟩
      dsimp only at hlisted
      split at hlisted
      · next htest =>
        obtain ⟨hfile, hbelow⟩ := Bool.and_eq_true_iff.1 htest
        obtain ⟨behind, rfl⟩ := List.isPrefixOf_iff_prefix.1 hbelow
        cases hlisted
        cases entry with
        | directory => cases hfile
        | file content => exact ⟨content, by rwa [List.drop_left]⟩
      · cases hlisted
    · rintro ⟨content, hmem⟩
      have hbelow : root.parts.isPrefixOf (root.parts ++ names) = true :=
        List.isPrefixOf_iff_prefix.2 (List.prefix_append ..)
      exact ⟨_, hmem, by simp [Entry.isDirectory, hbelow]⟩
  rw [hlisted]
  constructor
  · rintro ⟨content, hmem⟩
    have hstands := h.stands names _ hmem
    obtain ⟨location, hlocation⟩ := hstands.exists_location
    exact ⟨location, content, hlocation, hstands.found location hlocation⟩
  · rintro ⟨location, content, hlocation, hfile⟩
    exact ⟨content, hlocation ▸ mem_of_entryAt?_eq_file hfile⟩

/-- No file is listed twice. -/
theorem nodup_filesBelow (h : workspace.TreeBelow root) : (workspace.filesBelow root).Nodup := by
  have hentries : workspace.entries.Pairwise fun entry other => entry.1 ≠ other.1 :=
    List.pairwise_map.1 h.nodup
  -- what is listed under the same names stands at the same place
  refine hentries.filterMap _ fun entry other hne names hnames names' hnames' hsame => hne ?_
  simp only [Option.ite_none_right_eq_some, Bool.and_eq_true, List.isPrefixOf_iff_prefix,
    Option.some.injEq] at hnames hnames'
  obtain ⟨⟨-, hbelow⟩, rfl⟩ := hnames
  obtain ⟨⟨-, hbelow'⟩, rfl⟩ := hnames'
  rw [← List.prefix_iff_eq_append.1 hbelow, ← List.prefix_iff_eq_append.1 hbelow', hsame]

end TreeBelow

/-- Everything below the location of a path can be looked at along the path. -/
def Reaches (workspace : Workspace) (path : Path) : Prop :=
  ∀ (location : Location) (names : List String) (entry : Entry),
    location.parts = (workspace.locate path).parts ++ names →
    workspace.entryAt? location = some entry →
    (path.join ⟨"", names⟩).text.utf8ByteSize ≤ longestPath

/-- The walk through a tree comes to an end exactly if no path in it is too long. -/
theorem isWithinReach_iff {path : Path} (h : workspace.TreeBelow (workspace.locate path)) :
    workspace.isWithinReach path = true ↔ workspace.Reaches path := by
  -- the names of what is listed below are names, so that a location has them
  have hlisted (names : List String)
      (hmem : (workspace.locate path).parts ++ names ∈ workspace.occupied) :
      ∃ location : Location, location.parts = (workspace.locate path).parts ++ names := by
    obtain hplace | hentry := List.mem_append.1 hmem
    · obtain ⟨length, -, hparts⟩ := List.mem_map.1 hplace
      refine ⟨⟨_, fun hpoints => workspace.place.named ?_⟩, rfl⟩
      rw [← hparts] at hpoints
      exact List.mem_of_mem_take hpoints
    · obtain ⟨⟨parts, entry⟩, hmem, rfl⟩ := List.mem_map.1 hentry
      exact (h.stands names entry hmem).exists_location
  unfold isWithinReach Reaches
  simp only [List.all_eq_true, Bool.or_eq_true, Bool.not_eq_true', ← Bool.not_eq_true,
    List.isPrefixOf_iff_prefix, decide_eq_true_eq]
  constructor
  · intro hall location names entry hlocation hentry
    obtain hnot | hreach := hall _ (mem_occupied_iff.2 ⟨entry, hentry⟩)
    · exact absurd (hlocation ▸ List.prefix_append ..) hnot
    · rwa [hlocation, List.drop_left] at hreach
  · intro hreach parts hmem
    by_cases hbelow : (workspace.locate path).parts <+: parts
    · obtain ⟨names, rfl⟩ := hbelow
      obtain ⟨location, hlocation⟩ := hlisted names hmem
      obtain ⟨entry, hentry⟩ := mem_occupied_iff.1 (hlocation ▸ hmem)
      right
      rw [List.drop_left]
      exact hreach location names entry hlocation hentry
    · exact .inl hbelow

end Workspace

end Inlay.File
