import Inlay.File.Workspace
import Inlay.Proofs.Basic

/-!
# Where paths lead

A path leads to where its components lead one by one: an empty component and a single point stay,
two points go to the directory that holds the place, and the top holds itself; every other component
is a name. `normalized` says this of the path as it is written, and `parts_ofPath_ofString` that the
location of a path is that place. What is found at a location stands there and nowhere else
(`entryAt?_of_probe`).
-/

namespace Inlay.File

/-- Follow one component of a written path from the place that some names lead to. -/
def follow (names : List String) (component : String) : List String :=
  if component = "" ∨ component = "." then names
  else if component = ".." then names.dropLast
  else names ++ [component]

/-- The names that lead from the top to where a written path leads, as seen from a place. -/
def normalized (base : List String) (path : String) : List String :=
  ((path.toList.splitOn '/').map String.ofList).foldl follow
    (if path.toList.head? = some '/' then [] else base)

/-- Cutting a text at a character is what the library's split does. -/
theorem splitAt_eq_splitOn (mark : Char) (cs : List Char) : splitAt mark cs = cs.splitOn mark := by
  induction cs with
  | nil => rfl
  | cons c rest ih =>
    rw [splitAt, ih]
    unfold List.splitOn
    rw [List.splitOnP_cons_eq_if_modifyHead]
    by_cases hc : c = mark
    · rw [if_pos hc, if_pos (by simpa using hc)]
    · rw [if_neg hc, if_neg (by simpa using hc)]
      cases hparts : rest.splitOnP fun d => d == mark with
      | nil => exact absurd hparts (List.splitOnP_ne_nil _ _)
      | cons part parts => rfl

/-- The pieces of a text hold its characters, except for those that it was cut at. -/
theorem mem_splitAt {mark c : Char} (hc : c ≠ mark) (cs : List Char) :
    (∃ piece ∈ splitAt mark cs, c ∈ piece) ↔ c ∈ cs := by
  induction cs with
  | nil => simp [splitAt]
  | cons d rest ih =>
    rw [splitAt, List.mem_cons, ← ih]
    by_cases hd : d = mark
    · have hne : c ≠ d := hd ▸ hc
      rw [if_pos hd]
      simp [hne]
    · rw [if_neg hd]
      cases splitAt mark rest <;> simp [or_assoc]

namespace Path

/-- A path is rooted if it begins with a slash. -/
theorem isRooted_ofString (path : String) :
    (ofString path).isRooted = true ↔ path.toList.head? = some '/' := by
  show (!(rootOf path.toList).isEmpty) = true ↔ _
  rw [rootOf.eq_def]
  split
  · next hpath => simp [hpath]
  · next hpath => simp [hpath]
  · next hpath => simp [hpath]
  · next hslash =>
    constructor
    · intro h
      exact absurd h (by decide)
    · intro hhead
      obtain ⟨rest, hrest⟩ := List.head?_eq_some_iff.1 hhead
      exact absurd hrest (hslash rest)

/-- No part that says nothing holds the character which no file name has. -/
theorem hasNul_ofString (path : String) :
    (ofString path).hasNul = true ↔ '\x00' ∈ path.toList := by
  have hslash : '\x00' ≠ '/' := by decide
  rw [← mem_splitAt hslash path.toList]
  simp only [hasNul, ofString, partsOf, List.any_eq_true, List.mem_map, List.mem_filter,
    List.contains_iff_mem]
  constructor
  · rintro ⟨_, ⟨piece, ⟨hpiece, -⟩, rfl⟩, hnul⟩
    rw [String.toList_ofList] at hnul
    exact ⟨piece, hpiece, hnul⟩
  · rintro ⟨piece, hpiece, hnul⟩
    have hsays : piece ≠ [] ∧ piece ≠ ['.'] := by
      constructor <;> rintro rfl <;> revert hnul <;> decide
    refine ⟨String.ofList piece, ⟨piece, ⟨hpiece, decide_eq_true hsays⟩, rfl⟩, ?_⟩
    rwa [String.toList_ofList]

end Path

namespace Location

/-- The names that lead to a location tell which it is. -/
theorem eq_of_parts {first second : Location} (h : first.parts = second.parts) :
    first = second := by
  obtain ⟨parts, named⟩ := first
  cases h
  rfl

/-- One step along a name that is a name leads one part further, or one back. -/
theorem parts_step (location : Location) {part : String} (hname : part ≠ "" ∧ part ≠ ".") :
    (location.step part).parts = follow location.parts part := by
  rw [step, follow, if_neg (by simpa using hname)]
  by_cases hpoints : part = ".."
  · rw [dif_pos hpoints, if_pos hpoints, parent]
  · rw [dif_neg hpoints, if_neg hpoints]

/-- The parts of a written path that say nothing lead nowhere. -/
theorem parts_foldl_step (pieces : List (List Char)) (location : Location) :
    (((pieces.filter fun part => part ≠ [] ∧ part ≠ ['.']).map String.ofList).foldl step
        location).parts = (pieces.map String.ofList).foldl follow location.parts := by
  induction pieces generalizing location with
  | nil => rfl
  | cons piece pieces ih =>
    rw [List.map_cons, List.foldl_cons]
    by_cases hsays : piece ≠ [] ∧ piece ≠ ['.']
    · have hname : String.ofList piece ≠ "" ∧ String.ofList piece ≠ "." := by
        refine ⟨fun h => hsays.1 ?_, fun h => hsays.2 ?_⟩
        · rw [← String.toList_ofList (l := piece), h, String.toList_empty]
        · rw [← String.toList_ofList (l := piece), h]
          decide
      rw [List.filter_cons_of_pos (by simpa using hsays), List.map_cons, List.foldl_cons, ih,
        parts_step location hname]
    · have hfollow : follow location.parts (String.ofList piece) = location.parts := by
        refine if_pos ?_
        by_cases hempty : piece = []
        · exact .inl (by rw [hempty, String.ofList_nil])
        · have hpoint : piece = ['.'] := by
            simpa [hempty] using hsays
          exact .inr (by rw [hpoint])
      rw [List.filter_cons_of_neg (by simpa using hsays), ih, hfollow]

/-- The location of a written path is where its components lead. -/
theorem parts_ofPath_ofString (base : Location) (path : String) :
    (base.ofPath (Path.ofString path)).parts = normalized base.parts path := by
  have hstart : (base.start (Path.ofString path)).parts
      = if path.toList.head? = some '/' then [] else base.parts := by
    rw [start]
    by_cases hrooted : path.toList.head? = some '/'
    · rw [if_pos hrooted, if_pos ((Path.isRooted_ofString path).2 hrooted)]
      rfl
    · rw [if_neg hrooted, if_neg (mt (Path.isRooted_ofString path).1 hrooted)]
  rw [ofPath, normalized, ← hstart, ← parts_foldl_step, ← splitAt_eq_splitOn]
  rfl

theorem holds_iff (outer inner : Location) :
    outer.holds inner = true ↔ outer.parts <+: inner.parts := List.isPrefixOf_iff_prefix

end Location

namespace Workspace

variable {workspace : Workspace}

/-- What is found along names stands where they lead. -/
theorem walk_eq_some {location found : Location} {names : List String} {entry : Entry}
    (hnames : ".." ∉ names)
    (h : workspace.walk location names = .ok (some (found, entry))) :
    found.parts = location.parts ++ names ∧ workspace.entryAt? found = some entry := by
  induction names generalizing location with
  | nil =>
    simp only [walk, Except.ok.injEq, Option.map_eq_some_iff, Prod.mk.injEq] at h
    obtain ⟨entry, hentry, rfl, rfl⟩ := h
    exact ⟨(List.append_nil _).symm, hentry⟩
  | cons name rest ih =>
    rw [walk] at h
    split at h
    · split at h
      · cases h
      · obtain ⟨hfound, hentry⟩ := ih (fun hmem => hnames (List.mem_cons_of_mem _ hmem)) h
        have hne : name ≠ ".." := by
          rintro rfl
          exact hnames List.mem_cons_self
        refine ⟨?_, hentry⟩
        rw [hfound, Location.step, dif_neg hne, List.append_assoc, List.singleton_append]
    · cases h

/-- What a probe finds is there. -/
theorem entryAt?_of_probe {location : Location} {entry : Entry}
    (h : workspace.probe location = .ok (some entry)) :
    workspace.entryAt? location = some entry := by
  unfold probe at h
  split at h
  · cases h
  · obtain ⟨found, hwalk, hfound⟩ := Except.bind_eq_ok.1 h
    obtain ⟨⟨place, entry⟩, rfl, rfl⟩ := Option.map_eq_some_iff.1 (Except.ok.inj hfound)
    obtain ⟨hplace, hentry⟩ := walk_eq_some location.named hwalk
    obtain rfl : place = location := Location.eq_of_parts hplace
    exact hentry

end Workspace

end Inlay.File
