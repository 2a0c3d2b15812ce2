import Inlay.Proofs.File.Holding

/-!
# Names of files

What files can be called (`IsName`). Names that are joined to one path are a canonical identifier,
whose components are the names again (`components_intercalate`). The extension of a name is what
starts at its last point, unless that is the first or the last character of the name
(`Path.extension_eq_iff`).
-/

namespace Inlay.File

/-! ## Names -/

/-- A name that files can have. -/
structure IsName (name : String) : Prop where
  proper : name ≠ "" ∧ name ≠ "." ∧ name ≠ ".."
  noSlash : '/' ∉ name.toList
  noNul : '\x00' ∉ name.toList

instance (name : String) : Decidable (IsName name) :=
  decidable_of_iff ((name ≠ "" ∧ name ≠ "." ∧ name ≠ "..") ∧ '/' ∉ name.toList ∧
    '\x00' ∉ name.toList) ⟨fun ⟨hproper, hslash, hnul⟩ => ⟨hproper, hslash, hnul⟩,
      fun h => ⟨h.proper, h.noSlash, h.noNul⟩⟩

/-- Names that are joined to a path are its components. -/
theorem components_intercalate {names : List String} (hsome : names ≠ [])
    (h : ∀ name ∈ names, IsName name) : components ("/".intercalate names) = names := by
  have hpieces : ("/".intercalate names).toList.splitOn '/' = names.map String.toList := by
    rw [String.toList_intercalate]
    refine List.splitOn_intercalate '/' ?_ ?_
    · simpa using fun name hname => (h name hname).noSlash
    · simpa using hsome
  rw [components, hpieces, List.map_map]
  simp

/-- Names that are joined to a path are a canonical identifier. -/
theorem canonical_intercalate {names : List String} (hsome : names ≠ [])
    (h : ∀ name ∈ names, IsName name) : Canonical ("/".intercalate names) := by
  have hcomponents := components_intercalate hsome h
  refine ⟨fun name hname => (h name (hcomponents ▸ hname)).proper, fun hnul => ?_⟩
  obtain ⟨piece, hpiece, hmem⟩ :=
    (@mem_splitAt '/' '\x00' (by decide) ("/".intercalate names).toList).2 hnul
  have hname : String.ofList piece ∈ names := by
    rw [← hcomponents, components, ← splitAt_eq_splitOn]
    exact List.mem_map_of_mem hpiece
  refine (h _ hname).noNul ?_
  rwa [String.toList_ofList]

namespace Path

/-- A name is a path of one part. -/
theorem ofString_of_isName {name : String} (h : IsName name) : ofString name = ⟨"", [name]⟩ := by
  have hroot : rootOf name.toList = "" := by
    have hhead : name.toList.head? ≠ some '/' := fun hhead =>
      h.noSlash (List.mem_of_mem_head? hhead)
    have hrooted := mt (isRooted_ofString name).1 hhead
    simpa [isRooted, ofString] using hrooted
  have hproper : name.toList ≠ [] ∧ name.toList ≠ ['.'] := by
    refine ⟨fun hnone => h.proper.1 (String.toList_injective hnone), fun hpoint => h.proper.2.1 ?_⟩
    exact String.toList_injective hpoint
  rw [ofString, hroot, partsOf, splitAt_eq_splitOn, List.splitOn_eq_singleton h.noSlash]
  simp [hproper]

/-! ## Extensions -/

/-- A name goes on behind its last point, and something stands before the point. Then what starts
at the point is its extension. -/
def HasExtension (name extension : String) : Prop :=
  ∃ stem tail : String, name = stem ++ "." ++ tail ∧ extension = "." ++ tail ∧
    stem ≠ "" ∧ tail ≠ "" ∧ '.' ∉ tail.toList

theorem forall_ne_point {cs : List Char} (h : '.' ∉ cs) : ∀ c ∈ cs.reverse, (c != '.') = true := by
  intro c hc
  have hmem : c ∈ cs := List.mem_reverse.1 hc
  simpa using fun heq : c = '.' => h (heq ▸ hmem)

/-- A name has an extension if there is something before its last point and something behind it. -/
theorem extension_of_point {stem tail : List Char} (htail : '.' ∉ tail) :
    extension (.ofList (stem ++ '.' :: tail))
      = if stem = [] ∨ tail = [] then "" else .ofList ('.' :: tail) := by
  have hrun := forall_ne_point htail
  have hpoint : ∀ c ∈ ('.' :: stem.reverse).head?, (c != '.') = false := by simp
  -- read backwards, the tail is the run of characters before the first point
  have hreverse : (stem ++ '.' :: tail).reverse = tail.reverse ++ '.' :: stem.reverse := by simp
  simp only [extension, String.toList_ofList, hreverse, takeWhile_run hrun hpoint,
    dropWhile_run hrun hpoint, List.reverse_reverse]
  cases stem <;> cases tail <;> simp

/-- Without a point there is none. -/
theorem extension_of_not_mem {name : String} (h : '.' ∉ name.toList) : extension name = "" := by
  have hdrop : name.toList.reverse.dropWhile (· != '.') = [] := by
    simpa using @dropWhile_run _ _ _ [] (forall_ne_point h) (by simp)
  simp [extension, hdrop]

/-- The last point of a text that has one. -/
theorem exists_last_point {cs : List Char} (h : '.' ∈ cs) :
    ∃ stem tail, cs = stem ++ '.' :: tail ∧ '.' ∉ tail := by
  obtain ⟨before, behind, hcs, hbefore⟩ := List.eq_append_cons_of_mem (List.mem_reverse.2 h)
  refine ⟨behind.reverse, before.reverse, ?_, by simpa using hbefore⟩
  rw [← List.reverse_reverse cs, hcs]
  simp

/-- A name has one extension at most. -/
theorem HasExtension.extension_eq {name text : String} (h : HasExtension name text) :
    extension name = text := by
  obtain ⟨stem, tail, rfl, rfl, hstem, htail, hpoint⟩ := h
  have hname : stem ++ "." ++ tail = .ofList (stem.toList ++ '.' :: tail.toList) := by
    apply String.toList_injective
    simp
  rw [hname, extension_of_point hpoint, if_neg (by simpa using not_or.2 ⟨hstem, htail⟩)]
  apply String.toList_injective
  simp

/-- What is found as an extension is the one that the name has. -/
theorem hasExtension_extension {name : String} (h : extension name ≠ "") :
    HasExtension name (extension name) := by
  by_cases hpoint : '.' ∈ name.toList
  · obtain ⟨stem, tail, hname, htail⟩ := exists_last_point hpoint
    have hname : name = .ofList (stem ++ '.' :: tail) := by
      rw [← hname, String.ofList_toList]
    rw [hname, extension_of_point htail] at h ⊢
    split at h
    · exact absurd rfl h
    next hparts =>
      obtain ⟨hstem, htail'⟩ := not_or.1 hparts
      rw [if_neg hparts]
      refine ⟨.ofList stem, .ofList tail, ?_, ?_, by simpa using hstem, by simpa using htail', ?_⟩
      · apply String.toList_injective
        simp
      · apply String.toList_injective
        simp
      · rwa [String.toList_ofList]
  · exact absurd (extension_of_not_mem hpoint) h

/-- The extension of a name, which is empty for a name that has none. -/
def IsExtension (name text : String) : Prop :=
  HasExtension name text ∨ text = "" ∧ ∀ other, ¬ HasExtension name other

/-- So an extension is found, or none, exactly as the name has it. -/
theorem extension_eq_iff {name text : String} : extension name = text ↔ IsExtension name text := by
  have hempty : ∀ other, HasExtension name other → other ≠ "" := by
    rintro _ ⟨stem, tail, -, rfl, -⟩ hnone
    simpa using congrArg String.toList hnone
  constructor
  · rintro rfl
    by_cases hnone : extension name = ""
    · exact .inr ⟨hnone, fun other hother => hempty other hother (hother.extension_eq ▸ hnone)⟩
    · exact .inl (hasExtension_extension hnone)
  · rintro (h | ⟨rfl, hnone⟩)
    · exact h.extension_eq
    · exact Decidable.byContradiction fun hsome => hnone _ (hasExtension_extension hsome)

end Path

end Inlay.File
