import Inlay.Proofs.Grammar.Tag

/-!
# Reading a source piece by piece

`Progress.run` reads a source from left to right, putting each piece in its place before it scans
the next one. It comes to the same as scanning the pieces first (`ofSource_eq_run`), since the first
mistake of a source is reported either way, and it is the form in which a source can be taken apart.
-/

namespace Inlay.Template

namespace Piece

/-! ## Pieces -/

/-- Text is read up to the next dollar sign. -/
theorem next_text {text rest : List Char} (hne : text ≠ []) (ht : '$' ∉ text)
    (hrest : ∀ c ∈ rest.head?, c = '$') :
    next (text ++ rest) = .ok (.text (String.ofList text), rest) := by
  have hrun : ∀ c ∈ text, (c != '$') = true := by
    intro c hc
    rw [bne_iff_ne]
    rintro rfl
    exact ht hc
  have hstop : ∀ c ∈ rest.head?, (c != '$') = false := by
    intro c hc
    rw [hrest c hc]
    rfl
  obtain ⟨c, cs, rfl⟩ := List.exists_cons_of_ne_nil hne
  have hc : c ≠ '$' := by simpa using hrun c List.mem_cons_self
  rw [next.eq_3, takeWhile_run hrun hstop, dropWhile_run hrun hstop]
  · rintro _ heq
    exact hc (List.cons.inj heq).1
  · rintro _ heq
    exact hc (List.cons.inj heq).1

/-- A well-written tag is read as what it says, with its marks. -/
theorem next_tag (before : Bool) {form : TagForm} {after : Bool} (hw : form.Written)
    (hclear : form.Clear after) (rest : List Char) :
    ∃ left, next (tagSource before form after ++ rest)
      = .ok (.tag ⟨form.body, before, after⟩ left, rest) := by
  have hsource : tagSource before form after ++ rest
      = '$' :: (markSource before ++ (form.source ++ (markSource after ++ '$' :: rest))) := by
    simp [tagSource]
  obtain ⟨c, cs, hform, -, hdollar⟩ := Tag.exists_source_eq_cons hw
  rw [hsource, next.eq_2, Tag.scan_source hw hclear]
  · exact ⟨_, rfl⟩
  · intro after' heq
    cases before with
    | true => exact absurd (List.cons.inj heq).1 (by decide)
    | false =>
      simp only [markSource, hform, List.cons_append, Bool.false_eq_true, ↓reduceIte,
        List.nil_append] at heq
      exact hdollar (List.cons.inj heq).1

/-- A piece that is read from a source which is not at its end is the text in front of a dollar
sign, a doubled dollar sign, or a written tag. -/
theorem next_cases {cs rest : List Char} {piece : Piece} (hcs : cs ≠ [])
    (h : next cs = .ok (piece, rest)) :
    (∃ text, text ≠ [] ∧ '$' ∉ text ∧ (∀ c ∈ rest.head?, c = '$') ∧
      piece = .text (String.ofList text) ∧ cs = text ++ rest) ∨
    (piece = .dollar ∧ cs = '$' :: '$' :: rest) ∨
    ∃ form tag left, TagForm.Written form ∧ form.Clear tag.trimsAfter ∧ tag.body = form.body ∧
      piece = .tag tag left ∧ cs = tagSource tag.trimsBefore form tag.trimsAfter ++ rest := by
  rw [next.eq_def] at h
  split at h
  · simp only [Except.ok.injEq, Prod.mk.injEq] at h
    obtain ⟨rfl, rfl⟩ := h
    exact .inr (.inl ⟨rfl, rfl⟩)
  · next after _ =>
    obtain ⟨⟨tag, left⟩, hscan, hend⟩ := Except.bind_eq_ok.1 h
    simp only [Except.ok.injEq, Prod.mk.injEq] at hend
    obtain ⟨rfl, rfl⟩ := hend
    obtain ⟨form, hw, hclear, hbody, rfl⟩ := Tag.exists_form hscan
    exact .inr (.inr ⟨form, tag, _, hw, hclear, hbody, rfl, by simp [tagSource]⟩)
  · -- no dollar sign stands here, so there is text up to the next one
    next _ htag =>
    simp only [Except.ok.injEq, Prod.mk.injEq] at h
    obtain ⟨rfl, rfl⟩ := h
    refine .inl ⟨cs.takeWhile (· != '$'), ?_, ?_, ?_, rfl, List.takeWhile_append_dropWhile.symm⟩
    · obtain ⟨c, cs, rfl⟩ := List.exists_cons_of_ne_nil hcs
      have hc : c ≠ '$' := by
        rintro rfl
        exact htag cs rfl
      simp [hc]
    · intro hmem
      exact absurd (List.all_eq_true.1 List.all_takeWhile _ hmem) (by decide)
    · intro c hc
      simpa using head_dropWhile _ c hc

/-- Every piece takes at least one character. -/
theorem length_lt_of_next {cs rest : List Char} {piece : Piece} (hcs : cs ≠ [])
    (h : next cs = .ok (piece, rest)) : rest.length < cs.length := by
  obtain ⟨text, hne, -, -, -, rfl⟩ | ⟨-, rfl⟩ | ⟨form, tag, _, -, -, -, -, rfl⟩ :=
    next_cases hcs h
  · have := List.length_pos_iff.2 hne
    rw [List.length_append]
    omega
  · simp only [List.length_cons]
    omega
  · simp only [tagSource, List.length_append, List.length_cons]
    omega

end Piece

/-! ## Reading piece by piece -/

namespace Progress

/-- The elements of a source that is read from here on, each piece being put in its place before the
next one is scanned. -/
def run (progress : Progress) (source : List Char) : Except SyntaxError (List Element) :=
  match source with
  | [] => progress.finish
  | c :: cs =>
    match h : Piece.next (c :: cs) with
    | .error error => .error error
    | .ok (piece, rest) =>
      have : rest.length < (c :: cs).length := Piece.length_lt_of_next (by simp) h
      progress.read piece >>= fun progress => progress.run rest
termination_by source.length
decreasing_by exact this

/-- The run of an empty source ends with the elements at hand, if no block is open. -/
theorem run_nil (progress : Progress) : progress.run [] = progress.finish := by
  rw [run]

/-- The run of a source reads its first piece and goes on behind it. -/
theorem run_of_next {progress : Progress} {source rest : List Char} {piece : Piece}
    (hne : source ≠ []) (h : Piece.next source = .ok (piece, rest)) :
    progress.run source = progress.read piece >>= fun progress => progress.run rest := by
  obtain ⟨c, cs, rfl⟩ := List.exists_cons_of_ne_nil hne
  rw [run]
  split
  · next herror => simp [h] at herror
  · next piece' rest' hok =>
    simp only [h, Except.ok.injEq, Prod.mk.injEq] at hok
    obtain ⟨rfl, rfl⟩ := hok
    rfl

/-- It fails where the next piece cannot be read. -/
theorem run_of_error {progress : Progress} {source : List Char} {error : SyntaxError}
    (hne : source ≠ []) (h : Piece.next source = .error error) :
    progress.run source = .error error := by
  obtain ⟨c, cs, rfl⟩ := List.exists_cons_of_ne_nil hne
  rw [run]
  split
  · next herror =>
    simp only [h, Except.error.injEq] at herror
    rw [herror]
  · next hok => simp [h] at hok

/-- A source that is read well begins with a piece that finds its place. -/
theorem exists_next_of_run {progress : Progress} {source : List Char} {elements : List Element}
    (hne : source ≠ []) (h : progress.run source = .ok elements) :
    ∃ piece rest progress', Piece.next source = .ok (piece, rest) ∧
      progress.read piece = .ok progress' ∧ progress'.run rest = .ok elements := by
  cases hnext : Piece.next source with
  | error error =>
    rw [run_of_error hne hnext] at h
    exact absurd h (by simp)
  | ok found =>
    rw [run_of_next hne hnext] at h
    obtain ⟨progress', hread, hrun⟩ := Except.bind_eq_ok.1 h
    exact ⟨found.1, found.2, progress', rfl, hread, hrun⟩

/-- Scanning a source up to its first malformed piece and reading the pieces afterwards comes to the
same as reading it piece by piece. -/
theorem readAll_scanWithin (count : Nat) (progress : Progress) (source : List Char)
    (hcount : source.length ≤ count) :
    (progress.readAll (Piece.scanWithin count source).1 >>= fun progress =>
      match (Piece.scanWithin count source).2 with
      | some error => .error error
      | none => progress.finish) = progress.run source := by
  induction count generalizing progress source with
  | zero =>
    obtain rfl : source = [] := List.length_eq_zero_iff.1 (by omega)
    rw [run_nil]
    rfl
  | succ count ih =>
    by_cases hne : source = []
    · subst hne
      rw [run_nil]
      rfl
    obtain ⟨c, cs, rfl⟩ := List.exists_cons_of_ne_nil hne
    cases hnext : Piece.next (c :: cs) with
    | error error =>
      rw [run_of_error hne hnext, Piece.scanWithin.eq_3 _ _ hne, hnext]
      rfl
    | ok found =>
      obtain ⟨piece, rest⟩ := found
      have hlt := Piece.length_lt_of_next hne hnext
      rw [run_of_next hne hnext, Piece.scanWithin.eq_3 _ _ hne, hnext]
      dsimp only
      rw [readAll]
      cases hread : progress.read piece with
      -- a piece that finds no place is reported before a malformed one behind it
      | error error => rfl
      | ok progress' => exact ih progress' rest (by omega)

/-- The elements of a source are those that reading it piece by piece leaves. -/
theorem ofSource_eq_run (source : List Char) :
    Element.ofSource source = start.run source :=
  readAll_scanWithin source.length start source (Nat.le_refl _)

end Progress

end Inlay.Template
