import Inlay.Proofs.Grammar.Document

/-!
# Sources as written documents

Whatever is read without a mistake is the text of a written document, and of no other elements than
the document derives (`exists_document`). A source is taken apart from its first piece on. Inside of
a block, the document that it begins with ends in front of the tag that closes or divides the block;
outside, no such tag is taken, so that the document goes to the end of the source.
-/

namespace Inlay.Template

namespace Progress

/-! ## The ends of bodies -/

/-- A source goes on with a tag that closes or divides a block. -/
def AtCloser (source : List Char) : Prop :=
  ∃ (marks : Marks) (closer : Closer) (rest : List Char),
    source = marks.source (.close closer) ++ rest

/-- A source begins with a written document, behind whose elements it is read on from its end or
from a tag that closes or divides a block. -/
def Begins (progress : Progress) (source : List Char) (elements : List Element) : Prop :=
  ∃ nodes rest, DocumentWritten nodes ∧ DocumentClear nodes ∧
    source = documentSource nodes ++ rest ∧
    (progress.push (documentElements nodes)).run rest = .ok elements ∧
    (rest = [] ∨ AtCloser rest)

/-- At the end, and at a tag that ends a body, the document that begins there is empty. -/
theorem Begins.of_end {progress : Progress} {source : List Char} {elements : List Element}
    (h : progress.run source = .ok elements) (hsource : source = [] ∨ AtCloser source) :
    progress.Begins source elements :=
  ⟨[], source, trivial, trivial, rfl, h, hsource⟩

/-- A document is preceded by a node, where that may stand in front of it. -/
theorem Begins.cons (progress : Progress) (node : Node) {after : List Char}
    {elements : List Element} (hw : node.Written) (hclear : node.Clear)
    (hseparate : ∀ nodes rest, DocumentWritten nodes → after = documentSource nodes ++ rest →
      Separate node nodes)
    (h : (progress.push node.elements).Begins after elements) :
    progress.Begins (node.source ++ after) elements := by
  obtain ⟨nodes, rest, hwritten, hnodes, rfl, hrun, hrest⟩ := h
  refine ⟨node :: nodes, rest, ⟨hw, hseparate nodes rest hwritten rfl, hwritten⟩,
    ⟨hclear, hnodes⟩, ?_, ?_, hrest⟩
  · rw [documentSource, List.append_assoc]
  · rwa [push_push] at hrun

/-- A block that is read well to its end is closed or divided by the tag in front of which its body
ends. -/
theorem exists_closer {progress : Progress} {kind : BlockKind} {opening : Marks} {expr : Expr}
    {first : Option (List Element)} {last : Marks} {body : List Element} {rest : List Char}
    {elements : List Element}
    (h : ((progress.inBlock kind opening expr first last).push body).run rest = .ok elements)
    (hrest : rest = [] ∨ AtCloser rest) :
    ∃ marks closer after, rest = Marks.source marks (.close closer) ++ after ∧
      (closer = kind.closer ∨ first = none ∧ closer = kind.divider) := by
  rcases hrest with rfl | ⟨marks, closer, after, rfl⟩
  · rw [run_nil] at h
    exact absurd h (by simp [finish, push, inBlock])
  · obtain ⟨left, hrun⟩ := run_tag (.close closer) marks trivial trivial
      ((progress.inBlock kind opening expr first last).push body) after
    rw [hrun] at h
    obtain ⟨progress', hread, -⟩ := Except.bind_eq_ok.1 h
    exact ⟨marks, closer, after, rfl, closer_of_read progress kind opening expr rfl hread⟩

/-- Behind a text that goes up to a dollar sign, no document begins with a text. -/
theorem separate_text {chars after : List Char} (hhead : ∀ c ∈ after.head?, c = '$')
    (nodes : List Node) (rest : List Char) (hw : DocumentWritten nodes)
    (hafter : after = documentSource nodes ++ rest) : Separate (.text chars) nodes := by
  cases nodes with
  | nil => trivial
  | cons node nodes =>
    cases node with
    | dollar | value | inclusion | block | divided => trivial
    | text more =>
      obtain ⟨hne, hdollar⟩ := hw.1
      obtain ⟨c, cs, rfl⟩ := List.exists_cons_of_ne_nil hne
      have hc : c = '$' := hhead c (by rw [hafter]; rfl)
      exact absurd (by rw [hc]; exact List.mem_cons_self) hdollar

/-- A tag takes at least one character, so what follows is a shorter source. -/
theorem length_lt_source (marks : Marks) (form : TagForm) (rest : List Char) :
    rest.length < (marks.source form ++ rest).length := by
  simp only [Marks.source, tagSource, List.length_append, List.length_cons]
  omega

/-! ## Taking a source apart -/

section

variable {count : Nat} {elements : List Element}
  (ih : ∀ (progress : Progress) (source : List Char), source.length ≤ count →
    progress.run source = .ok elements → progress.Begins source elements)

include ih

/-- A block is taken apart into its bodies and what stands behind it, where shorter sources are. -/
theorem Begins.of_block (progress : Progress) (kind : BlockKind) (marks : Marks)
    {head : Spaced Phrase} (hw : (TagForm.headed kind.opener head).Written)
    (hclear : head.inner.expr.Clear) {after : List Char} (hcount : after.length ≤ count)
    (h : progress.run (marks.source (.headed kind.opener head) ++ after) = .ok elements) :
    progress.Begins (marks.source (.headed kind.opener head) ++ after) elements := by
  rw [run_opener progress kind marks hw hclear] at h
  obtain ⟨body, rest, hbody, hbodyClear, rfl, hrun, hrest⟩ := ih _ _ hcount h
  obtain ⟨closing, closer, rest, rfl, rfl | ⟨-, rfl⟩⟩ := exists_closer hrun hrest
  · -- one body, closed by the word of its block
    have hlt := length_lt_source closing (.close kind.closer) rest
    rw [run_closer] at hrun
    rw [List.length_append] at hcount
    have hbegins := ih _ _ (by omega) hrun
    have := Begins.cons progress (.block kind marks head body closing)
      ⟨hw, hbody⟩ ⟨hclear, hbodyClear⟩ (fun _ _ _ _ => trivial) hbegins
    simpa only [Node.source, List.append_assoc] using this
  · -- a second body, which is closed since a block is divided only once
    have hlt := length_lt_source closing (.close kind.divider) rest
    rw [run_divider] at hrun
    rw [List.length_append] at hcount
    obtain ⟨second, rest', hsecond, hsecondClear, rfl, hrun', hrest'⟩ := ih _ _ (by omega) hrun
    obtain ⟨final, closer, rest, rfl, rfl | ⟨hfirst, -⟩⟩ := exists_closer hrun' hrest'
    · have hlt' := length_lt_source final (.close kind.closer) rest
      rw [run_closer] at hrun'
      rw [List.length_append] at hlt
      have hbegins := ih _ _ (by omega) hrun'
      have := Begins.cons progress (.divided kind marks head body closing second final)
        ⟨hw, hbody, hsecond⟩ ⟨hclear, hbodyClear, hsecondClear⟩
        (fun _ _ _ _ => trivial) hbegins
      simpa only [Node.source, List.append_assoc] using this
    · exact absurd hfirst (by simp)

end

/-- A source that is read well begins with a written document, up to its end or to a tag that closes
or divides the block in which the source stands. -/
theorem begins_of_run (count : Nat) (progress : Progress) (source : List Char)
    (hcount : source.length ≤ count) {elements : List Element}
    (h : progress.run source = .ok elements) : progress.Begins source elements := by
  induction count generalizing progress source with
  | zero =>
    obtain rfl : source = [] := List.length_eq_zero_iff.1 (by omega)
    exact .of_end h (.inl rfl)
  | succ count ih =>
    by_cases hne : source = []
    · exact .of_end h (.inl hne)
    obtain ⟨piece, after, progress', hnext, hread, hrun⟩ := exists_next_of_run hne h
    have hlt := Piece.length_lt_of_next hne hnext
    have hafter : after.length ≤ count := by omega
    obtain ⟨chars, hchars, hdollar, hhead, rfl, rfl⟩ | ⟨rfl, rfl⟩ |
      ⟨form, tag, left, hw, hclear, hbody, rfl, rfl⟩ := Piece.next_cases hne hnext
    · simp only [read, Except.ok.injEq] at hread
      subst hread
      exact Begins.cons progress (.text chars) ⟨hchars, hdollar⟩ trivial (separate_text hhead)
        (ih _ _ hafter hrun)
    · simp only [read, Except.ok.injEq] at hread
      subst hread
      exact Begins.cons progress .dollar trivial trivial (fun _ _ _ _ => trivial)
        (ih _ _ hafter hrun)
    · cases form with
      -- tags without a body are nodes; those that open a block are left to `Begins.of_block`
      | value phrase =>
        simp only [read, hbody, TagForm.body, Except.ok.injEq] at hread
        rw [← hread, add_eq_push] at hrun
        exact Begins.cons progress (.value ⟨tag.trimsBefore, tag.trimsAfter⟩ phrase) hw hclear
          (fun _ _ _ _ => trivial) (ih _ _ hafter hrun)
      | headed opener head =>
        cases opener with
        | inclusion =>
          simp only [read, hbody, TagForm.body, Opener.body, Except.ok.injEq] at hread
          rw [← hread, add_eq_push] at hrun
          exact Begins.cons progress (.inclusion ⟨tag.trimsBefore, tag.trimsAfter⟩ head) hw hclear
            (fun _ _ _ _ => trivial) (ih _ _ hafter hrun)
        | cond =>
          exact Begins.of_block ih progress .cond ⟨tag.trimsBefore, tag.trimsAfter⟩
            hw hclear hafter h
        | loop =>
          exact Begins.of_block ih progress .loop ⟨tag.trimsBefore, tag.trimsAfter⟩
            hw hclear hafter h
      | close closer =>
        exact .of_end h (.inr ⟨⟨tag.trimsBefore, tag.trimsAfter⟩, closer, after, rfl⟩)

/-- Outside of a block, no tag closes or divides one. -/
theorem not_atCloser_of_run {progress : Progress} (hblocks : progress.blocks = [])
    {source : List Char} {elements : List Element} (h : progress.run source = .ok elements) :
    ¬ AtCloser source := by
  rintro ⟨marks, closer, rest, rfl⟩
  obtain ⟨left, hrun⟩ := run_tag (.close closer) marks trivial trivial progress rest
  rw [hrun] at h
  obtain ⟨progress', hread, -⟩ := Except.bind_eq_ok.1 h
  simp only [read, TagForm.body, close, hblocks] at hread
  exact absurd hread (by simp)

/-- A source that is read is the text of a written document, and its elements are those that the
document derives. -/
theorem exists_document {source : List Char} {elements : List Element}
    (h : Element.ofSource source = .ok elements) :
    ∃ nodes, DocumentWritten nodes ∧ DocumentClear nodes ∧ source = documentSource nodes ∧
      elements = documentElements nodes := by
  rw [ofSource_eq_run] at h
  obtain ⟨nodes, rest, hw, hclear, rfl, hrun, hrest⟩ :=
    begins_of_run source.length start source (Nat.le_refl _) h
  obtain rfl : rest = [] := hrest.resolve_right (not_atCloser_of_run rfl hrun)
  rw [run_nil] at hrun
  simp only [finish, push, start, List.append_nil, List.reverse_reverse, Except.ok.injEq] at hrun
  exact ⟨nodes, hw, hclear, List.append_nil _, hrun.symm⟩

end Progress

end Inlay.Template
