import Inlay.Proofs.Grammar.Run

/-!
# Written documents

A `Node` is a derivation of a part of a template: text, a doubled dollar sign, or a tag with what it
encloses. A document is a row of nodes. `documentSource` is its text, and `documentElements` are the
elements that it derives, in which the marks of its tags stand where their blanks are.

Main statement: reading the text of a written document gives its elements (`ofSource_source`).
-/

namespace Inlay.Template

/-- The marks that the two ends of a tag carry. -/
structure Marks where
  before : Bool
  after : Bool

/-- The two kinds of blocks. -/
inductive BlockKind where
  | cond
  | loop

namespace BlockKind

/-- The word that opens a block. -/
def opener : BlockKind → Opener
  | .cond => .cond
  | .loop => .loop

/-- The word between the two bodies of a block. -/
def divider : BlockKind → Closer
  | .cond => .orElse
  | .loop => .separator

/-- The word that closes a block. -/
def closer : BlockKind → Closer
  | .cond => .endIf
  | .loop => .endFor

/-- The block that is opened with an expression. -/
def opening : BlockKind → Expr → Opening
  | .cond => .cond
  | .loop => .loop

/-- The block as an element. -/
def element : BlockKind → Expr → List Element → Option (List Element) → Element
  | .cond => .cond
  | .loop => .loop

/-- The element that a block becomes with its last body. -/
def whole (kind : BlockKind) (expr : Expr) : Option (List Element) → List Element → Element
  | none, body => kind.element expr body none
  | some first, body => kind.element expr first (some body)

end BlockKind

/-- A derivation of a part of a template. -/
inductive Node where
  | text (chars : List Char)
  | dollar
  | value (marks : Marks) (phrase : Phrase)
  | inclusion (marks : Marks) (name : Spaced Phrase)
  /-- A block with one body. -/
  | block (kind : BlockKind) (opening : Marks) (head : Spaced Phrase) (body : List Node)
    (closing : Marks)
  /-- A block with two bodies. -/
  | divided (kind : BlockKind) (opening : Marks) (head : Spaced Phrase) (first : List Node)
    (divider : Marks) (second : List Node) (closing : Marks)

/-- The text of a tag that carries marks. -/
def Marks.source (marks : Marks) (form : TagForm) : List Char :=
  tagSource marks.before form marks.after

mutual

/-- The text of a node. -/
def Node.source : Node → List Char
  | .text chars => chars
  | .dollar => ['$', '$']
  | .value marks phrase => marks.source (.value phrase)
  | .inclusion marks name => marks.source (.headed .inclusion name)
  | .block kind opening head body closing =>
    opening.source (.headed kind.opener head) ++
      (documentSource body ++ closing.source (.close kind.closer))
  | .divided kind opening head first divider second closing =>
    opening.source (.headed kind.opener head) ++
      (documentSource first ++ (divider.source (.close kind.divider) ++
        (documentSource second ++ closing.source (.close kind.closer))))

/-- The text of a document. -/
def documentSource : List Node → List Char
  | [] => []
  | node :: rest => node.source ++ documentSource rest

end

/-- The mark in front of an element. -/
def leftMark (marked : Bool) : List Element := if marked then [.trimLeft] else []

/-- The mark behind an element. -/
def rightMark (marked : Bool) : List Element := if marked then [.trimRight] else []

/-- The elements of a body, between the marks that the tags around it carry towards it. -/
def bodyBetween (opening : Marks) (body : List Element) (closing : Marks) : List Element :=
  rightMark opening.after ++ (body ++ leftMark closing.before)

mutual

/-- The elements that a node derives: one, with the marks that its first tag carries in front of it
and its last tag behind it. -/
def Node.elements : Node → List Element
  | .text chars => [.chunk (String.ofList chars)]
  | .dollar => [.dollar]
  | .value marks phrase =>
    leftMark marks.before ++ .value phrase.expr :: rightMark marks.after
  | .inclusion marks name =>
    leftMark marks.before ++ .inclusion name.inner.expr :: rightMark marks.after
  | .block kind opening head body closing =>
    leftMark opening.before ++
      kind.element head.inner.expr (bodyBetween opening (documentElements body) closing) none ::
        rightMark closing.after
  | .divided kind opening head first divider second closing =>
    leftMark opening.before ++
      kind.element head.inner.expr (bodyBetween opening (documentElements first) divider)
        (some (bodyBetween divider (documentElements second) closing)) ::
        rightMark closing.after

/-- The elements that a document derives. -/
def documentElements : List Node → List Element
  | [] => []
  | node :: rest => node.elements ++ documentElements rest

end

/-- Two texts in a row would be one. -/
def Separate : Node → List Node → Prop
  | .text _, .text _ :: _ => False
  | _, _ => True

mutual

/-- The parts of a node are what they are meant to be. -/
def Node.Written : Node → Prop
  | .text chars => chars ≠ [] ∧ '$' ∉ chars
  | .dollar => True
  | .value _ phrase => (TagForm.value phrase).Written
  | .inclusion _ name => (TagForm.headed .inclusion name).Written
  | .block kind _ head body _ => (TagForm.headed kind.opener head).Written ∧ DocumentWritten body
  | .divided kind _ head first _ second _ =>
    (TagForm.headed kind.opener head).Written ∧ DocumentWritten first ∧ DocumentWritten second

/-- The parts of a document are what they are meant to be. -/
def DocumentWritten : List Node → Prop
  | [] => True
  | node :: rest => node.Written ∧ Separate node rest ∧ DocumentWritten rest

end

mutual

/-- The tags of a node are read as themselves. -/
def Node.Clear : Node → Prop
  | .text _ => True
  | .dollar => True
  | .value marks phrase => (TagForm.value phrase).Clear marks.after
  | .inclusion _ name => name.inner.expr.Clear
  | .block _ _ head body _ => head.inner.expr.Clear ∧ DocumentClear body
  | .divided _ _ head first _ second _ =>
    head.inner.expr.Clear ∧ DocumentClear first ∧ DocumentClear second

/-- The tags of a document are read as themselves. -/
def DocumentClear : List Node → Prop
  | [] => True
  | node :: rest => node.Clear ∧ DocumentClear rest

end

namespace Progress

/-! ## Putting pieces in their places -/

/-- Read elements that are complete. -/
def push (progress : Progress) (elements : List Element) : Progress :=
  { progress with elements := elements.reverse ++ progress.elements }

/-- Elements may be read in two goes. -/
@[simp] theorem push_push (progress : Progress) (first second : List Element) :
    (progress.push first).push second = progress.push (first ++ second) := by
  simp [push]

/-- The parser's mark before a tag is the `leftMark` of the tag. -/
theorem markBefore_eq (tag : Tag) (elements : List Element) :
    markBefore tag elements = leftMark tag.trimsBefore ++ elements := by
  rw [markBefore, leftMark]
  split <;> rfl

/-- Its mark behind a tag is the `rightMark`. -/
theorem markAfter_eq (tag : Tag) (elements : List Element) :
    markAfter tag elements = rightMark tag.trimsAfter ++ elements := by
  rw [markAfter, rightMark]
  split <;> rfl

/-- One mark at most, so what is read backwards is the same. -/
@[simp] theorem reverse_leftMark (marked : Bool) : (leftMark marked).reverse = leftMark marked := by
  cases marked <;> rfl

@[simp] theorem reverse_rightMark (marked : Bool) :
    (rightMark marked).reverse = rightMark marked := by
  cases marked <;> rfl

/-- A tag that is no part of a block is read as its element between its marks. -/
theorem add_eq_push (progress : Progress) (tag : Tag) (element : Element) :
    progress.add tag element
      = progress.push (leftMark tag.trimsBefore ++ element :: rightMark tag.trimsAfter) := by
  simp [add, push, markBefore_eq, markAfter_eq]

/-- The place in a source inside of a block: behind its opening tag, or behind the tag that divides
it, where the first body has been read. `last` are the marks of the tag in front of the place. -/
def inBlock (progress : Progress) (kind : BlockKind) (opening : Marks) (expr : Expr)
    (first : Option (List Element)) (last : Marks) : Progress where
  blocks := ⟨kind.opening expr, first, leftMark opening.before ++ progress.elements⟩
    :: progress.blocks
  elements := rightMark last.after

section

variable (progress : Progress) (kind : BlockKind) (opening : Marks) (expr : Expr)

/-- An opening tag starts a block: its left mark stays outside, its right mark opens the first body.
-/
theorem read_opener (left : Nat) :
    progress.read (.tag ⟨kind.opener.body expr, opening.before, opening.after⟩ left)
      = .ok (progress.inBlock kind opening expr none opening) := by
  cases kind <;> simp [read, BlockKind.opener, Opener.body, openBlock, BlockKind.opening, inBlock,
    markBefore_eq, markAfter_eq]

/-- A dividing tag ends the first body with its left mark and starts the second with its right one.
-/
theorem read_divider (body : List Element) (divider : Marks) (left : Nat) :
    ((progress.inBlock kind opening expr none opening).push body).read
        (.tag ⟨.close kind.divider, divider.before, divider.after⟩ left)
      = .ok (progress.inBlock kind opening expr (some (bodyBetween opening body divider))
          divider) := by
  cases kind <;> simp [read, close, OpenBlock.expects, BlockKind.opening, BlockKind.divider,
    inBlock, push, bodyBetween, markBefore_eq, markAfter_eq]

/-- A closing tag makes the block an element of what stands around it. -/
theorem read_closer (first : Option (List Element)) (last : Marks) (body : List Element)
    (closing : Marks) (left : Nat) :
    ((progress.inBlock kind opening expr first last).push body).read
        (.tag ⟨.close kind.closer, closing.before, closing.after⟩ left)
      = .ok (progress.push (leftMark opening.before ++
          kind.whole expr first (bodyBetween last body closing) :: rightMark closing.after)) := by
  cases kind <;> cases first <;> simp [read, close, OpenBlock.expects, OpenBlock.finish,
    BlockKind.opening, BlockKind.closer, BlockKind.whole, BlockKind.element, inBlock, push,
    bodyBetween, markBefore_eq, markAfter_eq]

/-- A block takes no closing tag but its own, and its divider only once. -/
theorem closer_of_read {first : Option (List Element)} {last : Marks} {body : List Element}
    {tag : Tag} {closer : Closer} {left : Nat} {result : Progress}
    (hbody : tag.body = .close closer)
    (h : ((progress.inBlock kind opening expr first last).push body).read (.tag tag left)
      = .ok result) :
    closer = kind.closer ∨ first = none ∧ closer = kind.divider := by
  have hexpects : (OpenBlock.expects ⟨kind.opening expr, first,
      leftMark opening.before ++ progress.elements⟩).contains closer = true := by
    simp only [read, hbody, close, inBlock, push] at h
    split at h
    · assumption
    · simp at h
  cases kind <;> cases first <;>
    simp only [OpenBlock.expects, BlockKind.opening, List.contains_cons, List.contains_nil,
      Bool.or_false, Bool.or_eq_true, beq_iff_eq] at hexpects
  · exact hexpects.symm.imp_right fun h => ⟨rfl, h⟩
  · exact .inl hexpects
  · exact hexpects.symm.imp_right fun h => ⟨rfl, h⟩
  · exact .inl hexpects

end

/-! ## Documents are read back -/

/-- A tag in front of the rest of a source is the next piece. -/
theorem run_tag (form : TagForm) (marks : Marks) (hw : form.Written)
    (hclear : form.Clear marks.after) (progress : Progress) (rest : List Char) :
    ∃ left, progress.run (marks.source form ++ rest)
      = progress.read (.tag ⟨form.body, marks.before, marks.after⟩ left)
          >>= fun progress => progress.run rest := by
  obtain ⟨left, hnext⟩ := Piece.next_tag marks.before hw hclear rest
  exact ⟨left, run_of_next (by simp [Marks.source, tagSource]) hnext⟩

/-- Behind an opening tag as it is written, the run goes on inside of the block. -/
theorem run_opener (progress : Progress) (kind : BlockKind) (opening : Marks)
    {head : Spaced Phrase} (hw : (TagForm.headed kind.opener head).Written)
    (hclear : head.inner.expr.Clear) (rest : List Char) :
    progress.run (opening.source (.headed kind.opener head) ++ rest)
      = (progress.inBlock kind opening head.inner.expr none opening).run rest := by
  obtain ⟨left, hrun⟩ := run_tag (.headed kind.opener head) opening hw hclear progress rest
  rw [hrun, TagForm.body, read_opener, Except.ok_bind]

/-- Behind a dividing tag, it goes on in the second body. -/
theorem run_divider (progress : Progress) (kind : BlockKind) (opening : Marks) (expr : Expr)
    (body : List Element) (divider : Marks) (rest : List Char) :
    ((progress.inBlock kind opening expr none opening).push body).run
        (divider.source (.close kind.divider) ++ rest)
      = (progress.inBlock kind opening expr (some (bodyBetween opening body divider)) divider).run
          rest := by
  obtain ⟨left, hrun⟩ := run_tag (.close kind.divider) divider trivial trivial
    ((progress.inBlock kind opening expr none opening).push body) rest
  rw [hrun, TagForm.body, read_divider, Except.ok_bind]

/-- Behind a closing tag, it goes on behind the whole block. -/
theorem run_closer (progress : Progress) (kind : BlockKind) (opening : Marks) (expr : Expr)
    (first : Option (List Element)) (last : Marks) (body : List Element) (closing : Marks)
    (rest : List Char) :
    ((progress.inBlock kind opening expr first last).push body).run
        (closing.source (.close kind.closer) ++ rest)
      = (progress.push (leftMark opening.before ++
          kind.whole expr first (bodyBetween last body closing) :: rightMark closing.after)).run
            rest := by
  obtain ⟨left, hrun⟩ := run_tag (.close kind.closer) closing trivial trivial
    ((progress.inBlock kind opening expr first last).push body) rest
  rw [hrun, TagForm.body, read_closer, Except.ok_bind]

/-- Nothing but text begins with anything else than a dollar sign. -/
theorem head_documentSource {nodes : List Node} {rest : List Char}
    (htext : ∀ chars more, nodes ≠ .text chars :: more) (hrest : ∀ c ∈ rest.head?, c = '$') :
    ∀ c ∈ (documentSource nodes ++ rest).head?, c = '$' := by
  cases nodes with
  | nil => simpa [documentSource] using hrest
  | cons node nodes =>
    cases node with
    | text chars => exact absurd rfl (htext chars nodes)
    | dollar | value | inclusion | block | divided =>
      simp [documentSource, Node.source, Marks.source, tagSource]

/-- A tag starts with a dollar sign, which ends the text before it. -/
theorem head_tag (marks : Marks) (form : TagForm) (rest : List Char) :
    ∀ c ∈ (marks.source form ++ rest).head?, c = '$' := by
  simp [Marks.source, tagSource]

mutual

/-- Reading a node, where a text ends with it, leaves its elements. -/
theorem run_node : (node : Node) → node.Written → node.Clear → (progress : Progress) →
    (rest : List Char) → (∀ chars, node = .text chars → ∀ c ∈ rest.head?, c = '$') →
    progress.run (node.source ++ rest) = (progress.push node.elements).run rest
  | .text chars, hw, _, progress, rest, hrest => by
    -- the scan takes text up to a dollar sign, so that has to follow
    have hne : chars ++ rest ≠ [] := by simp [hw.1]
    rw [Node.source, run_of_next hne (Piece.next_text hw.1 hw.2 (hrest chars rfl))]
    rfl
  | .dollar, _, _, progress, rest, _ => by
    rw [Node.source, run_of_next (by simp) (show Piece.next _ = .ok (.dollar, rest) from rfl)]
    rfl
  | .value marks phrase, hw, hclear, progress, rest, _ => by
    obtain ⟨left, hrun⟩ := run_tag (.value phrase) marks hw hclear progress rest
    rw [Node.source, hrun, TagForm.body, read]
    dsimp only
    rw [Except.ok_bind, add_eq_push]
    rfl
  | .inclusion marks name, hw, hclear, progress, rest, _ => by
    obtain ⟨left, hrun⟩ := run_tag (.headed .inclusion name) marks hw hclear progress rest
    rw [Node.source, hrun, TagForm.body, Opener.body, read]
    dsimp only
    rw [Except.ok_bind, add_eq_push]
    rfl
  | .block kind opening head body closing, hw, hclear, progress, rest, _ => by
    simp only [Node.source, List.append_assoc]
    rw [run_opener progress kind opening hw.1 hclear.1,
      run_document body hw.2 hclear.2 _ _ (head_tag _ _ _), run_closer]
    rfl
  | .divided kind opening head first divider second closing, hw, hclear, progress, rest, _ => by
    simp only [Node.source, List.append_assoc]
    rw [run_opener progress kind opening hw.1 hclear.1,
      run_document first hw.2.1 hclear.2.1 _ _ (head_tag _ _ _), run_divider,
      run_document second hw.2.2 hclear.2.2 _ _ (head_tag _ _ _), run_closer]
    rfl

/-- Reading a document that ends in front of a dollar sign or the end leaves its elements. -/
theorem run_document : (nodes : List Node) → DocumentWritten nodes → DocumentClear nodes →
    (progress : Progress) → (rest : List Char) → (∀ c ∈ rest.head?, c = '$') →
    progress.run (documentSource nodes ++ rest)
      = (progress.push (documentElements nodes)).run rest
  | [], _, _, progress, rest, _ => rfl
  | node :: nodes, hw, hclear, progress, rest, hrest => by
    obtain ⟨hnode, hseparate, hnodes⟩ := hw
    have hhead : ∀ chars, node = .text chars →
        ∀ c ∈ (documentSource nodes ++ rest).head?, c = '$' := by
      rintro chars rfl
      refine head_documentSource ?_ hrest
      rintro chars' more rfl
      exact hseparate
    rw [documentSource, documentElements, List.append_assoc,
      run_node node hnode hclear.1 progress _ hhead,
      run_document nodes hnodes hclear.2 _ rest hrest, push_push]

end

/-- Reading the text of a written document gives its elements. -/
theorem ofSource_source {nodes : List Node} (hw : DocumentWritten nodes)
    (hclear : DocumentClear nodes) :
    Element.ofSource (documentSource nodes) = .ok (documentElements nodes) := by
  have h := run_document nodes hw hclear start [] (by simp)
  rw [List.append_nil] at h
  rw [ofSource_eq_run, h, run_nil]
  simp [finish, push, start]

end Progress

end Inlay.Template
