import Inlay.Proofs.Grammar.Canonical
import Inlay.Proofs.Grammar.Reading

/-!
# Printing what has been read

`Element.print?` writes elements the way a template does, each mark at the end of the tag that it
stands beside. It fails on a mark that stands beside no tag.

Main statement: what is read from any source can be printed, and the printed text is read as the
same elements (`readElements_print`). What is printed is the text of a derivation: that of the
source, with its expressions written in one fixed way (`Node.canonical`).
-/

namespace Inlay.Template

/-! ## The printer -/

/-- What stands directly in front of an element. -/
inductive Place where
  /-- A tag, which may carry a mark. -/
  | behindTag
  /-- A mark that the tag behind it carries. -/
  | behindMark
  /-- Neither. -/
  | plain
  deriving DecidableEq

/-- A printed row of elements. Its text leaves out the mark on the right that the row begins with,
which the tag in front of it carries, and the mark on the left that it ends with, which the tag
behind it carries. -/
structure PrintedRow where
  opens : Bool
  text : List Char
  closes : Bool

/-- A tag with the marks that it carries. -/
def printTag (before : Bool) (text : List Char) (after : Bool) : List Char :=
  '$' :: (markSource before ++ (text ++ (markSource after ++ ['$'])))

/-- The text of a tag that opens a block or an inclusion. -/
def printHead (opener : Opener) (expr : Expr) : List Char :=
  opener.word.toList ++ '(' :: (expr.source.toList ++ [')'])

/-- The tags of a block around its bodies. -/
def printBlock (kind : BlockKind) (before : Bool) (expr : Expr) (after : Bool)
    (first : PrintedRow) : Option PrintedRow → List Char
  | none =>
    printTag before (printHead kind.opener expr) first.opens ++
      (first.text ++ printTag first.closes kind.closer.word.toList after)
  | some second =>
    printTag before (printHead kind.opener expr) first.opens ++
      (first.text ++ (printTag first.closes kind.divider.word.toList second.opens ++
        (second.text ++ printTag second.closes kind.closer.word.toList after)))

mutual

/-- An element that is written with tags, of which the first and the last carry the given marks. -/
def Element.printTags? (before after : Bool) : Element → Option (List Char)
  | .value expr => some (printTag before expr.source.toList after)
  | .inclusion name => some (printTag before (printHead .inclusion name) after)
  | .cond test whenPresent none => do
    return printBlock .cond before test after (← printRow? .behindTag whenPresent) none
  | .cond test whenPresent (some whenAbsent) => do
    return printBlock .cond before test after (← printRow? .behindTag whenPresent)
      (some (← printRow? .behindTag whenAbsent))
  | .loop source body none => do
    return printBlock .loop before source after (← printRow? .behindTag body) none
  | .loop source body (some separator) => do
    return printBlock .loop before source after (← printRow? .behindTag body)
      (some (← printRow? .behindTag separator))
  | _ => none

/-- A row of elements behind a place. -/
def printRow? (place : Place) : List Element → Option PrintedRow
  | [] => some ⟨false, [], place = .behindMark⟩
  | .trimRight :: rest =>
    if place = .behindTag then
      (printRow? .plain rest).map fun row => { row with opens := true }
    else none
  | .trimLeft :: rest => if place = .behindMark then none else printRow? .behindMark rest
  | .chunk text :: rest =>
    if place = .behindMark then none
    else (printRow? .plain rest).map fun row => { row with text := text.toList ++ row.text }
  | .dollar :: rest =>
    if place = .behindMark then none
    else (printRow? .plain rest).map fun row => { row with text := '$' :: '$' :: row.text }
  | element :: rest => do
    let row ← printRow? .behindTag rest
    let tags ← element.printTags? (place = .behindMark) row.opens
    return ⟨false, tags ++ row.text, row.closes⟩

end

/-- Elements as they are written in a template, if each mark among them stands beside a tag. -/
def Element.print? (elements : List Element) : Option String := do
  let row ← printRow? .plain elements
  if row.closes then none else some (String.ofList row.text)

/-! ## What is printed for a document -/

/-- Behind a tag, a row that starts with no mark is printed as it is anywhere. -/
theorem printRow_behindTag {rest : List Element} (h : startsMarked rest = false) :
    printRow? .behindTag rest = printRow? .plain rest := by
  cases rest with
  | nil => rfl
  | cons element rest => cases element <;> first | rfl | simp [startsMarked] at h

section

variable {rest : List Element} {text : List Char} {closes : Bool}

/-- The mark behind a tag is left to the tag. -/
theorem printRow_rightMark (h : startsMarked rest = false)
    (hrow : printRow? .plain rest = some ⟨false, text, closes⟩) (marked : Bool) :
    printRow? .behindTag (rightMark marked ++ rest) = some ⟨marked, text, closes⟩ := by
  cases marked with
  | false => rw [← hrow, ← printRow_behindTag h]; rfl
  | true => simp [rightMark, printRow?, hrow]

/-- A tag is printed with the mark in front of it, if there is one, and with the mark behind it. -/
theorem printRow_element (place : Place) {element : Element} {after : Bool} {tags : List Char}
    (htags : element.printTags? (place = .behindMark) after = some tags)
    (hrow : printRow? .behindTag rest = some ⟨after, text, closes⟩) :
    printRow? place (element :: rest) = some ⟨false, tags ++ text, closes⟩ := by
  cases element with
  | chunk | dollar | trimLeft | trimRight => simp [Element.printTags?] at htags
  | value | cond | loop | inclusion | foreign =>
    simp only [printRow?, hrow, Option.bind_eq_bind, Option.bind_some, htags, Option.pure_def]

/-- An element that is written with tags takes the marks beside it into them. -/
theorem printRow_tags {place : Place} (hplace : place ≠ .behindMark) {element : Element}
    {before after : Bool} {tags : List Char} (htags : element.printTags? before after = some tags)
    (hrow : printRow? .behindTag rest = some ⟨after, text, closes⟩) :
    printRow? place (leftMark before ++ element :: rest) = some ⟨false, tags ++ text, closes⟩ := by
  cases before with
  | false => exact printRow_element place (by simpa [hplace] using htags) hrow
  | true =>
    have helement := printRow_element .behindMark (by simpa using htags) hrow
    simpa [leftMark, printRow?, hplace] using helement

end

/-- The tags around bodies that are printed. -/
theorem printTags_block (kind : BlockKind) (before after : Bool) (expr : Expr)
    {body : List Element} {row : PrintedRow} (hbody : printRow? .behindTag body = some row) :
    (kind.element expr body none).printTags? before after
      = some (printBlock kind before expr after row none) := by
  cases kind <;> simp [BlockKind.element, Element.printTags?, hbody]

/-- A block with two bodies is printed around both of them, whichever kind it is of. -/
theorem printTags_divided (kind : BlockKind) (before after : Bool) (expr : Expr)
    {first second : List Element} {firstRow secondRow : PrintedRow}
    (hfirst : printRow? .behindTag first = some firstRow)
    (hsecond : printRow? .behindTag second = some secondRow) :
    (kind.element expr first (some second)).printTags? before after
      = some (printBlock kind before expr after firstRow (some secondRow)) := by
  cases kind <;> simp [BlockKind.element, Element.printTags?, hfirst, hsecond]

namespace Marks

/-! The tags of canonical derivations are those that are printed. -/

/-- A canonical tag with an expression is what the printer prints for it. -/
theorem source_value (marks : Marks) (phrase : Phrase) :
    marks.source (.value phrase.canonical)
      = printTag marks.before phrase.expr.source.toList marks.after := by
  rw [← Phrase.source_canonical]
  rfl

/-- So is one with a word in front of its expression. -/
theorem source_head (marks : Marks) (opener : Opener) (head : Spaced Phrase) :
    marks.source (.headed opener (canonicalHead head))
      = printTag marks.before (printHead opener head.inner.expr) marks.after := by
  rw [printHead, ← Phrase.source_canonical]
  rfl

/-- So is one that closes or divides a block. -/
theorem source_close (marks : Marks) (closer : Closer) :
    marks.source (.close closer) = printTag marks.before closer.word.toList marks.after := rfl

end Marks

mutual

/-- In front of other elements, a node is printed as its canonical derivation. -/
theorem printRow_node : (node : Node) → {place : Place} → place ≠ .behindMark →
    {rest : List Element} → startsMarked rest = false → {text : List Char} → {closes : Bool} →
    printRow? .plain rest = some ⟨false, text, closes⟩ →
    printRow? place (node.elements ++ rest) = some ⟨false, node.canonical.source ++ text, closes⟩
  | .text chars, place, hplace, rest, _, text, closes, hrow => by
    simp [Node.elements, Node.canonical, Node.source, printRow?, hplace, hrow]
  | .dollar, place, hplace, rest, _, text, closes, hrow => by
    simp [Node.elements, Node.canonical, Node.source, printRow?, hplace, hrow]
  | .value marks phrase, place, hplace, rest, hrest, text, closes, hrow => by
    have htags : (Element.value phrase.expr).printTags? marks.before marks.after
        = some (Node.value marks phrase).canonical.source := by
      rw [Element.printTags?, Node.canonical, Node.source, marks.source_value]
    simpa [Node.elements] using
      printRow_tags hplace htags (printRow_rightMark hrest hrow marks.after)
  | .inclusion marks name, place, hplace, rest, hrest, text, closes, hrow => by
    have htags : (Element.inclusion name.inner.expr).printTags? marks.before marks.after
        = some (Node.inclusion marks name).canonical.source := by
      rw [Element.printTags?, Node.canonical, Node.source, marks.source_head]
    simpa [Node.elements] using
      printRow_tags hplace htags (printRow_rightMark hrest hrow marks.after)
  | .block kind opening head body closing, place, hplace, rest, hrest, text, closes, hrow => by
    have hbody := printRow_rightMark (startsMarked_document body closing.before)
      (printRow_document body .plain (by decide) closing.before) opening.after
    have htags := printTags_block kind opening.before closing.after head.inner.expr hbody
    have hsource : (Node.block kind opening head body closing).canonical.source
        = printBlock kind opening.before head.inner.expr closing.after
          ⟨opening.after, documentSource (canonicalDocument body), closing.before⟩ none := by
      simp only [Node.canonical, Node.source, Marks.source_head, Marks.source_close, printBlock]
    rw [hsource]
    simpa [Node.elements, bodyBetween] using
      printRow_tags hplace htags (printRow_rightMark hrest hrow closing.after)
  | .divided kind opening head first divider second closing, place, hplace, rest, hrest, text,
      closes, hrow => by
    -- the mark in front of the divider belongs to the first row, the one behind it to the second
    have hfirst := printRow_rightMark (startsMarked_document first divider.before)
      (printRow_document first .plain (by decide) divider.before) opening.after
    have hsecond := printRow_rightMark (startsMarked_document second closing.before)
      (printRow_document second .plain (by decide) closing.before) divider.after
    have htags :=
      printTags_divided kind opening.before closing.after head.inner.expr hfirst hsecond
    have hsource : (Node.divided kind opening head first divider second closing).canonical.source
        = printBlock kind opening.before head.inner.expr closing.after
          ⟨opening.after, documentSource (canonicalDocument first), divider.before⟩
          (some ⟨divider.after, documentSource (canonicalDocument second), closing.before⟩) := by
      simp only [Node.canonical, Node.source, Marks.source_head, Marks.source_close, printBlock]
    rw [hsource]
    simpa [Node.elements, bodyBetween] using
      printRow_tags hplace htags (printRow_rightMark hrest hrow closing.after)

/-- A document in front of the end of a body is printed as its canonical derivation. -/
theorem printRow_document : (nodes : List Node) → (place : Place) → place ≠ .behindMark →
    (marked : Bool) → printRow? place (documentElements nodes ++ leftMark marked)
      = some ⟨false, documentSource (canonicalDocument nodes), marked⟩
  | [], place, hplace, marked => by
    cases marked <;> simp [documentElements, leftMark, printRow?, canonicalDocument, documentSource,
      hplace]
  | node :: nodes, place, hplace, marked => by
    have hrest := printRow_document nodes .plain (by decide) marked
    have hnode := printRow_node node hplace (startsMarked_document nodes marked) hrest
    rw [documentElements, List.append_assoc, hnode]
    rfl

end

/-- The elements of a document are printed as its canonical derivation. -/
theorem print_documentElements (nodes : List Node) :
    Element.print? (documentElements nodes)
      = some (String.ofList (documentSource (canonicalDocument nodes))) := by
  have hrow := printRow_document nodes .plain (by decide) false
  rw [leftMark, if_neg (by decide), List.append_nil] at hrow
  rw [Element.print?, hrow]
  rfl

/-- What has been read from a source can be printed, each mark at the tag beside it, and the printed
text is read as the same elements. -/
theorem readElements_print (reporter : Reporter) (origin : Value) (source : String)
    (elements : List Element) (h : readElements reporter origin source = .ok elements) :
    ∃ printed, Element.print? elements = some printed ∧
      readElements reporter origin printed = .ok elements := by
  rw [readElements_eq_ok_iff] at h
  -- the source is the text of a document, of which only the elements are printed
  obtain ⟨nodes, hw, hclear, -, rfl⟩ := Progress.exists_document h
  refine ⟨_, print_documentElements nodes, ?_⟩
  -- whether its tags are clear is told by the elements, so the canonical document is clear as well
  have hclear' : DocumentClear (canonicalDocument nodes) := by
    rwa [documentClear_iff, documentElements_canonical, ← documentClear_iff]
  rw [readElements_eq_ok_iff, String.toList_ofList,
    Progress.ofSource_source (documentWritten_canonical nodes hw) hclear',
    documentElements_canonical]

/-- A source with marks at tags of every kind, with spaces and a word without quotes. -/
def looseSource : String :=
  "$-if( a- )-$ $x(b c,\"d\\\"\" , $e($f$)$)-$$else-$$for(t)$$t$$-sep$, $endfor-$$$$-endif-$ "

/-- The same as it is printed. -/
def tightSource : String :=
  "$-if(a-)-$ $x(\"b c\", \"d\\\"\", $e($f$)$)-$$else-$$for(t)$$t$$-sep$, $endfor-$$$$-endif-$ "

/-- The spaces and the bare word are gone from the reprint, and the elements are the same. -/
theorem looseSource_reprinted :
    ∃ elements, readElements ⟨.builtin, default⟩ (.text "page") looseSource = .ok elements ∧
      Element.print? elements = some tightSource ∧
      readElements ⟨.builtin, default⟩ (.text "page") tightSource = .ok elements := by
  have hsource : (Element.ofSource looseSource.toList).toOption.bind Element.print?
      = some tightSource := by decide +kernel
  obtain ⟨elements, hok, hprinted⟩ := Option.bind_eq_some_iff.1 hsource
  have hread : readElements ⟨.builtin, default⟩ (.text "page") looseSource = .ok elements := by
    rw [readElements_eq_ok_iff]
    revert hok
    cases Element.ofSource looseSource.toList <;> simp [Except.toOption]
  obtain ⟨printed, hprint, hreread⟩ := readElements_print _ _ _ _ hread
  obtain rfl := Option.some.inj (hprinted.symm.trans hprint)
  exact ⟨elements, hread, hprinted, hreread⟩

end Inlay.Template
