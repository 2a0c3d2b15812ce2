import Inlay.Proofs.Grammar.Derivation
import Inlay.Template.Compile

/-!
# Reading written documents

A document is read as the elements that it derives, exactly if its tags are clear
(`readElements_document_iff`). Whether they are can be told from the elements alone
(`documentClear_iff`): an expression is followed by a mark on the right if the tag that it stands in
carries one.
-/

namespace Inlay.Template

/-! ## Clear elements -/

/-- A mark on the right comes first. -/
def startsMarked : List Element → Bool
  | .trimRight :: _ => true
  | _ => false

mutual

/-- An element whose tag is read as itself, `marked` telling whether a mark on the right follows. -/
def Element.Clear (marked : Bool) : Element → Prop
  | .value expr => expr.Clear ∧ expr.StandsAlone marked
  | .inclusion name => name.Clear
  | .cond test whenPresent whenAbsent =>
    test.Clear ∧ ElementsClear whenPresent ∧ BodyClear whenAbsent
  | .loop source body separator => source.Clear ∧ ElementsClear body ∧ BodyClear separator
  | _ => True

/-- The tags of these elements are read as themselves. -/
def ElementsClear : List Element → Prop
  | [] => True
  | element :: rest => element.Clear (startsMarked rest) ∧ ElementsClear rest

/-- The tags of a body, if there is one, are read as themselves. -/
def BodyClear : Option (List Element) → Prop
  | none => True
  | some body => ElementsClear body

end

/-- A mark has no expression that could be misread. -/
@[simp] theorem elementsClear_rightMark (marked : Bool) (rest : List Element) :
    ElementsClear (rightMark marked ++ rest) ↔ ElementsClear rest := by
  cases marked <;> simp [rightMark, ElementsClear, Element.Clear]

/-- A mark in front of a tag has none either. -/
@[simp] theorem elementsClear_leftMark (marked : Bool) (rest : List Element) :
    ElementsClear (leftMark marked ++ rest) ↔ ElementsClear rest := by
  cases marked <;> simp [leftMark, ElementsClear, Element.Clear]

/-- Neither a node nor the mark of a closing tag begins with a mark on the right. -/
theorem startsMarked_document (nodes : List Node) (marked : Bool) :
    startsMarked (documentElements nodes ++ leftMark marked) = false := by
  cases nodes with
  | nil => cases marked <;> rfl
  | cons node nodes =>
    cases node with
    | text | dollar => rfl
    | value marks | inclusion marks =>
      obtain ⟨before, after⟩ := marks
      cases before <;> rfl
    | block kind marks | divided kind marks =>
      obtain ⟨before, after⟩ := marks
      cases kind <;> cases before <;> rfl

/-- Elements start with a mark if the tag before them puts one there. -/
theorem startsMarked_rightMark {rest : List Element} (h : startsMarked rest = false)
    (marked : Bool) : startsMarked (rightMark marked ++ rest) = marked := by
  cases marked with
  | false => exact h
  | true => rfl

/-- A body is clear without the marks that the tags around it carry. -/
theorem elementsClear_bodyBetween (opening closing : Marks) (body : List Element) :
    ElementsClear (bodyBetween opening body closing)
      ↔ ElementsClear (body ++ leftMark closing.before) := by
  rw [bodyBetween, elementsClear_rightMark]

mutual

/-- Elements that a node derives are clear in front of others, if the node and these are. -/
theorem node_clear_iff : (node : Node) → (rest : List Element) → startsMarked rest = false →
    (ElementsClear (node.elements ++ rest) ↔ node.Clear ∧ ElementsClear rest)
  | .text chars, rest, _ => by
    simp [Node.elements, ElementsClear, Element.Clear, Node.Clear]
  | .dollar, rest, _ => by
    simp [Node.elements, ElementsClear, Element.Clear, Node.Clear]
  | .value marks phrase, rest, hrest => by
    simp [Node.elements, ElementsClear, Element.Clear, Node.Clear, TagForm.Clear,
      startsMarked_rightMark hrest]
  | .inclusion marks name, rest, _ => by
    simp [Node.elements, ElementsClear, Element.Clear, Node.Clear]
  | .block kind opening head body closing, rest, _ => by
    have hbody := documentClear_append body closing.before
    cases kind <;>
      simp [Node.elements, ElementsClear, Element.Clear, BodyClear, Node.Clear, BlockKind.element,
        elementsClear_bodyBetween, hbody]
  | .divided kind opening head first divider second closing, rest, _ => by
    have hfirst := documentClear_append first divider.before
    have hsecond := documentClear_append second closing.before
    cases kind <;>
      simp [Node.elements, ElementsClear, Element.Clear, BodyClear, Node.Clear, BlockKind.element,
        elementsClear_bodyBetween, hfirst, hsecond]

/-- The elements of a document tell whether its tags are read as themselves. -/
theorem documentClear_append : (nodes : List Node) → (marked : Bool) →
    (ElementsClear (documentElements nodes ++ leftMark marked) ↔ DocumentClear nodes)
  | [], marked => by
    cases marked <;>
      simp [documentElements, leftMark, ElementsClear, Element.Clear, DocumentClear]
  | node :: nodes, marked => by
    rw [documentElements, List.append_assoc,
      node_clear_iff node _ (startsMarked_document nodes marked),
      documentClear_append nodes marked, DocumentClear]

end

/-- A document is clear exactly if the elements that it derives are. -/
theorem documentClear_iff (nodes : List Node) :
    DocumentClear nodes ↔ ElementsClear (documentElements nodes) := by
  have h := documentClear_append nodes false
  rw [leftMark, if_neg (by decide), List.append_nil] at h
  exact h.symm

/-! ## Documents -/

/-- A derivation of a template. -/
structure Document where
  /-- What the document is made of. -/
  nodes : List Node
  /-- Its parts are what they are meant to be. -/
  written : DocumentWritten nodes

namespace Document

/-- The text of the document. -/
def source (document : Document) : String := String.ofList (documentSource document.nodes)

/-- The elements that the document derives. -/
def elements (document : Document) : List Element := documentElements document.nodes

/-- The tags of the document are read as themselves: no expression between two dollar signs looks
like a tag of another kind, and no key gives its last hyphen to the dollar sign behind it. -/
def Clear (document : Document) : Prop := DocumentClear document.nodes

end Document

/-- The reporter and the origin play no part where a template is accepted. -/
theorem readElements_eq_ok_iff {reporter : Reporter} {origin : Value} {source : String}
    {elements : List Element} :
    readElements reporter origin source = .ok elements
      ↔ Element.ofSource source.toList = .ok elements := by
  rw [readElements]
  cases Element.ofSource source.toList <;> simp

/-- A document is read as the elements that it derives, with each mark where its blanks are, exactly
if its tags are read as themselves. -/
theorem readElements_document_iff (reporter : Reporter) (origin : Value) (document : Document) :
    readElements reporter origin document.source = .ok document.elements ↔ document.Clear := by
  rw [readElements_eq_ok_iff, Document.source, String.toList_ofList]
  constructor
  · -- some clear document has this text, perhaps another one, but with the same elements
    intro hread
    obtain ⟨nodes, -, hclear, -, helements⟩ := Progress.exists_document hread
    rw [Document.Clear, documentClear_iff]
    rw [documentClear_iff, ← helements] at hclear
    exact hclear
  · intro hclear
    exact Progress.ofSource_source document.written hclear

/-- An interpolation of a field that is named like a closing word. -/
def closingWord : Document where
  nodes := [.value ⟨false, false⟩ (.ident Closer.orElse.word.toList)]
  written := ⟨Tag.isKey_closer .orElse, trivial, trivial⟩

/-- The interpolation of a field that is named like a closing word is not read as its derivation. -/
theorem closingWord_not_read :
    closingWord.source = "$else$" ∧ closingWord.elements = [.value (.ident "else")] ∧
      ∀ (reporter : Reporter) (origin : Value),
        readElements reporter origin closingWord.source ≠ .ok closingWord.elements := by
  refine ⟨rfl, rfl, fun reporter origin hread => ?_⟩
  rw [readElements_eq_ok_iff] at hread
  have hstray : Element.ofSource closingWord.source.toList = .error ⟨.strayCloser .orElse, 6⟩ := rfl
  rw [hstray] at hread
  exact absurd hread (by simp)

end Inlay.Template
