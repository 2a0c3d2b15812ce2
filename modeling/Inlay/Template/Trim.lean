import Inlay.Template.Element
import Inlay.Text.Blank

/-!
# The trimming pass

`Element.normalize` applies the marks `trimLeft` and `trimRight` to the text beside them and deletes
them. A mark beside a block reaches into it: `trimRight` before a block trims the start of its
bodies, `trimLeft` after it trims their ends. The separator of a loop is left alone.
-/

namespace Inlay.Template.Element

mutual

/-- The element with the blanks at its end removed; nothing if no text is left of it. Of a block,
the ends of its bodies are trimmed. -/
def endTrimmed : Element → Option Element
  | .chunk text =>
    let text := Text.trimEnd text
    if text.isEmpty then none else some (.chunk text)
  | .cond test whenPresent whenAbsent =>
    some (.cond test (trimLast whenPresent) (trimLast? whenAbsent))
  | .loop source body separator => some (.loop source (trimLast body) separator)
  | element => some element

/-- A body with its last element trimmed at its end. -/
def trimLast : List Element → List Element
  | [] => []
  | [element] => (endTrimmed element).toList
  | element :: rest => element :: trimLast rest

/-- A body that may be absent with its last element trimmed at its end. -/
def trimLast? : Option (List Element) → Option (List Element)
  | none => none
  | some body => some (trimLast body)

end

/-- Trim the element that was read last; `read` holds the elements last first. -/
def trimRead : List Element → List Element
  | [] => []
  | element :: before => (endTrimmed element).toList ++ before

mutual

/-- The element with the marks in its bodies applied, and its start trimmed if a `trimRight` stands
before it; nothing if no text is left of it. -/
def startTrimmed (strip : Bool) : Element → Option Element
  | .chunk text =>
    let text := if strip then Text.trimStart text else text
    if text.isEmpty then none else some (.chunk text)
  | .cond test whenPresent whenAbsent =>
    some (.cond test (normalizeFrom strip [] whenPresent) (normalizeFrom? strip whenAbsent))
  | .loop source body separator =>
    some (.loop source (normalizeFrom strip [] body) (normalizeFrom? false separator))
  | element => some element

/-- The pass over the elements of one list. `strip` says whether a `trimRight` stands before the
next element, and `read` holds the finished elements, last first. -/
def normalizeFrom (strip : Bool) (read : List Element) : List Element → List Element
  | [] => read.reverse
  | element :: rest =>
    match element with
    | .trimLeft => normalizeFrom strip (trimRead read) rest
    | .trimRight => normalizeFrom true read rest
    | _ => normalizeFrom false ((startTrimmed strip element).toList ++ read) rest

/-- The pass over a body that may be absent. -/
def normalizeFrom? (strip : Bool) : Option (List Element) → Option (List Element)
  | none => none
  | some body => some (normalizeFrom strip [] body)

end

/-- The elements with all marks applied and deleted, and no empty text. -/
def normalize (elements : List Element) : List Element := normalizeFrom false [] elements

end Inlay.Template.Element

namespace Inlay

/-- The template of a list of elements: they are trimmed. -/
def Template.make (origin : Value) (elements : List Template.Element) : Template :=
  ⟨origin, Template.Element.normalize elements⟩

end Inlay
