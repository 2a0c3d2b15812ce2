import Inlay.Template.Element
import Inlay.Template.Piece

/-!
# Templates from their source

The pieces of a source are folded from left to right over a stack of the blocks that are open. A
closing tag must be one that the innermost open block takes next; at the end of the source no block
may be open. `Element.ofSource` is the whole way from characters to elements, with the trimming
marks still in place.
-/

namespace Inlay.Template

/-- The tag that opened a block. -/
inductive Opening where
  | cond (test : Expr)
  | loop (source : Expr)
  deriving Inhabited

/-- A block whose closing tag has not been read. -/
structure OpenBlock where
  opening : Opening
  /-- The first of its two bodies, once the tag between them has been read. -/
  first : Option (List Element)
  /-- The elements before the block in the list that holds it, last first. -/
  before : List Element
  deriving Inhabited

namespace OpenBlock

/-- The closing tags that the block takes next. -/
def expects (block : OpenBlock) : List Closer :=
  match block.opening, block.first with
  | .cond _, none => [.orElse, .endIf]
  | .cond _, some _ => [.endIf]
  | .loop _, none => [.separator, .endFor]
  | .loop _, some _ => [.endFor]

/-- The element that the block becomes when `body` is its last body. -/
def finish (block : OpenBlock) (body : List Element) : Element :=
  match block.opening, block.first with
  | .cond test, none => .cond test body none
  | .cond test, some first => .cond test first (some body)
  | .loop source, none => .loop source body none
  | .loop source, some first => .loop source first (some body)

end OpenBlock

/-- How far a source has been read: the open blocks, innermost first, and the elements read so far
in the innermost one, last first. -/
structure Progress where
  blocks : List OpenBlock
  elements : List Element
  deriving Inhabited

namespace Progress

/-- Nothing has been read. -/
def start : Progress := ⟨[], []⟩

/-- The closing tags that may come next. -/
def expects (progress : Progress) : List Closer :=
  match progress.blocks with
  | [] => []
  | block :: _ => block.expects

/-- The mark that a tag leaves before the element it belongs to. -/
def markBefore (tag : Tag) (elements : List Element) : List Element :=
  if tag.trimsBefore then .trimLeft :: elements else elements

/-- The mark that a tag leaves after the element it belongs to. -/
def markAfter (tag : Tag) (elements : List Element) : List Element :=
  if tag.trimsAfter then .trimRight :: elements else elements

/-- Read an element whose only tag is `tag`. -/
def add (progress : Progress) (tag : Tag) (element : Element) : Progress :=
  { progress with
    elements := markAfter tag (element :: markBefore tag progress.elements) }

/-- Read the tag that opens a block. -/
def openBlock (progress : Progress) (tag : Tag) (opening : Opening) : Progress where
  blocks := ⟨opening, none, markBefore tag progress.elements⟩ :: progress.blocks
  elements := markAfter tag []

/-- Read a closing tag, whose dollar sign is at the place `left`. -/
def close (progress : Progress) (tag : Tag) (closer : Closer) (left : Nat) :
    Except SyntaxError Progress :=
  match progress.blocks with
  | [] => .error ⟨.strayCloser closer, left⟩
  | block :: outer =>
    if block.expects.contains closer then
      let body := (markBefore tag progress.elements).reverse
      match closer with
      | .orElse | .separator =>
        .ok ⟨{ block with first := some body } :: outer, markAfter tag []⟩
      | .endIf | .endFor =>
        .ok ⟨outer, markAfter tag (block.finish body :: block.before)⟩
    else .error ⟨.strayCloser closer, left⟩

/-- Read one piece. -/
def read (progress : Progress) : Piece → Except SyntaxError Progress
  | .text text => .ok { progress with elements := .chunk text :: progress.elements }
  | .dollar => .ok { progress with elements := .dollar :: progress.elements }
  | .tag tag left =>
    match tag.body with
    | .value expr => .ok (progress.add tag (.value expr))
    | .inclusion name => .ok (progress.add tag (.inclusion name))
    | .openIf test => .ok (progress.openBlock tag (.cond test))
    | .openFor source => .ok (progress.openBlock tag (.loop source))
    | .close closer => progress.close tag closer left

/-- Read a row of pieces. -/
def readAll (progress : Progress) : List Piece → Except SyntaxError Progress
  | [] => .ok progress
  | piece :: rest => do (← progress.read piece).readAll rest

/-- The elements, if no block is open. -/
def finish (progress : Progress) : Except SyntaxError (List Element) :=
  match progress.blocks with
  | [] => .ok progress.elements.reverse
  | block :: _ => .error ⟨.openBlock block.expects, 0⟩

end Progress

/-- The elements of a source. A malformed piece is reported only after all pieces before it have
found their places, so of two mistakes the first one in the source is reported. -/
def Element.ofSource (source : List Char) : Except SyntaxError (List Element) := do
  let (pieces, malformed) := Piece.scan source
  let progress ← Progress.start.readAll pieces
  match malformed with
  | some error => .error error
  | none => progress.finish

namespace SyntaxError

/-- The number of the line that holds the place with `left` characters to the end. -/
def line (source : List Char) (left : Nat) : Nat :=
  (source.take (source.length - left)).count '\n' + 1

/-- The number, on its line, of the character at the place with `left` characters to the end. -/
def column (source : List Char) (left : Nat) : Nat :=
  ((source.take (source.length - left)).reverse.takeWhile (· != '\n')).length + 1

/-- A closing word as it stands in a source. -/
def closerText (closer : Closer) : String := "$" ++ closer.word ++ "$"

/-- What the cause is called in messages. -/
def describe (source : List Char) : SyntaxCause → String
  | .openBlock expected =>
    "expected " ++ " or ".intercalate (expected.map closerText) ++ " before end of template"
  | .strayCloser found => "unexpected " ++ closerText found
  | .noFieldOrLiteral => "expected a field name or string literal"
  | .noArgument => "expected an argument"
  | .openLiteral => "unterminated string literal"
  | .noArgumentEnd => "expected ',' or ')' in argument list"
  | .noCharacter c => "expected '" ++ String.singleton c ++ "'"
  | .openTag left => "unterminated tag starting at column " ++ toString (column source left)

/-- The place and the cause, as messages give them. -/
def message (origin : String) (source : List Char) (error : SyntaxError) : String :=
  origin ++ ":" ++ toString (line source error.left) ++ ":" ++
    toString (column source error.left) ++ ": " ++ describe source error.cause

end SyntaxError

end Inlay.Template
