import Inlay.Value.Basic

/-!
# Kinds of values

What a message may tell about a value besides the value itself: its kind, the name of that, and the
kinds that stand above it. A kind is a thing of its own and has a kind in its turn.
-/

namespace Inlay

/-- A kind of plain values, of kinds, or of rows of kinds. -/
inductive ValueKind where
  | nothing
  | truth
  | integer
  | float
  | text
  | list
  | mapping
  | row
  | ofKind
  /-- The kind of everything. -/
  | anything
  deriving DecidableEq, Inhabited

namespace ValueKind

/-- The kind of a plain value. -/
def of? : Value → Option ValueKind
  | .null => some .nothing
  | .bool _ => some .truth
  | .int _ => some .integer
  | .float _ => some .float
  | .text _ => some .text
  | .list _ => some .list
  | .map _ => some .mapping
  | _ => none

/-- The name of a kind. -/
def name : ValueKind → String
  | .nothing => "NoneType"
  | .truth => "bool"
  | .integer => "int"
  | .float => "float"
  | .text => "str"
  | .list => "list"
  | .mapping => "dict"
  | .row => "tuple"
  | .ofKind => "type"
  | .anything => "object"

/-- A kind as messages show it. -/
def literal (kind : ValueKind) : String := "<class '" ++ kind.name ++ "'>"

/-- The kind right above a kind: a truth value is an integer. -/
def parent? : ValueKind → Option ValueKind
  | .anything => none
  | .truth => some .integer
  | _ => some .anything

/-- A kind and all above it, the nearest first. -/
def line : ValueKind → List ValueKind
  | .anything => [.anything]
  | .truth => [.truth, .integer, .anything]
  | other => [other, .anything]

/-- Values of these kinds can be changed, so they name no entry of a mapping. -/
def isChangeable : ValueKind → Bool
  | .list => true
  | .mapping => true
  | _ => false

end ValueKind

end Inlay
