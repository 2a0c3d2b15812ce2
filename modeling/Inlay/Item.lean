import Inlay.Fault.Basic

/-!
# Items

What a template is applied to: a document with an identifier, a body and the fields of its header.

A list may hold any values, and a loop over it puts each of them in the place of the item. So fields
are asked about a *subject*, which is a value; the parts of an item are had only if it is one.
-/

namespace Inlay

/-- A document. -/
structure Item where
  identifier : String
  body : Value
  /-- The fields of its header. -/
  metadata : Entries
  deriving Inhabited

namespace Item

/-- The item with another text for its body. -/
def withBody (item : Item) (body : String) : Item := { item with body := .text body }

/-- The item as a value. -/
def asValue (item : Item) : Value := .item (.text item.identifier) item.body item.metadata

end Item

namespace Value

/-- What names the document that a value must be. -/
def identifier : Value → Except Misuse Value
  | .item identifier _ _ => .ok identifier
  | _ => .error .noAttribute

/-- The body of the document that a value must be. -/
def body : Value → Except Misuse Value
  | .item _ body _ => .ok body
  | _ => .error .noAttribute

/-- The header of the document that a value must be. -/
def metadata : Value → Except Misuse Entries
  | .item _ _ metadata => .ok metadata
  | _ => .error .noAttribute

end Value

end Inlay
