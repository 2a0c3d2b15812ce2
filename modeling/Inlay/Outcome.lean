import Inlay.Fault.Registry

/-!
# Outcomes

Asking for a field ends in one of three ways: it is found, it is not known here, or it is known and
cannot be had. The last is a *failure*: it carries the trail of breadcrumbs that leads to it and the
code of its innermost cause.
-/

namespace Inlay

/-- Why something cannot be had. -/
structure Failure where
  /-- The breadcrumbs, outermost first. They should be texts. -/
  messages : List Value
  /-- The code of the innermost cause. -/
  code : String
  deriving Inhabited

namespace Failure

/-- The failure only says that a field is missing. -/
def isSoft (failure : Failure) : Bool := failure.code == Code.fieldNotFound

/-- The failure seen from one level further out. -/
def below (failure : Failure) (breadcrumb : String) : Failure :=
  { failure with messages := .text breadcrumb :: failure.messages }

end Failure

/-- How asking for something ends. -/
inductive Outcome (α : Type) where
  | found (value : α)
  /-- Nothing is known here; another source may know. -/
  | notFound (messages : List Value)
  | failed (failure : Failure)
  deriving Inhabited

namespace Outcome

/-- The outcome with what was found put through a function. -/
def map {α β : Type} (f : α → β) : Outcome α → Outcome β
  | .found value => .found (f value)
  | .notFound messages => .notFound messages
  | .failed failure => .failed failure

end Outcome

end Inlay
