import Inlay.Template.Expr
import Inlay.Value.Basic

/-!
# Elements and templates

A template is a list of elements under the label it is reported by. The marks `trimLeft` and
`trimRight` stand beside the elements whose blanks they remove; the trimming pass
(`Inlay.Template.Trim`) applies and deletes them, and a template that is rendered holds none.
-/

namespace Inlay.Template

/-- One element of a template. -/
inductive Element where
  /-- Text that is written as it stands. -/
  | chunk (text : String)
  /-- A dollar sign, written by doubling it. -/
  | dollar
  /-- The text of an expression. -/
  | value (expr : Expr)
  /-- One of two bodies, chosen by whether the field is present. -/
  | cond (test : Expr) (whenPresent : List Element) (whenAbsent : Option (List Element))
  /-- A body repeated for each member of a list, with an optional body between the repetitions. -/
  | loop (source : Expr) (body : List Element) (separator : Option (List Element))
  /-- Another template, included by name. -/
  | inclusion (name : Expr)
  /-- The mark that removes the blanks before it. -/
  | trimLeft
  /-- The mark that removes the blanks after it. -/
  | trimRight
  /-- An object that is no element of this language, known by the name of its kind. -/
  | foreign (kind : String)
  deriving Inhabited

end Inlay.Template

namespace Inlay

/-- A list of elements together with the label it is reported by. -/
structure Template where
  /-- Where the elements come from, as messages name it. This is a text, unless the configuration
  sets another value for templates without a name. -/
  origin : Value
  /-- What is rendered, in order. -/
  elements : List Template.Element
  deriving Inhabited

end Inlay
