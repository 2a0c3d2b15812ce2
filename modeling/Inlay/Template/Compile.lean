import Inlay.Fault.Registry
import Inlay.Item
import Inlay.Template.Source
import Inlay.Template.Trim

/-!
# Compiling templates

From source text to a template without marks. A malformed source is reported as a fault that names
the origin of the source and the place of the mistake.
-/

namespace Inlay

namespace Template

/-- The origin of templates that are given as text without a name. -/
def literalOrigin : String := "{literal}"

/-- The elements of a source, with their marks, or the report of its first mistake. -/
def readElements (reporter : Reporter) (origin : Value) (source : String) :
    Except Stop (List Element) :=
  match Element.ofSource source.toList with
  | .ok elements => .ok elements
  | .error error =>
    .error (reporter.stop Code.templateParseError [
      (.text "origin", origin),
      (.text "detail", .text (error.message origin.asText source.toList))])

/-- The template of a source. -/
def compile (reporter : Reporter) (origin : Value) (source : String) :
    Except Stop Template := do
  return make origin (← readElements reporter origin source)

/-- The template that an item's body is, which must have a text. -/
def compileItem (reporter : Reporter) (item : Item) : Except Stop Template := do
  compile reporter (.text item.identifier) (← item.body.shown.mapError Stop.misuse)

end Template

end Inlay
