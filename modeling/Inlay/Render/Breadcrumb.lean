import Inlay.Context.Basic
import Inlay.Template.Element

/-!
# Breadcrumbs

Each construct that a failure passes on its way out puts a breadcrumb before the failure's messages,
so the messages read from the outside in.
-/

namespace Inlay.Breadcrumb

open Template

/-- An interpolated expression. -/
def inExpr (expr : Expr) : String := "In expr '$" ++ expr.source ++ "$'"

/-- The list of a loop. -/
def inLoopHead (source : Expr) : String := "In expr '$for(" ++ source.source ++ ")$'"

/-- The separator or the body of a loop. -/
def inLoop (source : Expr) : String := "In loop context of '$for(" ++ source.source ++ ")$'"

/-- The name of an inclusion. -/
def inInclusionName (name : Expr) : String := "In expr '$partial(" ++ name.source ++ ")$'"

/-- An inclusion. -/
def inInclusion (name : Expr) : String := "In inclusion of '$partial(" ++ name.source ++ ")$'"

/-- The headline of a template that failed on the item of an identifier. A template whose origin is
the item itself is the item's own body. -/
def framing (origin identifier : Value) : String :=
  if origin.sameKey identifier then "Failed to interpolate template in item " ++ identifier.asText
  else "Failed to apply template " ++ origin.asText ++ " to item " ++ identifier.asText

/-- What an interpolated expression is called in a mismatch. -/
def exprSubject (expr : Expr) : String := "expr '$" ++ expr.source ++ "$'"

/-- What the list of a loop is called in a mismatch. -/
def loopSubject (source : Expr) : String := "loop expr '" ++ source.source ++ "'"

/-- What the name of an inclusion is called in a mismatch. -/
def inclusionSubject (name : Expr) : String := "partial expr '" ++ name.source ++ "'"

/-- What an argument is called in a mismatch. -/
def argumentSubject (arg : Expr) : String := "argument '" ++ arg.source ++ "'"

end Inlay.Breadcrumb

namespace Inlay.Reporter

/-- The failure of one message that is registered under a code. -/
def failure (reporter : Reporter) (code : String) (values : Entries) : Except Misuse Failure := do
  return ⟨[.text (← reporter.message code values)], code⟩

/-- A field is of the wrong kind. -/
def mismatch (reporter : Reporter) (expected actual : FieldKind) (subject : String) :
    Except Misuse Failure :=
  reporter.failure Code.typeMismatch [
    (.text "expected", .text expected.name),
    (.text "actual", .text actual.name),
    (.text "subject", .text subject)]

/-- A template that is to be included cannot be loaded. -/
def loadFailure (reporter : Reporter) (identifier reason : String) : Except Misuse Failure :=
  reporter.failure Code.partialLoadFailed [
    (.text "identifier", .text identifier), (.text "reason", .text reason)]

/-- Templates are included too deep. -/
def depthFailure (reporter : Reporter) (limit : Int) : Except Misuse Failure :=
  reporter.failure Code.includeDepthExceeded [(.text "max_depth", .int limit)]

end Inlay.Reporter
