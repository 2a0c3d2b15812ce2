/-!
# Expressions

What may stand between two dollar signs: the name of a field, a field asked with arguments, or a
quoted text. `Expr.source` writes an expression the way a template does; it is also how expressions
are named in messages.
-/

namespace Inlay.Template

/-- An expression of a template. -/
inductive Expr where
  /-- A field asked without arguments. -/
  | ident (key : String)
  /-- A field asked with arguments, each of them reduced to a text first. -/
  | call (key : String) (args : List Expr)
  /-- A fixed text, which asks no field. -/
  | literal (text : String)
  /-- An object that is no expression of this language, known by the name of its kind. -/
  | foreign (kind : String)
  deriving Inhabited

namespace Expr

/-- A text between double quotes, with a backslash before each backslash and each double quote. -/
def quoteLiteral (text : String) : String :=
  let escape (c : Char) : List Char := if c = '\\' ∨ c = '"' then ['\\', c] else [c]
  String.ofList (['"'] ++ text.toList.flatMap escape ++ ['"'])

mutual

/-- The expression as it is written in a template. -/
def source : Expr → String
  | .ident key => key
  | .call key args => key ++ "(" ++ ", ".intercalate (argumentSources args) ++ ")"
  | .literal text => quoteLiteral text
  | .foreign _ => "unknown"

/-- The arguments of a call as they are written: a fixed text in quotes, anything else between
dollar signs. -/
def argumentSources : List Expr → List String
  | [] => []
  | .literal text :: rest => quoteLiteral text :: argumentSources rest
  | e :: rest => ("$" ++ e.source ++ "$") :: argumentSources rest

end

end Expr

end Inlay.Template
