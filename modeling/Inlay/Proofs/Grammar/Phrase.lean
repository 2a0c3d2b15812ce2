import Inlay.Proofs.Basic
import Inlay.Template.Source

/-!
# Written expressions

The ways in which an expression can stand in a source. A `Phrase` is a derivation of the grammar of
expressions: it keeps what the expression forgets, the spaces around arguments, the characters that
are written behind a backslash, and the form of each argument. `Phrase.source` is its text and
`Phrase.expr` the expression it derives.

`scanWithin_source` says that the scan reads every written phrase back, and `exists_phrase` that it
reads nothing else.
-/

namespace Inlay.Template

/-- One character between the quotes of a fixed text: as it stands, or behind a backslash. -/
inductive Glyph where
  | plain (c : Char)
  | escaped (c : Char)

namespace Glyph

/-- The character that the glyph is read as. -/
def char : Glyph → Char
  | .plain c => c
  | .escaped c => c

/-- The characters that the glyph is written with. -/
def source : Glyph → List Char
  | .plain c => [c]
  | .escaped c => ['\\', c]

/-- Only a quote and a backslash need the backslash before them. -/
def Written : Glyph → Prop
  | .plain c => c ≠ '"' ∧ c ≠ '\\'
  | .escaped _ => True

end Glyph

/-- A part of a source with the spaces around it. -/
structure Spaced (α : Type) where
  before : List Char
  inner : α
  after : List Char

mutual

/-- A derivation of an expression. -/
inductive Phrase where
  | ident (key : List Char)
  /-- `spaces` stand behind the opening parenthesis, also where there are no arguments. -/
  | call (key : List Char) (spaces : List Char) (args : List (Spaced Argument))
  | literal (glyphs : List Glyph)

/-- A derivation of an argument. -/
inductive Argument where
  | quoted (glyphs : List Glyph)
  | word (chars : List Char)
  | nested (phrase : Phrase)

end

/-- A fixed text between its quotes. -/
def quotedSource (glyphs : List Glyph) : List Char :=
  '"' :: (glyphs.flatMap Glyph.source ++ ['"'])

mutual

/-- The text of a phrase. -/
def Phrase.source : Phrase → List Char
  | .ident key => key
  | .call key spaces args => key ++ '(' :: (spaces ++ argumentsSource args)
  | .literal glyphs => quotedSource glyphs

/-- The text of an argument. -/
def Argument.source : Argument → List Char
  | .quoted glyphs => quotedSource glyphs
  | .word chars => chars
  | .nested phrase => '$' :: (phrase.source ++ ['$'])

/-- The text of the arguments of a call, with the parenthesis that closes them. -/
def argumentsSource : List (Spaced Argument) → List Char
  | [] => [')']
  | [⟨before, arg, after⟩] => before ++ (arg.source ++ (after ++ [')']))
  | ⟨before, arg, after⟩ :: next :: rest =>
    before ++ (arg.source ++ (after ++ ',' :: argumentsSource (next :: rest)))

end

/-- The text that glyphs are read as. -/
def glyphText (glyphs : List Glyph) : String := String.ofList (glyphs.map Glyph.char)

mutual

/-- The expression that a phrase derives. -/
def Phrase.expr : Phrase → Expr
  | .ident key => .ident (String.ofList key)
  | .call key _ args => .call (String.ofList key) (argumentExprs args)
  | .literal glyphs => .literal (glyphText glyphs)

/-- The expression that an argument derives. -/
def Argument.expr : Argument → Expr
  | .quoted glyphs => .literal (glyphText glyphs)
  | .word chars => .literal (String.ofList chars)
  | .nested phrase => phrase.expr

/-- The expressions that the arguments of a call derive. -/
def argumentExprs : List (Spaced Argument) → List Expr
  | [] => []
  | ⟨_, arg, _⟩ :: rest => arg.expr :: argumentExprs rest

end

/-- A key: a letter or an underscore, and then letters, digits, underscores, points and hyphens. -/
def IsKey : List Char → Prop
  | [] => False
  | c :: rest => Expr.isKeyStart c = true ∧ ∀ d ∈ rest, Expr.isKeyRest d = true ∨ d = '-'

/-- A run of spaces. -/
def Spaces (cs : List Char) : Prop := ∀ c ∈ cs, Expr.isSpace c = true

/-- A run of blanks, of which spaces are four. -/
def Blanks (cs : List Char) : Prop := ∀ c ∈ cs, Text.isBlank c = true

/-- An argument that needs no quotes: it has none of the characters that end an argument, and no
blank at its ends. -/
structure IsWord (cs : List Char) : Prop where
  bare : ∀ c ∈ cs, Expr.isBare c = true
  head : ∃ c, cs.head? = some c ∧ Text.isBlank c = false
  last : ∃ c, cs.getLast? = some c ∧ Text.isBlank c = false

/-- What may stand around an argument: spaces, and around a word any blanks, as they do not belong
to the word. -/
def Argument.Margin : Argument → List Char → Prop
  | .word _, cs => Blanks cs
  | _, cs => Spaces cs

mutual

/-- The parts of a phrase are what they are meant to be. -/
def Phrase.Written : Phrase → Prop
  | .ident key => IsKey key
  | .call key spaces args => IsKey key ∧ Spaces spaces ∧ ArgumentsWritten args
  | .literal glyphs => ∀ glyph ∈ glyphs, glyph.Written

/-- The parts of an argument are what they are meant to be. -/
def Argument.Written : Argument → Prop
  | .quoted glyphs => ∀ glyph ∈ glyphs, glyph.Written
  | .word chars => IsWord chars
  | .nested phrase => phrase.Written

/-- The parts of all arguments are what they are meant to be. -/
def ArgumentsWritten : List (Spaced Argument) → Prop
  | [] => True
  | ⟨before, arg, after⟩ :: rest =>
    arg.Margin before ∧ arg.Written ∧ arg.Margin after ∧ ArgumentsWritten rest

end

/-- A key ends where the rest of a source begins: no character of a key follows, except a hyphen
that is a mark, and its own last hyphen is no mark. -/
structure KeyEnds (key rest : List Char) : Prop where
  no_more : ∀ c ∈ rest.head?, Expr.isKeyRest c = false
  hyphen : ∀ after, rest = '-' :: after → after.head? = some '$'
  mark : key.getLast? = some '-' → rest.head? ≠ some '$'

namespace KeyEnds

variable {c : Char} {key rest : List Char}

/-- A longer key ends where its last characters do. -/
theorem tail (h : KeyEnds (c :: key) rest) : KeyEnds key rest := by
  refine ⟨h.no_more, h.hyphen, fun hlast => ?_⟩
  cases key with
  | nil => simp at hlast
  | cons d key => exact h.mark (by rw [List.getLast?_cons_cons, hlast])

/-- A character in front changes the end of a key only if it is the whole key, and a hyphen. -/
theorem cons (h : KeyEnds key rest) (hc : key = [] → c = '-' → rest.head? ≠ some '$') :
    KeyEnds (c :: key) rest := by
  refine ⟨h.no_more, h.hyphen, fun hlast => ?_⟩
  cases key with
  | nil => exact hc rfl (by simpa using hlast)
  | cons d key => exact h.mark (by rw [← hlast, List.getLast?_cons_cons])

end KeyEnds

/-- The scan of the phrase ends where `rest` begins. Only a key can go on. -/
def Phrase.Ends (rest : List Char) : Phrase → Prop
  | .ident key => KeyEnds key rest ∧ rest.head? ≠ some '('
  | _ => True

/-- A key ends before a character that is none of a key, and neither a hyphen nor a dollar sign. -/
theorem KeyEnds.of_head {c : Char} (hc : Expr.isKeyRest c = false) (hhyphen : c ≠ '-')
    (hdollar : c ≠ '$') (key rest : List Char) : KeyEnds key (c :: rest) := by
  refine ⟨by simpa using hc, ?_, ?_⟩
  · rintro after h
    exact absurd (List.cons.inj h).1 hhyphen
  · simpa using fun _ => hdollar

namespace Expr

/-- The expression is a key whose last character is a hyphen. Before a dollar sign this hyphen is
read as a mark. -/
def endsInHyphen : Expr → Bool
  | .ident key => key.toList.getLast? == some '-'
  | _ => false

mutual

/-- No argument is a key that ends in a hyphen: such a key cannot stand before a dollar sign. -/
def Clear : Expr → Prop
  | .call _ args => ArgumentsClear args
  | _ => True

/-- None of these arguments, and none within them, is a key that ends in a hyphen. -/
def ArgumentsClear : List Expr → Prop
  | [] => True
  | arg :: rest => arg.endsInHyphen = false ∧ arg.Clear ∧ ArgumentsClear rest

end

end Expr

end Inlay.Template
