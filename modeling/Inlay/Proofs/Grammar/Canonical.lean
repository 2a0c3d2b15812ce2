import Inlay.Proofs.Grammar.Document

/-!
# Canonical derivations

Of the many ways to write the same elements, one is fixed: no spaces but one behind each comma, no
character behind a backslash that does not need it, and every fixed text in quotes. `Node.canonical`
changes a derivation into this one. It derives the same elements (`documentElements_canonical`), and
its expressions are written as `Expr.source` writes them (`Phrase.source_canonical`).
-/

namespace Inlay.Template

/-! ## Fixed texts -/

/-- A character as it is written between quotes: behind a backslash only if it needs one. -/
def Glyph.ofChar (c : Char) : Glyph := if c = '\\' ∨ c = '"' then .escaped c else .plain c

/-- The canonical way to write a character spells that character. -/
theorem Glyph.char_ofChar (c : Char) : (ofChar c).char = c := by
  rw [ofChar]
  split <;> rfl

/-- It puts a backslash before the two characters that cannot stand without one. -/
theorem Glyph.written_ofChar (c : Char) : (ofChar c).Written := by
  rw [ofChar]
  split
  · trivial
  · next h => exact ⟨fun hc => h (.inr hc), fun hc => h (.inl hc)⟩

/-- It puts one before no others. -/
theorem Glyph.source_ofChar (c : Char) :
    (ofChar c).source = if c = '\\' ∨ c = '"' then ['\\', c] else [c] := by
  rw [ofChar]
  split <;> rfl

/-- Characters as they are written between quotes. -/
def glyphsOf (chars : List Char) : List Glyph := chars.map .ofChar

/-- Characters that are written canonically are read as the text they make up. -/
theorem glyphText_glyphsOf (chars : List Char) :
    glyphText (glyphsOf chars) = String.ofList chars := by
  have hid : Glyph.char ∘ Glyph.ofChar = id := funext Glyph.char_ofChar
  rw [glyphText, glyphsOf, List.map_map, hid, List.map_id]

/-- They are fit to stand between quotes. -/
theorem written_glyphsOf (chars : List Char) : ∀ glyph ∈ glyphsOf chars, glyph.Written := by
  intro glyph hglyph
  obtain ⟨c, -, rfl⟩ := List.mem_map.1 hglyph
  exact Glyph.written_ofChar c

/-- Between quotes they are what `Expr.source` shows for a fixed text. -/
theorem quotedSource_glyphsOf (chars : List Char) :
    quotedSource (glyphsOf chars) = (Expr.quoteLiteral (String.ofList chars)).toList := by
  rw [quotedSource, glyphsOf, List.flatMap_map, Expr.quoteLiteral, String.toList_ofList,
    String.toList_ofList, funext Glyph.source_ofChar]
  rfl

/-! ## Expressions -/

/-- A phrase as an argument. -/
def Argument.ofPhrase : Phrase → Argument
  | .literal glyphs => .quoted glyphs
  | phrase => .nested phrase

mutual

/-- The canonical derivation of the expression that a phrase derives. -/
def Phrase.canonical : Phrase → Phrase
  | .ident key => .ident key
  | .call key _ args => .call key [] (canonicalArguments [] args)
  | .literal glyphs => .literal (glyphsOf (glyphs.map Glyph.char))

/-- The canonical derivation of the expression that an argument derives. -/
def Argument.canonical : Argument → Argument
  | .quoted glyphs => .quoted (glyphsOf (glyphs.map Glyph.char))
  | .word chars => .quoted (glyphsOf chars)
  | .nested phrase => .ofPhrase phrase.canonical

/-- The canonical derivation of arguments, the first one behind `before`. -/
def canonicalArguments (before : List Char) : List (Spaced Argument) → List (Spaced Argument)
  | [] => []
  | ⟨_, arg, _⟩ :: rest => ⟨before, arg.canonical, []⟩ :: canonicalArguments [' '] rest

end

/-- A phrase derives the same expression when it stands as an argument. -/
theorem Argument.expr_ofPhrase (phrase : Phrase) : (ofPhrase phrase).expr = phrase.expr := by
  cases phrase <;> rfl

mutual

/-- The canonical derivation derives the expression it is made for. -/
theorem Phrase.expr_canonical : (phrase : Phrase) → phrase.canonical.expr = phrase.expr
  | .ident key => rfl
  | .call key spaces args => by
    simp only [Phrase.canonical, Phrase.expr, argumentExprs_canonical args]
  | .literal glyphs => by
    simp only [Phrase.canonical, Phrase.expr, glyphText_glyphsOf]
    rfl

/-- An argument derives what it did, also a word that gets its quotes. -/
theorem Argument.expr_canonical : (arg : Argument) → arg.canonical.expr = arg.expr
  | .quoted glyphs => by
    simp only [Argument.canonical, Argument.expr, glyphText_glyphsOf]
    rfl
  | .word chars => by
    simp only [Argument.canonical, Argument.expr, glyphText_glyphsOf]
  | .nested phrase => by
    rw [Argument.canonical, Argument.expr_ofPhrase, Phrase.expr_canonical phrase, Argument.expr]

/-- Spaces between the arguments play no part in what they derive. -/
theorem argumentExprs_canonical : (args : List (Spaced Argument)) → {before : List Char} →
    argumentExprs (canonicalArguments before args) = argumentExprs args
  | [], _ => rfl
  | ⟨_, arg, _⟩ :: rest, _ => by
    simp only [canonicalArguments, argumentExprs, Argument.expr_canonical arg,
      argumentExprs_canonical rest]

end

/-- A well-written phrase can stand as an argument. -/
theorem Argument.written_ofPhrase {phrase : Phrase} (hw : phrase.Written) :
    (ofPhrase phrase).Written := by
  cases phrase <;> exact hw

/-- A canonical argument is no word, so that only spaces may stand around it. -/
theorem Argument.margin_canonical (arg : Argument) {spaces : List Char} (h : Spaces spaces) :
    arg.canonical.Margin spaces := by
  cases arg with
  | quoted | word => exact h
  | nested phrase =>
    rw [canonical]
    cases phrase.canonical <;> exact h

mutual

/-- The canonical derivation of a well-written phrase is well-written. -/
theorem Phrase.written_canonical : (phrase : Phrase) → phrase.Written → phrase.canonical.Written
  | .ident key, hw => hw
  | .call key spaces args, hw =>
    ⟨hw.1, by simp [Spaces], argumentsWritten_canonical args (by simp [Spaces]) hw.2.2⟩
  | .literal _, _ => written_glyphsOf _

/-- A word may be written in any way: as a fixed text it is well-written between quotes. -/
theorem Argument.written_canonical : (arg : Argument) → arg.Written → arg.canonical.Written
  | .quoted _, _ => written_glyphsOf _
  | .word _, _ => written_glyphsOf _
  | .nested phrase, hw => Argument.written_ofPhrase (Phrase.written_canonical phrase hw)

/-- The arguments of a canonical call have one space in front, but for the first, and none behind.
-/
theorem argumentsWritten_canonical : (args : List (Spaced Argument)) → {before : List Char} →
    Spaces before → ArgumentsWritten args → ArgumentsWritten (canonicalArguments before args)
  | [], _, _, _ => trivial
  | ⟨_, arg, _⟩ :: rest, _, hbefore, ⟨_, hw, _, hrest⟩ =>
    ⟨arg.margin_canonical hbefore, Argument.written_canonical arg hw,
      arg.margin_canonical (by simp [Spaces]),
      argumentsWritten_canonical rest (by simp [Spaces]; decide) hrest⟩

end

/-! ## The text of canonical expressions -/

/-- An expression as it is shown among the arguments of a call. -/
def Expr.argumentSource : Expr → String
  | .literal text => quoteLiteral text
  | expr => "$" ++ expr.source ++ "$"

/-- Arguments are shown one by one. -/
theorem Expr.argumentSources_cons (expr : Expr) (rest : List Expr) :
    argumentSources (expr :: rest) = expr.argumentSource :: argumentSources rest := by
  cases expr <;> rfl

/-- A phrase that is written as `Expr.source` shows it is an argument written as shown among
arguments. -/
theorem Argument.source_ofPhrase {phrase : Phrase}
    (h : phrase.source = phrase.expr.source.toList) :
    (ofPhrase phrase).source = phrase.expr.argumentSource.toList := by
  cases phrase with
  | literal glyphs => exact h
  | ident | call =>
    rw [ofPhrase, Argument.source, h]
    · simp [Phrase.expr, Expr.argumentSource]
    · simp

mutual

/-- A canonical phrase is written as its expression is shown. -/
theorem Phrase.source_canonical : (phrase : Phrase) →
    phrase.canonical.source = phrase.expr.source.toList
  | .ident key => by
    rw [Phrase.canonical, Phrase.source, Phrase.expr, Expr.source, String.toList_ofList]
  | .call key _ args => by
    rw [Phrase.canonical, Phrase.source, Phrase.expr, Expr.source]
    cases args with
    | nil => simp [canonicalArguments, argumentsSource, argumentExprs, Expr.argumentSources]
    | cons arg rest => simp [argumentsSource_canonical (arg :: rest)]
  | .literal glyphs => quotedSource_glyphsOf _

/-- A canonical argument is written as it is shown in a call. -/
theorem Argument.source_canonical : (arg : Argument) →
    arg.canonical.source = arg.expr.argumentSource.toList
  | .quoted glyphs => quotedSource_glyphsOf _
  | .word chars => quotedSource_glyphsOf _
  | .nested phrase => by
    rw [Argument.canonical, Argument.expr, ← Phrase.expr_canonical phrase]
    refine Argument.source_ofPhrase ?_
    rw [Phrase.source_canonical phrase, Phrase.expr_canonical phrase]

/-- Canonical arguments are written as their expressions are shown, with a comma and a space between
them. -/
theorem argumentsSource_canonical : (args : List (Spaced Argument)) → args ≠ [] →
    (before : List Char) → argumentsSource (canonicalArguments before args)
      = before ++ ((", ".intercalate (Expr.argumentSources (argumentExprs args))).toList ++ [')'])
  | [], hne, _ => absurd rfl hne
  | [⟨_, arg, _⟩], _, before => by
    have harg := Argument.source_canonical arg
    simp [canonicalArguments, argumentsSource, argumentExprs, Expr.argumentSources_cons,
      Expr.argumentSources, harg]
  | ⟨_, arg, _⟩ :: next :: rest, _, before => by
    have harg := Argument.source_canonical arg
    have hrest := argumentsSource_canonical (next :: rest) (by simp) [' ']
    simp only [canonicalArguments, argumentExprs, Expr.argumentSources_cons] at hrest ⊢
    simp [argumentsSource, harg, hrest]

end

/-! ## Documents -/

/-- The canonical derivation of what stands in the parentheses of a tag. -/
def canonicalHead (head : Spaced Phrase) : Spaced Phrase := ⟨[], head.inner.canonical, []⟩

mutual

/-- The canonical derivation of the elements that a node derives. -/
def Node.canonical : Node → Node
  | .text chars => .text chars
  | .dollar => .dollar
  | .value marks phrase => .value marks phrase.canonical
  | .inclusion marks name => .inclusion marks (canonicalHead name)
  | .block kind opening head body closing =>
    .block kind opening (canonicalHead head) (canonicalDocument body) closing
  | .divided kind opening head first divider second closing =>
    .divided kind opening (canonicalHead head) (canonicalDocument first) divider
      (canonicalDocument second) closing

/-- The canonical derivation of the elements that a document derives. -/
def canonicalDocument : List Node → List Node
  | [] => []
  | node :: rest => node.canonical :: canonicalDocument rest

end

mutual

/-- A node derives the same elements as its canonical form: marks and texts stay as they are. -/
theorem Node.elements_canonical : (node : Node) → node.canonical.elements = node.elements
  | .text _ => rfl
  | .dollar => rfl
  | .value _ phrase => by
    simp only [Node.canonical, Node.elements, phrase.expr_canonical]
  | .inclusion _ name => by
    simp only [Node.canonical, Node.elements, canonicalHead, name.inner.expr_canonical]
  | .block _ _ head body _ => by
    simp only [Node.canonical, Node.elements, canonicalHead, head.inner.expr_canonical,
      documentElements_canonical body]
  | .divided _ _ head first _ second _ => by
    simp only [Node.canonical, Node.elements, canonicalHead, head.inner.expr_canonical,
      documentElements_canonical first, documentElements_canonical second]

/-- So does a document. -/
theorem documentElements_canonical : (nodes : List Node) →
    documentElements (canonicalDocument nodes) = documentElements nodes
  | [] => rfl
  | node :: rest => by
    rw [canonicalDocument, documentElements, documentElements, Node.elements_canonical node,
      documentElements_canonical rest]

end

/-- The tag of a word and an expression in parentheses may be written canonically. -/
theorem headed_written_canonical (opener : Opener) {head : Spaced Phrase}
    (hw : (TagForm.headed opener head).Written) :
    (TagForm.headed opener (canonicalHead head)).Written :=
  ⟨by simp [canonicalHead, Spaces], head.inner.written_canonical hw.2.1,
    by simp [canonicalHead, Spaces]⟩

/-- Canonical texts stand in a row only where texts did before. -/
theorem separate_canonical {node : Node} {rest : List Node} (h : Separate node rest) :
    Separate node.canonical (canonicalDocument rest) := by
  cases rest with
  | nil => cases node <;> trivial
  | cons next rest => cases node <;> cases next <;> trivial

mutual

/-- The canonical form of a well-written node is well-written. -/
theorem Node.written_canonical : (node : Node) → node.Written → node.canonical.Written
  | .text _, hw => hw
  | .dollar, hw => hw
  | .value _ phrase, hw => phrase.written_canonical hw
  | .inclusion _ _, hw => headed_written_canonical .inclusion hw
  | .block _ _ _ body _, hw =>
    ⟨headed_written_canonical _ hw.1, documentWritten_canonical body hw.2⟩
  | .divided _ _ _ first _ second _, hw =>
    ⟨headed_written_canonical _ hw.1, documentWritten_canonical first hw.2.1,
      documentWritten_canonical second hw.2.2⟩

/-- So is that of a document. -/
theorem documentWritten_canonical : (nodes : List Node) → DocumentWritten nodes →
    DocumentWritten (canonicalDocument nodes)
  | [], _ => trivial
  | node :: rest, hw =>
    ⟨Node.written_canonical node hw.1, separate_canonical hw.2.1,
      documentWritten_canonical rest hw.2.2⟩

end

end Inlay.Template
