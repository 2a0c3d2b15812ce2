import Inlay.Template.Expr
import Inlay.Text.Blank

/-!
# Pieces of a source

A template source is a row of pieces: runs of plain text, doubled dollar signs, and tags between
single dollar signs. `Piece.scan` cuts a source into its pieces up to the first malformed one. Which
tag closes which is not decided here (see `Inlay.Template.Source`).

A place in a source is given by the number of characters from there to the end, so it does not
depend on what stands before.
-/

namespace Inlay.Template

/-- The tags that close or divide a block. -/
inductive Closer where
  | orElse
  | endIf
  | separator
  | endFor
  deriving DecidableEq, Inhabited

/-- The word that is written between the dollar signs. -/
def Closer.word : Closer → String
  | .orElse => "else"
  | .endIf => "endif"
  | .separator => "sep"
  | .endFor => "endfor"

/-- What makes a source malformed. -/
inductive SyntaxCause where
  /-- The source ends inside a block that one of these tags would close. -/
  | openBlock (expected : List Closer)
  /-- A closing tag stands where no open block takes it. -/
  | strayCloser (found : Closer)
  | noFieldOrLiteral
  | noArgument
  | openLiteral
  | noArgumentEnd
  /-- A certain character is missing. -/
  | noCharacter (expected : Char)
  /-- A tag is not closed; its dollar sign has this many characters from it to the end. -/
  | openTag (left : Nat)
  deriving DecidableEq, Inhabited

/-- A cause and its place, as the number of characters from there to the end of the source. -/
structure SyntaxError where
  cause : SyntaxCause
  left : Nat
  deriving DecidableEq, Inhabited

namespace Expr

/-- An ASCII letter or an underscore. -/
def isKeyStart (c : Char) : Bool := c.isAlpha || c == '_'

/-- What may follow the first character of a key, hyphens apart. -/
def isKeyRest (c : Char) : Bool := c.isAlphanum || c == '_' || c == '.'

/-- The rest of a key and what follows it. A hyphen belongs to the key unless a dollar sign
follows it: there it is the mark of the tag. -/
def scanKeyRest : List Char → List Char × List Char
  | [] => ([], [])
  | c :: rest =>
    if isKeyRest c || (c == '-' && rest.head? != some '$') then
      let (key, after) := scanKeyRest rest
      (c :: key, after)
    else ([], c :: rest)

/-- The key at the start, if there is one. -/
def scanKey? : List Char → Option (String × List Char)
  | [] => none
  | c :: rest =>
    if isKeyStart c then
      let (key, after) := scanKeyRest rest
      some (String.ofList (c :: key), after)
    else none

/-- The characters of a quoted text whose opening quote has been read, and what follows the closing
one; nothing if no quote closes it. A backslash stands for the character after it. -/
def scanQuoted? : List Char → Option (List Char × List Char)
  | [] => none
  | '"' :: rest => some ([], rest)
  | '\\' :: c :: rest => (scanQuoted? rest).map fun (text, after) => (c :: text, after)
  | c :: rest => (scanQuoted? rest).map fun (text, after) => (c :: text, after)

/-- Is this one of the four characters that may stand around arguments? -/
def isSpace (c : Char) : Bool := c == ' ' || c == '\t' || c == '\n' || c == '\r'

/-- What follows the spaces at the start. -/
def skipSpaces (cs : List Char) : List Char := cs.dropWhile isSpace

/-- May this character stand in an argument without quotes? -/
def isBare (c : Char) : Bool := !(c == ',' || c == '(' || c == ')' || c == '$' || c == '"')

/-- A quoted text; `start` is the place of its opening quote, which has been read. -/
def scanLiteral (start : Nat) (rest : List Char) : Except SyntaxError (Expr × List Char) :=
  match scanQuoted? rest with
  | some (text, after) => .ok (.literal (String.ofList text), after)
  | none => .error ⟨.openLiteral, start⟩

/-- An argument without quotes: at least one character that is not blank. The blanks around it
do not belong to it. -/
def scanBare (cs : List Char) : Except SyntaxError (Expr × List Char) :=
  let text := Text.dropBlanksEnd (Text.dropBlanks (cs.takeWhile isBare))
  if text.isEmpty then .error ⟨.noArgument, cs.length⟩
  else .ok (.literal (String.ofList text), cs.dropWhile isBare)

mutual

/-- The expression at the start, for expressions that nest no deeper than the first argument. -/
def scanWithin : Nat → List Char → Except SyntaxError (Expr × List Char)
  | 0, cs => .error ⟨.noFieldOrLiteral, cs.length⟩
  | depth + 1, cs =>
    match cs with
    | '"' :: rest => scanLiteral cs.length rest
    | _ =>
      match scanKey? cs with
      | none => .error ⟨.noFieldOrLiteral, cs.length⟩
      | some (key, '(' :: rest) =>
        match skipSpaces rest with
        | ')' :: after => .ok (.call key [], after)
        | rest => do
          let (args, after) ← scanArguments depth rest
          .ok (.call key args, after)
      | some (key, after) => .ok (.ident key, after)

/-- The arguments of a call up to its closing parenthesis, of which there is at least one. -/
def scanArguments : Nat → List Char → Except SyntaxError (List Expr × List Char)
  | 0, cs => .error ⟨.noArgument, cs.length⟩
  | depth + 1, cs => do
    let (arg, after) ← scanArgument depth (skipSpaces cs)
    match skipSpaces after with
    | ',' :: rest =>
      let (args, after) ← scanArguments depth rest
      .ok (arg :: args, after)
    | ')' :: rest => .ok ([arg], rest)
    | rest => .error ⟨.noArgumentEnd, rest.length⟩

/-- One argument: a quoted text, an expression between dollar signs, or a bare text. -/
def scanArgument : Nat → List Char → Except SyntaxError (Expr × List Char)
  | 0, cs => .error ⟨.noArgument, cs.length⟩
  | depth + 1, cs =>
    match cs with
    | '"' :: rest => scanLiteral cs.length rest
    | '$' :: rest => do
      let (expr, after) ← scanWithin depth rest
      match after with
      | '$' :: after => .ok (expr, after)
      | after => .error ⟨.noCharacter '$', after.length⟩
    | _ => scanBare cs

end

/-- The expression at the start. Each level of nesting takes characters of its own, so the number
of characters bounds the depth. -/
def scan (cs : List Char) : Except SyntaxError (Expr × List Char) := scanWithin (cs.length + 1) cs

end Expr

/-- What a tag says. -/
inductive TagBody where
  | value (expr : Expr)
  | openIf (test : Expr)
  | openFor (source : Expr)
  | inclusion (name : Expr)
  | close (closer : Closer)
  deriving Inhabited

/-- A tag, with the marks at its two ends. -/
structure Tag where
  body : TagBody
  trimsBefore : Bool
  trimsAfter : Bool
  deriving Inhabited

/-- A piece of a source. -/
inductive Piece where
  | text (text : String)
  | dollar
  /-- A tag whose opening dollar sign has `left` characters from it to the end. -/
  | tag (tag : Tag) (left : Nat)
  deriving Inhabited

namespace Tag

/-- What follows the word, if the characters start with it. -/
def afterWord? (word : String) (cs : List Char) : Option (List Char) :=
  if word.toList.isPrefixOf cs then some (cs.drop word.length) else none

/-- Do the characters go on with the end of a tag, with or without its mark? -/
def atEnd : List Char → Bool
  | '$' :: _ => true
  | '-' :: '$' :: _ => true
  | _ => false

/-- The closing word at the start and what follows it. The word must end the tag: `else-branch`
and `endif()` begin with a field's name instead. -/
def closer? (cs : List Char) : Option (Closer × List Char) :=
  [Closer.orElse, .endIf, .separator, .endFor].findSome? fun closer =>
    match afterWord? closer.word cs with
    | some rest => if atEnd rest then some (closer, rest) else none
    | none => none

/-- The expression of a tag that was opened with a parenthesis, up to the closing one. -/
def scanHead (make : Expr → TagBody) (cs : List Char) :
    Except SyntaxError (TagBody × List Char) := do
  let (expr, rest) ← Expr.scan (Expr.skipSpaces cs)
  match Expr.skipSpaces rest with
  | ')' :: rest => .ok (make expr, rest)
  | rest => .error ⟨.noCharacter ')', rest.length⟩

/-- What stands between the marks of a tag. -/
def scanBody (cs : List Char) : Except SyntaxError (TagBody × List Char) :=
  match afterWord? "if(" cs, afterWord? "for(" cs, afterWord? "partial(" cs with
  | some rest, _, _ => scanHead .openIf rest
  | _, some rest, _ => scanHead .openFor rest
  | _, _, some rest => scanHead .inclusion rest
  | none, none, none =>
    match closer? cs with
    | some (closer, rest) => .ok (.close closer, rest)
    | none => do
      let (expr, rest) ← Expr.scan cs
      .ok (.value expr, rest)

/-- A tag whose opening dollar sign, at the place `start`, has been read. -/
def scan (start : Nat) (cs : List Char) : Except SyntaxError (Tag × List Char) := do
  let (trimsBefore, cs) := match cs with
    | '-' :: rest => (true, rest)
    | cs => (false, cs)
  let (body, rest) ← scanBody cs
  match rest with
  | '$' :: rest => .ok (⟨body, trimsBefore, false⟩, rest)
  | '-' :: '$' :: rest => .ok (⟨body, trimsBefore, true⟩, rest)
  | rest => .error ⟨.openTag start, rest.length⟩

end Tag

namespace Piece

/-- The piece at the start of a source that is not at its end. -/
def next : List Char → Except SyntaxError (Piece × List Char)
  | '$' :: '$' :: rest => .ok (.dollar, rest)
  | '$' :: rest => do
    let (found, after) ← Tag.scan (rest.length + 1) rest
    .ok (.tag found (rest.length + 1), after)
  | cs => .ok (.text (String.ofList (cs.takeWhile (· != '$'))), cs.dropWhile (· != '$'))

/-- At most `count` pieces of a source. -/
def scanWithin : Nat → List Char → List Piece × Option SyntaxError
  | _, [] => ([], none)
  | 0, _ :: _ => ([], none)
  | count + 1, cs =>
    match next cs with
    | .error error => ([], some error)
    | .ok (piece, rest) =>
      let (pieces, error) := scanWithin count rest
      (piece :: pieces, error)

/-- The pieces of a source, up to its end or to the first malformed one. Every piece takes a
character, so there are no more pieces than characters. -/
def scan (cs : List Char) : List Piece × Option SyntaxError := scanWithin cs.length cs

end Piece

end Inlay.Template
