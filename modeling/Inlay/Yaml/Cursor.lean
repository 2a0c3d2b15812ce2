/-!
# Reading a data file character by character

A cursor is what is left of a file together with the place where it starts. Lines end with a line
feed, a carriage return, or one of three other characters.
-/

namespace Inlay.Yaml

/-- What is left of a file, and where it starts. -/
structure Cursor where
  rest : List Char
  /-- The number of characters before it. -/
  index : Nat := 0
  line : Nat := 0
  column : Nat := 0
  deriving Inhabited

/-- Does the character end a line? -/
def isBreak (c : Char) : Bool :=
  c == '\n' || c == '\r' || c == '\x85' || c == '\u2028' || c == '\u2029'

/-- A space, a tab or the end of a line. -/
def isSpaceOrBreak (c : Char) : Bool := c == ' ' || c == '\t' || isBreak c

/-- Is there no character, or one that passes a test? -/
def endOr (p : Char → Bool) : Option Char → Bool
  | none => true
  | some c => p c

/-- May the character stand in a file at all? -/
def isAllowed (c : Char) : Bool :=
  let n := c.toNat
  n == 0x09 || n == 0x0A || n == 0x0D || (0x20 ≤ n && n ≤ 0x7E) || n == 0x85 ||
    (0xA0 ≤ n && n ≤ 0xD7FF) || (0xE000 ≤ n && n ≤ 0xFFFD) || 0x10000 ≤ n

namespace Cursor

/-- The next character. -/
def peek (cursor : Cursor) : Option Char := cursor.rest.head?

/-- The character `n` places further on. -/
def peekAt (cursor : Cursor) (n : Nat) : Option Char := cursor.rest[n]?

/-- Pass one character. A byte order mark takes no column. -/
def next (cursor : Cursor) : Cursor :=
  match cursor.rest with
  | [] => cursor
  | c :: rest =>
    let cursor := { cursor with rest, index := cursor.index + 1 }
    if isBreak c && !(c == '\r' && rest.head? == some '\n') then
      { cursor with line := cursor.line + 1, column := 0 }
    else if c == '\uFEFF' then cursor
    else { cursor with column := cursor.column + 1 }

/-- Pass `n` characters. -/
def skip (cursor : Cursor) : Nat → Cursor
  | 0 => cursor
  | n + 1 => cursor.next.skip n

/-- The characters that pass a test, and the cursor behind them. -/
def takeWhile (cursor : Cursor) (p : Char → Bool) : List Char × Cursor :=
  let chars := cursor.rest.takeWhile p
  (chars, cursor.skip chars.length)

/-- The cursor behind the characters that pass a test. -/
def dropWhile (cursor : Cursor) (p : Char → Bool) : Cursor := (cursor.takeWhile p).2

/-- The end of a line: the character that it counts as, and the cursor behind it. -/
def lineBreak? (cursor : Cursor) : Option (Char × Cursor) :=
  match cursor.rest with
  | '\r' :: '\n' :: _ => some ('\n', cursor.skip 2)
  | c :: _ =>
    if c == '\n' || c == '\r' || c == '\x85' then some ('\n', cursor.next)
    else if isBreak c then some (c, cursor.next)
    else none
  | [] => none

/-- Does the file go on with this word and then a space or the end of a line or of the file? -/
def atMark (cursor : Cursor) (word : String) : Bool :=
  word.toList.isPrefixOf cursor.rest && endOr isSpaceOrBreak (cursor.peekAt word.length)

/-- Does a mark between documents stand here? -/
def atSeparator (cursor : Cursor) : Bool := cursor.atMark "---" || cursor.atMark "..."

/-- Pass spaces and a comment up to the end of the line; nothing else may stand there. -/
def endLine? (cursor : Cursor) : Option Cursor :=
  let cursor := cursor.dropWhile (· == ' ')
  let cursor := if cursor.peek == some '#' then cursor.dropWhile fun c => !isBreak c else cursor
  match cursor.lineBreak? with
  | some (_, cursor) => some cursor
  | none => if cursor.peek.isNone then some cursor else none

end Cursor

end Inlay.Yaml
