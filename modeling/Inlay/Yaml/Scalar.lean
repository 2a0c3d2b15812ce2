import Inlay.Number.Decimal
import Inlay.Yaml.Source

/-!
# The text of scalars

Scalars are written plainly, between single or double quotes, or as an indented block. Each of them
is read from a cursor to its text.
-/

namespace Inlay.Yaml.Cursor

/-- Pass spaces and a comment up to the end of the line; nothing else may stand there. -/
def endLine (cursor : Cursor) : Except Problem Cursor :=
  match cursor.endLine? with
  | some cursor => .ok cursor
  | none => malformed

/-! ## Plain scalars -/

/-- The characters of a plain scalar up to a space, the end of a line, or what ends it. -/
def plainRun (inFlow : Bool) : List Char → List Char
  | [] => []
  | c :: rest =>
    let inBrackets (c : Char) : Bool := c == ',' || c == '[' || c == ']' || c == '{' || c == '}'
    let endsKey := c == ':' &&
      endOr (fun d => isSpaceOrBreak d || (inFlow && inBrackets d)) rest.head?
    if isSpaceOrBreak c || endsKey || (inFlow && (inBrackets c || c == '?')) then []
    else c :: plainRun inFlow rest

/-- Spaces and ends of lines within a plain scalar, and whether a mark between documents was met.
`count` bounds the number of steps. -/
def plainBreaks : Nat → Cursor → List Char × Cursor × Bool
  | 0, cursor => ([], cursor, false)
  | count + 1, cursor =>
    if cursor.peek == some ' ' then plainBreaks count cursor.next
    else
      match cursor.lineBreak? with
      | none => ([], cursor, false)
      | some (c, cursor) =>
        if cursor.atSeparator then ([], cursor, true)
        else
          let (breaks, cursor, separator) := plainBreaks count cursor
          (c :: breaks, cursor, separator)

/-- How ends of lines count within a scalar: one is a space, and of several the first is dropped. -/
def fold (first : Char) (breaks : List Char) : List Char :=
  if first != '\n' then first :: breaks else if breaks.isEmpty then [' '] else breaks

/-- What stands between two runs of a plain scalar, and whether a line ended there. -/
def plainGap (cursor : Cursor) : List Char × Cursor × Bool :=
  let (white, cursor) := cursor.takeWhile (· == ' ')
  match cursor.lineBreak? with
  | none => (white, cursor, false)
  | some (first, cursor) =>
    if cursor.atSeparator then ([], cursor, true)
    else
      let (breaks, cursor, separator) := plainBreaks cursor.rest.length cursor
      (if separator then [] else fold first breaks, cursor, true)

/-- A plain scalar that must be indented by `indent`: its text, the cursor behind it, and whether a
line ended behind it. `count` bounds the number of runs. -/
def plain (inFlow : Bool) (indent : Int) :
    Nat → List Char → Bool → Cursor → List Char × Cursor × Bool
  | 0, _, broke, cursor => ([], cursor, broke)
  | count + 1, gap, broke, cursor =>
    let run := if cursor.peek == some '#' then [] else plainRun inFlow cursor.rest
    if run.isEmpty then ([], cursor, broke)
    else
      let (next, cursor, broke) := plainGap (cursor.skip run.length)
      if next.isEmpty || cursor.peek == some '#' || (!inFlow && (cursor.column : Int) < indent) then
        (gap ++ run, cursor, broke)
      else
        let (text, cursor, broke) := plain inFlow indent count next broke cursor
        (gap ++ run ++ text, cursor, broke)

/-! ## Quoted scalars -/

/-- The ends of further empty lines within a quoted scalar; no mark between documents may stand at
the start of a line. -/
def quotedBreaks : Nat → Cursor → Except Problem (List Char × Cursor)
  | 0, cursor => .ok ([], cursor)
  | count + 1, cursor =>
    if cursor.atSeparator then malformed
    else
      let cursor := cursor.dropWhile fun c => c == ' ' || c == '\t'
      match cursor.lineBreak? with
      | none => .ok ([], cursor)
      | some (c, cursor) => do
        let (breaks, cursor) ← quotedBreaks count cursor
        .ok (c :: breaks, cursor)

/-- The character that a letter behind a backslash stands for. -/
def escapes : List (Char × Char) := [
  ('0', '\x00'), ('a', '\x07'), ('b', '\x08'), ('t', '\t'), ('\t', '\t'), ('n', '\n'),
  ('v', '\x0b'), ('f', '\x0c'), ('r', '\r'), ('e', '\x1b'), (' ', ' '), ('"', '"'),
  ('\\', '\\'), ('/', '/'), ('N', '\x85'), ('_', '\xa0'), ('L', '\u2028'), ('P', '\u2029')]

/-- The number of digits behind the letters that introduce a code point. -/
def codeWidth? (c : Char) : Option Nat :=
  if c = 'x' then some 2 else if c = 'u' then some 4 else if c = 'U' then some 8 else none

/-- The number that so many digits of base sixteen give. -/
def code (width : Nat) (cursor : Cursor) : Except Problem (Nat × Cursor) :=
  let digits := cursor.rest.take width
  if !digits.all fun d => Decimal.digitValue d < 16 then malformed
  else if digits.length < width then .error .unfinished
  else .ok (Decimal.ofDigits 16 digits, cursor.skip width)

/-- The second half of a pair of code points that stand for one character, if it is escaped
here. -/
def secondHalf? (cursor : Cursor) : Option (Nat × Cursor) :=
  match cursor.rest with
  | '\\' :: 'u' :: _ =>
    match code 4 (cursor.skip 2) with
    | .ok (n, cursor) => if 0xDC00 ≤ n ∧ n < 0xE000 then some (n, cursor) else none
    | .error _ => none
  | _ => none

/-- The character of a code point that has just been read. -/
def charOf (n : Nat) (cursor : Cursor) : Except Problem (List Char × Cursor) :=
  if Nat.pow 2 31 ≤ n then .error (.misuse .outOfRange)
  else if 0x110000 ≤ n then .error (.misuse .badForm)
  else if 0xD800 ≤ n ∧ n < 0xDC00 then
    match secondHalf? cursor with
    | some (m, cursor) =>
      .ok ([Char.ofNat (0x10000 + (n - 0xD800) * 0x400 + (m - 0xDC00))], cursor)
    | none => .ok (['\uFFFD'], cursor)
  else if 0xDC00 ≤ n ∧ n < 0xE000 then .ok (['\uFFFD'], cursor)
  else .ok ([Char.ofNat n], cursor)

/-- What a backslash in double quotes stands for. -/
def escape (count : Nat) (cursor : Cursor) : Except Problem (List Char × Cursor) :=
  match cursor.peek with
  | none => .error .unfinished
  | some c =>
    match escapes.lookup c, codeWidth? c with
    | some char, _ => .ok ([char], cursor.next)
    | none, some width => do
      let (n, cursor) ← code width cursor.next
      charOf n cursor
    | none, none =>
      match cursor.lineBreak? with
      | some (_, cursor) => quotedBreaks count cursor
      | none => malformed

/-- A part of a quoted scalar that does not end it: a character, a doubled quote, what a backslash
stands for, or a row of spaces and ends of lines. -/
def quotedPart (double : Bool) (count : Nat) (c : Char) (cursor : Cursor) :
    Except Problem (List Char × Cursor) :=
  if !double && c == '\'' then .ok (['\''], cursor.skip 2)
  else if double && c == '\\' then escape count cursor.next
  else if isSpaceOrBreak c then
    let (white, cursor) := cursor.takeWhile fun c => c == ' ' || c == '\t'
    match cursor.lineBreak? with
    | none => .ok (white, cursor)
    | some (first, cursor) => do
      let (breaks, cursor) ← quotedBreaks count cursor
      .ok (fold first breaks, cursor)
  else .ok ([c], cursor.next)

/-- A quoted scalar whose opening quote has been read. `count` bounds the number of steps. -/
def quoted (double : Bool) : Nat → Cursor → Except Problem (List Char × Cursor)
  | 0, _ => .error .unfinished
  | count + 1, cursor =>
    match cursor.peek with
    | none => .error .unfinished
    | some c =>
      if double && c == '"' then .ok ([], cursor.next)
      else if !double && c == '\'' && cursor.peekAt 1 != some '\'' then .ok ([], cursor.next)
      else do
        let (part, cursor) ← quotedPart double count c cursor
        let (text, cursor) ← quoted double count cursor
        .ok (part ++ text, cursor)

/-! ## Block scalars -/

/-- What happens to the ends of lines behind a block. -/
inductive Chomping where
  | strip
  | clip
  | keep
  deriving DecidableEq, Inhabited

/-- The sign in the head of a block. -/
def chomping? : Option Char → Option Chomping
  | some '+' => some .keep
  | some '-' => some .strip
  | _ => none

/-- The digit in the head of a block. Zero is refused. -/
def increment? (cursor : Cursor) : Except Problem (Option Nat × Cursor) :=
  match cursor.peek with
  | some c =>
    if c = '0' then malformed
    else if c.isDigit then .ok (some (c.toNat - '0'.toNat), cursor.next)
    else .ok (none, cursor)
  | none => .ok (none, cursor)

/-- The head of a block: a sign and a digit in either order. -/
def blockHead (cursor : Cursor) : Except Problem (Chomping × Option Nat × Cursor) := do
  match chomping? cursor.peek with
  | some chomping =>
    let (increment, cursor) ← increment? cursor.next
    .ok (chomping, increment, cursor)
  | none =>
    let (increment, cursor) ← increment? cursor
    match increment, chomping? cursor.peek with
    | some _, some chomping => .ok (chomping, increment, cursor.next)
    | _, _ => .ok (.clip, increment, cursor)

/-- Empty lines before a block whose indentation is found in it: the ends of the lines, and the
widest of them. -/
def leadingLines : Nat → Nat → Cursor → List Char × Nat × Cursor
  | 0, widest, cursor => ([], widest, cursor)
  | count + 1, widest, cursor =>
    if cursor.peek == some ' ' then
      let cursor := cursor.next
      leadingLines count (max widest cursor.column) cursor
    else
      match cursor.lineBreak? with
      | none => ([], widest, cursor)
      | some (c, cursor) =>
        let (breaks, widest, cursor) := leadingLines count widest cursor
        (c :: breaks, widest, cursor)

/-- Pass spaces up to a column. -/
def indentTo (indent : Nat) : Nat → Cursor → Cursor
  | 0, cursor => cursor
  | count + 1, cursor =>
    if cursor.column < indent && cursor.peek == some ' ' then indentTo indent count cursor.next
    else cursor

/-- Empty lines within a block. -/
def emptyLines (indent : Nat) : Nat → Cursor → List Char × Cursor
  | 0, cursor => ([], cursor)
  | count + 1, cursor =>
    let cursor := indentTo indent indent cursor
    match cursor.lineBreak? with
    | none => ([], cursor)
    | some (c, cursor) =>
      let (breaks, cursor) := emptyLines indent count cursor
      (c :: breaks, cursor)

/-- The lines of a block: the text, the end of the last line, the ends of the empty lines behind it,
and the cursor. -/
def blockLines (folded : Bool) (indent : Nat) :
    Nat → List Char → Cursor → List Char × List Char × List Char × Cursor
  | 0, breaks, cursor => ([], [], breaks, cursor)
  | count + 1, breaks, cursor =>
    if cursor.column = indent ∧ cursor.peek.isSome then
      let solid (c : Option Char) : Bool := !(c == some ' ' || c == some '\t')
      let startsSolid := solid cursor.peek
      let (line, cursor) := cursor.takeWhile fun c => !isBreak c
      let (lineEnd, cursor) := match cursor.lineBreak? with
        | some (c, cursor) => ([c], cursor)
        | none => ([], cursor)
      let (after, cursor) := emptyLines indent cursor.rest.length cursor
      if cursor.column = indent ∧ cursor.peek.isSome then
        let joint :=
          if folded && lineEnd == ['\n'] && startsSolid && solid cursor.peek then
            (if after.isEmpty then [' '] else [])
          else lineEnd
        let (text, lineEnd, after, cursor) := blockLines folded indent count after cursor
        (breaks ++ line ++ joint ++ text, lineEnd, after, cursor)
      else (breaks ++ line, lineEnd, after, cursor)
    else ([], [], breaks, cursor)

/-- A block scalar within blocks of indentation `outer`, whose first character has been read. -/
def block (folded : Bool) (outer : Int) (cursor : Cursor) :
    Except Problem (List Char × Cursor) := do
  let (chomping, increment, cursor) ← blockHead cursor
  if !endOr (fun c => c == ' ' || isBreak c) cursor.peek then malformed
  let cursor ← endLine cursor
  let least := (max (outer + 1) 1).toNat
  let (breaks, indent, cursor) := match increment with
    | none =>
      let (breaks, widest, cursor) := leadingLines cursor.rest.length 0 cursor
      (breaks, max least widest, cursor)
    | some increment =>
      let indent := least + increment - 1
      let (breaks, cursor) := emptyLines indent (cursor.rest.length + 1) cursor
      (breaks, indent, cursor)
  let (text, lineEnd, after, cursor) :=
    blockLines folded indent (cursor.rest.length + 1) breaks cursor
  let tail := match chomping with
    | .strip => []
    | .clip => lineEnd
    | .keep => lineEnd ++ after
  .ok (text ++ tail, cursor)

end Inlay.Yaml.Cursor
