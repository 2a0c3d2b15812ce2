import Inlay.Number.Numeral
import Inlay.Yaml.Scalar

/-!
# Tokens of a data file

`Token.scan` cuts a data file into tokens. The indentation of blocks becomes tokens of its own that
open and close them. A key is only known for one when its colon is met, so the place where it began
is remembered and its token is put there afterwards; such a key must stand on one line.

A file is cut only as far as its tokens are asked for: what is wrong further on does not matter to
those who have seen enough. So the tokens before a problem come with the problem.
-/

namespace Inlay.Yaml

/-- A token. -/
inductive Token where
  /-- A directive: the version of the format, a name for the start of tags, or any other. -/
  | version (major : Nat)
  | tagHandle (handle start : String)
  | otherDirective
  | documentStart
  | documentEnd
  | streamEnd
  | sequenceStart
  | mappingStart
  | blockEnd
  | flowSequenceStart
  | flowSequenceEnd
  | flowMappingStart
  | flowMappingEnd
  | blockEntry
  | flowEntry
  | key
  | value
  | alias (name : String)
  | anchor (name : String)
  | tag (handle : Option String) (suffix : String)
  | scalar (text : String) (isPlain : Bool)
  deriving DecidableEq, Inhabited

/-- The tokens of a file, up to a problem if there is one. The problem only counts if more tokens
are asked for. -/
structure Tokens where
  tokens : List Token
  problem : Option Problem := none
  deriving Inhabited

/-- A place where a key may have begun. -/
structure PossibleKey where
  /-- The number of tokens before it. -/
  tokens : Nat
  /-- Nothing else may stand there. -/
  required : Bool
  index : Nat
  line : Nat
  column : Nat
  deriving Inhabited

/-- How far a file has been cut. -/
structure Scanner where
  cursor : Cursor
  /-- What stands behind the text, if that is not the end of the file. -/
  obstacle : Option Problem := none
  /-- How many brackets are open. -/
  flow : Nat := 0
  /-- The indentation of the innermost open block, and of those around it. -/
  indent : Int := -1
  outer : List Int := []
  /-- May a key begin here? -/
  keyAllowed : Bool := true
  /-- For each number of open brackets, the place where a key may have begun. -/
  keys : List (Nat × PossibleKey) := []
  tokens : Array Token := #[]
  deriving Inhabited

namespace Scanner

def push (scanner : Scanner) (token : Token) : Scanner :=
  { scanner with tokens := scanner.tokens.push token }

/-- Put a token behind the first `place` tokens. -/
def insert (scanner : Scanner) (place : Nat) (token : Token) : Scanner :=
  { scanner with
    tokens := (scanner.tokens.take place).push token ++ scanner.tokens.drop place }

def allowKey (scanner : Scanner) (allowed : Bool) : Scanner :=
  { scanner with keyAllowed := allowed }

def moveTo (scanner : Scanner) (cursor : Cursor) : Scanner := { scanner with cursor }

/-- Pass spaces, comments and the ends of lines. -/
def skipToToken : Nat → Scanner → Scanner
  | 0, scanner => scanner
  | count + 1, scanner =>
    let cursor := scanner.cursor.dropWhile (· == ' ')
    let cursor := if cursor.peek == some '#' then cursor.dropWhile fun c => !isBreak c else cursor
    match cursor.lineBreak? with
    | none => scanner.moveTo cursor
    | some (_, cursor) =>
      let scanner := scanner.moveTo cursor
      skipToToken count (if scanner.flow = 0 then scanner.allowKey true else scanner)

/-- Forget the places where a key can no longer have begun. -/
def dropStale (scanner : Scanner) : Except Problem Scanner :=
  let stale (entry : Nat × PossibleKey) : Bool :=
    entry.2.line != scanner.cursor.line || 1024 < scanner.cursor.index - entry.2.index
  if scanner.keys.any fun entry => stale entry && entry.2.required then malformed
  else .ok { scanner with keys := scanner.keys.filter fun entry => !stale entry }

/-- Close the blocks that are indented further than a column. -/
def unwindBlocks (column : Int) : List Int → Scanner → Scanner
  | [], scanner => scanner
  | indent :: outer, scanner =>
    if column < scanner.indent then
      unwindBlocks column outer ({ scanner with indent, outer }.push .blockEnd)
    else scanner

/-- Close the blocks that are indented further than a column; between brackets, indentation does
not count. -/
def unwind (column : Int) (scanner : Scanner) : Scanner :=
  if scanner.flow = 0 then unwindBlocks column scanner.outer scanner else scanner

/-- Open a block at a column, unless one is open there; its first token goes to a place. -/
def openBlock (column : Nat) (place : Nat) (token : Token) (scanner : Scanner) : Scanner :=
  if scanner.indent < column then
    { scanner with indent := column, outer := scanner.indent :: scanner.outer }.insert place token
  else scanner

/-- No key began at the remembered place. -/
def dropKey (scanner : Scanner) : Except Problem Scanner :=
  match scanner.keys.lookup scanner.flow with
  | some key =>
    if key.required then malformed
    else .ok { scanner with keys := scanner.keys.filter (·.1 != scanner.flow) }
  | none => .ok scanner

/-- A key may begin here. -/
def rememberKey (scanner : Scanner) : Except Problem Scanner := do
  if scanner.keyAllowed then
    let cursor := scanner.cursor
    let key : PossibleKey := {
      tokens := scanner.tokens.size
      required := scanner.flow = 0 && scanner.indent == cursor.column
      index := cursor.index
      line := cursor.line
      column := cursor.column }
    let scanner ← scanner.dropKey
    .ok { scanner with keys := (scanner.flow, key) :: scanner.keys }
  else .ok scanner

/-- A letter, a digit, a hyphen or an underscore. -/
def isWord (c : Char) : Bool := c.isAlphanum || c == '-' || c == '_'

/-- Is this the end of a word: a space, or the end of a line or of the file? -/
def endsWord (cursor : Cursor) : Bool := endOr (fun c => c == ' ' || isBreak c) cursor.peek

/-- A number in a directive. -/
def directiveNumber (cursor : Cursor) : Except Problem (Nat × Cursor) :=
  let (digits, cursor) := cursor.takeWhile Char.isDigit
  if digits.isEmpty then malformed
  else
    match Numeral.int? 10 digits with
    | some n => .ok (n.toNat, cursor)
    | none => .error (.misuse .badForm)

/-- May the character stand in a tag? -/
def isTagChar (c : Char) : Bool := c.isAlphanum || "-;/?:@&=+$,_.!~*'()[]%".toList.contains c

/-- The bytes of a tag: two digits behind a percent sign stand for a byte. -/
def tagBytes : List Char → Option (List UInt8)
  | [] => some []
  | '%' :: a :: b :: rest =>
    if Decimal.digitValue a < 16 ∧ Decimal.digitValue b < 16 then
      (tagBytes rest).map (UInt8.ofNat (Decimal.ofDigits 16 [a, b]) :: ·)
    else none
  | '%' :: _ => none
  | c :: rest => (tagBytes rest).map (UInt8.ofNat c.toNat :: ·)

/-- The text of a tag or of the start of one. -/
def tagText (cursor : Cursor) : Except Problem (String × Cursor) :=
  let (chars, cursor) := cursor.takeWhile isTagChar
  if chars.isEmpty then malformed
  else
    match (tagBytes chars).bind fun bytes => String.fromUTF8? ⟨bytes.toArray⟩ with
    | some text => .ok (text, cursor)
    | none => malformed

/-- The short name of the start of tags: a word between exclamation marks, or one such mark before a
space. -/
def tagHandle (cursor : Cursor) : Except Problem (String × Cursor) :=
  if cursor.peek != some '!' then malformed
  else if cursor.peekAt 1 == some ' ' then .ok ("!", cursor.next)
  else
    let (name, cursor) := cursor.next.takeWhile isWord
    if cursor.peek == some '!' then
      .ok (String.ofList ('!' :: name ++ ['!']), cursor.next)
    else malformed

/-- A directive, whose percent sign has been read. -/
def directive (cursor : Cursor) : Except Problem (Token × Cursor) := do
  let (name, cursor) := cursor.takeWhile isWord
  if name.isEmpty || !endsWord cursor then malformed
  let skipSpaces (cursor : Cursor) : Cursor := cursor.dropWhile (· == ' ')
  if name = "YAML".toList then
    let (major, cursor) ← directiveNumber (skipSpaces cursor)
    if cursor.peek != some '.' then malformed
    let (_, cursor) ← directiveNumber cursor.next
    if !endsWord cursor then malformed
    return (.version major, ← cursor.endLine)
  else if name = "TAG".toList then
    let (handle, cursor) ← tagHandle (skipSpaces cursor)
    if cursor.peek != some ' ' then malformed
    let (start, cursor) ← tagText (skipSpaces cursor)
    if !endsWord cursor then malformed
    return (.tagHandle handle start, ← cursor.endLine)
  else return (.otherDirective, ← (cursor.dropWhile fun c => !isBreak c).endLine)

/-- The name of an anchor or an alias, whose sign has been read. -/
def anchorName (cursor : Cursor) : Except Problem (String × Cursor) :=
  let (name, cursor) := cursor.takeWhile isWord
  let ends (c : Char) : Bool := isSpaceOrBreak c || "?:,]\x7d%@`".toList.contains c
  if name.isEmpty || !endOr ends cursor.peek then malformed
  else .ok (String.ofList name, cursor)

/-- A tag, whose exclamation mark is next. -/
def tag (cursor : Cursor) : Except Problem (Token × Cursor) := do
  let (found, cursor) ←
    if cursor.peekAt 1 == some '<' then do
      let (text, cursor) ← tagText (cursor.skip 2)
      if cursor.peek == some '>' then .ok (Token.tag none text, cursor.next) else malformed
    else if endOr isSpaceOrBreak (cursor.peekAt 1) then
      .ok (Token.tag none "!", cursor.next)
    else do
      let word := cursor.next.rest.takeWhile fun c => !(c == ' ' || isBreak c)
      let (handle, cursor) ←
        if word.contains '!' then tagHandle cursor else .ok ("!", cursor.next)
      let (text, cursor) ← tagText cursor
      .ok (Token.tag (some handle) text, cursor)
  if endsWord cursor then .ok (found, cursor) else malformed

/-- Put a key's token where it began, and open its block. -/
def addKey (scanner : Scanner) (key : PossibleKey) : Scanner :=
  let scanner := { scanner with keys := scanner.keys.filter (·.1 != scanner.flow) }
  let scanner := scanner.insert key.tokens .key
  let scanner :=
    if scanner.flow = 0 then scanner.openBlock key.column key.tokens .mappingStart else scanner
  scanner.allowKey false

/-- The colon behind a key. -/
def fetchValue (scanner : Scanner) : Except Problem Scanner := do
  let scanner ← match scanner.keys.lookup scanner.flow with
    | some key => .ok (scanner.addKey key)
    | none =>
      if scanner.flow = 0 && !scanner.keyAllowed then malformed
      else
        let scanner :=
          if scanner.flow = 0 then
            scanner.openBlock scanner.cursor.column scanner.tokens.size .mappingStart
          else scanner
        (scanner.allowKey (scanner.flow = 0)).dropKey
  .ok ((scanner.moveTo scanner.cursor.next).push .value)

/-- The mark of a member of a block sequence, or of a key. -/
def fetchIndicator (opening token : Token) (keyAfter : Bool) (scanner : Scanner) :
    Except Problem Scanner := do
  let scanner ←
    if scanner.flow = 0 then
      if scanner.keyAllowed then
        .ok (scanner.openBlock scanner.cursor.column scanner.tokens.size opening)
      else malformed
    else .ok scanner
  let scanner ← (scanner.allowKey keyAfter).dropKey
  .ok ((scanner.moveTo scanner.cursor.next).push token)

/-- A token that may be a key, read from the cursor. -/
def fetchNode (read : Cursor → Except Problem (Token × Cursor)) (scanner : Scanner) :
    Except Problem Scanner := do
  let scanner ← scanner.rememberKey
  let (token, cursor) ← read scanner.cursor
  .ok (((scanner.allowKey false).moveTo cursor).push token)

/-- A mark between documents, or a directive. -/
def fetchAtMargin (read : Cursor → Except Problem (Token × Cursor)) (scanner : Scanner) :
    Except Problem Scanner := do
  let scanner ← (scanner.unwind (-1)).dropKey
  let (token, cursor) ← read scanner.cursor
  .ok (((scanner.allowKey false).moveTo cursor).push token)

/-- A plain scalar. -/
def fetchPlain (scanner : Scanner) : Except Problem Scanner := do
  let scanner ← scanner.rememberKey
  let cursor := scanner.cursor
  let (text, cursor, broke) :=
    cursor.plain (scanner.flow != 0) (scanner.indent + 1) (cursor.rest.length + 1) [] false
  .ok (((scanner.allowKey broke).moveTo cursor).push (.scalar (String.ofList text) true))

/-- A quoted scalar. -/
def fetchQuoted (double : Bool) : Scanner → Except Problem Scanner :=
  fetchNode fun cursor => do
    let (text, cursor) ← cursor.next.quoted double (cursor.rest.length + 1)
    .ok (.scalar (String.ofList text) false, cursor)

/-- A block scalar. -/
def fetchBlock (folded : Bool) (scanner : Scanner) : Except Problem Scanner := do
  let scanner ← (scanner.allowKey true).dropKey
  let (text, cursor) ← scanner.cursor.next.block folded scanner.indent
  .ok ((scanner.moveTo cursor).push (.scalar (String.ofList text) false))

/-- Can a plain scalar begin here? -/
def startsPlain (scanner : Scanner) : Bool :=
  match scanner.cursor.peek with
  | none => false
  | some c =>
    !(isSpaceOrBreak c || "-?:,[]\x7b\x7d#&*!|>'\"%@`".toList.contains c) ||
      !endOr isSpaceOrBreak (scanner.cursor.peekAt 1) &&
        (c == '-' || (scanner.flow = 0 && (c == '?' || c == ':')))

/-- The end of the file. -/
def finish (scanner : Scanner) : Except Problem Scanner := do
  let scanner ← (scanner.unwind (-1)).dropKey
  .ok (scanner.push .streamEnd)

/-- Fetch the token that begins with a character. -/
def fetch (c : Char) (scanner : Scanner) : Except Problem Scanner :=
  let cursor := scanner.cursor
  let spaceAfter := endOr isSpaceOrBreak (cursor.peekAt 1)
  let bracket (opens : Bool) (token : Token) : Except Problem Scanner := do
    if opens then
      let scanner ← scanner.rememberKey
      let scanner := { scanner with flow := scanner.flow + 1, keyAllowed := true }
      .ok ((scanner.moveTo cursor.next).push token)
    else
      let scanner ← scanner.dropKey
      let scanner := { scanner with flow := scanner.flow - 1, keyAllowed := false }
      .ok ((scanner.moveTo cursor.next).push token)
  if c == '%' && cursor.column == 0 then scanner.fetchAtMargin fun cursor => directive cursor.next
  else if cursor.column == 0 && cursor.atMark "---" then
    scanner.fetchAtMargin fun cursor => .ok (.documentStart, cursor.skip 3)
  else if cursor.column == 0 && cursor.atMark "..." then
    scanner.fetchAtMargin fun cursor => .ok (.documentEnd, cursor.skip 3)
  else if c == '[' then bracket true .flowSequenceStart
  else if c == '{' then bracket true .flowMappingStart
  else if c == ']' then bracket false .flowSequenceEnd
  else if c == '}' then bracket false .flowMappingEnd
  else if c == ',' then do
    let scanner ← (scanner.allowKey true).dropKey
    .ok ((scanner.moveTo cursor.next).push .flowEntry)
  else if c == '-' && spaceAfter then scanner.fetchIndicator .sequenceStart .blockEntry true
  else if c == '?' && (scanner.flow != 0 || spaceAfter) then
    scanner.fetchIndicator .mappingStart .key (scanner.flow = 0)
  else if c == ':' && (scanner.flow != 0 || spaceAfter) then scanner.fetchValue
  else if c == '*' then
    scanner.fetchNode fun cursor => (anchorName cursor.next).map fun (name, c) => (.alias name, c)
  else if c == '&' then
    scanner.fetchNode fun cursor => (anchorName cursor.next).map fun (name, c) => (.anchor name, c)
  else if c == '!' then scanner.fetchNode tag
  else if c == '|' && scanner.flow = 0 then scanner.fetchBlock false
  else if c == '>' && scanner.flow = 0 then scanner.fetchBlock true
  else if c == '\'' then scanner.fetchQuoted false
  else if c == '"' then scanner.fetchQuoted true
  else if scanner.startsPlain then scanner.fetchPlain
  else malformed

/-- Has the reading come to the obstacle behind the text? -/
def blocked (scanner : Scanner) : Except Problem Unit :=
  match scanner.obstacle, scanner.cursor.peek with
  | some problem, none => .error problem
  | _, _ => .ok ()

/-- A token that ends with the text ends with the obstacle behind it. -/
def orObstacle {α : Type} (obstacle : Option Problem) : Except Problem α → Except Problem α
  | .error .unfinished => .error (obstacle.getD .unfinished)
  | result => result

/-- Fetch the next token. -/
def advance (scanner : Scanner) : Except Problem Scanner := do
  let scanner := scanner.skipToToken (scanner.cursor.rest.length + 1)
  scanner.blocked
  let scanner ← scanner.dropStale
  let scanner := scanner.unwind scanner.cursor.column
  match scanner.cursor.peek with
  | none => scanner.finish
  | some c =>
    let scanner ← orObstacle scanner.obstacle (scanner.fetch c)
    scanner.blocked
    return scanner

/-- The tokens that no later one can be put before. -/
def certain (scanner : Scanner) : List Token :=
  let keys := match scanner.dropStale with
    | .ok scanner => scanner.keys
    | .error _ => scanner.keys
  scanner.tokens.toList.take
    (keys.foldl (fun count entry => min count entry.2.tokens) scanner.tokens.size)

/-- Cut the rest of a file. Each token but the last takes a character. -/
def run : Nat → Scanner → Tokens
  | 0, scanner => { tokens := scanner.tokens.toList, problem := some .malformed }
  | count + 1, scanner =>
    match scanner.advance with
    | .error problem => { tokens := scanner.certain, problem := some problem }
    | .ok next =>
      if next.tokens.back? == some .streamEnd then { tokens := next.tokens.toList }
      else run count next

end Scanner

/-- The tokens of a file. -/
def Token.scan (source : Source) : Tokens :=
  let rest := match source.chars with
    | '\uFEFF' :: rest => rest
    | chars => chars
  Scanner.run (rest.length + 2) { cursor := { rest }, obstacle := source.obstacle }

end Inlay.Yaml
