import Inlay.Text.Encoding

/-!
# Text in pieces

A file in UTF-8 that is read piece by piece: so many bytes at a time are made into characters, and
so many characters at a time are handed out. Bytes that are no text are only met when their piece is
read. Every line ends with a line feed alone.
-/

namespace Inlay.Text

/-- The start of bytes in UTF-8. -/
inductive Utf8Start where
  | char (c : Char) (rest : List UInt8)
  /-- The bytes may be the start of a character, of which the rest is missing. -/
  | unfinished
  | invalid

namespace Utf8Start

/-- How many bytes follow the first of a character, and the least and the greatest that the second
may be. -/
def shape? (lead : Nat) : Option (Nat × Nat × Nat) :=
  if lead < 0x80 then some (0, 0x80, 0xBF)
  else if lead < 0xC2 then none
  else if lead < 0xE0 then some (1, 0x80, 0xBF)
  else if lead = 0xE0 then some (2, 0xA0, 0xBF)
  else if lead = 0xED then some (2, 0x80, 0x9F)
  else if lead < 0xF0 then some (2, 0x80, 0xBF)
  else if lead = 0xF0 then some (3, 0x90, 0xBF)
  else if lead < 0xF4 then some (3, 0x80, 0xBF)
  else if lead = 0xF4 then some (3, 0x80, 0x8F)
  else none

/-- Read the first character. -/
def ofBytes : List UInt8 → Utf8Start
  | [] => .unfinished
  | lead :: bytes =>
    match shape? lead.toNat with
    | none => .invalid
    | some (count, least, greatest) =>
      let tail := (bytes.take count).map UInt8.toNat
      let fits : Bool := match tail with
        | [] => true
        | second :: others =>
          (least ≤ second && second ≤ greatest) && others.all fun n => 0x80 ≤ n && n ≤ 0xBF
      if !fits then .invalid
      else if tail.length < count then .unfinished
      else
        let head := if count = 0 then lead.toNat else lead.toNat % Nat.pow 2 (6 - count)
        .char (Char.ofNat (tail.foldl (fun n byte => n * 64 + byte % 64) head))
          (bytes.drop count)

end Utf8Start

/-- The characters of bytes, and the start of a character that is left over; `count` bounds the
number of characters. -/
def decodeUtf8 : Nat → List UInt8 → Option (List Char × List UInt8)
  | 0, bytes => some ([], bytes)
  | count + 1, bytes =>
    if bytes.isEmpty then some ([], [])
    else
      match Utf8Start.ofBytes bytes with
      | .invalid => none
      | .unfinished => some ([], bytes)
      | .char c rest => (decodeUtf8 count rest).map fun (cs, left) => (c :: cs, left)

/-- A file that has been read in part. -/
structure Stream where
  /-- The bytes that have not been read. -/
  bytes : List UInt8
  /-- The start of a character. -/
  started : List UInt8 := []
  /-- A carriage return was read last, which may belong to a line feed. -/
  held : Bool := false
  /-- The characters that have not been handed out. -/
  ready : List Char := []
  /-- The bytes and the characters of the last piece. -/
  lastBytes : Nat := 0
  lastChars : Nat := 0
  deriving Inhabited

namespace Stream

/-- The least number of bytes in a piece. -/
def pieceSize : Nat := 8192

/-- The number of bytes that are read for so many missing characters, as if they were as long as
those of the last piece. -/
def sizeFor (stream : Stream) (missing : Nat) : Nat :=
  max pieceSize (max missing (stream.lastBytes * missing / stream.lastChars))

/-- Read a piece; nothing if it is no text. -/
def readPiece (stream : Stream) (missing : Nat) : Option Stream := do
  let size := stream.sizeFor missing
  let piece := stream.bytes.take size
  let bytes := stream.started ++ piece
  let (chars, started) ← decodeUtf8 bytes.length bytes
  if piece.isEmpty && !started.isEmpty then none
  let chars := if stream.held && (piece.isEmpty || !chars.isEmpty) then '\r' :: chars else chars
  let held :=
    if chars.isEmpty then stream.held && !piece.isEmpty
    else !piece.isEmpty && chars.getLast? == some '\r'
  let chars := plainLines (if held then chars.dropLast else chars)
  some {
    bytes := stream.bytes.drop size
    started, held
    ready := stream.ready ++ chars
    lastBytes := piece.length
    lastChars := chars.length }

/-- Read until so many characters are there or the file ends; `count` bounds the number of
pieces. -/
def fill (wanted : Nat) : Nat → Stream → Option Stream
  | 0, stream => some stream
  | count + 1, stream => do
    let found := stream.ready.length
    if wanted ≤ found then some stream
    else
      let next ← stream.readPiece (wanted - found)
      if stream.bytes.isEmpty && next.ready.length = found then some next
      else fill wanted count next

/-- Hand out so many characters, or fewer at the end of the file. -/
def take (stream : Stream) (wanted : Nat) : Option (List Char × Stream) := do
  let stream ← stream.fill wanted (stream.bytes.length + 3)
  some (stream.ready.take wanted, { stream with ready := stream.ready.drop wanted })

end Stream

end Inlay.Text
