import Inlay.Text.CodePage
import Inlay.Text.Escaped
import Inlay.Text.Punycode
import Inlay.Text.Shifted

/-!
# Text encodings

The encodings that files may be read in, and decoding. Bytes that are no text in an encoding have
no decoding.
-/

namespace Inlay.Text

/-- An encoding. -/
inductive Encoding where
  | utf8
  /-- UTF-8 with an optional byte order mark, which is dropped. -/
  | utf8Signed
  /-- ASCII that shifts to base 64. -/
  | shifted
  /-- Units of two bytes, in a set order or in the order that a mark gives. -/
  | pairs (order : Option ByteOrder)
  /-- Units of four bytes, in a set order or in the order that a mark gives. -/
  | quads (order : Option ByteOrder)
  | ascii
  /-- Each byte is the number of its character. -/
  | latin1
  | page (page : CodePage)
  /-- Characters of several bytes. -/
  | multibyte (decode? : List Nat → Option (List Char))
  | escaped
  | escapedPlain
  | label
  | name
  /-- Nothing is text. -/
  | nothing
  deriving Inhabited

namespace Encoding

/-- The bytes of a byte order mark. -/
def mark : List UInt8 := [0xEF, 0xBB, 0xBF]

/-- The bytes behind a byte order mark that they may start with. A start of the mark that is all
there is counts as one. -/
def behindMark (bytes : ByteArray) : ByteArray :=
  let start := (bytes.extract 0 mark.length).toList
  if start.isPrefixOf mark then bytes.extract mark.length bytes.size else bytes

/-- The characters of numbered bytes, if they are text in an encoding other than UTF-8. -/
def chars? (bytes : List Nat) : Encoding → Option (List Char)
  | utf8 => none
  | utf8Signed => none
  | shifted => Shifted.decode? bytes
  | pairs order => decodePairs? order bytes
  | quads order => decodeQuads? order bytes
  | ascii => if bytes.all (· < 0x80) then scalars bytes else none
  | latin1 => scalars bytes
  | page table => table.decode? bytes
  | multibyte decode? => decode? bytes
  | escaped => Escaped.decode? bytes
  | escapedPlain => Escaped.decodePlain? bytes
  | label => Punycode.decode? bytes
  | name => Punycode.decodeName? bytes
  | nothing => none

/-- The text of bytes, if they are text in the encoding. -/
def decode? (encoding : Encoding) (bytes : ByteArray) : Option String :=
  match encoding with
  | .utf8 => String.fromUTF8? bytes
  | .utf8Signed => String.fromUTF8? (behindMark bytes)
  | encoding => (encoding.chars? (bytes.toList.map UInt8.toNat)).map String.ofList

end Encoding

/-- The characters with every line ended by a line feed alone. -/
def plainLines : List Char → List Char
  | [] => []
  | '\r' :: '\n' :: rest => '\n' :: plainLines rest
  | '\r' :: rest => '\n' :: plainLines rest
  | c :: rest => c :: plainLines rest

end Inlay.Text
