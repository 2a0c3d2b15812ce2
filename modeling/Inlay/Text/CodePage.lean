/-!
# Code pages

A code page gives a character to each byte. The bytes below the first of its table stand for the
characters of their numbers, and the table goes on from there.
-/

namespace Inlay.Text

/-- A code page. -/
structure CodePage where
  /-- The first byte of the table. -/
  first : Nat
  /-- The characters of that byte and all behind it; `�` where a byte has none. -/
  chars : String
  deriving Inhabited

namespace CodePage

/-- What stands in a table for a byte without character. -/
def gap : Char := '�'

/-- The character of a byte. -/
def char? (first : Nat) (table : Array Char) (byte : Nat) : Option Char :=
  if byte < first then some (Char.ofNat byte) else table[byte - first]?.filter (· != gap)

/-- The text of bytes, each of which must have a character. -/
def decode? (page : CodePage) (bytes : List Nat) : Option (List Char) :=
  bytes.mapM (char? page.first page.chars.toList.toArray)

end CodePage

end Inlay.Text
