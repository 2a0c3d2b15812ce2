/-!
# Blank characters

The characters that count as blank when text is trimmed, and trimming itself. A text is trimmed on
its characters; the three functions on `String` only wrap the ones on lists.
-/

namespace Inlay.Text

/-- The blank characters: Unicode's white space together with the four information separators
U+001C to U+001F. The zero-width space U+200B is not blank. -/
def isBlank (c : Char) : Bool :=
  let n := c.toNat
  (0x09 ≤ n && n ≤ 0x0D) || (0x1C ≤ n && n ≤ 0x20) || n == 0x85 || n == 0xA0 || n == 0x1680 ||
    (0x2000 ≤ n && n ≤ 0x200A) || n == 0x2028 || n == 0x2029 || n == 0x202F || n == 0x205F ||
    n == 0x3000

/-- Drop the blank characters at the start. -/
def dropBlanks (cs : List Char) : List Char := cs.dropWhile isBlank

/-- Drop the blank characters at the end. -/
def dropBlanksEnd (cs : List Char) : List Char := (cs.reverse.dropWhile isBlank).reverse

/-- The text without the blanks at its start. -/
def trimStart (s : String) : String := String.ofList (dropBlanks s.toList)

/-- The text without the blanks at its end. -/
def trimEnd (s : String) : String := String.ofList (dropBlanksEnd s.toList)

/-- The text without the blanks at either end. -/
def trim (s : String) : String := String.ofList (dropBlanksEnd (dropBlanks s.toList))

end Inlay.Text
