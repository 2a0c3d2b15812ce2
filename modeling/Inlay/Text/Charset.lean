import Inlay.Text.CodePage
import Inlay.Text.Units

/-!
# Character sets of many rows

A set numbers its characters. It is given in rows of characters with successive numbers, and a row
may have gaps.
-/

namespace Inlay.Text

/-- A character set: rows, each with the number of its first character. -/
abbrev Charset := List (Nat × String)

namespace Charset

/-- The character of a number. -/
def char? (set : Charset) (number : Nat) : Option Char := do
  let (first, chars) ← set.find? fun (first, chars) =>
    first ≤ number && number - first < chars.length
  chars.toList[number - first]?.filter (· != CodePage.gap)

/-- The characters of a set. -/
def chars (set : Charset) : List Char :=
  (set.flatMap fun (_, chars) => chars.toList).filter (· != CodePage.gap)

/-- The characters with numbers from `first` to `last` in Unicode that are not among those given. -/
def others (given : List Char) (first last : Nat) : Array Char :=
  let marks := given.foldl (fun marks c => marks.setIfInBounds c.toNat true)
    (Array.replicate (last + 1) false)
  let isOther (n : Nat) : Bool := isScalar n && marks[n]? == some false
  (((List.range' first (last + 1 - first)).filter isOther).map Char.ofNat).toArray

end Charset

end Inlay.Text
