import Inlay.Text.Printable

/-!
# Quoted text

A text inside the written form of a list or a mapping stands between single quotes, or between
double quotes if it holds a single quote and no double one. Backslashes, the quote itself and
unprintable characters are escaped.
-/

namespace Inlay.Text

/-- The digits of a number in base sixteen, in lower case, with at least `width` of them. -/
def hex (width n : Nat) : List Char :=
  let digits := Nat.toDigits 16 n
  List.replicate (width - digits.length) '0' ++ digits

/-- A character of a quoted text, which stands between two of the character `quote`. -/
def quotedChar (quote c : Char) : List Char :=
  if c = quote ∨ c = '\\' then ['\\', c]
  else if c = '\n' then ['\\', 'n']
  else if c = '\t' then ['\\', 't']
  else if c = '\r' then ['\\', 'r']
  else if isPrintable c then [c]
  else if c.toNat < 0x100 then '\\' :: 'x' :: hex 2 c.toNat
  else if c.toNat < 0x10000 then '\\' :: 'u' :: hex 4 c.toNat
  else '\\' :: 'U' :: hex 8 c.toNat

/-- The quote that a text stands between. -/
def quoteFor (cs : List Char) : Char :=
  if cs.contains '\'' && !cs.contains '"' then '"' else '\''

/-- The quoted form of a text. -/
def quoted (s : String) : String :=
  let quote := quoteFor s.toList
  String.ofList (quote :: s.toList.flatMap (quotedChar quote) ++ [quote])

/-- The quoted form of bytes: a `b`, and the characters of ASCII between quotes. Other bytes are
escaped. -/
def quotedBytes (data : List UInt8) : String :=
  let cs := data.map fun byte => Char.ofNat byte.toNat
  let quote := quoteFor cs
  let escape (c : Char) : List Char :=
    if c.toNat < 0x7F then quotedChar quote c else '\\' :: 'x' :: hex 2 c.toNat
  String.ofList ('b' :: quote :: cs.flatMap escape ++ [quote])

/-- The text with every character beyond ASCII escaped. -/
def asciiOnly (s : String) : String :=
  let escape (c : Char) : List Char :=
    if c.toNat < 0x80 then [c]
    else if c.toNat < 0x100 then '\\' :: 'x' :: hex 2 c.toNat
    else if c.toNat < 0x10000 then '\\' :: 'u' :: hex 4 c.toNat
    else '\\' :: 'U' :: hex 8 c.toNat
  String.ofList (s.toList.flatMap escape)

end Inlay.Text
