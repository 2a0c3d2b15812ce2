import Inlay.Number.Decimal
import Inlay.Text.Blank
import Inlay.Text.Digit

/-!
# Numerals

Numbers as people write them: with blanks around them, a sign, the digits of any script, a mark of
the base before the digits of an integer (`0x1F`), and the words for infinity and for no number.
Integers in base ten have a greatest length.
-/

namespace Inlay.Numeral

/-- The most digits that an integer in base ten is read from or written with. -/
def mostDigits : Nat := 4300

/-- A numeral in ASCII. A character of another script must be a digit or a blank. -/
def plain? (cs : List Char) : Option (List Char) :=
  if cs.all fun c => c.toNat < 128 then some cs
  else cs.mapM fun c =>
    if c.toNat < 127 then some c
    else if Text.isBlank c then some ' '
    else (Text.digit? c).map fun digit => Char.ofNat ('0'.toNat + digit)

/-- A blank of ASCII. -/
def isBlank (c : Char) : Bool :=
  c == ' ' || c == '\t' || c == '\n' || c == '\x0b' || c == '\x0c' || c == '\r'

/-- The characters without the blanks around them. -/
def trim (cs : List Char) : List Char :=
  ((cs.dropWhile isBlank).reverse.dropWhile isBlank).reverse

/-- The letter that marks a base behind a zero. -/
def baseMark (base : Nat) : Option Char :=
  if base = 2 then some 'b' else if base = 8 then some 'o' else if base = 16 then some 'x'
  else none

/-- The digits behind the mark of their base, which may be absent. -/
def dropMark (base : Nat) : List Char → List Char
  | '0' :: mark :: rest => if some mark.toLower = baseMark base then rest else '0' :: mark :: rest
  | cs => cs

/-- An integer in a base. -/
def int? (base : Nat) (cs : List Char) : Option Int := do
  let (negative, rest) := Decimal.splitSign (trim (← plain? cs))
  let digits := dropMark base rest
  if digits.isEmpty || !digits.all fun c => Decimal.digitValue c < base then none
  if base = 10 ∧ mostDigits < digits.length then none
  let size : Int := Decimal.ofDigits base digits
  some (if negative then -size else size)

/-- A number of the binary format. -/
def binary64? (cs : List Char) : Option Binary64 := do
  let (negative, rest) := Decimal.splitSign (trim (← plain? cs))
  let word := String.ofList (rest.map Char.toLower)
  if word = "inf" ∨ word = "infinity" then some (.infinite negative)
  else if word = "nan" then some .nan
  else Decimal.unsigned? negative rest

end Inlay.Numeral
