import Inlay.Number.Binary64

/-!
# Reading decimals

Natural numbers in a base, and decimal fractions with an optional power of ten.
-/

namespace Inlay.Decimal

/-- The value of a digit in bases up to 36. -/
def digitValue (c : Char) : Nat :=
  if c.isDigit then c.toNat - '0'.toNat
  else if c.isLower then c.toNat - 'a'.toNat + 10
  else if c.isUpper then c.toNat - 'A'.toNat + 10
  else 36

/-- The value of a row of digits. -/
def ofDigits (base : Nat) (digits : List Char) : Nat :=
  digits.foldl (fun value digit => value * base + digitValue digit) 0

/-- The sign at the start, and what follows it. -/
def splitSign : List Char → Bool × List Char
  | '-' :: rest => (true, rest)
  | '+' :: rest => (false, rest)
  | rest => (false, rest)

/-- An integer in base ten with an optional sign. -/
def int? (cs : List Char) : Option Int :=
  let (negative, digits) := splitSign cs
  if digits.isEmpty || !digits.all Char.isDigit then none
  else
    let size : Int := ofDigits 10 digits
    some (if negative then -size else size)

/-- A fraction without its sign: digits with at most one point among them, and a power of ten. -/
def unsigned? (negative : Bool) (cs : List Char) : Option Binary64 := do
  let (mantissa, rest) := (cs.takeWhile fun c => c != 'e' && c != 'E',
    cs.dropWhile fun c => c != 'e' && c != 'E')
  let whole := mantissa.takeWhile (· != '.')
  let fraction := (mantissa.dropWhile (· != '.')).drop 1
  if !(whole ++ fraction).all Char.isDigit || (whole ++ fraction).isEmpty then none
  let power ← match rest with
    | [] => some 0
    | _ :: power => int? power
  some (Binary64.ofDecimal negative (ofDigits 10 (whole ++ fraction))
    (power - fraction.length))

end Inlay.Decimal
