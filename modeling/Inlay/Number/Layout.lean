import Inlay.Number.Shortest

/-!
# Numbers with a set number of places

The digits of a ratio rounded to a number of places after the point, or to a number of digits in
all. The value that is rounded is the exact one, and a tie goes to the even neighbour.
-/

namespace Inlay.Number

/-- The ratio with `places` digits after the point, as the digits before it and those after it. -/
def fixed (num den places : Nat) : List Char × List Char :=
  let digits := (toString (Binary64.roundDiv (num * Nat.pow 10 places) den)).toList
  let digits := List.replicate (places + 1 - digits.length) '0' ++ digits
  (digits.take (digits.length - places), digits.drop (digits.length - places))

/-- The ratio rounded to `count` digits, and the power of ten of the first of them. -/
def significant (num den count : Nat) : List Char × Int :=
  if num = 0 then (List.replicate count '0', 0)
  else
    let power := Binary64.decimalSize num den - 1
    let place := power - (count - 1 : Nat)
    let value := Binary64.roundDiv (num * Nat.pow 10 (-place).toNat) (den * Nat.pow 10 place.toNat)
    let digits := (toString value).toList
    if count < digits.length then (digits.take count, power + 1) else (digits, power)

end Inlay.Number
