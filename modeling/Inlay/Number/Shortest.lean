import Inlay.Number.Binary64

/-!
# The shortest decimal of a floating-point number

The digits are the fewest that read back as the same number, and of those the nearest to it. They
are found by exact arithmetic: for each count of digits, the two neighbours of the value on that
decimal grid are tested against the interval of numbers that round to it.

The layout is `Binary64.text`: positional from `0.0001` to below `10 ^ 16`, with at least one digit
after the point, and with an exponent of at least two digits elsewhere.
-/

namespace Inlay.Binary64

/-- The number of decimal digits of a natural number. -/
def digitCount (n : Nat) : Nat := (toString n).length

/-- The `k` with `10 ^ (k - 1) ≤ num / den < 10 ^ k`, for a positive ratio. -/
def decimalSize (num den : Nat) : Int :=
  if den ≤ num then digitCount (num / den)
  else 1 - (digitCount ((den + num - 1) / num - 1) : Int)

/-- A positive number's value and the ends of the interval that rounds to it, in units of
`2 ^ (exponent - 2)`. -/
def interval (mantissa : Nat) (exponent : Int) : Nat × Nat × Nat :=
  let value := 4 * mantissa
  let below := if mantissa = Nat.pow 2 52 ∧ -1074 < exponent then 1 else 2
  (value - below, value, value + 2)

/-- Does `candidate * 10 ^ place` round to the number? -/
def roundsTo (mantissa : Nat) (exponent : Int) (candidate : Nat) (place : Int) : Bool :=
  let (low, _, high) := interval mantissa exponent
  let unit := Nat.pow 2 (exponent - 2).toNat
  let scale := Nat.pow 2 (2 - exponent).toNat
  let position := candidate * Nat.pow 10 place.toNat * scale
  let parts := unit * Nat.pow 10 (-place).toNat
  if mantissa % 2 = 0 then decide (low * parts ≤ position ∧ position ≤ high * parts)
  else decide (low * parts < position ∧ position < high * parts)

/-- The nearer of the value's neighbours on the grid of `place` that rounds to the number. -/
def onGrid? (mantissa : Nat) (exponent : Int) (place : Int) : Option Nat :=
  let num := mantissa * Nat.pow 2 exponent.toNat * Nat.pow 10 (-place).toNat
  let den := Nat.pow 2 (-exponent).toNat * Nat.pow 10 place.toNat
  let floor := num / den
  let nearest := roundDiv num den
  let other := if nearest = floor then floor + 1 else floor
  [nearest, other].find? fun candidate => roundsTo mantissa exponent candidate place

/-- The shortest digits of a positive number and the place of the last one: the number is near
`digits * 10 ^ place`. -/
def shortest (mantissa : Nat) (exponent : Int) : Nat × Int :=
  let size := decimalSize (mantissa * Nat.pow 2 exponent.toNat) (Nat.pow 2 (-exponent).toNat)
  let hit := (List.range 17).findSome? fun count =>
    let place := size - (count + 1 : Nat)
    (onGrid? mantissa exponent place).map fun digits => (digits, place)
  hit.getD (mantissa, 0)

/-- The digits without the zeros at their end. -/
def dropZeros (digits : List Char) : List Char :=
  (digits.reverse.dropWhile (· == '0')).reverse

/-- Digits laid out with a point after the first `point` of them. -/
def positional (digits : List Char) (point : Int) : List Char :=
  if point ≤ 0 then '0' :: '.' :: List.replicate (-point).toNat '0' ++ digits
  else
    let point := point.toNat
    let whole := digits.take point ++ List.replicate (point - digits.length) '0'
    let fraction := digits.drop point
    whole ++ '.' :: (if fraction.isEmpty then ['0'] else fraction)

/-- A power of ten as it is written after the digits: the sign, and at least `width` digits. -/
def exponentText (mark : Char) (width : Nat) (power : Int) : List Char :=
  let digits := (toString power.natAbs).toList
  mark :: (if power < 0 then '-' else '+') ::
    (List.replicate (width - digits.length) '0' ++ digits)

/-- Digits with one of them before the point, and a power of ten. -/
def scientific (digits : List Char) (power : Int) : List Char :=
  match digits with
  | [] => []
  | [digit] => digit :: exponentText 'e' 2 power
  | digit :: rest => digit :: '.' :: rest ++ exponentText 'e' 2 power

/-- The size of a finite number as text. -/
def sizeText (mantissa : Nat) (exponent : Int) : String :=
  if mantissa = 0 then "0.0"
  else
    let (value, place) := shortest mantissa exponent
    let all := (toString value).toList
    let digits := dropZeros all
    let point : Int := all.length + place
    let power := point - 1
    String.ofList <|
      if -4 ≤ power ∧ power < 16 then positional digits point else scientific digits power

/-- A number as text. -/
def text : Binary64 → String
  | .finite negative mantissa exponent =>
    (if negative then "-" else "") ++ sizeText mantissa exponent
  | .infinite negative => if negative then "-inf" else "inf"
  | .nan => "nan"

end Inlay.Binary64
