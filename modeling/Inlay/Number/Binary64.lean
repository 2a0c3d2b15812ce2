/-!
# Binary floating point

Numbers of the 64-bit binary format, as exact values: a sign, a whole number and a power of two. All
arithmetic is done on exact ratios of natural numbers and rounded once, to the nearest number of the
format and on a tie to the one with an even mantissa.
-/

namespace Inlay

/-- A number of the 64-bit binary format. A finite one is `mantissa * 2 ^ exponent` with its sign;
the functions below build it with `2 ^ 52 ≤ mantissa < 2 ^ 53` or `exponent = -1074`. -/
inductive Binary64 where
  | finite (negative : Bool) (mantissa : Nat) (exponent : Int)
  | infinite (negative : Bool)
  | nan
  deriving DecidableEq, Inhabited

namespace Binary64

/-- The quotient rounded to the nearest natural number, on a tie to the even one. -/
def roundDiv (num den : Nat) : Nat :=
  let quotient := num / den
  let twice := 2 * (num % den)
  if twice < den then quotient
  else if den < twice then quotient + 1
  else quotient + quotient % 2

/-- Zero with a sign. -/
def zero (negative : Bool) : Binary64 := .finite negative 0 (-1074)

/-- A ratio divided by a power of two, as a ratio. -/
def scaled (num den : Nat) (exponent : Int) : Nat × Nat :=
  (num * Nat.pow 2 (-exponent).toNat, den * Nat.pow 2 exponent.toNat)

/-- The exponent at which the mantissa of a positive ratio has 53 binary digits, but no smaller
than the smallest of the format. -/
def exponentOf (num den : Nat) : Int :=
  let guess : Int := (num.log2 : Int) - den.log2 - 52
  let (top, bottom) := scaled num den guess
  let exponent := if top < Nat.pow 2 52 * bottom then guess - 1 else guess
  max exponent (-1074)

/-- The number nearest to a ratio. -/
def ofRatio (negative : Bool) (num den : Nat) : Binary64 :=
  if num = 0 ∨ den = 0 then zero negative
  else
    let exponent := exponentOf num den
    let (top, bottom) := scaled num den exponent
    let mantissa := roundDiv top bottom
    let (mantissa, exponent) :=
      if mantissa = Nat.pow 2 53 then (Nat.pow 2 52, exponent + 1) else (mantissa, exponent)
    if 971 < exponent then .infinite negative else .finite negative mantissa exponent

/-- The number nearest to an integer. -/
def ofInt (n : Int) : Binary64 := ofRatio (decide (n < 0)) n.natAbs 1

/-- The number nearest to `digits * 10 ^ exponent`. The exponent is cut off where the answer no
longer depends on it. -/
def ofDecimal (negative : Bool) (digits : Nat) (exponent : Int) : Binary64 :=
  if digits = 0 then zero negative
  else
    let size : Int := (toString digits).length
    if 310 < size + exponent then .infinite negative
    else if size + exponent < -330 then zero negative
    else ofRatio negative (digits * Nat.pow 10 exponent.toNat) (Nat.pow 10 (-exponent).toNat)

/-- The value of a finite number as a signed ratio. -/
def ratio (negative : Bool) (mantissa : Nat) (exponent : Int) : Int × Nat :=
  let size : Int := mantissa * Nat.pow 2 exponent.toNat
  (if negative then -size else size, Nat.pow 2 (-exponent).toNat)

/-- The number with the other sign. -/
def neg : Binary64 → Binary64
  | .finite negative mantissa exponent => .finite (!negative) mantissa exponent
  | .infinite negative => .infinite (!negative)
  | .nan => .nan

/-- The sum of two numbers. -/
def add : Binary64 → Binary64 → Binary64
  | .nan, _ => .nan
  | _, .nan => .nan
  | .infinite a, .infinite b => if a = b then .infinite a else .nan
  | .infinite a, .finite .. => .infinite a
  | .finite .., .infinite b => .infinite b
  | .finite na ma ea, .finite nb mb eb =>
    let (a, p) := ratio na ma ea
    let (b, q) := ratio nb mb eb
    let sum := a * q + b * p
    if sum = 0 then zero (na && nb) else ofRatio (decide (sum < 0)) sum.natAbs (p * q)

/-- The difference of two numbers. -/
def sub (x y : Binary64) : Binary64 := add x y.neg

/-- The product of two numbers. -/
def mul : Binary64 → Binary64 → Binary64
  | .nan, _ => .nan
  | _, .nan => .nan
  | .infinite a, .infinite b => .infinite (a != b)
  | .infinite a, .finite b mantissa _ => if mantissa = 0 then .nan else .infinite (a != b)
  | .finite a mantissa _, .infinite b => if mantissa = 0 then .nan else .infinite (a != b)
  | .finite na ma ea, .finite nb mb eb =>
    let (a, p) := ratio false ma ea
    let (b, q) := ratio false mb eb
    ofRatio (na != nb) (a * b).natAbs (p * q)

/-- The product with a natural number other than zero. -/
def scaleBy (factor : Nat) : Binary64 → Binary64
  | .finite negative mantissa exponent =>
    let (a, p) := ratio false mantissa exponent
    ofRatio negative (a.natAbs * factor) p
  | x => x

/-- The integer that is left when the places after the point are dropped. -/
def truncate? : Binary64 → Option Int
  | .finite negative mantissa exponent =>
    let (a, p) := ratio false mantissa exponent
    let size : Int := a.natAbs / p
    some (if negative then -size else size)
  | _ => none

/-- Is this a zero of either sign? -/
def isZero : Binary64 → Bool
  | .finite _ mantissa _ => mantissa == 0
  | _ => false

/-- Is the number equal to this integer? -/
def equalsInt (n : Int) : Binary64 → Bool
  | .finite negative mantissa exponent =>
    let (a, p) := ratio negative mantissa exponent
    a == n * p
  | _ => false

/-- Is the number smaller than this integer? -/
def ltInt (n : Int) : Binary64 → Bool
  | .finite negative mantissa exponent =>
    let (a, p) := ratio negative mantissa exponent
    decide (a < n * p)
  | .infinite negative => negative
  | .nan => false

end Binary64

end Inlay
