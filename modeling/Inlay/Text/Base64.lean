/-!
# Base 64

Bytes written as text, six bits to a character. Characters that stand for no bits are passed over;
the text ends with its characters or with the equals signs that fill its last group of four.
-/

namespace Inlay.Text.Base64

/-- The six bits of a character. -/
def sextet? (c : Char) : Option Nat :=
  if c.isUpper then some (c.toNat - 'A'.toNat)
  else if c.isLower then some (c.toNat - 'a'.toNat + 26)
  else if c.isDigit then some (c.toNat - '0'.toNat + 52)
  else if c = '+' then some 62
  else if c = '/' then some 63
  else none

/-- The bytes of a text of which `place` characters of a group have been read: `carry` holds the
bits that they leave over, and `fills` counts the equals signs behind them. -/
def decodeFrom : (place carry fills : Nat) → List Char → Option (List UInt8)
  | place, _, _, [] => if place = 0 then some [] else none
  | place, carry, fills, c :: rest =>
    if c = '=' then
      if place < 2 then decodeFrom place carry fills rest
      else if 4 ≤ place + fills + 1 then some []
      else decodeFrom place carry (fills + 1) rest
    else
      match sextet? c with
      | none => decodeFrom place carry fills rest
      | some bits =>
        let emit (size : Nat) (place : Nat) (carry : Nat) : Option (List UInt8) :=
          (decodeFrom place carry 0 rest).map (UInt8.ofNat size :: ·)
        match place with
        | 0 => decodeFrom 1 bits 0 rest
        | 1 => emit (carry * 4 + bits / 16) 2 (bits % 16)
        | 2 => emit (carry * 16 + bits / 4) 3 (bits % 4)
        | _ => emit (carry * 64 + bits) 0 0

/-- The bytes of a text; a group that is neither full nor filled up is refused. -/
def decode? (cs : List Char) : Option (List UInt8) := decodeFrom 0 0 0 cs

end Inlay.Text.Base64
