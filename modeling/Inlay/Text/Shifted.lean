import Inlay.Text.Base64
import Inlay.Text.Units

/-!
# Shifted text

ASCII in which a plus sign shifts to base 64: the characters that follow carry, six bits each, units
of 16 bits. The first other character ends the section, and a minus sign there belongs to it. A plus
sign with a minus sign right behind it stands for itself.
-/

namespace Inlay.Text.Shifted

/-- The units in a section, of which `count` bits with this value are left over so far. The bits
that are left over at the end are zeros and fewer than a character's. -/
def units (count value : Nat) : List Nat → Option (List Nat)
  | [] => if count < 6 ∧ value = 0 then some [] else none
  | sextet :: rest =>
    let count := count + 6
    let value := value * 64 + sextet
    if 16 ≤ count then
      let left := Nat.pow 2 (count - 16)
      (units (count - 16) (value % left) rest).map (value / left :: ·)
    else units count value rest

/-- The text of a section, whose characters are given last first. -/
def section? (sextets : List Nat) : Option (List Char) :=
  (units 0 0 sextets.reverse).bind joinUnits

/-- The bits of a byte in a section. -/
def sextet? (byte : Nat) : Option Nat := Base64.sextet? (Char.ofNat byte)

/-- The text of bytes, from within a section if one is given. -/
def decodeFrom : Option (List Nat) → List Nat → Option (List Char)
  | none, [] => some []
  | none, 0x2B :: 0x2D :: rest => (decodeFrom none rest).map ('+' :: ·)
  | none, 0x2B :: rest =>
    if rest.head?.all fun byte => (sextet? byte).isSome then decodeFrom (some []) rest else none
  | none, byte :: rest =>
    if byte < 0x80 then (decodeFrom none rest).map (Char.ofNat byte :: ·) else none
  | some sextets, [] => section? sextets
  | some sextets, byte :: rest =>
    match sextet? byte with
    | some sextet => decodeFrom (some (sextet :: sextets)) rest
    | none => do
      let text ← section? sextets
      let rest ← if byte < 0x80 then decodeFrom none rest else none
      return text ++ (if byte = 0x2D then rest else Char.ofNat byte :: rest)

/-- The text of bytes. -/
def decode? (bytes : List Nat) : Option (List Char) := decodeFrom none bytes

end Inlay.Text.Shifted
