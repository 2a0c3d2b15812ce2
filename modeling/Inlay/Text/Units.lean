/-!
# Units of several bytes

Text in units of two or of four bytes. The order of the bytes in a unit is set, or a mark at the
start of the text gives it. A character beyond 16 bits takes two units of two bytes.
-/

namespace Inlay.Text

/-- The order of the bytes in a unit. -/
inductive ByteOrder where
  /-- The least byte comes first. -/
  | little
  | big
  deriving DecidableEq, Inhabited

/-- Does the number name a character? -/
def isScalar (n : Nat) : Bool := n < 0xD800 || (0xDFFF < n && n < 0x110000)

/-- Numbers as characters, if each of them names one. -/
def scalars (numbers : List Nat) : Option (List Char) :=
  if numbers.all isScalar then some (numbers.map Char.ofNat) else none

/-- The number in bytes. -/
def ByteOrder.number (order : ByteOrder) (bytes : List Nat) : Nat :=
  match order with
  | .little => bytes.foldr (fun byte n => n * 256 + byte) 0
  | .big => bytes.foldl (fun n byte => n * 256 + byte) 0

/-- Join 16-bit units to characters; a half of a pair cannot stand alone. -/
def joinUnits : List Nat → Option (List Char)
  | [] => some []
  | high :: rest =>
    if 0xD800 ≤ high ∧ high < 0xDC00 then
      match rest with
      | low :: rest =>
        if 0xDC00 ≤ low ∧ low < 0xE000 then
          (joinUnits rest).map
            (Char.ofNat (0x10000 + (high - 0xD800) * 0x400 + (low - 0xDC00)) :: ·)
        else none
      | [] => none
    else if isScalar high then (joinUnits rest).map (Char.ofNat high :: ·)
    else none

/-- Pairs of bytes as numbers. -/
def pairs (order : ByteOrder) : List Nat → Option (List Nat)
  | [] => some []
  | [_] => none
  | a :: b :: rest => (pairs order rest).map (order.number [a, b] :: ·)

/-- Groups of four bytes as numbers. -/
def quads (order : ByteOrder) : List Nat → Option (List Nat)
  | [] => some []
  | a :: b :: c :: d :: rest => (quads order rest).map (order.number [a, b, c, d] :: ·)
  | _ => none

/-- The text of units of two bytes. Where no order is set, there is no text without a mark. -/
def decodePairs? : Option ByteOrder → List Nat → Option (List Char)
  | some order, bytes => (pairs order bytes).bind joinUnits
  | none, [] => some []
  | none, 0xFE :: 0xFF :: rest => (pairs .big rest).bind joinUnits
  | none, 0xFF :: 0xFE :: rest => (pairs .little rest).bind joinUnits
  | none, _ => none

/-- The text of units of four bytes. Where no order is set, there is no text without a mark. -/
def decodeQuads? : Option ByteOrder → List Nat → Option (List Char)
  | some order, bytes => (quads order bytes).bind scalars
  | none, [] => some []
  | none, 0x00 :: 0x00 :: 0xFE :: 0xFF :: rest => (quads .big rest).bind scalars
  | none, 0xFF :: 0xFE :: 0x00 :: 0x00 :: rest => (quads .little rest).bind scalars
  | none, _ => none

end Inlay.Text
