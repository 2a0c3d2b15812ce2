import Inlay.Text.Charset.KsX1001
import Inlay.Text.Hangul
import Inlay.Text.Multibyte

/-!
# Korean encodings

KS X 1001 has but the common syllables. Its plain encoding spells the others with their letters, the
one of Windows fills the space around the set with them, and Johab writes every syllable by the
places of its letters.
-/

namespace Inlay.Text.Multibyte.Korean

/-- The characters of KS X 1001. -/
def common : Charset := Charset.KsX1001.rows

/-- The row of letters. -/
def letters : Nat := 0xA4

/-- The second byte of no letter. -/
def noLetter : Nat := 0xD4

/-- The letter of a second byte. -/
def letter? (b : Nat) : Option Char := common.char? ((letters - 0x80) * 256 + (b - 0x80))

/-- A syllable that is spelled: no letter, and then the leading consonant, the vowel, and the
trailing consonant or no letter, all from the row of letters. -/
def spelled : Step
  | a :: b :: c :: lead :: d :: vowel :: e :: tail :: rest =>
    if b = noLetter ∧ [a, c, d, e].all (· == letters) then do
      let tail ← if tail = noLetter then some none else (letter? tail).map some
      let syllable ← Hangul.syllable? (← letter? lead) (← letter? vowel) tail
      some ([syllable], rest)
    else none
  | _ => none

/-- The characters of the set, and syllables that are spelled. -/
def plain : Step :=
  asciiOr fun bytes =>
    if bytes.take 2 = [letters, noLetter] then spelled bytes else pair (upperChar? common) bytes

/-- The syllables that the set lacks. -/
def rare : Array Char := Charset.others common.chars 0xAC00 0xD7A3

/-- The place of a second byte among those that second bytes of rare syllables may be. -/
def place? (b : Nat) : Option Nat :=
  if 0x41 ≤ b ∧ b ≤ 0x5A then some (b - 0x41)
  else if 0x61 ≤ b ∧ b ≤ 0x7A then some (26 + (b - 0x61))
  else if 0x81 ≤ b ∧ b ≤ 0xFE then some (52 + (b - 0x81))
  else none

/-- The rare syllables: they stand before the rows of the set and to their left. -/
def rare? (a b : Nat) : Option Char := do
  let place ← place? b
  if 0x81 ≤ a ∧ a < 0xA1 then rare[(a - 0x81) * 178 + place]?
  else if 0xA1 ≤ a ∧ place < 84 then rare[32 * 178 + (a - 0xA1) * 84 + place]?
  else none

/-- The characters of the set and all syllables. -/
def windows : Step :=
  asciiOr (pair fun a b => upperChar? common a b <|> (rare? a b).map ([·]))

/-- A part of a syllable: five bits give its place. -/
inductive Part where
  | missing
  | letter (c : Char)

/-- The part that five bits give. Letters stand in blocks, each from a number of bits on. -/
def part? (fill : Nat) (blocks : List (Nat × List Char)) (bits : Nat) : Option Part :=
  if bits = fill then some .missing
  else
    (blocks.findSome? fun (first, letters) =>
      if first ≤ bits then letters[bits - first]? else none).map .letter

/-- The leading consonant that bits give. -/
def lead? : Nat → Option Part := part? 1 [(2, Hangul.leads)]

/-- The vowel that bits give. -/
def vowel? : Nat → Option Part :=
  part? 2 [(3, Hangul.vowels.take 5), (10, (Hangul.vowels.drop 5).take 6),
    (18, (Hangul.vowels.drop 11).take 6), (26, Hangul.vowels.drop 17)]

/-- The trailing consonant that bits give. -/
def tail? : Nat → Option Part := part? 1 [(2, Hangul.tails.take 16), (19, Hangul.tails.drop 16)]

/-- The character of three parts: a syllable, a letter, or a blank. -/
def compose? : Part → Part → Part → Option Char
  | .missing, .missing, .missing => some '\u3000'
  | .letter c, .missing, .missing => some c
  | .missing, .letter c, .missing => some c
  | .missing, .missing, .letter c => some c
  | .letter lead, .letter vowel, .missing => Hangul.syllable? lead vowel none
  | .letter lead, .letter vowel, .letter tail => Hangul.syllable? lead vowel (some tail)
  | _, _, _ => none

/-- The character of a pair below the rows of the set. -/
def composed? (a b : Nat) : Option Char := do
  compose? (← lead? (a / 4 % 32)) (← vowel? ((a * 8 + b / 32) % 32)) (← tail? (b % 32))

/-- The characters of the set without letters and syllables: two rows for each first byte. -/
def folded? (a b : Nat) : Option (List Char) :=
  let isLetter := a = 0xDA ∧ 0xA1 ≤ b ∧ b ≤ 0xD3
  if a = 0xD8 ∨ a = 0xDF ∨ 0xF9 < a ∨ isLetter then none
  else if b < 0x31 ∨ (0x7F ≤ b ∧ b < 0x91) ∨ b = 0xFF then none
  else
    let row := if a < 0xE0 then 2 * (a - 0xD9) else 2 * a - 0x197
    let place := if b < 0x91 then b - 0x31 else b - 0x43
    pairChar? common (row + place / 94 + 0x21) (place % 94 + 0x21)

/-- Syllables by their letters. -/
def johab : Step :=
  asciiOr (pair fun a b => if a < 0xD8 then (composed? a b).map ([·]) else folded? a b)

end Inlay.Text.Multibyte.Korean
