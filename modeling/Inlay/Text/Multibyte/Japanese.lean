import Inlay.Text.Charset.JisWindows
import Inlay.Text.Charset.JisX0208
import Inlay.Text.Charset.JisX0212
import Inlay.Text.Charset.JisX0213
import Inlay.Text.Multibyte

/-!
# Japanese encodings

There are two ways to put a set of 94 rows of 94 characters behind ASCII: with the highest bit of
both bytes set, or folded, with two rows for each first byte, which leaves space for the narrow
katakana in single bytes.
-/

namespace Inlay.Text.Multibyte.Japanese

/-- The characters of JIS X 0208. -/
def basic : Charset := Charset.JisX0208.rows

/-- A narrow katakana. -/
def katakana? (byte : Nat) : Option Char :=
  if 0xA1 ≤ byte ∧ byte ≤ 0xDF then some (Char.ofNat (byte + 0xFEC0)) else none

/-- The editions of JIS X 0213. -/
inductive Edition where
  | of2000
  | of2004
  deriving DecidableEq

/-- The numbers that the later edition gave to ideographs. -/
def given2004 : List Nat :=
  [0x2E21, 0x2F7E, 0x4F54, 0x4F7E, 0x7427, 0x7E7A, 0x7E7B, 0x7E7C, 0x7E7D, 0x7E7E]

/-- The characters of a number in the first plane of JIS X 0213. -/
def firstPlane? (edition : Edition) (a b : Nat) : Option (List Char) :=
  if edition = .of2000 ∧ (a * 256 + b) ∈ given2004 then none
  else
    pairChar? basic a b <|> pairChar? Charset.JisX0213.first a b <|>
      sequence? Charset.JisX0213.sequences a b

/-- The character of a number in the second plane. The editions differ in the shape of one. -/
def secondPlane? (edition : Edition) (a b : Nat) : Option (List Char) :=
  if edition = .of2000 ∧ a * 256 + b = 0x7D3B then some ['\u9b1d']
  else pairChar? Charset.JisX0213.second a b

/-- Pairs and groups of three bytes with their highest bits set. One byte announces narrow katakana,
another one a further set. -/
def extended (inPair? inGroup? : Nat → Nat → Option (List Char)) : Step :=
  asciiOr fun
    | 0x8E :: byte :: rest => (katakana? byte).map fun c => ([c], rest)
    | 0x8F :: a :: b :: rest =>
      if a < 0x80 ∨ b < 0x80 then none
      else (inGroup? (a - 0x80) (b - 0x80)).map (·, rest)
    | a :: b :: rest =>
      if a = 0x8E ∨ a = 0x8F ∨ b < 0x80 then none
      else (inPair? (a - 0x80) (b - 0x80)).map (·, rest)
    | _ => none

/-- Extended text of JIS X 0208 and JIS X 0212. -/
def extendedJis : Step :=
  extended (pairChar? basic) (pairChar? Charset.JisX0212.rows)

/-- Extended text of JIS X 0213, in which the tilde is wide. -/
def extendedPlanes (edition : Edition) : Step :=
  extended (fun a b => if a = 0x22 ∧ b = 0x32 then some ['～'] else firstPlane? edition a b)
    fun a b => secondPlane? edition a b <|> pairChar? Charset.JisX0212.rows a b

/-- The row, counted from zero, and the number in the row of a folded pair. -/
def cell? (a b : Nat) : Option (Nat × Nat) :=
  if b < 0x40 ∨ b = 0x7F ∨ 0xFC < b then none
  else
    let half : Option Nat :=
      if 0x81 ≤ a ∧ a ≤ 0x9F then some (a - 0x81)
      else if 0xE0 ≤ a ∧ a ≤ 0xFC then some (a - 0xC1)
      else none
    let place := if b < 0x80 then b - 0x40 else b - 0x41
    half.map fun half => (2 * half + place / 94, place % 94 + 0x21)

/-- A folded character of JIS X 0208. -/
def folded? (a b : Nat) : Option (List Char) := do
  let (row, place) ← cell? a b
  pairChar? basic (row + 0x21) place

/-- A narrow katakana, or else what another step reads. -/
def katakanaOr (step : Step) : Step
  | [] => none
  | byte :: rest =>
    match katakana? byte with
    | some c => some ([c], rest)
    | none => step (byte :: rest)

/-- Folded text. -/
def folded : Step := asciiOr (katakanaOr (pair folded?))

/-- The folded rows of Windows for private use. -/
def private? (a b : Nat) : Option (List Char) := do
  let (row, place) ← if 0xF0 ≤ a ∧ a ≤ 0xF9 then cell? a b else none
  some [Char.ofNat (0xE000 + (row - 94) * 94 + (place - 0x21))]

/-- Folded text of Windows. Every byte that begins no pair is a character of its own. -/
def windows : Step :=
  asciiOr <| katakanaOr fun
    | 0x80 :: rest => some (['\x80'], rest)
    | 0xA0 :: rest => some (['\uf8f0'], rest)
    | 0xFD :: rest => some (['\uf8f1'], rest)
    | 0xFE :: rest => some (['\uf8f2'], rest)
    | 0xFF :: rest => some (['\uf8f3'], rest)
    | bytes =>
      pair (fun a b =>
        pairChar? Charset.JisWindows.rows a b <|> private? a b <|>
          if a ≤ 0xEA then folded? a b else none) bytes

/-- The character of a single byte in the Japanese variant of ASCII. -/
def roman (byte : Nat) : Char :=
  if byte = 0x5C then '¥' else if byte = 0x7E then '‾' else Char.ofNat byte

/-- The row of the second plane that is folded behind the first. -/
def secondRow (row : Nat) : Nat :=
  if 0x67 ≤ row then row + 0x07
  else if 0x63 ≤ row ∨ row = 0x5F then row - 0x37
  else row - 0x3D

/-- A folded character of JIS X 0213, in which the backslash is narrow. -/
def foldedPlanes? (edition : Edition) (a b : Nat) : Option (List Char) := do
  let (row, place) ← cell? a b
  if row = 0 ∧ place = 0x40 then some ['\\']
  else if row < 94 then firstPlane? edition (row + 0x21) place
  else secondPlane? edition (secondRow row) place

/-- Folded text of JIS X 0213. -/
def foldedPlanes (edition : Edition) : Step
  | [] => none
  | byte :: rest =>
    if byte < 0x80 then some ([roman byte], rest)
    else katakanaOr (pair (foldedPlanes? edition)) (byte :: rest)

end Inlay.Text.Multibyte.Japanese
