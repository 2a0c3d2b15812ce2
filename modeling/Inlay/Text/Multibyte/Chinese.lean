import Inlay.Text.Charset.Big5
import Inlay.Text.Charset.Gb2312
import Inlay.Text.Charset.GbkSymbols
import Inlay.Text.Charset.HongKong
import Inlay.Text.Multibyte

/-!
# Chinese encodings

Each adds pairs of bytes to ASCII. GBK takes all pairs of GB 2312 and fills the space around them,
GB 18030 does so with GBK and adds groups of four bytes for all other characters.
-/

namespace Inlay.Text.Multibyte.Chinese

/-- Simplified characters. -/
def gb2312 : Step := asciiOr (pair (upperChar? Charset.Gb2312.rows))

/-- The characters of GB 2312. -/
def simplified : List Char := Charset.Gb2312.rows.chars

/-- The unified ideographs that GB 2312 lacks. -/
def unified : Array Char := Charset.others simplified 0x4E00 0x9FA5

/-- The place of a second byte among those from 0x40 that second bytes may be. -/
def place? (b : Nat) : Option Nat :=
  if 0x40 ≤ b ∧ b < 0x7F then some (b - 0x40)
  else if 0x80 ≤ b ∧ b < 0xFF then some (b - 0x41)
  else none

/-- The unified ideographs of GBK: they stand before the rows of GB 2312 and to their left. -/
def unified? (a b : Nat) : Option Char := do
  let place ← place? b
  if 0x81 ≤ a ∧ a < 0xA1 then unified[(a - 0x81) * 190 + place]?
  else if 0xAA ≤ a ∧ place < 96 then unified[32 * 190 + (a - 0xAA) * 96 + place]?
  else none

/-- The character of a pair of GBK. -/
def gbkPair? (a b : Nat) : Option (List Char) :=
  pairChar? Charset.GbkSymbols.gbk a b <|> upperChar? Charset.Gb2312.rows a b <|>
    (unified? a b).map ([·])

/-- Simplified and traditional characters. -/
def gbk : Step := asciiOr (pair gbkPair?)

/-- The number of a pair for private use. Three areas are set aside for it. -/
def private? (a b : Nat) : Option Nat :=
  if 0xAA ≤ a ∧ a < 0xB0 ∧ 0xA1 ≤ b ∧ b < 0xFF then
    some (0xE000 + (a - 0xAA) * 94 + (b - 0xA1))
  else if 0xF8 ≤ a ∧ a < 0xFF ∧ 0xA1 ≤ b ∧ b < 0xFF then
    some (0xE234 + (a - 0xF8) * 94 + (b - 0xA1))
  else if 0xA1 ≤ a ∧ a < 0xA8 then do
    let place ← place? b
    if place < 96 then some (0xE4C6 + (a - 0xA1) * 96 + place) else none
  else none

/-- The character of a pair of GB 18030. -/
def gb18030Pair? (a b : Nat) : Option (List Char) :=
  gbkPair? a b <|> pairChar? Charset.GbkSymbols.gb18030 a b <|>
    (private? a b).map ([Char.ofNat ·])

/-- The characters of 16 bits that have no pair in GB 18030. GBK has another point in the place of
the one between katakana. -/
def unpaired : Array Char :=
  let kept := simplified.filter (· != '\u30fb')
  let symbols := Charset.GbkSymbols.gbk.chars ++ Charset.GbkSymbols.gb18030.chars
  let privates := (List.range' 0xE000 0x766).map Char.ofNat
  Charset.others (kept ++ unified.toList ++ symbols ++ privates) 0x80 0xFFFF

/-- The character of a group of four bytes: the first groups are for the characters of 16 bits that
have no pair, in order, and later ones for all characters beyond. -/
def group? (a b c d : Nat) : Option Char :=
  if a < 0x81 ∨ 0xFE < a ∨ c < 0x81 ∨ 0xFE < c ∨ d < 0x30 ∨ 0x39 < d then none
  else
    let number (a : Nat) : Nat := ((a * 10 + (b - 0x30)) * 126 + (c - 0x81)) * 10 + (d - 0x30)
    if a < 0x85 then unpaired[number (a - 0x81)]?
    else if a < 0x90 then none
    else
      let n := 0x10000 + number (a - 0x90)
      if n < 0x110000 then some (Char.ofNat n) else none

/-- All characters, in pairs or in groups of four bytes. -/
def gb18030 : Step :=
  asciiOr fun
    | a :: b :: rest =>
      if 0x30 ≤ b ∧ b < 0x3A then
        match rest with
        | c :: d :: rest => (group? a b c d).map fun char => ([char], rest)
        | _ => none
      else (gb18030Pair? a b).map (·, rest)
    | _ => none

/-- Text of seven bits. Between marks it is ASCII or pairs, and a tilde begins a mark: the one for
pairs, the one for ASCII, a line that goes on, or a tilde itself. -/
def hz : StepIn Bool
  | false, 0x7E :: 0x7E :: rest => some (['~'], false, rest)
  | false, 0x7E :: 0x7B :: rest => some ([], true, rest)
  | false, 0x7E :: 0x0A :: rest => some ([], false, rest)
  | true, 0x7E :: 0x7D :: rest => some ([], false, rest)
  | _, 0x7E :: _ => none
  | false, byte :: rest => if byte < 0x80 then some ([Char.ofNat byte], false, rest) else none
  | true, a :: b :: rest =>
    if a < 0x80 then (pairChar? Charset.Gb2312.rows a b).map (·, true, rest) else none
  | _, _ => none

/-- Traditional characters. -/
def big5 : Step := asciiOr (pair (pairChar? Charset.Big5.rows))

/-- Traditional characters of Windows. -/
def windows : Step :=
  asciiOr (pair fun a b =>
    pairChar? Charset.Big5.windows a b <|> pairChar? Charset.Big5.rows a b)

/-- Has Hong Kong its own use for a row of Big5? -/
def isReplaced (a b : Nat) : Bool :=
  (a == 0xC6 && 0xA1 ≤ b) || a == 0xC7 || a == 0xC8

/-- Traditional characters of Hong Kong. -/
def hongKong : Step :=
  asciiOr (pair fun a b =>
    (if isReplaced a b then none else pairChar? Charset.Big5.rows a b) <|>
      pairChar? Charset.HongKong.rows a b <|> sequence? Charset.HongKong.sequences a b)

end Inlay.Text.Multibyte.Chinese
