import Inlay.Text.Charset

/-!
# Characters of several bytes

Text in which a character takes one byte or more. It is read step by step: a step takes the bytes of
some characters off the front, and may depend on a state that the steps before it left.
-/

namespace Inlay.Text.Multibyte

/-- Reads the first characters of bytes: those, and the bytes behind them. -/
abbrev Step := List Nat → Option (List Char × List Nat)

/-- Reads the first characters of bytes in a state, and tells the state behind them. -/
abbrev StepIn (σ : Type) := σ → List Nat → Option (List Char × σ × List Nat)

/-- The text of bytes; `count` bounds the number of steps. -/
def decodeFrom {σ : Type} (step : StepIn σ) : Nat → σ → List Nat → Option (List Char)
  | _, _, [] => some []
  | 0, _, _ :: _ => none
  | count + 1, state, bytes => do
    let (chars, state, rest) ← step state bytes
    return chars ++ (← decodeFrom step count state rest)

/-- The text of bytes, every step of which takes one byte at least. -/
def decodeIn? {σ : Type} (start : σ) (step : StepIn σ) (bytes : List Nat) : Option (List Char) :=
  decodeFrom step bytes.length start bytes

/-- The text of bytes whose steps depend on nothing else. -/
def decode? (step : Step) : List Nat → Option (List Char) :=
  decodeIn? () fun _ bytes => (step bytes).map fun (chars, rest) => (chars, (), rest)

/-- A character of ASCII, or else what another step reads. -/
def asciiOr (step : Step) : Step
  | [] => none
  | byte :: rest => if byte < 0x80 then some ([Char.ofNat byte], rest) else step (byte :: rest)

/-- A pair of bytes. -/
def pair (chars? : Nat → Nat → Option (List Char)) : Step
  | a :: b :: rest => (chars? a b).map (·, rest)
  | _ => none

/-- The character of two bytes, by the number that they make. -/
def pairChar? (set : Charset) (a b : Nat) : Option (List Char) :=
  (set.char? (a * 256 + b)).map ([·])

/-- The character of two bytes, by the number that they make without their highest bits. -/
def upperChar? (set : Charset) (a b : Nat) : Option (List Char) :=
  pairChar? set (a - 0x80) (b - 0x80)

/-- The two characters of a number. -/
def sequence? (sequences : List (Nat × String)) (a b : Nat) : Option (List Char) :=
  (sequences.lookup (a * 256 + b)).map String.toList

end Inlay.Text.Multibyte
