import Inlay.Text.Units

/-!
# Labels of domain names

Text beyond ASCII in letters, digits and hyphens. The ASCII characters come first, up to the last
hyphen. Behind it each further character is put in, in the order of their numbers: a number says how
many steps it is from one insertion to the next, a step being to the next place, or to the next
character once all places have been tried.
-/

namespace Inlay.Text.Punycode

/-- The value of a digit: letters of either case, then figures. -/
def digit? (byte : Nat) : Option Nat :=
  let c := Char.ofNat byte
  if c.isUpper then some (byte - 'A'.toNat)
  else if c.isLower then some (byte - 'a'.toNat)
  else if c.isDigit then some (byte - '0'.toNat + 26)
  else none

/-- The least value of a digit at a place that is not the last of its number. -/
def threshold (place bias : Nat) : Nat := min 26 (max 1 (36 * (place + 1) - bias))

/-- Divide until the steps are few, counting by how much the threshold grows. `count` bounds the
divisions. -/
def shrink : Nat → Nat → Nat × Nat
  | 0, steps => (0, steps)
  | count + 1, steps =>
    if 455 < steps then
      let (growth, steps) := shrink count (steps / 35)
      (growth + 36, steps)
    else (0, steps)

/-- The bias of the next number, after so many steps in a text of so many characters. -/
def adapt (steps : Nat) (isFirst : Bool) (size : Nat) : Nat :=
  let steps := if isFirst then steps / 700 else steps / 2
  let steps := steps + steps / size
  let (growth, steps) := shrink steps.log2.succ steps
  growth + 36 * steps / (steps + 38)

/-- Where the insertions have come to. -/
structure State where
  text : List Char
  /-- The number of the character that was put in last. -/
  character : Nat := 0x80
  /-- The place after that character. -/
  place : Nat := 0
  bias : Nat := 72
  isFirst : Bool := true

/-- Put in the character that is so many steps away. -/
def State.insert? (state : State) (steps : Nat) : Option State :=
  let size := state.text.length + 1
  let character := state.character + (state.place + steps) / size
  let place := (state.place + steps) % size
  if isScalar character then some {
    text := state.text.take place ++ Char.ofNat character :: state.text.drop place
    character
    place := place + 1
    bias := adapt steps state.isFirst size
    isFirst := false }
  else none

/-- Put in the characters of numbers, of which digits with a weight and a value have been read. -/
def insertFrom (state : State) (digits weight value : Nat) : List Nat → Option (List Char)
  | [] => if digits = 0 then some state.text else none
  | byte :: rest => do
    let digit ← digit? byte
    let least := threshold digits state.bias
    let value := value + digit * weight
    if digit < least then insertFrom (← state.insert? value) 0 1 0 rest
    else insertFrom state (digits + 1) (weight * (36 - least)) value rest

/-- The text of bytes. -/
def decode? (bytes : List Nat) : Option (List Char) := do
  let behind := (bytes.reverse.takeWhile (· != 0x2D)).reverse
  let before := (bytes.take (bytes.length - behind.length)).dropLast
  if before.all (· < 0x80) then insertFrom ⟨← scalars before, 0x80, 0, 72, true⟩ 0 1 0 behind
  else none

/-- Does a label in ASCII stand for one beyond it? -/
def isEncoded (label : List Char) : Bool :=
  (label.take 4).map Char.toLower == ['x', 'n', '-', '-']

/-- The most characters that a label between points is read with. -/
def longestLabel : Nat := 1024

/-- The labels of a name. -/
def labels : List Char → List (List Char)
  | [] => [[]]
  | c :: rest =>
    match labels rest with
    | [] => [[c]]
    | label :: more => if c = '.' then [] :: label :: more else (c :: label) :: more

/-- The text of bytes as a name in which every label is plain. -/
def decodeName? (bytes : List Nat) : Option (List Char) :=
  if bytes.all (· < 0x80) then do
    let name ← scalars bytes
    if (labels name).any fun label => isEncoded label || longestLabel < label.length then none
    else some name
  else none

end Inlay.Text.Punycode
