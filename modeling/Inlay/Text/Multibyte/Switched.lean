import Inlay.Text.Charset.Gb2312
import Inlay.Text.Charset.KsX1001
import Inlay.Text.CodePage.Iso
import Inlay.Text.Multibyte.Japanese

/-!
# Switched text

Text of seven bits in which escape sequences switch between character sets, as ISO 2022 has it. A
sequence puts a set into one of three places. Bytes stand for the characters of the set in the first
place, those behind a shift for the set in the second, and one behind a single shift for the set in
the third. An escape that begins no switch is text, and so is all behind it up to a capital letter.
-/

namespace Inlay.Text.Multibyte.Switched

/-- A character set, by what its escape sequences tell. -/
structure SetName where
  /-- Do its characters take two bytes? -/
  isDouble : Bool
  /-- The last byte of the sequence. -/
  final : Nat
  deriving DecidableEq

/-- The set that text starts with. -/
def ascii : SetName := ⟨false, 0x42⟩

/-- What is in a character set. -/
inductive Content where
  /-- Characters of two bytes. -/
  | double (chars? : Nat → Nat → Option (List Char))
  /-- Characters of one byte. -/
  | single (char? : Nat → Option Char)
  /-- Characters for single shifts only. -/
  | upper (char? : Nat → Option Char)

/-- What an encoding allows. -/
structure Rules where
  /-- The sets beside ASCII. -/
  sets : List (SetName × Content)
  /-- Are there shifts? -/
  shifts : Bool := false
  /-- Are there single shifts? -/
  singleShifts : Bool := false
  /-- May the set of JIS X 0208 be announced in its later edition? -/
  announces : Bool := true

/-- What the bytes before have set. -/
structure State where
  first : SetName := ascii
  second : SetName := ascii
  third : SetName := ascii
  isShifted : Bool := false
  /-- In an escape that is text. -/
  isEscaped : Bool := false

namespace Rules

/-- The content of a set that the encoding allows. -/
def content? (rules : Rules) (name : SetName) : Option Content :=
  if name = ascii then some (.single fun byte => some (Char.ofNat byte))
  else rules.sets.lookup name

/-- The set of a name, if the encoding allows it. -/
def allowed? (rules : Rules) (name : SetName) : Option SetName :=
  (rules.content? name).map fun _ => name

/-- Switch by the sequence behind an escape: the state after it, and the bytes behind. -/
def switch? (rules : Rules) (state : State) : List Nat → Option (State × List Nat)
  | 0x24 :: 0x28 :: final :: rest =>
    (rules.allowed? ⟨true, final⟩).map fun name => ({ state with first := name }, rest)
  | 0x24 :: 0x29 :: final :: rest =>
    (rules.allowed? ⟨true, final⟩).map fun name => ({ state with second := name }, rest)
  | 0x24 :: final :: rest =>
    (rules.allowed? ⟨true, final⟩).map fun name => ({ state with first := name }, rest)
  | 0x28 :: final :: rest =>
    (rules.allowed? ⟨false, final⟩).map fun name => ({ state with first := name }, rest)
  | 0x29 :: final :: rest =>
    (rules.allowed? ⟨false, final⟩).map fun name => ({ state with second := name }, rest)
  | 0x2E :: final :: rest =>
    if rules.singleShifts then
      (rules.allowed? ⟨false, final⟩).map fun name => ({ state with third := name }, rest)
    else none
  | 0x26 :: 0x40 :: 0x1B :: 0x24 :: 0x42 :: rest =>
    if rules.announces then some ({ state with first := ⟨true, 0x42⟩ }, rest) else none
  | _ => none

/-- The character of the set in the third place. -/
def shifted? (rules : Rules) (state : State) (byte : Nat) : Option Char :=
  if state.third = ascii then if byte < 0x80 then some (Char.ofNat byte) else none
  else
    match rules.content? state.third with
    | some (.upper char?) => char? byte
    | _ => none

/-- Read behind an escape. -/
def afterEscape (rules : Rules) (state : State) :
    List Nat → Option (List Char × State × List Nat)
  | [] => none
  | byte :: rest =>
    if byte ∈ [0x24, 0x26, 0x28, 0x29, 0x2E] then
      (rules.switch? state (byte :: rest)).map fun (state, rest) => ([], state, rest)
    else if rules.singleShifts ∧ byte = 0x4E then
      match rest with
      | byte :: rest => (rules.shifted? state byte).map fun c => ([c], state, rest)
      | [] => none
    else some (['\x1b'], { state with isEscaped := true }, byte :: rest)

/-- Read characters of the set in use. -/
def inSet (rules : Rules) (state : State) (bytes : List Nat) :
    Option (List Char × State × List Nat) := do
  match ← rules.content? (if state.isShifted then state.second else state.first), bytes with
  | .single char?, byte :: rest => some ([← char? byte], state, rest)
  | .double chars?, a :: b :: rest => some (← chars? a b, state, rest)
  | _, _ => none

/-- Read the next characters, or switch. -/
def step (rules : Rules) : StepIn State := fun state bytes =>
  match bytes with
  | [] => none
  | byte :: rest =>
    if state.isEscaped then
      let endsHere := 0x40 ≤ byte && byte ≤ 0x5A
      some ([Char.ofNat byte], { state with isEscaped := !endsHere }, rest)
    else if byte = 0x1B then rules.afterEscape state rest
    else if rules.shifts ∧ byte = 0x0E then some ([], { state with isShifted := true }, rest)
    else if rules.shifts ∧ byte = 0x0F then some ([], { state with isShifted := false }, rest)
    else if byte = 0x0A then some (['\n'], { state with isShifted := false }, rest)
    else if byte < 0x20 then some ([Char.ofNat byte], state, rest)
    else if byte < 0x80 then rules.inSet state (byte :: rest)
    else none

/-- The text of bytes. -/
def decode? (rules : Rules) : List Nat → Option (List Char) := decodeIn? {} rules.step

end Rules

/-! ## Sets -/

/-- The basic set of Japan, in its first edition. -/
def jis1978 : SetName × Content := (⟨true, 0x40⟩, .double (pairChar? Japanese.basic))

/-- The basic set of Japan. -/
def jis1983 : SetName × Content := (⟨true, 0x42⟩, .double (pairChar? Japanese.basic))

/-- The supplementary set of Japan. -/
def jisSupplement : SetName × Content :=
  (⟨true, 0x44⟩, .double (pairChar? Charset.JisX0212.rows))

/-- The first plane of the extended set of Japan. -/
def firstPlane (final : Nat) (edition : Japanese.Edition) : SetName × Content :=
  (⟨true, final⟩, .double (Japanese.firstPlane? edition))

/-- The second plane of it. -/
def secondPlane : SetName × Content :=
  (⟨true, 0x50⟩, .double (pairChar? Charset.JisX0213.second))

/-- The Japanese variant of ASCII. -/
def roman : SetName × Content :=
  (⟨false, 0x4A⟩, .single fun byte => some (Japanese.roman byte))

/-- Narrow katakana. -/
def katakana : SetName × Content :=
  (⟨false, 0x49⟩, .single fun byte => Japanese.katakana? (byte + 0x80))

/-- The set of China. -/
def chinese : SetName × Content := (⟨true, 0x41⟩, .double (pairChar? Charset.Gb2312.rows))

/-- The set of Korea. -/
def korean : SetName × Content := (⟨true, 0x43⟩, .double (pairChar? Charset.KsX1001.rows))

/-- The upper half of Latin for western Europe. -/
def western : SetName × Content :=
  (⟨false, 0x41⟩, .upper fun byte => if byte < 0x80 then some (Char.ofNat (byte + 0x80)) else none)

/-- The upper half of Greek, in its first edition, without the sign of the euro and its neighbours.
A byte of the upper half stands for one of the lower. -/
def greek : SetName × Content :=
  let page := CodePage.Iso.iso7
  (⟨false, 0x46⟩, .upper fun byte =>
    if 0x80 ≤ byte then some (Char.ofNat (byte - 0x80))
    else if byte ∈ [0x24, 0x25, 0x2A] then none
    else CodePage.char? page.first page.chars.toList.toArray (byte + 0x80))

/-! ## Encodings -/

/-- Japanese. -/
def japanese : Rules where
  sets := [jis1983, roman, jis1978]

/-- Japanese with the supplementary set. -/
def japanese1 : Rules where
  sets := [jis1983, jisSupplement, roman, jis1978]

/-- Japanese with the sets of its neighbours, Latin and Greek. -/
def japanese2 : Rules where
  sets := [jis1983, jisSupplement, korean, chinese, roman, jis1978, western, greek]
  singleShifts := true

/-- Japanese with the extended set in its first edition. -/
def japanese3 : Rules where
  sets := [jis1983, firstPlane 0x4F .of2000, secondPlane]

/-- Japanese with the extended set in its later edition. -/
def japanese2004 : Rules where
  sets := [jis1983, firstPlane 0x51 .of2004, secondPlane]

/-- Japanese with the supplementary set and narrow katakana. -/
def japaneseNarrow : Rules where
  sets := [jis1983, jisSupplement, roman, katakana, jis1978]

/-- Korean. -/
def koreanShifted : Rules where
  sets := [korean]
  shifts := true
  announces := false

end Inlay.Text.Multibyte.Switched
