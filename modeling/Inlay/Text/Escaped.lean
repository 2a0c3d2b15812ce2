import Inlay.Text.Units

/-!
# Escaped text

Bytes that stand for the characters of their numbers, and escapes behind a backslash for others. In
the plain form only an escape that gives the number of a character counts; in the full form there
are also escapes for control characters and for the end of a line.
-/

namespace Inlay.Text.Escaped

/-- The value of a hexadecimal digit. -/
def hexDigit? (byte : Nat) : Option Nat :=
  let c := Char.ofNat byte
  if c.isDigit then some (byte - '0'.toNat)
  else if 'a' ≤ c ∧ c ≤ 'f' then some (byte - 'a'.toNat + 10)
  else if 'A' ≤ c ∧ c ≤ 'F' then some (byte - 'A'.toNat + 10)
  else none

/-- The character of a number in hexadecimal digits. -/
def numbered? (digits : List Nat) : Option Char := do
  let digits ← digits.mapM hexDigit?
  let number := digits.foldl (fun n digit => n * 16 + digit) 0
  if isScalar number then some (Char.ofNat number) else none

/-- The character of an octal number. -/
def octal (digits : List Nat) : Char :=
  Char.ofNat (digits.foldl (fun n digit => n * 8 + (digit - 0x30)) 0)

/-- Is the byte an octal digit? -/
def isOctal (byte : Nat) : Bool := 0x30 ≤ byte && byte < 0x38

/-- The number of hexadecimal digits behind a letter. -/
def digitsBehind? : Nat → Option Nat
  | 0x78 => some 2
  | 0x75 => some 4
  | 0x55 => some 8
  | _ => none

/-- The character of an escape of one letter. -/
def letter? : Nat → Option Char
  | 0x5C => some '\\'
  | 0x27 => some '\''
  | 0x22 => some '"'
  | 0x61 => some '\x07'
  | 0x62 => some '\x08'
  | 0x66 => some '\x0c'
  | 0x6E => some '\n'
  | 0x72 => some '\r'
  | 0x74 => some '\t'
  | 0x76 => some '\x0b'
  | _ => none

/-- The characters of an escape, the backslash apart, and how many bytes it takes. Names of
characters are not known. A backslash before anything else stands for itself. -/
def escape? : List Nat → Option (List Char × Nat)
  | [] => none
  | 0x0A :: _ => some ([], 1)
  | 0x4E :: _ => none
  | byte :: rest =>
    if isOctal byte then
      let digits := byte :: (rest.take 2).takeWhile isOctal
      some ([octal digits], digits.length)
    else
      match letter? byte, digitsBehind? byte with
      | some c, _ => some ([c], 1)
      | none, some count =>
        if rest.length < count then none
        else (numbered? (rest.take count)).map fun c => ([c], count + 1)
      | none, none => some (['\\', Char.ofNat byte], 1)

/-- The text of bytes in the full form, from behind the bytes of an escape that are to be passed
over. -/
def decodeBehind? : Nat → List Nat → Option (List Char)
  | _, [] => some []
  | skip + 1, _ :: rest => decodeBehind? skip rest
  | 0, 0x5C :: rest => do
    let (text, skip) ← escape? rest
    return text ++ (← decodeBehind? skip rest)
  | 0, byte :: rest => (decodeBehind? 0 rest).map (Char.ofNat byte :: ·)

/-- The text of bytes in the full form. -/
def decode? (bytes : List Nat) : Option (List Char) := decodeBehind? 0 bytes

/-- The characters of an escape of the plain form, the backslash apart, and how many bytes it
takes. -/
def plainEscape? : List Nat → Option (List Char × Nat)
  | [] => some (['\\'], 0)
  | byte :: rest =>
    match if byte = 0x78 then none else digitsBehind? byte with
    | none => some (['\\', Char.ofNat byte], 1)
    | some count =>
      if rest.length < count then none
      else (numbered? (rest.take count)).map fun c => ([c], count + 1)

/-- The text of bytes in the plain form, from behind the bytes of an escape that are to be passed
over. -/
def decodePlainBehind? : Nat → List Nat → Option (List Char)
  | _, [] => some []
  | skip + 1, _ :: rest => decodePlainBehind? skip rest
  | 0, 0x5C :: rest => do
    let (text, skip) ← plainEscape? rest
    return text ++ (← decodePlainBehind? skip rest)
  | 0, byte :: rest => (decodePlainBehind? 0 rest).map (Char.ofNat byte :: ·)

/-- The text of bytes in the plain form. -/
def decodePlain? (bytes : List Nat) : Option (List Char) := decodePlainBehind? 0 bytes

end Inlay.Text.Escaped
