import Inlay.Number.Numeral
import Inlay.Text.Base64
import Inlay.Yaml.Source
import Inlay.Yaml.Resolve

/-!
# Scalars as values

The value of a scalar of each kind. The kind may have been written as a tag, so the text need not
look like it; what is read then is all that a numeral of the kind may be.
-/

namespace Inlay.Yaml

/-- The truth value of a word. -/
def boolOf (text : String) : Except Problem Value :=
  let word := String.ofList (text.toList.map Char.toLower)
  if ["yes", "true", "on"].contains word then .ok (.bool true)
  else if ["no", "false", "off"].contains word then .ok (.bool false)
  else .error (.misuse .noEntry)

/-- The sign of a number without its gaps, and what follows it. There must be a first character. -/
def signOf (cs : List Char) : Except Problem (Bool × List Char) :=
  if cs.isEmpty then .error (.misuse .noIndex) else .ok (Decimal.splitSign cs)

/-- A number, if the text is one. -/
def orBad {α : Type} (number : Option α) : Except Problem α :=
  match number with
  | some n => .ok n
  | none => .error (.misuse .badForm)

/-- The integer of digits in which a colon separates sixtieths. -/
def sixtieths (cs : List Char) : Except Problem Int := do
  let parts ← (Tag.colonParts cs).mapM fun part => orBad (Numeral.int? 10 part)
  .ok (parts.foldl (fun size part => size * 60 + part) 0)

/-- The integer of a text without its sign. -/
def sizeOf (cs : List Char) : Except Problem Int :=
  match cs with
  | [] => .error (.misuse .noIndex)
  | ['0'] => .ok 0
  | '0' :: 'b' :: digits => orBad (Numeral.int? 2 digits)
  | '0' :: 'x' :: digits => orBad (Numeral.int? 16 digits)
  | '0' :: _ => orBad (Numeral.int? 8 cs)
  | _ => if cs.contains ':' then sixtieths cs else orBad (Numeral.int? 10 cs)

/-- The integer of a text. -/
def intOf (text : String) : Except Problem Value := do
  let (negative, cs) ← signOf (text.toList.filter (· != '_'))
  let size ← sizeOf cs
  .ok (.int (if negative then -size else size))

/-- The sum of numbers, the last of which counts once and each other sixty times what the next one
does. The weights are whole numbers, and too large a one is refused. -/
def weighted (parts : List Binary64) : Except Problem Binary64 := do
  let (sum, _) ← parts.reverse.foldlM (fun (state : Binary64 × Nat) part =>
    match Binary64.ofInt state.2 with
    | .infinite _ => .error (.misuse .outOfRange)
    | weight => .ok (state.1.add (part.mul weight), state.2 * 60)) (Binary64.zero false, 1)
  .ok sum

/-- The text of a number of the binary format as it is read: without gaps and in lower case. -/
def floatText (text : String) : List Char := (text.toList.filter (· != '_')).map Char.toLower

/-- The number of a text, in the binary format. -/
def floatOf (text : String) : Except Problem Value := do
  let (negative, cs) ← signOf (floatText text)
  let signed (x : Binary64) : Value := .float (if negative then x.neg else x)
  if cs = ".inf".toList then .ok (.float (.infinite negative))
  else if cs = ".nan".toList then .ok (.float .nan)
  else if cs.contains ':' then do
    let parts ← (Tag.colonParts cs).mapM fun part => orBad (Numeral.binary64? part)
    .ok (signed (← weighted parts))
  else .ok (signed (← orBad (Numeral.binary64? cs)))

/-- Is this the word for no number, with a sign or without? -/
def isNanWord (text : String) : Bool := (Decimal.splitSign (floatText text)).2 == ".nan".toList

/-- The date and time of a text. -/
def momentOf (text : String) : Except Problem Value :=
  match Stamp.read? (Tag.dropLastBreak text.toList) with
  | none => .error (.misuse .noAttribute)
  | some moment => if moment.isValid then .ok (.moment moment) else .error (.misuse .badForm)

/-- The bytes of a text. -/
def bytesOf (text : String) : Except Problem Value :=
  if text.toList.all fun c => c.toNat < 0x80 then
    match Text.Base64.decode? text.toList with
    | some data => .ok (.bytes data)
    | none => malformed
  else malformed

end Inlay.Yaml
