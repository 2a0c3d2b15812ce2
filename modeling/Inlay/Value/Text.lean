import Inlay.Number.Numeral
import Inlay.Number.Shortest
import Inlay.Text.Quoted
import Inlay.Value.Basic

/-!
# Values as text

How a value stands in rendered output and in messages (`Value.asText`), and how it stands inside a
list or a mapping (`Value.literal`), where texts are quoted.
-/

namespace Inlay.Value

mutual

/-- The form of a value inside a list or a mapping. -/
def literal : Value → String
  | .null => "None"
  | .bool true => "True"
  | .bool false => "False"
  | .int n => toString n
  | .float x => x.text
  | .text s => Text.quoted s
  | .moment m => m.literal
  | .bytes data => Text.quotedBytes data
  | .list members => "[" ++ ", ".intercalate (memberLiterals members) ++ "]"
  | .set [] => "set()"
  | .set members => "\x7b" ++ ", ".intercalate (memberLiterals members) ++ "\x7d"
  | .pair first second => "(" ++ first.literal ++ ", " ++ second.literal ++ ")"
  | .map entries => "\x7b" ++ ", ".intercalate (entryLiterals entries) ++ "\x7d"
  | .item identifier body metadata =>
    "Item(identifier=" ++ identifier.literal ++ ", body=" ++ body.literal ++ ", metadata=\x7b" ++
      ", ".intercalate (entryLiterals metadata) ++ "\x7d)"
  | .again isMap => if isMap then "\x7b...\x7d" else "[...]"

/-- The forms of the members of a list. -/
def memberLiterals : List Value → List String
  | [] => []
  | member :: rest => member.literal :: memberLiterals rest

/-- The forms of the entries of a mapping. -/
def entryLiterals : List (Value × Value) → List String
  | [] => []
  | (key, value) :: rest => (key.literal ++ ": " ++ value.literal) :: entryLiterals rest

end

/-- The value as text: a text is itself. -/
def asText : Value → String
  | .text s => s
  | .moment m => m.text
  | value => value.literal

/-! ## Values without text

An integer that is too long in base ten has no text, and neither has anything that holds one. -/

/-- The least integer that is too long to be written: ten to the power of `Numeral.mostDigits`, put
together from powers that are small enough to be worked out. -/
def tooLong : Nat := Nat.pow (Nat.pow 10 100) (Numeral.mostDigits / 100)

mutual

/-- Has the value a text? -/
def hasText : Value → Bool
  | .int n => decide (n.natAbs < tooLong)
  | .list members => membersHaveText members
  | .set members => membersHaveText members
  | .pair first second => first.hasText && second.hasText
  | .map entries => entriesHaveText entries
  | .item identifier body metadata =>
    identifier.hasText && body.hasText && entriesHaveText metadata
  | _ => true

/-- Have all members a text? -/
def membersHaveText : List Value → Bool
  | [] => true
  | member :: rest => member.hasText && membersHaveText rest

/-- Have all keys and values a text? -/
def entriesHaveText : List (Value × Value) → Bool
  | [] => true
  | (key, value) :: rest => key.hasText && value.hasText && entriesHaveText rest

end

end Inlay.Value
