import Inlay.Value.Text

/-!
# Values as JSON

One-line JSON in ASCII: members in their order, a comma and a colon each followed by a space, and
characters beyond ASCII as `\u` escapes of their UTF-16 units.
-/

namespace Inlay.Value

/-- A character of a JSON text. -/
def jsonChar (c : Char) : List Char :=
  let unit (n : Nat) : List Char := '\\' :: 'u' :: Text.hex 4 n
  if c = '"' ∨ c = '\\' then ['\\', c]
  else if c = '\n' then ['\\', 'n']
  else if c = '\r' then ['\\', 'r']
  else if c = '\t' then ['\\', 't']
  else if c = '\x08' then ['\\', 'b']
  else if c = '\x0c' then ['\\', 'f']
  else if 0x20 ≤ c.toNat ∧ c.toNat < 0x7F then [c]
  else if c.toNat < 0x10000 then unit c.toNat
  else
    let n := c.toNat - 0x10000
    unit (0xD800 + n / 0x400) ++ unit (0xDC00 + n % 0x400)

/-- A JSON text between its quotes. -/
def jsonText (s : String) : String :=
  String.ofList ('"' :: s.toList.flatMap jsonChar ++ ['"'])

/-- A number of the binary format in JSON. -/
def jsonFloat (x : Binary64) : String :=
  match x with
  | .finite .. => x.text
  | .infinite negative => if negative then "-Infinity" else "Infinity"
  | .nan => "NaN"

/-- The name of a member of a JSON object. -/
def jsonName : Value → String
  | .null => jsonText "null"
  | .bool true => jsonText "true"
  | .bool false => jsonText "false"
  | .float x => jsonText (jsonFloat x)
  | key => jsonText key.asText

mutual

/-- A value in JSON. -/
def json : Value → String
  | .null => "null"
  | .bool true => "true"
  | .bool false => "false"
  | .int n => toString n
  | .float x => jsonFloat x
  | .text s => jsonText s
  | .moment m => jsonText m.text
  | .bytes data => jsonText (Text.quotedBytes data)
  | .set members => jsonText (Value.set members).literal
  | .again isMap => jsonText (Value.again isMap).literal
  | .item identifier body metadata => jsonText (Value.item identifier body metadata).literal
  | .pair first second => "[" ++ first.json ++ ", " ++ second.json ++ "]"
  | .list members => "[" ++ ", ".intercalate (jsonMembers members) ++ "]"
  | .map entries => "\x7b" ++ ", ".intercalate (jsonEntries entries) ++ "\x7d"

/-- The members of a list in JSON. -/
def jsonMembers : List Value → List String
  | [] => []
  | member :: rest => member.json :: jsonMembers rest

/-- The members of an object in JSON. -/
def jsonEntries : List (Value × Value) → List String
  | [] => []
  | (key, value) :: rest => (jsonName key ++ ": " ++ value.json) :: jsonEntries rest

end

end Inlay.Value
