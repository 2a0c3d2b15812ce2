import Inlay.Number.Binary64
import Inlay.Value.Moment

/-!
# Values

The data that items, configurations and error reports carry: what a data file can hold, and items
themselves, which lists of fields hold. A mapping keeps its entries in the order in which their keys
first came, and its keys need not be texts.

A data file may put a list or a mapping into itself. Where that happens, the value ends with
`again`.
-/

namespace Inlay

/-- A value of a data file, or an item. -/
inductive Value where
  | null
  | bool (b : Bool)
  | int (n : Int)
  | float (x : Binary64)
  | text (s : String)
  | moment (m : Moment)
  | bytes (data : List UInt8)
  | list (members : List Value)
  | set (members : List Value)
  | pair (first second : Value)
  | map (entries : List (Value × Value))
  /-- A document with what names it, its body and the fields of its header. -/
  | item (identifier body : Value) (metadata : List (Value × Value))
  /-- A list or a mapping that this stands in. -/
  | again (isMap : Bool)
  deriving Inhabited

/-- The entries of a mapping, in order. -/
abbrev Entries := List (Value × Value)

namespace Value

/-- The size of a number; a truth value counts as one or zero. -/
def asInt? : Value → Option Int
  | .bool b => some (if b then 1 else 0)
  | .int n => some n
  | _ => none

/-- Do two values name the same entry of a mapping? Numbers do if they are equal, whatever their
kind, times if they are the same moment, and pairs if both parts do. Lists, sets, mappings and items
name no entry. -/
def sameKey : Value → Value → Bool
  | .pair first second, .pair first' second' => first.sameKey first' && second.sameKey second'
  | .null, .null => true
  | .text a, .text b => a == b
  | .bytes a, .bytes b => a == b
  | .moment a, .moment b => a.coincides b
  | .float a, .float b => a == b && a != .nan || a.isZero && b.isZero
  | .float a, b => (b.asInt?.map a.equalsInt).getD false
  | a, .float b => (a.asInt?.map b.equalsInt).getD false
  | a, b =>
    match a.asInt?, b.asInt? with
    | some m, some n => m == n
    | _, _ => false

/-- Can the value name an entry of a mapping? A pair can if both parts of it can. -/
def isKey : Value → Bool
  | .list _ => false
  | .set _ => false
  | .pair first second => first.isKey && second.isKey
  | .map _ => false
  | .item .. => false
  | .again _ => false
  | _ => true

/-- Does the value hold anything? Nothing, false, zero and whatever is empty do not. -/
def isTruthy : Value → Bool
  | .null => false
  | .bool b => b
  | .int n => n != 0
  | .float x => !x.isZero
  | .text s => !s.isEmpty
  | .moment _ => true
  | .bytes data => !data.isEmpty
  | .list members => !members.isEmpty
  | .set members => !members.isEmpty
  | .pair _ _ => true
  | .map entries => !entries.isEmpty
  | .item .. => true
  | .again _ => true

/-- The first of two values, unless it holds nothing. -/
def orElse (first second : Value) : Value := if first.isTruthy then first else second

/-- The text that a value is. -/
def text? : Value → Option String
  | .text s => some s
  | _ => none

/-- A text, or nothing. -/
def ofText? : Option String → Value
  | none => .null
  | some s => .text s

/-- The members that a value is run through as: those of a list, a set or a pair, the characters of
a text, the numbers of bytes, the keys of a mapping. Other values have none. -/
def members? : Value → Option (List Value)
  | .list members => some members
  | .set members => some members
  | .pair first second => some [first, second]
  | .bytes data => some (data.map fun byte => .int byte.toNat)
  | .text s => some (s.toList.map fun c => .text (String.singleton c))
  | .map entries => some (entries.map Prod.fst)
  | _ => none

end Value

namespace Entries

/-- The value of a key. -/
def get? (entries : Entries) (key : Value) : Option Value :=
  (entries.find? fun entry => entry.1.sameKey key).map Prod.snd

/-- The value under a name. -/
def field? (entries : Entries) (name : String) : Option Value := get? entries (.text name)

/-- Set the value of a key: in its place if the mapping has it, else at the end. -/
def put (key value : Value) : Entries → Entries
  | [] => [(key, value)]
  | entry :: rest =>
    if entry.1.sameKey key then (entry.1, value) :: rest else entry :: put key value rest

/-- Set the values of many keys, one after the other. -/
def putAll (entries new : Entries) : Entries :=
  new.foldl (fun entries entry => put entry.1 entry.2 entries) entries

mutual

/-- Lay one mapping over another: where both hold a mapping under a key, the two are laid over each
other, and elsewhere the upper one wins. -/
def overlay (base : Entries) : Entries → Entries
  | [] => base
  | (key, value) :: rest => overlay (put key (overlayValue (get? base key) value) base) rest

/-- Lay a value over what was there before. -/
def overlayValue (before : Option Value) : Value → Value
  | .map upper =>
    match before with
    | some (.map lower) => .map (overlay lower upper)
    | _ => .map upper
  | value => value

end

end Entries

end Inlay
