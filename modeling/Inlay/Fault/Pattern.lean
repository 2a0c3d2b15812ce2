import Inlay.Value.Kind
import Inlay.Value.Layout

/-!
# Message patterns

A pattern is text with fields between braces, to be filled from named values; a doubled brace is a
brace. A field may go on to a member or a part of its value, ask for the quoted form of it, and say
how it is laid out; the layout may hold fields of its own.

Filling goes from left to right and stops at the first field that cannot be filled, so of several
mistakes in a pattern the first one counts.
-/

namespace Inlay.Pattern

/-- Why a pattern is not filled. -/
inductive Unfilled where
  /-- A field has no value. -/
  | missing
  | misuse (misuse : Misuse)
  deriving DecidableEq, Inhabited

/-- A field between braces. -/
structure Slot where
  name : List Char
  conversion : Option Char
  spec : List Char
  /-- The layout holds fields. -/
  nested : Bool
  deriving Inhabited

/-- The name of a field, the character that ends it, and what follows; inside square brackets only
a closing one ends anything. -/
def scanName (inside : Bool) : List Char → Except Misuse (List Char × Char × List Char)
  | [] => .error .badForm
  | c :: rest =>
    if inside then do
      let (name, close, after) ← scanName (c != ']') rest
      .ok (c :: name, close, after)
    else if c = '{' then .error .badForm
    else if c = '}' ∨ c = ':' ∨ c = '!' then .ok ([], c, rest)
    else do
      let (name, close, after) ← scanName (c == '[') rest
      .ok (c :: name, close, after)

/-- A layout up to the brace that closes its field; `depth` counts the braces that are open in
it. -/
def scanSpec : Nat → List Char → Except Misuse (List Char × Bool × List Char)
  | _, [] => .error .badForm
  | depth, '{' :: rest => do
    let (spec, _, after) ← scanSpec (depth + 1) rest
    .ok ('{' :: spec, true, after)
  | 0, '}' :: rest => .ok ([], false, rest)
  | depth + 1, '}' :: rest => do
    let (spec, nested, after) ← scanSpec depth rest
    .ok ('}' :: spec, nested, after)
  | depth, c :: rest => do
    let (spec, nested, after) ← scanSpec depth rest
    .ok (c :: spec, nested, after)

/-- A field whose opening brace has been read, and what follows it. -/
def scanSlot (cs : List Char) : Except Misuse (Slot × List Char) := do
  let (name, close, rest) ← scanName false cs
  match close, rest with
  | '}', rest => .ok (⟨name, none, [], false⟩, rest)
  | ':', rest =>
    let (spec, nested, after) ← scanSpec 0 rest
    .ok (⟨name, none, spec, nested⟩, after)
  | _, [] => .error .badForm
  | _, [_] => .error .badForm
  | _, conversion :: '}' :: rest => .ok (⟨name, some conversion, [], false⟩, rest)
  | _, conversion :: ':' :: rest =>
    let (spec, nested, after) ← scanSpec 0 rest
    .ok (⟨name, some conversion, spec, nested⟩, after)
  | _, _ => .error .badForm

/-- The text up to the next field, that field if there is one, and what follows. A doubled brace
ends the text too, without a field. -/
def next (cs : List Char) : Except Misuse (List Char × Option Slot × List Char) :=
  let isBrace (c : Char) : Bool := c == '{' || c == '}'
  let text := cs.takeWhile fun c => !isBrace c
  match cs.dropWhile fun c => !isBrace c with
  | [] => .ok (text, none, [])
  | '}' :: '}' :: rest => .ok (text ++ ['}'], none, rest)
  | '{' :: '{' :: rest => .ok (text ++ ['{'], none, rest)
  | '{' :: c :: rest => do
    let (slot, after) ← scanSlot (c :: rest)
    .ok (text, some slot, after)
  | _ => .error .badForm

/-- Does the pattern, read up to its first field, have one? `count` bounds the number of parts. -/
def hasSlotWithin : Nat → List Char → Except Misuse Bool
  | 0, _ => .ok false
  | _, [] => .ok false
  | count + 1, cs => do
    match ← next cs with
    | (_, some _, _) => .ok true
    | (_, none, rest) => hasSlotWithin count rest

/-- Does the pattern have a field? -/
def hasSlot (pattern : String) : Except Misuse Bool :=
  hasSlotWithin (pattern.length + 1) pattern.toList

/-- What the steps of a field's name lead to. -/
inductive Part where
  | value (value : Value)
  | kind (kind : ValueKind)
  | kinds (kinds : List ValueKind)
  deriving Inhabited

/-- The number that a word is, in the digits of any script; too large a number is refused, even
where the word goes on. -/
def number? (word : List Char) : Except Misuse (Option Nat) := do
  let (number, rest) ← Layout.scanNat word
  return if rest.isEmpty then number else none

/-- Report a misuse as the reason. -/
def orMisuse {α : Type} : Except Misuse α → Except Unfilled α
  | .ok a => .ok a
  | .error misuse => .error (.misuse misuse)

/-- The member of a row at a place. -/
def memberAt {α : Type} (members : List α) : Option Nat → Except Unfilled α
  | none => .error (.misuse .wrongKind)
  | some index =>
    match members[index]? with
    | some member => .ok member
    | none => .error (.misuse .noIndex)

/-- The member of a part at a place or under a key. -/
def memberOf (part : Part) (key : List Char) : Except Unfilled Part := do
  let number ← orMisuse (number? key)
  match part with
  | .value (.map entries) =>
    let key : Value := match number with
      | some index => .int index
      | none => .text (String.ofList key)
    match Entries.get? entries key with
    | some member => .ok (.value member)
    | none => .error .missing
  | .value (.list members) => return .value (← memberAt members number)
  | .value (.text s) => return .value (.text (String.singleton (← memberAt s.toList number)))
  | .kinds kinds => return .kind (← memberAt kinds number)
  | _ => .error (.misuse .wrongKind)

/-- The part of a value under a name: its kind, or a part that numbers have, those of a complex
number and those of a ratio. -/
def partOfValue (value : Value) (name : String) : Option Part :=
  match name, value with
  | "__class__", value => (ValueKind.of? value).map .kind
  | "__hash__", .list _ => some (.value .null)
  | "__hash__", .map _ => some (.value .null)
  | "real", .float x => some (.value (.float x))
  | "imag", .float _ => some (.value (.float (.zero false)))
  | "real", value => value.asInt?.map fun n => .value (.int n)
  | "imag", value => value.asInt?.map fun _ => .value (.int 0)
  | "numerator", value => value.asInt?.map fun n => .value (.int n)
  | "denominator", value => value.asInt?.map fun _ => .value (.int 1)
  | _, _ => none

/-- The part of a kind under a name. -/
def partOfKind (kind : ValueKind) : String → Option Part
  | "__class__" => some (.kind .ofKind)
  | "__name__" => some (.value (.text kind.name))
  | "__qualname__" => some (.value (.text kind.name))
  | "__module__" => some (.value (.text "builtins"))
  | "__base__" => some ((kind.parent?.map .kind).getD (.value .null))
  | "__bases__" => some (.kinds kind.parent?.toList)
  | "__mro__" => some (.kinds kind.line)
  | "__hash__" => if kind.isChangeable then some (.value .null) else none
  | _ => none

/-- The part of a part under a name. -/
def partOf (part : Part) (name : List Char) : Except Unfilled Part :=
  let found := match part, String.ofList name with
    | .value value, name => partOfValue value name
    | .kind kind, name => partOfKind kind name
    | .kinds _, "__class__" => some (.kind .row)
    | .kinds _, _ => none
  match found with
  | some part => .ok part
  | none => .error (.misuse .noAttribute)

/-- Does a character begin the next step of a field's name? -/
def beginsStep (c : Char) : Bool := c == '.' || c == '['

/-- Follow the part of a field's name behind its first word: members in square brackets, and parts
behind points. `count` bounds the number of steps. -/
def follow : Nat → Part → List Char → Except Unfilled Part
  | _, part, [] => .ok part
  | count + 1, part, '[' :: rest => do
    let key := rest.takeWhile (· != ']')
    match rest.dropWhile (· != ']') with
    | [] => .error (.misuse .badForm)
    | _ :: after =>
      if key.isEmpty then .error (.misuse .badForm)
      else follow count (← memberOf part key) after
  | count + 1, part, '.' :: rest => do
    let name := rest.takeWhile fun c => !beginsStep c
    if name.isEmpty then .error (.misuse .badForm)
    else follow count (← partOf part name) (rest.dropWhile fun c => !beginsStep c)
  | _, _, _ => .error (.misuse .badForm)

/-- What a field's name leads to. A field without a name or with a number for one asks for a value
by its place, and there is none. -/
def partNamed (values : Entries) (name : List Char) : Except Unfilled Part := do
  let first := name.takeWhile fun c => !beginsStep c
  if first.isEmpty || (← orMisuse (number? first)).isSome then .error (.misuse .noIndex)
  else
    match Entries.field? values (String.ofList first) with
    | none => .error .missing
    | some value => follow name.length (.value value) (name.dropWhile fun c => !beginsStep c)

namespace Part

/-- A part as text. -/
def asText : Part → String
  | .value v => v.asText
  | .kind k => k.literal
  | .kinds [k] => "(" ++ k.literal ++ ",)"
  | .kinds ks => "(" ++ ", ".intercalate (ks.map ValueKind.literal) ++ ")"

/-- The quoted form of a part. -/
def literal : Part → String
  | .value v => v.literal
  | part => part.asText

/-- Has the part a text? A kind always has. -/
def hasText : Part → Bool
  | .value v => v.hasText
  | _ => true

/-- The part in the form that a field asks for: its text, its quoted form, or that in ASCII. What
has no text has none of these. -/
def converted (part : Part) : Option Char → Except Misuse Part
  | none => .ok part
  | some conversion =>
    if !part.hasText then .error .badForm
    else
      match conversion with
      | 's' => .ok (.value (.text part.asText))
      | 'r' => .ok (.value (.text part.literal))
      | 'a' => .ok (.value (.text (Text.asciiOnly part.literal)))
      | _ => .error .badForm

/-- A part as a layout asks for; kinds take none. -/
def laidOut (part : Part) (spec : List Char) : Except Misuse String :=
  match part with
  | .value v => v.laidOut spec
  | part => if spec.isEmpty then .ok part.asText else .error .wrongKind

end Part

/-- The text of a field; `layout` fills the layout of one that holds fields of its own. -/
def fillSlot (values : Entries) (layout : List Char → Except Unfilled (List Char)) (slot : Slot) :
    Except Unfilled (List Char) := do
  let part ← partNamed values slot.name
  let part ← orMisuse (part.converted slot.conversion)
  let spec ← if slot.nested then layout slot.spec else pure slot.spec
  let text ← orMisuse (part.laidOut spec)
  .ok text.toList

/-- Fill a pattern; `count` bounds the number of its parts. -/
def fillWithin (values : Entries) (layout : List Char → Except Unfilled (List Char)) :
    Nat → List Char → Except Unfilled (List Char)
  | _, [] => .ok []
  | 0, _ => .ok []
  | count + 1, cs => do
    let (text, slot, rest) ← orMisuse (next cs)
    let filled ← match slot with
      | none => pure []
      | some slot => fillSlot values layout slot
    let after ← fillWithin values layout count rest
    .ok (text ++ filled ++ after)

/-- Fill the layout of a field, whose own fields have plain layouts. -/
def fillLayout (values : Entries) (spec : List Char) : Except Unfilled (List Char) :=
  fillWithin values (fun _ => .error (.misuse .badForm)) spec.length spec

/-- Fill a pattern from named values. -/
def fill (values : Entries) (pattern : String) : Except Unfilled String := do
  return String.ofList (← fillWithin values (fillLayout values) pattern.length pattern.toList)

end Inlay.Pattern
