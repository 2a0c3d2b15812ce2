import Inlay.Context.Basic
import Inlay.Value.Text

/-!
# Field constructors

Contexts of one provider: a text computed from the subject, a flag, a list of items or of values,
the entries of a mapping. A computation may decline by giving no value; a fault that it reports
becomes a failure of the field, while a misuse stops the lookup.

This holds of the computation alone. What is done with its value afterwards is not kept to the rule:
where the members of a list are made only as it is run through, a fault that is reported then stops
the lookup.
-/

namespace Inlay.Context

/-- What a computation says about its subject: a value, nothing, or a reason to stop. -/
abbrev Computation (α : Type) := Value → Except Stop (Option α)

/-- The failure that a reported fault becomes. -/
def failureOf (fault : Fault) : Failure where
  messages := .text fault.headline :: fault.trail
  code := if fault.code == Code.fieldNotFound then Code.fieldNotFound else Code.contextFailure

/-- The outcome of a computation: no value declines, and a fault is a failure, unless its detail has
no text. -/
def outcomeOf {α : Type} : Except Stop (Option α) → Reply (Outcome α)
  | .ok (some value) => pure (.found value)
  | .ok none => pure (.notFound [])
  | .error (.fault fault) =>
    if fault.detail.hasText then pure (.failed (failureOf fault))
    else Reply.stop (.misuse .badForm)
  | .error (.misuse misuse) => Reply.stop (.misuse misuse)

/-- A provider that answers for one key and declines all others. -/
def onKey (key : String) (answer : List String → Value → Reply (Outcome Field)) : Context :=
  single fun asked args subject =>
    if asked = key then answer args subject else pure (.notFound [])

/-- A field that is made of what is computed from the arguments and the subject. -/
def computed {α : Type} (key : String) (make : α → Except Stop Field)
    (compute : List String → Computation α) : Context :=
  onKey key fun args subject => do
    match ← outcomeOf (compute args subject) with
    | .found value => return .found (← Reply.of (make value))
    | .notFound messages => return .notFound messages
    | .failed failure => return .failed failure

/-- The field of a value's text. -/
def textField (value : Value) : Except Stop Field :=
  (value.shown.mapError Stop.misuse).map Field.text

/-- A text computed from the arguments and the subject. -/
def function (key : String) (compute : List String → Computation Value) : Context :=
  computed key textField compute

/-- A text computed from the subject. -/
def field (key : String) (compute : Computation Value) : Context :=
  function key fun _ => compute

/-- A value, unless it is nothing. -/
def given? : Value → Option Value
  | .null => none
  | value => some value

/-- A fixed text. -/
def const (key : String) (value : Value) : Context :=
  field key fun _ => .ok (given? value)

/-- A field without value, there if the subject passes a test. Unlike a computation, a test that
reports a fault stops the lookup. -/
def flag (key : String) (test : Value → Except Stop Bool) : Context :=
  onKey key fun _ subject =>
    match test subject with
    | .ok true => pure (.found .present)
    | .ok false => pure (.notFound [])
    | .error reason => Reply.stop reason

/-- The members that a computed value is run through as. -/
def membersOf (value : Value) : Except Misuse (List Value) :=
  match value.members? with
  | some members => .ok members
  | none => .error .wrongKind

/-- What is computed for a list, to be run through. -/
inductive Iterable where
  /-- A value that is there as a whole. -/
  | whole (value : Value)
  /-- Members that are made one after the other, until there are no more or there is a reason to
  stop. -/
  | made (members : List Value) (ended : Except Stop Unit)

/-- All members; what was made before a reason to stop is lost. -/
def Iterable.members : Iterable → Except Stop (List Value)
  | .whole value => (membersOf value).mapError .misuse
  | .made members ended => ended.map fun () => members

/-- A list field of the members of what is computed from the subject. -/
def listWith (key : String) (fieldOf : List Value → Field) (compute : Computation Iterable) :
    Context :=
  computed key (fun iterable => iterable.members.map fieldOf) fun _ => compute

/-- Items computed from the subject, to be asked about in a context of their own. -/
def itemsWith (key : String) (context : Context) (compute : Computation Iterable) : Context :=
  listWith key (.items context) compute

/-- Fixed items, to be asked about in a context of their own. -/
def items (key : String) (context : Context) (items : List Item) : Context :=
  itemsWith key context fun _ => .ok (some (.whole (.list (items.map Item.asValue))))

/-- Values computed from the subject, each of which makes a context. -/
def valuesWith (key : String) (build : Value → Except Stop Context)
    (compute : Computation Iterable) : Context :=
  listWith key (fun members => .values (members.map fun value => (value, build value))) compute

/-- Fixed values, each of which makes a context. -/
def values (key : String) (build : Value → Except Stop Context) (members : List Value) : Context :=
  valuesWith key build fun _ => .ok (some (.whole (.list members)))

/-- The failure of a list that is put through a function on texts. -/
def unmapped (key : String) : Failure :=
  ⟨[.text ("map_context: can't map over list field '" ++ key ++ "'")], Code.contextFailure⟩

/-- An outcome with its text put through a function. A field without value stays as it is; a list
cannot be put through and fails. -/
def mapOutcome (f : String → String) (key : String) : Outcome Field → Outcome Field
  | .found (.text text) => .found (.text (f text))
  | .found .present => .found .present
  | .found (.items ..) => .failed (unmapped key)
  | .found (.values ..) => .failed (unmapped key)
  | .notFound messages => .notFound messages
  | .failed failure => .failed failure

/-- The context with every text put through a function. -/
def map (f : String → String) (context : Context) : Context :=
  single fun key args subject => do return mapOutcome f key (← context.lookup key args subject)

mutual

/-- The field that a plain value stands for. Nothing and false are no field, true and a mapping a
field without value; the members of a list or a pair each make a context. All else is its text. -/
def fieldOf : Value → Except Misuse (Outcome Field)
  | .null => .ok (.notFound [])
  | .bool false => .ok (.notFound [])
  | .bool true => .ok (.found .present)
  | .map _ => .ok (.found .present)
  | .list members => .ok (.found (.values (memberContexts members)))
  | .pair first second => .ok (.found (.values
      [(first, memberContext first), (second, memberContext second)]))
  | value => do .ok (.found (.text (← value.shown)))

/-- The members of a list with their contexts. -/
def memberContexts : List Value → List (Value × Except Stop Context)
  | [] => []
  | member :: rest => (member, memberContext member) :: memberContexts rest

/-- The context of one member of a list: the entries of a mapping, or the field `item` for any
other value that has a text. -/
def memberContext : Value → Except Stop Context
  | .map entries => .ok (single fun key _ _ => Reply.ofExcept (entryField key entries))
  | value =>
    match value.shown with
    | .ok text => .ok (const "item" (.text text))
    | .error misuse => .error (.misuse misuse)

/-- The field of the entry under a name. -/
def entryField (name : String) : List (Value × Value) → Except Misuse (Outcome Field)
  | [] => .ok (.notFound [])
  | (key, value) :: rest => if key.sameKey (.text name) then fieldOf value else entryField name rest

end

/-- Does a text hold another one? -/
def holds (part : List Char) : List Char → Bool
  | [] => part.isEmpty
  | c :: rest => part.isPrefixOf (c :: rest) || holds part rest

/-- Is a name among what can be looked through for it? Other values cannot. -/
def isAmong (name : String) : Value → Except Misuse Bool
  | .text text => .ok (holds name.toList text.toList)
  | .list members => .ok (members.any (·.sameKey (.text name)))
  | .set members => .ok (members.any (·.sameKey (.text name)))
  | .pair first second => .ok (first.sameKey (.text name) || second.sameKey (.text name))
  | _ => .error .wrongKind

/-- The entries of a mapping as fields. Another value has no entries: if it can be looked through
for the name and does not hold it, it declines, and else that is misuse. -/
def mapping (data : Value) : Context :=
  single fun key _ _ => Reply.ofExcept <|
    match data with
    | .map entries => entryField key entries
    | data => do if ← isAmong key data then .error .wrongKind else .ok (.notFound [])

/-- The fields of the item's header. -/
def metadata : Context :=
  single fun key _ subject => Reply.ofExcept do entryField key (← subject.metadata)

/-- A text computed from the subject, which must be an item. -/
def itemField (key : String) (compute : Value → Except Misuse Value) : Context :=
  field key fun subject => ((compute subject).mapError Stop.misuse).map given?

/-- The body of the item. -/
def body (key : String := "body") : Context :=
  itemField key fun subject => do return .text (← (← subject.body).shown)

/-- The identifier of the item. -/
def path (key : String := "path") : Context := itemField key Value.identifier

/-- The last part of a path, without its extension. A point at the start of the part, or behind
nothing but points, begins no extension. -/
def baseName (identifier : String) : String :=
  let name := (identifier.toList.reverse.takeWhile (· != '/')).reverse
  let points := name.takeWhile (· == '.')
  let rest := name.drop points.length
  if rest.contains '.' then
    String.ofList (points ++ ((rest.reverse.dropWhile (· != '.')).drop 1).reverse)
  else String.ofList name

/-- The base name of the item's identifier, which must be a text. -/
def title (key : String := "title") : Context :=
  itemField key fun subject => do
    match ← subject.identifier with
    | .text identifier => .ok (.text (baseName identifier))
    | _ => .error .wrongKind

/-- The provider that ends a row: every key is missing. -/
def missing (reporter : Reporter) : Context :=
  single fun key _ _ =>
    match reporter.message Code.fieldNotFound [(.text "key", .text key)] with
    | .ok message => pure (.failed ⟨[.text message], Code.fieldNotFound⟩)
    | .error misuse => Reply.stop (.misuse misuse)

/-- The fields that every item has: its body, its header, its path and its title. -/
def standard : Context := chain [body, metadata, path, title]

/-- A provider that keeps a record of each question about an item under a name, and passes it
on. -/
def recorded (name : String) (inner : Context) : Context :=
  single fun key args subject =>
    match subject.identifier with
    | .ok identifier =>
      let reply := inner.lookup key args subject
      ⟨⟨name, key, args, identifier⟩ :: reply.calls, reply.answer⟩
    | .error misuse => Reply.stop (.misuse misuse)

end Inlay.Context
