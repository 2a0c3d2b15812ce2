import Inlay.Item
import Inlay.Outcome

/-!
# Contexts

A *provider* answers questions for fields: it is asked for a key with arguments, about a subject. A
*context* is a row of providers. The first of them that does not decline decides the answer, so a
failure is never covered up by a provider behind it, and a provider that declines leaves no trace.

Providers may keep a record of what they were asked. The record is part of their answer
(`Reply.calls`), so a context is a plain value and looking up a key changes nothing.
-/

namespace Inlay

/-- A question that a provider kept a record of. -/
structure Call where
  /-- The name under which it is recorded. -/
  name : String
  key : String
  args : List String
  /-- The identifier of the item. -/
  item : Value
  deriving Inhabited

/-- An answer that may not come, and the record of the questions on the way to it. -/
structure Reply (α : Type) where
  calls : List Call
  answer : Except Stop α

mutual

/-- What a field holds. -/
inductive Field where
  /-- The field is there and holds nothing. -/
  | present
  | text (text : String)
  /-- Subjects, each of which is asked about in the field's own context. -/
  | items (context : Context) (items : List Value)
  /-- Values, each with the context that it puts before the surrounding one, or with what keeps
  that context from being made. -/
  | values (members : List (Value × Except Stop Context))

/-- A row of providers; the first that does not decline decides. -/
inductive Context where
  | of (providers : List (String → List String → Value → Reply (Outcome Field)))

end

/-- A provider of fields. -/
abbrev Provider := String → List String → Value → Reply (Outcome Field)

namespace Reply

/-- An answer with nothing recorded. -/
def pure {α : Type} (value : α) : Reply α := ⟨[], .ok value⟩

/-- No answer, and nothing recorded. -/
def stop {α : Type} (reason : Stop) : Reply α := ⟨[], .error reason⟩

/-- An answer or a reason to stop, with nothing recorded. -/
def of {α : Type} (answer : Except Stop α) : Reply α := ⟨[], answer⟩

/-- What misuse may keep from being answered, with nothing recorded. -/
def ofExcept {α : Type} : Except Misuse α → Reply α
  | .ok value => pure value
  | .error misuse => stop (.misuse misuse)

/-- Go on from an answer, keeping the record of both parts. -/
def bind {α β : Type} (reply : Reply α) (next : α → Reply β) : Reply β :=
  match reply.answer with
  | .error reason => ⟨reply.calls, .error reason⟩
  | .ok value => ⟨reply.calls ++ (next value).calls, (next value).answer⟩

instance : Monad Reply where
  pure := Reply.pure
  bind := Reply.bind

end Reply

/-- The kinds of fields, as messages name them. -/
inductive FieldKind where
  | boolean
  | string
  | list
  deriving DecidableEq, Inhabited

/-- The name of a kind of field. -/
def FieldKind.name : FieldKind → String
  | .boolean => "boolean"
  | .string => "string"
  | .list => "list"

/-- The kind of a field. -/
def Field.kind : Field → FieldKind
  | .present => .boolean
  | .text _ => .string
  | .items .. => .list
  | .values .. => .list

namespace Context

/-- The providers, the first to be asked first. -/
def providers : Context → List Provider
  | .of providers => providers

/-- A context that knows nothing. -/
def empty : Context := .of []

/-- A context of one provider. -/
def single (provider : Provider) : Context := .of [provider]

/-- Ask a row of providers: the answer of the first that does not decline. -/
def ask : List Provider → Provider
  | [], _, _, _ => pure (.notFound [])
  | provider :: rest, key, args, subject => do
    match ← provider key args subject with
    | .notFound _ => ask rest key args subject
    | outcome => pure outcome

/-- Look up a key about a subject. -/
def lookup (context : Context) : Provider := ask context.providers

/-- Contexts one behind the other. -/
def chain (contexts : List Context) : Context := .of (contexts.flatMap providers)

/-- A context and behind it another one. -/
def append (first second : Context) : Context := .of (first.providers ++ second.providers)

instance : Append Context := ⟨append⟩

/-- A context as messages name it. -/
def describe (context : Context) : String :=
  "Context(" ++ toString context.providers.length ++ " providers)"

end Context

end Inlay
