import Inlay.Fault.Registry

/-!
# References to environment variables

A text of a configuration may refer to a variable: `${N}`, `${N:-D}` with a default, `${N:?M}` with
a message for when it is not set. References are replaced from left to right, each once; what is put
in their place is not looked at again.
-/

namespace Inlay.Config

/-- The environment variables that are set. -/
abbrev Environment := List (String × String)

/-- What a reference asks for if its variable is not set. -/
inductive Otherwise where
  | fallback (text : String)
  /-- The variable is required; an empty message stands for the usual one. -/
  | required (message : String)
  deriving DecidableEq, Inhabited

/-- A reference to a variable. -/
structure Reference where
  name : String
  otherwise : Otherwise
  deriving DecidableEq, Inhabited

namespace Reference

/-- What follows the name of a reference up to the closing brace. -/
def scanOtherwise : List Char → Option (Otherwise × List Char)
  | '}' :: rest => some (.required "", rest)
  | ':' :: mark :: rest =>
    let operand := String.ofList (rest.takeWhile (· != '}'))
    match mark, rest.dropWhile (· != '}') with
    | '-', _ :: after => some (.fallback operand, after)
    | '?', _ :: after => some (.required operand, after)
    | _, _ => none
  | _ => none

/-- The reference at the start, and what follows it. -/
def scan? : List Char → Option (Reference × List Char)
  | '$' :: '{' :: rest =>
    let isName (c : Char) : Bool := c != '}' && c != ':'
    let name := rest.takeWhile isName
    if name.isEmpty then none
    else (scanOtherwise (rest.dropWhile isName)).map fun (otherwise, after) =>
      (⟨String.ofList name, otherwise⟩, after)
  | _ => none

/-- The text that a reference stands for, or the message that it is required. -/
def resolve (environment : Environment) (reference : Reference) : Except String String :=
  match environment.lookup reference.name with
  | some text => .ok text
  | none =>
    match reference.otherwise with
    | .fallback text => .ok text
    | .required message =>
      .error (if message.isEmpty then
        "Required environment variable " ++ reference.name ++ " not set" else message)

end Reference

/-- Replace the references in a text; `count` bounds the number of steps. -/
def resolveWithin (environment : Environment) : Nat → List Char → Except String (List Char)
  | _, [] => .ok []
  | 0, _ => .ok []
  | count + 1, c :: rest =>
    match Reference.scan? (c :: rest) with
    | none => do .ok (c :: (← resolveWithin environment count rest))
    | some (reference, after) => do
      let text ← reference.resolve environment
      .ok (text.toList ++ (← resolveWithin environment count after))

/-- Replace the references in a text. The first that cannot be resolved is the answer's message. -/
def resolveText (environment : Environment) (text : String) : Except String String :=
  (resolveWithin environment text.length text.toList).map String.ofList

/-- Why the references in a value are not replaced. -/
inductive Unresolved where
  /-- A variable is required that is not set, with this message. -/
  | required (message : String)
  /-- The value is nested without end, or too deep. -/
  | endless
  deriving DecidableEq, Inhabited

mutual

/-- Replace the references in all texts of a value, the keys of mappings apart. Sets and pairs are
taken as they are. The first argument is how deep the value may be nested. -/
def resolveValue (environment : Environment) (depth : Nat) : Value → Except Unresolved Value
  | .text text =>
    match resolveText environment text with
    | .ok text => .ok (.text text)
    | .error message => .error (.required message)
  | .list members =>
    if depth = 0 then .error .endless
    else do .ok (.list (← resolveMembers environment (depth - 1) members))
  | .map entries =>
    if depth = 0 then .error .endless
    else do .ok (.map (← resolveEntries environment (depth - 1) entries))
  | .again _ => .error .endless
  | value => .ok value

/-- Replace the references in the members of a list. -/
def resolveMembers (environment : Environment) (depth : Nat) :
    List Value → Except Unresolved (List Value)
  | [] => .ok []
  | member :: rest => do
    let member ← resolveValue environment depth member
    .ok (member :: (← resolveMembers environment depth rest))

/-- Replace the references in the values of entries. -/
def resolveEntries (environment : Environment) (depth : Nat) :
    List (Value × Value) → Except Unresolved (List (Value × Value))
  | [] => .ok []
  | (key, value) :: rest => do
    let value ← resolveValue environment depth value
    .ok ((key, value) :: (← resolveEntries environment depth rest))

end

end Inlay.Config
