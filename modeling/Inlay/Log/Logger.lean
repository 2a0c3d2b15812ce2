import Inlay.Fault.Basic
import Inlay.Text.UpperCase
import Inlay.Value.Json

/-!
# Log lines

A logger decides which entries are written, and writes each of them as one line: coloured text for a
terminal, or a JSON object. An entry is written if its level is at least the logger's and its
component is not switched off.
-/

namespace Inlay

namespace Log

/-- How much an entry matters. -/
inductive Level where
  | debug
  | info
  | warn
  | error
  deriving DecidableEq, Inhabited

namespace Level

def all : List Level := [.debug, .info, .warn, .error]

/-- The name of a level. -/
def name : Level → String
  | .debug => "DEBUG"
  | .info => "INFO"
  | .warn => "WARN"
  | .error => "ERROR"

/-- The level of a name. -/
def ofName? (s : String) : Option Level := all.find? fun level => level.name == s

/-- The place of a level in the order of importance. -/
def rank : Level → Nat
  | .debug => 0
  | .info => 1
  | .warn => 2
  | .error => 3

end Level

/-- How entries are written. -/
inductive Format where
  | colored
  | json
  deriving DecidableEq, Inhabited

/-- The name of a format. -/
def Format.name : Format → String
  | .colored => "colored"
  | .json => "json"

/-- The format of a name. -/
def Format.ofName? (s : String) : Option Format :=
  [Format.colored, .json].find? fun format => format.name == s

/-- What is to be logged. -/
structure Entry where
  level : Level
  /-- The part of the system that it comes from. -/
  component : String
  message : String
  /-- Further named values. -/
  context : Entries := []
  deriving Inhabited

/-- An entry that was written, with its text. -/
structure Line where
  entry : Entry
  text : String
  deriving Inhabited

end Log

/-- Which entries are written, and how. -/
structure Logger where
  level : Log.Level := .info
  format : Log.Format := .colored
  /-- Do coloured lines show the context of an entry? -/
  showParams : Bool := true
  /-- The longest context that a coloured line shows in full. -/
  truncateAt : Value := .int 200
  /-- The switches of components; a component without one is on. -/
  components : List (String × Bool) := []
  now : Moment
  deriving Inhabited

namespace Logger

open Log

/-- Is the entry written? -/
def accepts (logger : Logger) (entry : Entry) : Bool :=
  logger.level.rank ≤ entry.level.rank && (logger.components.lookup entry.component).getD true

/-- The sequence that ends all colouring. -/
def reset : String := "\x1b[0m"

/-- The sequence that starts a colour of the palette of 256. -/
def color (number : Nat) : String := "\x1b[38;5;" ++ toString number ++ "m"

/-- The colour of contexts. -/
def contextColor : String := color 153

/-- The colour of a level. -/
def levelColor : Level → String
  | .debug => color 153
  | .info => color 51
  | .warn => color 226
  | .error => color 196

/-- The colour of a component. -/
def componentColor (component : String) : String :=
  if component = "render" then color 201
  else if component = "store" then color 208
  else if component = "config" then color 82
  else reset

/-- The text cut to a number of characters. A negative number cuts that many off the end. -/
def cut (limit : Int) (text : List Char) : List Char :=
  if limit < 0 then text.take (text.length - limit.natAbs) else text.take limit.toNat

/-- The text, cut and marked if it is longer than the limit. The limit must be an integer, unless
it is a number that the text does not reach. -/
def truncate (limit : Value) (text : List Char) : Except Misuse (List Char) :=
  match limit with
  | .float x => if x.ltInt text.length then .error .wrongKind else .ok text
  | limit =>
    match limit.asInt? with
    | none => .error .wrongKind
    | some n => .ok (if n < text.length then cut n text ++ "...".toList else text)

/-- The line for a terminal. -/
def coloredLine (logger : Logger) (entry : Entry) : Except Misuse String := do
  let head := componentColor entry.component ++ "[" ++ Text.toUpper entry.component ++ "]" ++
    reset ++ " " ++ levelColor entry.level ++ entry.message ++ reset
  if entry.context.isEmpty || !logger.showParams then .ok head
  else
    let context ← truncate logger.truncateAt (Value.map entry.context).literal.toList
    .ok (head ++ " " ++ contextColor ++ String.ofList context ++ reset)

/-- The JSON object of an entry. A value of the context takes the place of a member of its name. -/
def jsonLine (logger : Logger) (entry : Entry) : String :=
  let members : Entries := [
    (.text "timestamp", .text logger.now.zulu),
    (.text "level", .text entry.level.name),
    (.text "component", .text entry.component),
    (.text "message", .text entry.message)]
  (Value.map (members.putAll entry.context)).json

/-- The line of an entry. -/
def line (logger : Logger) (entry : Entry) : Except Misuse String :=
  match logger.format with
  | .colored => logger.coloredLine entry
  | .json => .ok (logger.jsonLine entry)

/-- Write an entry: one line if it is accepted, and else none. -/
def write (logger : Logger) (entry : Entry) : Except Misuse (List Line) := do
  if logger.accepts entry then .ok [⟨entry, (← logger.line entry) ++ "\n"⟩] else .ok []

end Logger

end Inlay
