import Inlay.Number.Decimal
import Inlay.Value.Moment

/-!
# Tags

The tag of a node says what kind of value it is. A plain scalar without a tag has the kind that its
text looks like: `Tag.ofPlain`.
-/

namespace Inlay.Yaml

/-- The full name of a kind of value. -/
structure Tag where
  name : String
  deriving DecidableEq, Inhabited

namespace Tag

/-- What the names of the format's own kinds start with. -/
def start : String := "tag:yaml.org,2002:"

/-- The starts of tags that have a short name. -/
def handles : List (String × String) := [("!", "!"), ("!!", start)]

/-- The tag that leaves the kind open. -/
def nonSpecific : Tag := ⟨"!"⟩

/-- One of the format's own kinds. -/
def own (name : String) : Tag := ⟨start ++ name⟩

def str : Tag := own "str"
def seq : Tag := own "seq"
def map : Tag := own "map"
def null : Tag := own "null"
def bool : Tag := own "bool"
def int : Tag := own "int"
def float : Tag := own "float"
def timestamp : Tag := own "timestamp"
def bytes : Tag := own "binary"
def set : Tag := own "set"
def pairs : Tag := own "pairs"
def orderedMap : Tag := own "omap"
def merge : Tag := own "merge"
def value : Tag := own "value"

/-- The tag of a sign that begins a node and stands alone. -/
def sign : Tag := own "yaml"

/-- The characters behind an optional sign. -/
def unsigned (cs : List Char) : List Char := (Decimal.splitSign cs).2

/-- A digit or an underscore. -/
def isDigitOrGap (c : Char) : Bool := c.isDigit || c == '_'

/-- Does the text start with a digit, and does the rest pass a test? -/
def digitThen (first rest : Char → Bool) : List Char → Bool
  | [] => false
  | c :: cs => first c && cs.all rest

/-- The parts of a text between colons. -/
def colonParts : List Char → List (List Char)
  | [] => [[]]
  | ':' :: rest => [] :: colonParts rest
  | c :: rest =>
    match colonParts rest with
    | [] => [[c]]
    | part :: parts => (c :: part) :: parts

/-- One or two digits below sixty. -/
def isSixtieth : List Char → Bool
  | [a] => a.isDigit
  | [a, b] => a.isDigit && a.toNat < '6'.toNat && b.isDigit
  | _ => false

/-- Is the text a truth value? -/
def isBool (text : String) : Bool :=
  ["yes", "Yes", "YES", "no", "No", "NO", "true", "True", "TRUE", "false", "False", "FALSE",
    "on", "On", "ON", "off", "Off", "OFF"].contains text

/-- Is the text an integer in base ten, two, eight or sixteen, or in sixtieths? -/
def isInt (cs : List Char) : Bool :=
  match unsigned cs with
  | ['0'] => true
  | '0' :: 'b' :: rest => !rest.isEmpty && rest.all fun c => c == '0' || c == '1' || c == '_'
  | '0' :: 'x' :: rest =>
    !rest.isEmpty && rest.all fun c => Decimal.digitValue c < 16 || c == '_'
  | '0' :: rest => !rest.isEmpty && rest.all fun c => Decimal.digitValue c < 8 || c == '_'
  | rest =>
    let whole (cs : List Char) : Bool :=
      digitThen (fun c => c.isDigit && c != '0') isDigitOrGap cs
    match colonParts rest with
    | [only] => whole only
    | first :: parts => whole first && parts.all isSixtieth
    | [] => false

/-- Is the text a power of ten with its sign, or nothing? -/
def isPower : List Char → Bool
  | [] => true
  | e :: sign :: digits =>
    (e == 'e' || e == 'E') && (sign == '+' || sign == '-') && !digits.isEmpty &&
      digits.all Char.isDigit
  | _ => false

/-- Is the text a fraction, with a power of ten or in sixtieths, infinite or no number? -/
def isFloat (cs : List Char) : Bool :=
  let rest := unsigned cs
  let special (words : List String) (cs : List Char) : Bool := words.any fun w => w.toList = cs
  let whole := rest.takeWhile fun c => isDigitOrGap c || c == ':'
  match rest.dropWhile fun c => isDigitOrGap c || c == ':' with
  | '.' :: fraction =>
    let power := fraction.dropWhile isDigitOrGap
    match colonParts whole with
    | [[]] =>
      special [".inf", ".Inf", ".INF"] rest || special [".nan", ".NaN", ".NAN"] cs ||
        (cs.head? == some '.' && digitThen Char.isDigit isDigitOrGap
          (fraction.takeWhile isDigitOrGap) && isPower power)
    | [only] => digitThen Char.isDigit isDigitOrGap only && isPower power
    | first :: parts =>
      digitThen Char.isDigit isDigitOrGap first && parts.all isSixtieth && power.isEmpty
    | [] => false
  | _ => false

/-- Is the text nothing? -/
def isNull (text : String) : Bool := ["", "~", "null", "Null", "NULL"].contains text

end Tag

namespace Stamp

/-- A number of `least` to `most` digits, and what follows. -/
def number (least most : Nat) (cs : List Char) : Option (Nat × List Char) :=
  let digits := (cs.take most).takeWhile Char.isDigit
  if digits.length < least then none
  else some (Decimal.ofDigits 10 digits, cs.drop digits.length)

/-- What follows a character, if it is next. -/
def after (c : Char) : List Char → Option (List Char)
  | [] => none
  | d :: rest => if d = c then some rest else none

/-- The part of a second, as millionths. -/
def micros (cs : List Char) : Nat × List Char :=
  match cs with
  | '.' :: rest =>
    let digits := rest.takeWhile Char.isDigit
    let six := digits.take 6
    (Decimal.ofDigits 10 (six ++ List.replicate (6 - six.length) '0'), rest.drop digits.length)
  | cs => (0, cs)

/-- The distance from universal time at the end of a time, in minutes. -/
def offset (cs : List Char) : Option (Option Int) :=
  match cs, cs.dropWhile fun c => c == ' ' || c == '\t' with
  | [], _ => some none
  | _, ['Z'] => some (some 0)
  | _, sign :: rest => do
    if sign != '+' && sign != '-' then none
    let (hours, rest) ← number 1 2 rest
    let minutes ← match rest with
      | [] => some 0
      | ':' :: rest => do
        let (minutes, rest) ← number 2 2 rest
        if rest.isEmpty then some minutes else none
      | _ => none
    let size : Int := hours * 60 + minutes
    some (some (if sign == '-' then -size else size))
  | _, [] => none

/-- A time of day behind a date. -/
def time (cs : List Char) : Option TimeOfDay := do
  let rest ← match cs with
    | 'T' :: rest => some rest
    | 't' :: rest => some rest
    | ' ' :: rest => some (rest.dropWhile fun c => c == ' ' || c == '\t')
    | '\t' :: rest => some (rest.dropWhile fun c => c == ' ' || c == '\t')
    | _ => none
  let (hour, rest) ← number 1 2 rest
  let (minute, rest) ← number 2 2 (← after ':' rest)
  let (second, rest) ← number 2 2 (← after ':' rest)
  let (micro, rest) := micros rest
  return ⟨hour, minute, second, micro, ← offset rest⟩

/-- The date and time of a text. The day need not be one of the calendar. -/
def read? (cs : List Char) : Option Moment := do
  let (year, rest) ← number 4 4 cs
  let (month, rest) ← number 1 2 (← after '-' rest)
  let (day, rest) ← number 1 2 (← after '-' rest)
  if rest.isEmpty then some ⟨year, month, day, none⟩
  else return ⟨year, month, day, some (← time rest)⟩

/-- Does a text look like a date and time? A date without a time must have all its zeros. -/
def looksLike (cs : List Char) : Bool :=
  match read? cs with
  | some moment => moment.time.isSome || cs.length = 10
  | none => false

end Stamp

namespace Tag

/-- The text without the end of a line at its end. -/
def dropLastBreak (cs : List Char) : List Char :=
  if cs.getLast? == some '\n' then cs.dropLast else cs

/-- The kind that a text looks like, of which one end of a line at its end does not count. -/
def ofPlain (text : String) : Tag :=
  let cs := dropLastBreak text.toList
  let word := String.ofList cs
  if word.isEmpty && !text.isEmpty then str
  else if isBool word then bool
  else if isFloat cs then float
  else if isInt cs then int
  else if word = "<<" then merge
  else if isNull word then null
  else if Stamp.looksLike cs then timestamp
  else if word = "=" then value
  else if word = "!" ∨ word = "&" ∨ word = "*" then sign
  else str

end Tag

end Inlay.Yaml
