import Inlay.Fault.Basic
import Inlay.Number.Layout
import Inlay.Text.Digit

/-!
# Laying out a value

A field of a message pattern may say how its value is laid out: in how many columns, to which side,
with which sign, in which base, with how many places.

    [[fill]align][sign][z][#][0][width][grouping][.precision][kind]
-/

namespace Inlay

/-- How a value is laid out. A part that is not given is `none` or `false`. -/
structure Layout where
  fill : Option Char := none
  align : Option Char := none
  sign : Option Char := none
  /-- A negative number that rounds to zero loses its sign. -/
  plainZero : Bool := false
  alternate : Bool := false
  /-- A zero stands before the width. -/
  zeros : Bool := false
  width : Option Nat := none
  grouping : Option Char := none
  precision : Option Nat := none
  kind : Option Char := none
  deriving Inhabited

namespace Layout

/-- The four sides: left, right, centre, and between the sign and the digits. -/
def isAlign (c : Char) : Bool := c == '<' || c == '>' || c == '^' || c == '='

/-- A part that is there if the next character is accepted. -/
def optional (accept : Char → Bool) : List Char → Option Char × List Char
  | [] => (none, [])
  | c :: rest => if accept c then (some c, rest) else (none, c :: rest)

/-- A number at the start, in the digits of any script; too large a number is refused. -/
def scanNat (cs : List Char) : Except Misuse (Option Nat × List Char) :=
  match Text.takeDigits cs with
  | ([], _) => .ok (none, cs)
  | (digits, rest) =>
    let n := digits.foldl (fun n digit => n * 10 + digit) 0
    if n < Nat.pow 2 63 then .ok (some n, rest) else .error .badForm

/-- Fill and side. -/
def scanAlign : List Char → Option Char × Option Char × List Char
  | fill :: align :: rest =>
    if isAlign align then (some fill, some align, rest)
    else if isAlign fill then (none, some fill, align :: rest)
    else (none, none, fill :: align :: rest)
  | [align] => if isAlign align then (none, some align, []) else (none, none, [align])
  | [] => (none, none, [])

/-- The precision after the width. -/
def scanPrecision : List Char → Except Misuse (Option Nat × List Char)
  | '.' :: rest => do
    match ← scanNat rest with
    | (none, _) => .error .badForm
    | (some n, rest) => .ok (some n, rest)
  | cs => .ok (none, cs)

/-- May numbers of this kind be grouped with this character? -/
def groups (grouping : Char) (kind : Option Char) : Bool :=
  match kind with
  | none => true
  | some kind =>
    ['d', 'e', 'f', 'g', 'E', 'G', '%', 'F'].contains kind ||
      grouping == '_' && ['b', 'o', 'x', 'X'].contains kind

/-- The character that groups digits. Only one may be given. -/
def scanGrouping : List Char → Except Misuse (Option Char × List Char)
  | ',' :: ',' :: _ => .error .badForm
  | ',' :: '_' :: _ => .error .badForm
  | '_' :: '_' :: _ => .error .badForm
  | '_' :: ',' :: _ => .error .badForm
  | ',' :: rest => .ok (some ',', rest)
  | '_' :: rest => .ok (some '_', rest)
  | cs => .ok (none, cs)

/-- Read a layout. -/
def ofText (cs : List Char) : Except Misuse Layout := do
  let (fill, align, cs) := scanAlign cs
  let (sign, cs) := optional (fun c => c == ' ' || c == '+' || c == '-') cs
  let (plain, cs) := optional (· == 'z') cs
  let (alternate, cs) := optional (· == '#') cs
  let (zero, cs) := optional (fun c => c == '0' && fill.isNone) cs
  let (width, cs) ← scanNat cs
  let (grouping, cs) ← scanGrouping cs
  let (precision, cs) ← scanPrecision cs
  let kind ← match cs with
    | [] => pure none
    | [kind] => pure (some kind)
    | _ => .error .badForm
  if (grouping.map fun g => !groups g kind).getD false then .error .badForm
  return { fill, align, sign, plainZero := plain.isSome, alternate := alternate.isSome,
           zeros := zero.isSome, width, grouping, precision, kind }

/-- Pad a text on the side that the layout asks for. -/
def pad (layout : Layout) (side : Char) (fill : Char) (cs : List Char) : List Char :=
  let missing := layout.width.getD 0 - cs.length
  match layout.align.getD side with
  | '<' => cs ++ List.replicate missing fill
  | '^' => List.replicate (missing / 2) fill ++ cs ++ List.replicate (missing - missing / 2) fill
  | _ => List.replicate missing fill ++ cs

/-- The least number of characters that is too many. -/
def tooMany : Nat := Nat.pow 2 31

/-- A text, unless it would have too many characters. -/
def held (layout : Layout) (text : Unit → String) : Except Misuse String :=
  if tooMany ≤ layout.width.getD 0 then .error .tooLong else .ok (text ())

/-- Lay out a text: it stands on the left, and a precision cuts it. -/
def ofString (layout : Layout) (s : String) : Except Misuse String :=
  if layout.kind.getD 's' != 's' || layout.sign.isSome || layout.plainZero ||
      layout.alternate || layout.align == some '=' || layout.grouping.isSome then
    .error .badForm
  else
    let cs := match layout.precision with
      | some n => s.toList.take n
      | none => s.toList
    let fill := layout.fill.getD (if layout.zeros then '0' else ' ')
    layout.held fun _ => String.ofList (layout.pad '<' fill cs)

/-- Digits, last first, in groups of `size` with a separator between them, and zeros up to a least
width. `count` bounds the number of groups. -/
def group (separator : Char) (size : Nat) : Nat → Nat → List Char → List Char
  | 0, _, digits => digits
  | count + 1, width, digits =>
    let length := min size (max (max digits.length width) 1)
    let chars := digits.take length
    let part := chars ++ List.replicate (length - chars.length) '0'
    let digits := digits.drop length
    let width := width - length
    if digits.isEmpty ∧ width = 0 then part
    else part ++ separator :: group separator size count (width - 1) digits

/-- Lay out a number: its sign, what stands before its digits (`0x`), its whole digits, and all that
follows them. Numbers stand on the right. Where there are no whole digits, none are grouped. -/
def number (layout : Layout) (negative : Bool) (mark whole rest : List Char) : String :=
  let sign : List Char :=
    if negative then ['-']
    else match layout.sign with
      | some '+' => ['+']
      | some ' ' => [' ']
      | _ => []
  let align := layout.align.getD (if layout.zeros then '=' else '>')
  let fill := layout.fill.getD (if layout.zeros then '0' else ' ')
  let width :=
    if fill = '0' ∧ align = '=' then
      layout.width.getD 0 - (sign.length + mark.length + rest.length)
    else 0
  let size := if layout.kind.any (['b', 'o', 'x', 'X'].contains ·) then 4 else 3
  let digits := match layout.grouping with
    | some separator => if whole.isEmpty then [] else
      (group separator size (whole.length + width + 1) width whole.reverse).reverse
    | none => List.replicate (width - whole.length) '0' ++ whole
  let missing := layout.width.getD 0 -
    (sign.length + mark.length + digits.length + rest.length)
  let inner := if align = '=' then List.replicate missing fill else []
  let body := sign ++ mark ++ inner ++ digits ++ rest
  String.ofList ({ layout with align := some align }.pad '>' fill body)

/-- A number of the binary format has fewer digits than this, in all and after its point; zeros
follow them. -/
def mostDigits : Nat := 1100

/-- The digits of a floating-point number in the layouts `e`, `f` and `g`: whole digits, and all
that follows them. -/
def floatParts (kind : Char) (precision : Nat) (alternate dotZero : Bool) (num den : Nat) :
    List Char × List Char :=
  let fraction (digits : List Char) : List Char :=
    if digits.isEmpty then (if alternate then ['.'] else []) else '.' :: digits
  match kind with
  | 'f' =>
    let exact := min precision mostDigits
    let (whole, places) := Number.fixed num den exact
    (whole, fraction (places ++ List.replicate (precision - exact) '0'))
  | 'e' =>
    let exact := min precision mostDigits
    let (digits, power) := Number.significant num den (exact + 1)
    let places := digits.drop 1 ++ List.replicate (precision - exact) '0'
    (digits.take 1, fraction places ++ Binary64.exponentText 'e' 2 power)
  | _ =>
    let count := max precision 1
    let exact := min count mostDigits
    let (digits, power) := Number.significant num den exact
    let digits := if alternate then digits ++ List.replicate (count - exact) '0' else digits
    let kept := if alternate then digits else
      digits.take 1 ++ Binary64.dropZeros (digits.drop 1)
    if power < -4 ∨ (count : Int) - (if dotZero then 1 else 0) ≤ power then
      (kept.take 1, fraction (kept.drop 1) ++ Binary64.exponentText 'e' 2 power)
    else if power < 0 then
      let kept := if alternate then digits else Binary64.dropZeros digits
      (['0'], '.' :: List.replicate ((-power).toNat - 1) '0' ++ kept)
    else
      let point := power.toNat + 1
      let kept := kept ++ List.replicate (point - kept.length) '0'
      let places := kept.drop point
      let places := if places.isEmpty ∧ dotZero then ['0'] else places
      (kept.take point, fraction places)

/-- Lay out a floating-point number. -/
def ofFloat (layout : Layout) (x : Binary64) : Except Misuse String :=
  let kind := layout.kind.getD 'r'
  let upper := kind == 'E' || kind == 'F' || kind == 'G'
  let shape := match kind with
    | 'n' => 'g'
    | '%' => 'f'
    | 'r' => if layout.precision.isSome then 'g' else 'r'
    | kind => kind.toLower
  if !(['e', 'f', 'g', 'r'].contains shape) || layout.kind == some 'r' then .error .badForm
  else if tooMany ≤ layout.precision.getD 0 then .error .badForm
  else layout.held fun _ =>
    let raise (cs : List Char) : List Char := if upper then cs.map Char.toUpper else cs
    let percent : List Char := if kind == '%' then ['%'] else []
    let x := if kind == '%' then x.scaleBy 100 else x
    match x with
    | .nan => layout.number false [] [] (raise "nan".toList ++ percent)
    | .infinite negative => layout.number negative [] [] (raise "inf".toList ++ percent)
    | .finite negative mantissa exponent =>
      let (num, den) := Binary64.ratio false mantissa exponent
      let (whole, rest) :=
        if shape = 'r' then
          let cs := (Binary64.sizeText mantissa exponent).toList
          let rest := cs.dropWhile Char.isDigit
          (cs.takeWhile Char.isDigit,
            if layout.alternate && rest.head? != some '.' then '.' :: rest else rest)
        else
          floatParts shape (layout.precision.getD 6) layout.alternate (kind == 'r')
            num.natAbs den
      let zero := (whole ++ rest.takeWhile (· != 'e')).all fun c => c == '0' || c == '.'
      let negative := negative && !(layout.plainZero && zero)
      layout.number negative [] whole (raise rest ++ percent)

/-- Lay out an integer. In base ten it may be too long to be written. -/
def ofInt (layout : Layout) (n : Int) : Except Misuse String :=
  let kind := layout.kind.getD 'd'
  if ['e', 'E', 'f', 'F', 'g', 'G', '%'].contains kind then
    match Binary64.ofInt n with
    | .infinite _ => .error .outOfRange
    | x => layout.ofFloat x
  else if layout.precision.isSome || layout.plainZero then .error .badForm
  else if kind == 'c' then
    if layout.sign.isSome || layout.alternate then .error .badForm
    else if n < 0 ∨ 0x110000 ≤ n then .error .outOfRange
    else layout.held fun _ => layout.number false [] [] [Char.ofNat n.toNat]
  else
    let inBase (base : Nat) (mark : String) : Except Misuse String :=
      let digits := Nat.toDigits base n.natAbs
      let digits := if kind == 'X' then digits.map Char.toUpper else digits
      layout.held fun _ =>
        layout.number (decide (n < 0)) (if layout.alternate then mark.toList else []) digits []
    match kind with
    | 'd' | 'n' => if (Value.int n).hasText then inBase 10 "" else .error .badForm
    | 'b' => inBase 2 "0b"
    | 'o' => inBase 8 "0o"
    | 'x' => inBase 16 "0x"
    | 'X' => inBase 16 "0X"
    | _ => .error .badForm

end Layout

/-- A value as the layout asks for. Without a layout a value is its text, if it has one; values that
are no texts and no numbers take none. -/
def Value.laidOut (value : Value) (spec : List Char) : Except Misuse String :=
  if spec.isEmpty then value.shown
  else
    match value with
    | .text s => do (← Layout.ofText spec).ofString s
    | .int n => do (← Layout.ofText spec).ofInt n
    | .bool b => do (← Layout.ofText spec).ofInt (if b then 1 else 0)
    | .float x => do (← Layout.ofText spec).ofFloat x
    | _ => .error .wrongKind

end Inlay
