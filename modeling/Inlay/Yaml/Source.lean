import Inlay.Fault.Basic
import Inlay.Text.Stream
import Inlay.Yaml.Cursor

/-!
# What can be read of a data file

A data file is read page by page, so what is wrong with its bytes or characters only counts if the
reading of its tokens comes to the page that it is on. A `Source` is the text of the pages before,
and the problem that stands behind them.
-/

namespace Inlay.Yaml

/-- Why a file has no value. -/
inductive Problem where
  /-- The file is malformed. -/
  | malformed
  /-- The file ends within a token. -/
  | unfinished
  /-- The file holds something that no value can be made of. -/
  | misuse (misuse : Misuse)
  deriving DecidableEq, Inhabited

/-- Refuse a malformed file. -/
def malformed {α : Type} : Except Problem α := .error .malformed

/-- The text of a file as far as it can be read, and what stands behind it. -/
structure Source where
  chars : List Char
  obstacle : Option Problem := none
  deriving Inhabited

namespace Source

/-- The number of characters on a page. -/
def pageSize : Nat := 4096

/-- A page: its characters, or why it cannot be read. -/
def page (stream : Text.Stream) : Except Problem (List Char × Text.Stream) :=
  match stream.take pageSize with
  | some read => .ok read
  | none => .error (.misuse .notText)

/-- Refuse characters that no file may hold. -/
def check (chars : List Char) : Except Problem Unit :=
  if chars.all isAllowed then .ok () else .error .malformed

/-- The pages of a file up to its end or to an obstacle; `count` bounds their number. -/
def pages : Nat → Text.Stream → Source
  | 0, _ => { chars := [] }
  | count + 1, stream =>
    match page stream with
    | .error problem => { chars := [], obstacle := some problem }
    | .ok ([], _) => { chars := [] }
    | .ok (chars, stream) =>
      match check chars with
      | .error problem => { chars := [], obstacle := some problem }
      | .ok () =>
        let source := pages count stream
        { source with chars := chars ++ source.chars }

/-- The text of a file. The first two pages are read together. -/
def ofBytes (bytes : List UInt8) : Source :=
  let start : Except Problem (List Char × Text.Stream) := do
    let (first, stream) ← page { bytes }
    let (second, stream) ← page stream
    check (first ++ second)
    return (first ++ second, stream)
  match start with
  | .error problem => { chars := [], obstacle := some problem }
  | .ok (chars, stream) =>
    let source := pages (bytes.length + 1) stream
    { source with chars := chars ++ source.chars }

end Source

end Inlay.Yaml
