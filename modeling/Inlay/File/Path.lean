/-!
# Paths

A path as it is written, and the location that it leads to. Empty parts and single points of a path
say nothing and are dropped when it is read; two points stay, and lead upwards when the path is
followed. A path that does not start from the top is followed from a location that is given with it.
-/

namespace Inlay.File

/-- A path as it is written: what it starts from, and its parts. -/
structure Path where
  /-- Empty, `/` or `//`. -/
  root : String
  parts : List String
  deriving DecidableEq, Inhabited

/-- Cut a text at a character. -/
def splitAt (mark : Char) : List Char → List (List Char)
  | [] => [[]]
  | c :: rest =>
    if c = mark then [] :: splitAt mark rest
    else
      match splitAt mark rest with
      | [] => [[c]]
      | part :: parts => (c :: part) :: parts

namespace Path

/-- The parts of a written path that say something. -/
def partsOf (cs : List Char) : List String :=
  ((splitAt '/' cs).filter fun part => part ≠ [] ∧ part ≠ ['.']).map String.ofList

/-- What a written path starts from. Exactly two slashes are kept apart from one. -/
def rootOf (cs : List Char) : String :=
  match cs with
  | '/' :: '/' :: '/' :: _ => "/"
  | '/' :: '/' :: _ => "//"
  | '/' :: _ => "/"
  | _ => ""

/-- Read a path. -/
def ofString (s : String) : Path := ⟨rootOf s.toList, partsOf s.toList⟩

/-- Does the path start from the top? -/
def isRooted (path : Path) : Bool := !path.root.isEmpty

/-- The path as it is written; one that says nothing is a point. -/
def text (path : Path) : String :=
  if path.root.isEmpty && path.parts.isEmpty then "."
  else path.root ++ "/".intercalate path.parts

/-- The path that is found at `second` as seen from `first`. -/
def join (first second : Path) : Path :=
  if second.isRooted then second else ⟨first.root, first.parts ++ second.parts⟩

/-- Does the path hold the character that no file name has? -/
def hasNul (path : Path) : Bool := path.parts.any fun part => part.toList.contains '\x00'

/-- The extension of a file name: from its last point on, unless that stands first or last. -/
def extension (name : String) : String :=
  let reversed := name.toList.reverse
  let tail := (reversed.takeWhile (· != '.')).reverse
  let before := reversed.dropWhile (· != '.')
  if tail.isEmpty || before.length ≤ 1 then "" else String.ofList ('.' :: tail)

end Path

/-- A place in the file system, by the names that lead to it from the top. -/
structure Location where
  parts : List String
  /-- Two points are not a name. -/
  named : ".." ∉ parts
  deriving DecidableEq

namespace Location

/-- The top of the file system. -/
def top : Location := ⟨[], List.not_mem_nil⟩

instance : Inhabited Location := ⟨top⟩

/-- The directory that holds a location; the top holds itself. -/
def parent (location : Location) : Location :=
  ⟨location.parts.dropLast, fun h => location.named (List.dropLast_subset _ h)⟩

/-- Follow one part of a path. -/
def step (location : Location) (part : String) : Location :=
  if h : part = ".." then location.parent
  else ⟨location.parts ++ [part], by simp [location.named, Ne.symm h]⟩

/-- Where a path starts, as seen from a location. -/
def start (base : Location) (path : Path) : Location := if path.isRooted then top else base

/-- Where a path leads as seen from a location, whether or not anything is there. -/
def ofPath (base : Location) (path : Path) : Location := path.parts.foldl step (base.start path)

/-- Is `inner` the location itself or below it? -/
def holds (outer inner : Location) : Bool := outer.parts.isPrefixOf inner.parts

/-- The location as a path. -/
def text (location : Location) : String := "/" ++ "/".intercalate location.parts

end Location

end Inlay.File
