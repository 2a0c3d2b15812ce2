import Inlay.Fault.Basic
import Inlay.File.Path

/-!
# The file system

The files and directories that the program can see, as a list from their locations to what stands
there, and the directory in which it works. There are no links and no permissions: every directory
can be looked through and every file can be read, so all that the file system refuses are paths that
are too long for it.
-/

namespace Inlay.File

/-- What stands at a location. -/
inductive Entry where
  /-- A file, which may be read. -/
  | file (content : ByteArray)
  | directory
  deriving Inhabited

/-- Does a directory stand there? -/
def Entry.isDirectory : Entry → Bool
  | .file _ => false
  | .directory => true

/-- The file system, as it is seen from the directory in which the program works. -/
structure Workspace where
  /-- How messages call the directory. -/
  name : String
  /-- Where the directory is. Unless it is told, that is a place to which no written path leads,
  since the parts of a written path are not empty. -/
  place : Location := ⟨["", ""], by decide⟩
  /-- What stands where. The directory and those that hold it are there without being listed. -/
  entries : List (List String × Entry) := []
  deriving Inhabited

namespace Workspace

/-- The location of a path. -/
def locate (workspace : Workspace) (path : Path) : Location := workspace.place.ofPath path

/-- What stands at a location. -/
def entryAt? (workspace : Workspace) (location : Location) : Option Entry :=
  if location.holds workspace.place then some .directory
  else workspace.entries.lookup location.parts

/-- A location as messages give it. -/
def textOf (workspace : Workspace) (location : Location) : String :=
  if workspace.place.holds location then
    "/".intercalate (workspace.name :: location.parts.drop workspace.place.parts.length)
  else location.text

/-- The longest name of a file, in bytes of UTF-8. -/
def longestName : Nat := 255

/-- Follow the parts of a path from a location: each of them but the last must be in a directory. A
name that is too long is refused where it is looked for. -/
def walk (workspace : Workspace) (location : Location) :
    List String → Except Misuse (Option (Location × Entry))
  | [] => .ok ((workspace.entryAt? location).map fun entry => (location, entry))
  | part :: rest =>
    match workspace.entryAt? location with
    | some .directory =>
      if longestName < part.utf8ByteSize then .error .refusedPath
      else walk workspace (location.step part) rest
    | _ => .ok none

/-- The longest path, in bytes of UTF-8. -/
def longestPath : Nat := 4095

/-- What a path leads to. -/
def find (workspace : Workspace) (path : Path) : Except Misuse (Option (Location × Entry)) :=
  if path.hasNul then .ok none
  else if longestPath < path.text.utf8ByteSize then .error .refusedPath
  else workspace.walk (workspace.place.start path) path.parts

/-- What stands at a location, found from the top. -/
def probe (workspace : Workspace) (location : Location) : Except Misuse (Option Entry) := do
  if longestPath < location.text.utf8ByteSize then .error .refusedPath
  return (← workspace.walk .top location.parts).map Prod.snd

/-- The entries without those at or below a location. -/
def without (parts : List String) (entries : List (List String × Entry)) :
    List (List String × Entry) :=
  entries.filter fun entry => !parts.isPrefixOf entry.1

/-- Make the directories that hold a location, as far as they are missing. -/
def withParents (parts : List String) (entries : List (List String × Entry)) :
    List (List String × Entry) :=
  ((List.range' 1 (parts.length - 1)).map parts.take).foldl
    (fun entries place =>
      if (entries.lookup place).isSome then entries else entries ++ [(place, .directory)]) entries

/-- Put an entry at a location, in place of what stood there. -/
def put (workspace : Workspace) (path : Path) (entry : Entry) : Workspace :=
  let parts := (workspace.locate path).parts
  { workspace with
    entries := withParents parts (without parts workspace.entries) ++ [(parts, entry)] }

/-- Make a directory, unless there is one. -/
def makeDirectory (workspace : Workspace) (path : Path) : Workspace :=
  let location := workspace.locate path
  if (workspace.entryAt? location).any Entry.isDirectory then workspace
  else workspace.put path .directory

/-- Delete what stands at a location, with everything below it. -/
def remove (workspace : Workspace) (path : Path) : Workspace :=
  { workspace with entries := without (workspace.locate path).parts workspace.entries }

/-- The files below a location, by the rest of their paths. -/
def filesBelow (workspace : Workspace) (location : Location) : List (List String) :=
  workspace.entries.filterMap fun (parts, entry) =>
    if !entry.isDirectory && location.parts.isPrefixOf parts then
      some (parts.drop location.parts.length)
    else none

/-- Where something stands, by the names that lead there from the top. -/
def occupied (workspace : Workspace) : List (List String) :=
  (List.range (workspace.place.parts.length + 1)).map workspace.place.parts.take ++
    workspace.entries.map Prod.fst

/-- Can all that stands below the location of a path be looked at along the path, which the names
on the way down make longer? -/
def isWithinReach (workspace : Workspace) (path : Path) : Bool :=
  let root := (workspace.locate path).parts
  workspace.occupied.all fun parts =>
    !root.isPrefixOf parts ||
      (path.join ⟨"", parts.drop root.length⟩).text.utf8ByteSize ≤ longestPath

end Workspace

end Inlay.File
