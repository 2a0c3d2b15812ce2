import Inlay.File.Workspace
import Inlay.Log.Event
import Inlay.Store.Memory
import Inlay.Text.Encoding.Names

/-!
# Templates in a directory

A store that reads templates from the files below a directory. Identifiers are paths as seen from
the directory; one that leads out of it is refused before any file is looked at. A template that was
read stays in the cache under its identifier until the cache is cleared.
-/

namespace Inlay

open File Log

/-- The names of the reasons why a template is not there. -/
inductive NoTemplate where
  /-- The identifier leads out of the directory. -/
  | escapes
  /-- The file system refuses the path, or the encoding the content. That a file may not be read for
  want of a permission does not come up. -/
  | unreadable
  /-- No file stands at the location. -/
  | noFile (location : String)
  deriving DecidableEq, Inhabited

/-- A reason as reports tell it. -/
def NoTemplate.detail (identifier : String) : NoTemplate → String
  | .escapes => "Identifier escapes the templates directory: " ++ identifier
  | .unreadable => "Cannot read template '" ++ identifier ++ "': <reason>"
  | .noFile location => "No file at " ++ location

/-- A directory of templates. -/
structure DirectoryStore where
  path : Path
  /-- The name of the encoding of the files. -/
  encoding : Value := .text "utf-8"
  /-- The extensions of the files that are listed. -/
  extensions : List String := [".html"]
  /-- Are templates kept once they are read? -/
  caches : Bool := true
  logger : Option Logger := none
  /-- The templates that are kept, under their identifiers. -/
  cache : List (String × Template) := []
  deriving Inhabited

/-- The end of a load: the template or the reason to stop, what was logged, and the store after. -/
structure Loading where
  result : Except Stop Template
  lines : List Line
  store : DirectoryStore

namespace DirectoryStore

/-- The extensions of the files that are listed, given those that are asked for. -/
def listed (extensions : List String) : List String :=
  if extensions.isEmpty then [".html"] else extensions

/-- Write an event to the store's logger, if it has one. -/
def note (store : DirectoryStore) (event : StoreEvent) : Except Misuse (List Line) :=
  match store.logger with
  | none => .ok []
  | some logger => logger.write event.entry

/-- Where an identifier leads, as long as that is inside the directory. -/
def resolve (workspace : Workspace) (store : DirectoryStore) (identifier : String) :
    Except NoTemplate Location :=
  let path := Path.ofString identifier
  if store.path.hasNul || path.hasNul then .error .unreadable
  else
    let root := workspace.locate store.path
    let location := root.ofPath path
    if root.holds location then .ok location else .error .escapes

/-- The text of bytes in the store's encoding. -/
def decode (store : DirectoryStore) (bytes : ByteArray) : Except Misuse (Option String) :=
  match store.encoding with
  | .null => .ok (Text.Encoding.utf8.decode? bytes)
  | .text name =>
    if name.toList.contains '\x00' then .ok none
    else
      match Text.Encoding.ofName? name with
      | some encoding => .ok (encoding.decode? bytes)
      | none => .error .unknownEncoding
  | _ => .error .wrongKind

/-- Read the source at a location, with every line ended by a line feed alone. -/
def readAt (workspace : Workspace) (store : DirectoryStore) (location : Location) :
    Except Misuse (Except NoTemplate String) :=
  match workspace.probe location with
  | .error _ => .ok (.error .unreadable)
  | .ok (some (.file bytes)) => do
    match ← store.decode bytes with
    | none => .ok (.error .unreadable)
    | some text => .ok (.ok (String.ofList (Text.plainLines text.toList)))
  | .ok _ => .ok (.error (.noFile (workspace.textOf location)))

/-- Read the source of an identifier, and tell where it was found. -/
def read (workspace : Workspace) (store : DirectoryStore) (identifier : String) :
    Except Misuse (Except NoTemplate (Location × String)) :=
  match store.resolve workspace identifier with
  | .error reason => .ok (.error reason)
  | .ok location => do
    return (← store.readAt workspace location).map fun source => (location, source)

/-- The report that a template is not there. -/
def absent (reporter : Reporter) (identifier : String) (reason : NoTemplate) : Stop :=
  reporter.stop Code.templateNotFound [
    (.text "identifier", .text identifier),
    (.text "detail", .text (reason.detail identifier))]

/-- The end of a load that logs an event, unless the logger stops it. -/
def logged (store : DirectoryStore) (event : StoreEvent) (result : Except Stop Template)
    (after : DirectoryStore) : Loading :=
  match store.note event with
  | .ok lines => ⟨result, lines, after⟩
  | .error misuse => ⟨.error (.misuse misuse), [], store⟩

/-- The store after a template was read. -/
def keep (store : DirectoryStore) (identifier : String) (template : Template) : DirectoryStore :=
  if store.caches then { store with cache := store.cache ++ [(identifier, template)] } else store

/-- Read a template from its file. An identifier that leads out of the directory is not logged, nor
is a malformed source. -/
def loadFile (reporter : Reporter) (workspace : Workspace) (store : DirectoryStore)
    (identifier : String) : Loading :=
  match store.read workspace identifier with
  | .error misuse => ⟨.error (.misuse misuse), [], store⟩
  | .ok (.error .escapes) => ⟨.error (absent reporter identifier .escapes), [], store⟩
  | .ok (.error reason) =>
    store.logged (.missing identifier) (.error (absent reporter identifier reason)) store
  | .ok (.ok (location, source)) =>
    match Template.compile reporter (.text identifier) source with
    | .error reason => ⟨.error reason, [], store⟩
    | .ok template =>
      store.logged (.loaded identifier (workspace.textOf location)) (.ok template)
        (store.keep identifier template)

/-- The template of an identifier: from the cache if it is kept there, else from its file. -/
def load (reporter : Reporter) (workspace : Workspace) (store : DirectoryStore)
    (identifier : String) : Loading :=
  match if store.caches then store.cache.lookup identifier else none with
  | some template => store.logged (.cacheHit identifier) (.ok template) store
  | none => store.loadFile reporter workspace identifier

/-- Drop one template from the cache, or all. -/
def invalidate (store : DirectoryStore) : Option String → DirectoryStore
  | none => { store with cache := [] }
  | some identifier =>
    { store with cache := store.cache.filter fun entry => entry.1 != identifier }

/-- The identifiers of the files below the directory that have one of the extensions, in the order
of their characters. To find them, everything below the directory is looked at. -/
def discover (workspace : Workspace) (store : DirectoryStore) : Except Misuse (List String) := do
  match ← workspace.find store.path with
  | some (location, .directory) =>
    if workspace.isWithinReach store.path then
      let files := (workspace.filesBelow location).filter fun parts =>
        store.extensions.contains (Path.extension (parts.getLastD ""))
      return (files.map fun parts => "/".intercalate parts).mergeSort fun a b => !decide (b < a)
    else .error .refusedPath
  | _ => .ok []

end DirectoryStore

end Inlay
