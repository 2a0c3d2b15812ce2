import Inlay.Config.Environment
import Inlay.Config.Read
import Inlay.File.Workspace
import Inlay.Yaml.Load

/-!
# Loading configurations

A loader holds the configuration that was loaded last, and the file that it is from. A load that
fails changes neither. Reloading reads the file again and tells those who asked to be told.
-/

namespace Inlay

open File Log

namespace Config

/-- What a loader finds around it. -/
structure Surroundings where
  reporter : Reporter
  workspace : Workspace
  environment : Environment
  /-- How deep lists and mappings may be nested below the root of a file, for there to be room to
  replace the references in them. -/
  room : Nat
  deriving Inhabited

/-- What loads configurations. -/
structure Loader where
  /-- The configuration that was loaded last. -/
  config : Option Config := none
  /-- The file that it is from. -/
  path : Option Path := none
  logger : Option Logger := none
  /-- Those who are told of a reload, in the order in which they asked. They are known by their
  names: being told neither fails nor turns back to the loader. -/
  listeners : List String := []
  deriving Inhabited

/-- The end of a load: the configuration or the reason to stop, what was logged, who was told, and
the loader after. -/
structure Load where
  result : Except Stop Config
  lines : List Line := []
  told : List (String × Config) := []
  loader : Loader
  deriving Inhabited

namespace Loader

/-- Log entries in order, until the logger stops. -/
def note (loader : Loader) : List Log.Entry → List Line × Except Misuse Unit
  | [] => ([], .ok ())
  | entry :: rest =>
    match loader.logger with
    | none => ([], .ok ())
    | some logger =>
      match logger.write entry with
      | .error misuse => ([], .error misuse)
      | .ok lines =>
        let (more, result) := loader.note rest
        (lines ++ more, result)

/-- The entry of a warning. -/
def warningEntry (issue : Issue) : Log.Entry where
  level := .warn
  component := "config"
  message := issue.message
  context := [named "path" issue.path]

/-- The entry of a load. -/
def loadedEntry : Log.Entry where
  level := .info
  component := "config"
  message := "Configuration loaded successfully"

/-- The entry of a load that found no file. -/
def noFileEntry (path : Path) : Log.Entry where
  level := .info
  component := "config"
  message := "No config file found, using default configuration"
  context := [named "path" (.text path.text)]

/-- Load a mapping as the contents of a file, or of none. -/
def loadEntries (around : Surroundings) (loader : Loader) (data : Entries)
    (path : Option Path := none) : Load :=
  match ofEntries around.reporter data with
  | .error reason => { result := .error reason, loader }
  | .ok (config, warnings) =>
    let loader := { loader with config := some config, path }
    let (lines, result) := loader.note (warnings.map warningEntry ++ [loadedEntry])
    { result := match result with
        | .ok () => .ok config
        | .error misuse => .error (.misuse misuse)
      lines, loader }

/-- Load the defaults. -/
def loadDefaults (around : Surroundings) (loader : Loader) : Load :=
  loader.loadEntries around []

/-- Does anything stand at a path? -/
def isThere (workspace : Workspace) (path : Path) : Except Misuse Bool := do
  return (← workspace.find path).isSome

/-- The home directory. -/
def home (environment : Environment) : Path :=
  Path.ofString <| match environment.lookup "HOME" with
    | some home => if home.toList.all (· == '/') then "/" else home
    | none => "/"

/-- Where a configuration is looked for if no path is given. -/
def defaultPath (around : Surroundings) : Except Misuse Path := do
  match around.environment.lookup "STENCIL_CONFIG_PATH" with
  | some path => if path.isEmpty then search else return Path.ofString path
  | none => search
where
  /-- The file here, the one in the home directory, or the one here that is not there. -/
  search : Except Misuse Path := do
    let here := Path.ofString "stencil.yaml"
    let atHome := (home around.environment).join (Path.ofString ".stencil/config.yaml")
    if ← isThere around.workspace here then return here
    if ← isThere around.workspace atHome then return atHome
    return here

/-- The mapping that a file holds, its references replaced. A file that holds nothing, or a value
that counts as nothing, holds an empty mapping. -/
def mappingOf (around : Surroundings) (path : Path) (source : Yaml.Source) :
    Except Stop Entries :=
  match Yaml.load source with
  | .error (.misuse misuse) => .error (.misuse misuse)
  | .error _ => .error (invalid around.reporter "Invalid YAML in config file: <yaml>")
  | .ok found =>
    match (found.getD .null).orElse (.map []) with
    | .map entries =>
      match resolveEntries around.environment around.room entries with
      | .ok entries => .ok entries
      | .error (.required message) => .error (invalid around.reporter message)
      | .error .endless => .error (.misuse .endless)
    | _ =>
      .error (invalid around.reporter ("Configuration root must be a mapping: " ++ path.text))

/-- Load a file that is there. -/
def loadFile (around : Surroundings) (loader : Loader) (path : Path) (overrides : Entries)
    (bytes : ByteArray) : Load :=
  match mappingOf around path (.ofBytes bytes.toList) with
  | .error reason => { result := .error reason, loader }
  | .ok data => loader.loadEntries around (Entries.overlay data overrides) path

/-- Load where there is no file: the defaults, if they may be used. -/
def loadMissing (around : Surroundings) (loader : Loader) (path : Path) (useDefaults : Bool)
    (overrides : Entries) : Load :=
  if useDefaults then
    match loader.note [noFileEntry path] with
    | (lines, .error misuse) => { result := .error (.misuse misuse), lines, loader }
    | (lines, .ok ()) =>
      let load := loader.loadEntries around overrides
      { load with lines := lines ++ load.lines }
  else
    { result := .error (invalid around.reporter
        ("Configuration file not found: " ++ path.text)), loader }

/-- Load a path. -/
def loadPath (around : Surroundings) (loader : Loader) (path : Path) (useDefaults : Bool)
    (overrides : Entries) : Load :=
  match around.workspace.find path with
  | .error misuse => { result := .error (.misuse misuse), loader }
  | .ok none => loader.loadMissing around path useDefaults overrides
  | .ok (some (_, .directory)) => { result := .error (.misuse .isDirectory), loader }
  | .ok (some (_, .file bytes)) => loader.loadFile around path overrides bytes

/-- Load a path, or the first of the usual ones. Overrides are laid over what the file holds. -/
def load (around : Surroundings) (loader : Loader) (path : Option Path)
    (useDefaults : Bool := true) (overrides : Entries := []) : Load :=
  match path.map Except.ok |>.getD (defaultPath around) with
  | .error misuse => { result := .error (.misuse misuse), loader }
  | .ok path => loader.loadPath around path useDefaults overrides

/-- The configuration that was loaded last. -/
def get (around : Surroundings) (loader : Loader) : Except Stop Config :=
  match loader.config with
  | some config => .ok config
  | none => .error (invalid around.reporter "Configuration not loaded")

/-- Read the file of the configuration again, and tell those who asked to be told. -/
def reload (around : Surroundings) (loader : Loader) : Load :=
  match loader.path with
  | none =>
    { result := .error (invalid around.reporter "No config path set, cannot reload"), loader }
  | some path =>
    let load := loader.loadPath around path true []
    match load.result with
    | .ok config => { load with told := load.loader.listeners.map fun name => (name, config) }
    | .error _ => load

/-- Ask to be told of reloads. -/
def onChange (loader : Loader) (name : String) : Loader :=
  { loader with listeners := loader.listeners ++ [name] }

end Loader

end Config

end Inlay
