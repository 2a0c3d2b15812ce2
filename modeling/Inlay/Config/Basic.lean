import Inlay.Log.Logger
import Inlay.Template.Compile

/-!
# Configurations

What can be configured, with its defaults. Some settings are checked when a configuration is loaded
and have the type that they are used at; the others are values of any kind, as they were given.
-/

namespace Inlay

namespace Config

/-- A group of settings, or a value that was given in its place. -/
inductive Section (α : Type) where
  | given (fields : α)
  | other (value : Value)
  deriving Inhabited

/-- The templates directory. -/
structure Templates where
  directory : String := "./templates"
  encoding : Value := .text "utf-8"
  extensions : Option (List String) := some [".html", ".xml", ".txt"]
  cache : Value := .bool true
  deriving Inhabited

/-- Rendering. -/
structure Rendering where
  /-- How deep templates may be included in each other. -/
  maxIncludeDepth : Option Nat := some 32
  literalOrigin : Value := .text Template.literalOrigin
  deriving Inhabited

/-- The switches of the components that log. -/
structure Components where
  render : Value := .bool true
  store : Value := .bool true
  config : Value := .bool true
  deriving Inhabited

/-- How contexts of log entries are shown. -/
structure LogOptions where
  showParams : Value := .bool true
  truncateAt : Value := .int 200
  deriving Inhabited

/-- The format of log lines, or a value that was given in its place. -/
inductive FormatSetting where
  | known (format : Log.Format)
  | other (value : Value)
  deriving Inhabited

/-- Logging. -/
structure Logging where
  level : Log.Level := .info
  format : FormatSetting := .known .colored
  components : Section Components := .given {}
  options : Section LogOptions := .given {}
  deriving Inhabited

end Config

/-- A configuration. -/
structure Config where
  templates : Config.Templates := {}
  render : Config.Rendering := {}
  logging : Config.Logging := {}
  deriving Inhabited

namespace Config

/-- A named value. -/
def named (name : String) (value : Value) : Value × Value := (.text name, value)

/-- The templates directory as a mapping. -/
def Templates.dump (templates : Templates) : Value := .map [
  named "directory" (.text templates.directory),
  named "encoding" templates.encoding,
  named "extensions" (match templates.extensions with
    | some extensions => .list (extensions.map .text)
    | none => .null),
  named "cache" templates.cache]

/-- Rendering as a mapping. -/
def Rendering.dump (render : Rendering) : Value := .map [
  named "max_include_depth" (match render.maxIncludeDepth with
    | some depth => .int depth
    | none => .null),
  named "literal_origin" render.literalOrigin]

/-- A group of settings as a mapping. -/
def Section.dump {α : Type} (dumpFields : α → Value) : Section α → Value
  | .given settings => dumpFields settings
  | .other value => value

/-- The switches as a mapping. -/
def Components.dump (components : Components) : Value := .map [
  named "render" components.render,
  named "store" components.store,
  named "config" components.config]

/-- The options as a mapping. -/
def LogOptions.dump (options : LogOptions) : Value := .map [
  named "show_params" options.showParams,
  named "truncate_at" options.truncateAt]

/-- The format as a value. -/
def FormatSetting.dump : FormatSetting → Value
  | .known format => .text format.name
  | .other value => value

/-- Logging as a mapping. -/
def Logging.dump (logging : Logging) : Value := .map [
  named "level" (.text logging.level.name),
  named "format" logging.format.dump,
  named "components" (logging.components.dump Components.dump),
  named "options" (logging.options.dump LogOptions.dump)]

/-- A configuration as nested mappings with every setting. -/
def dump (config : Config) : Value := .map [
  named "templates" config.templates.dump,
  named "render" config.render.dump,
  named "logging" config.logging.dump]

/-- The logger that a configuration describes. Its groups of settings must not have been replaced by
other values. -/
def logger (now : Moment) (config : Config) : Except Misuse Logger :=
  match config.logging.options, config.logging.components with
  | .given options, .given components => .ok {
      level := config.logging.level
      format := match config.logging.format with
        | .known format => format
        | .other _ => .colored
      showParams := options.showParams.isTruthy
      truncateAt := options.truncateAt
      components := [
        ("render", components.render.isTruthy),
        ("store", components.store.isTruthy),
        ("config", components.config.isTruthy)]
      now }
  | _, _ => .error .noAttribute

end Config

end Inlay
