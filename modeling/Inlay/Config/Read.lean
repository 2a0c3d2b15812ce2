import Inlay.Config.Validate

/-!
# Reading a configuration from a mapping

Settings that are not given have their defaults. A mapping is validated before it is read, so the
settings that `Inlay.Config.Validate` checks have the right kind; the only thing that can still go
wrong is the name of a log format.
-/

namespace Inlay.Config

/-- A setting that is taken as it is. -/
def setting (entries : Entries) (name : String) (default : Value) : Value :=
  (entries.field? name).getD default

/-- The texts among values. -/
def textsOf (values : List Value) : List String :=
  values.filterMap fun
    | .text text => some text
    | _ => none

/-- The templates directory. -/
def Templates.read (entries : Entries) : Templates :=
  let plain : Templates := {}
  { directory := match entries.field? "directory" with
      | some (.text directory) => directory
      | _ => plain.directory
    encoding := setting entries "encoding" plain.encoding
    extensions := match entries.field? "extensions" with
      | none => plain.extensions
      | some (.list members) => some (textsOf members)
      | some _ => none
    cache := setting entries "cache" plain.cache }

/-- Rendering. -/
def Rendering.read (entries : Entries) : Rendering :=
  let plain : Rendering := {}
  { maxIncludeDepth := match entries.field? "max_include_depth" with
      | none => plain.maxIncludeDepth
      | some (.int depth) => some depth.toNat
      | some _ => none
    literalOrigin := setting entries "literal_origin" plain.literalOrigin }

/-- The switches of components. -/
def Components.read (entries : Entries) : Components :=
  let plain : Components := {}
  { render := setting entries "render" plain.render
    store := setting entries "store" plain.store
    config := setting entries "config" plain.config }

/-- The options of log lines. -/
def LogOptions.read (entries : Entries) : LogOptions :=
  let plain : LogOptions := {}
  { showParams := setting entries "show_params" plain.showParams
    truncateAt := setting entries "truncate_at" plain.truncateAt }

/-- A group of settings within a group. -/
def Section.read {α : Type} (readFields : Entries → α) : Option Value → Section α
  | none => .given (readFields [])
  | some (.map entries) => .given (readFields entries)
  | some value => .other value

/-- The format of log lines; a text must be the name of one. -/
def FormatSetting.read : Option Value → Except String FormatSetting
  | none => .ok (.known .colored)
  | some (.text name) =>
    match Log.Format.ofName? name with
    | some format => .ok (.known format)
    | none => .error (Text.quoted name ++ " is not a valid LogFormat")
  | some value => .ok (.other value)

/-- Logging. -/
def Logging.read (entries : Entries) : Except String Logging := do
  let plain : Logging := {}
  return {
    level := match entries.field? "level" with
      | some (.text name) => (Log.Level.ofName? name).getD plain.level
      | _ => plain.level
    format := ← FormatSetting.read (entries.field? "format")
    components := Section.read Components.read (entries.field? "components")
    options := Section.read LogOptions.read (entries.field? "options") }

/-- The configuration of a mapping that was found valid. -/
def read (data : Entries) : Except String Config := do
  return {
    templates := Templates.read (sectionEntries data "templates")
    render := Rendering.read (sectionEntries data "render")
    logging := ← Logging.read (sectionEntries data "logging") }

/-- The line that reports an issue. -/
def Issue.report (issue : Issue) : String := "- " ++ issue.path.asText ++ ": " ++ issue.message

/-- The report that a configuration is invalid. -/
def invalid (reporter : Reporter) (detail : String) : Stop :=
  reporter.stop Code.configInvalid [(.text "detail", .text detail)]

/-- Check a mapping and read its configuration, with the warnings about it. -/
def ofEntries (reporter : Reporter) (data : Entries) : Except Stop (Config × List Issue) :=
  match validate data with
  | .error misuse => .error (.misuse misuse)
  | .ok verdict =>
    if verdict.isValid then
      match read data with
      | .ok config => .ok (config, verdict.warnings)
      | .error message => .error (invalid reporter ("Failed to parse configuration: " ++ message))
    else
      .error (invalid reporter ("Configuration validation failed:\n" ++
        "\n".intercalate (verdict.errors.map Issue.report)))

end Inlay.Config
