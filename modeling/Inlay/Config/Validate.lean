import Inlay.Config.Basic

/-!
# Checking a configuration

What is wrong with a mapping that is to be read as a configuration. Unknown settings at the root are
only warned about. The rest of the mapping is checked where a wrong value could do harm; many
settings are taken as they are.
-/

namespace Inlay.Config

/-- How grave an issue is. -/
inductive Severity where
  | error
  | warning
  deriving DecidableEq, Inhabited

/-- The name of a severity. -/
def Severity.name : Severity → String
  | .error => "error"
  | .warning => "warning"

/-- Something that is wrong with a mapping. -/
structure Issue where
  /-- The setting, its groups before it. -/
  path : Value
  message : String
  severity : Severity := .error
  deriving Inhabited

/-- What is wrong with a mapping. -/
structure Verdict where
  errors : List Issue
  warnings : List Issue
  deriving Inhabited

/-- A mapping without errors may be loaded. -/
def Verdict.isValid (verdict : Verdict) : Bool := verdict.errors.isEmpty

/-- The groups of settings at the root. They are checked in no order that could be relied on; this
is one of those that there may be. -/
def sections : List String := ["logging", "render", "templates"]

/-- The warnings about keys at the root that name no group. -/
def unknownKeys (data : Entries) : Except Misuse (List Issue) :=
  (data.filter fun entry => !sections.any fun name => entry.1.sameKey (.text name)).mapM
    fun entry => do
      return ⟨entry.1, "Unknown configuration key: " ++ (← entry.1.shown), .warning⟩

/-- An error of a setting. -/
def issue (path message : String) : Issue := { path := .text path, message }

/-- An error, if a condition holds. -/
def issueIf (wrong : Bool) (path message : String) : List Issue :=
  if wrong then [issue path message] else []

/-- The entries of a group of settings, if it is given as a mapping. -/
def sectionEntries (data : Entries) (name : String) : Entries :=
  match data.field? name with
  | some (.map entries) => entries
  | _ => []

/-- Is a group given, but not as a mapping? -/
def notMapping : Option Value → Bool
  | none => false
  | some (.map _) => false
  | some _ => true

/-- Is a directory given, but not as a text? -/
def wrongDirectory : Option Value → Bool
  | none => false
  | some (.text _) => false
  | some _ => true

/-- Is this a text? -/
def isText : Value → Bool
  | .text _ => true
  | _ => false

/-- Are extensions given, but not as a list of texts? -/
def wrongExtensions : Option Value → Bool
  | none => false
  | some .null => false
  | some (.list members) => !members.all isText
  | some _ => true

/-- Is a depth given, but not as a positive integer or as no limit? -/
def wrongDepth : Option Value → Bool
  | none => false
  | some .null => false
  | some (.int depth) => decide (depth ≤ 0)
  | some _ => true

/-- The error of a group that is no mapping. -/
def sectionIssue (data : Entries) (name : String) : List Issue :=
  issueIf (notMapping (data.field? name)) name (name ++ " must be a dictionary")

/-- Can a level be looked for among those that log entries have? A value that could not be a key of
a mapping cannot, a set apart. -/
def isSought : Value → Bool
  | .set _ => true
  | level => level.isKey

/-- The error of a level that no log entry has. -/
def levelIssue (level : Option Value) : Except Misuse (List Issue) :=
  match level with
  | none => .ok []
  | some level =>
    let known := match level with
      | .text name => (Log.Level.ofName? name).isSome
      | _ => false
    if !isSought level then .error .wrongKind
    else if known then .ok []
    else do .ok [issue "logging.level" ("Unknown log level: " ++ (← level.shown))]

/-- Check a mapping. The groups come first, then the settings in them, and the level of the log
last. -/
def validate (data : Entries) : Except Misuse Verdict := do
  let templates := sectionEntries data "templates"
  let render := sectionEntries data "render"
  let warnings ← unknownKeys data
  let level ← levelIssue ((sectionEntries data "logging").field? "level")
  return {
    errors :=
      sections.flatMap (sectionIssue data) ++
      issueIf (wrongDirectory (templates.field? "directory")) "templates.directory"
        "directory must be a string" ++
      issueIf (wrongExtensions (templates.field? "extensions")) "templates.extensions"
        "extensions must be a list of strings" ++
      issueIf (wrongDepth (render.field? "max_include_depth")) "render.max_include_depth"
        "max_include_depth must be a positive integer or null" ++
      level
    warnings }

end Inlay.Config
