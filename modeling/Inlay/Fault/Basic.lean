import Inlay.Value.Text

/-!
# Faults and misuse

A *fault* is a mistake of the user's that is reported: a malformed template, a missing field, an
invalid configuration. It carries what a reader of the report needs. A *misuse* is anything else
that can stop an operation; it carries no report, only its kind. `Stop` is either.
-/

namespace Inlay

/-- The part of the system that a fault concerns. -/
inductive Category where
  | template
  | context
  | store
  | config
  | system
  deriving DecidableEq, Inhabited

/-- The category as reports name it. -/
def Category.name : Category → String
  | .template => "TEMPLATE"
  | .context => "CONTEXT"
  | .store => "STORE"
  | .config => "CONFIG"
  | .system => "SYSTEM"

/-- The category of a name. -/
def Category.ofName? (s : String) : Option Category :=
  [Category.template, .context, .store, .config, .system].find? fun category => category.name == s

/-- A reported mistake. -/
structure Fault where
  code : String
  category : Category
  /-- The summary. -/
  message : String
  /-- The longer explanation, if there is one. -/
  detail : Value
  /-- What to do about it. -/
  suggestion : Option String
  /-- The template that was being applied. -/
  origin : Value
  /-- The item that was being rendered. -/
  item : Value
  /-- The breadcrumbs that lead to the mistake, outermost first. They should be texts. -/
  trail : List Value
  cause : Option Fault
  /-- When it was reported. -/
  reported : Moment
  deriving Inhabited

/-- What stops an operation without being reported as a fault. -/
inductive Misuse where
  /-- A fault was to be reported under a code that nobody registered. -/
  | unknownCode (code : String)
  /-- A text is not of the form that it must have, or an integer is too long to be written. -/
  | badForm
  /-- A value is of the wrong kind. -/
  | wrongKind
  /-- A place is asked that does not exist. -/
  | noIndex
  /-- A part of a value is asked that it does not have. -/
  | noAttribute
  /-- A key is asked that a mapping does not have. -/
  | noEntry
  /-- A number is too large. -/
  | outOfRange
  /-- A text would be too long to be held. -/
  | tooLong
  /-- A text encoding is not known. -/
  | unknownEncoding
  /-- Bytes are not text in their encoding. -/
  | notText
  /-- A directory stands where a file is read. -/
  | isDirectory
  /-- The file system refuses a path. -/
  | refusedPath
  /-- Templates include each other without end. -/
  | endless
  deriving DecidableEq, Inhabited

/-- The text of a value, if it has one. -/
def Value.shown (value : Value) : Except Misuse String :=
  if value.hasText then .ok value.asText else .error .badForm

/-- What has a text is shown as it. -/
theorem Value.shown_of_hasText {value : Value} (h : value.hasText = true) :
    value.shown = .ok value.asText := if_pos h

/-- What has none cannot be shown. -/
theorem Value.shown_of_not_hasText {value : Value} (h : value.hasText = false) :
    value.shown = .error .badForm := if_neg (by simp [h])

/-- The texts that values must be. -/
def Value.texts (values : List Value) : Except Misuse (List String) :=
  match values.mapM Value.text? with
  | some texts => .ok texts
  | none => .error .wrongKind

namespace Fault

/-- The breadcrumbs, one to a line; each of them must be a text. -/
def lines (trail : List Value) : Except Misuse String := do
  return ",\n".intercalate (← Value.texts trail)

/-- The message, and below it the trail. -/
def text (fault : Fault) : Except Misuse String :=
  if fault.trail.isEmpty then .ok fault.message
  else do return fault.message ++ ":\n" ++ (← lines fault.trail)

/-- The message, and behind it the detail if there is one. -/
def headline (fault : Fault) : String :=
  if fault.detail.isTruthy then fault.message ++ ": " ++ fault.detail.asText else fault.message

/-- The fault with a template and an item to name, where these are not empty. -/
def within (fault : Fault) (origin item : Value) : Fault :=
  { fault with origin := origin.orElse fault.origin, item := item.orElse fault.item }

end Fault

/-- What stops an operation. -/
inductive Stop where
  | fault (fault : Fault)
  | misuse (misuse : Misuse)
  deriving Inhabited

end Inlay
