import Inlay.Fault.Pattern

/-!
# The registry of faults

Every fault is reported under a code. The registry holds, for each code, the patterns of its
message, detail and suggestion; `Reporter` fills them and makes the fault.

Each of the three texts is filled on its own and all or nothing: if a field of it has no value, the
pattern stands as it is.
-/

namespace Inlay

/-- The texts that faults of one code are reported with. -/
structure FaultForm where
  code : String
  category : Category
  message : Option String
  detail : Option String := none
  suggestion : Option String := none
  deriving Inhabited

namespace Code

def templateParseError : String := "TEMPLATE_PARSE_ERROR"
def typeMismatch : String := "TYPE_MISMATCH"
def includeDepthExceeded : String := "INCLUDE_DEPTH_EXCEEDED"
def renderFailed : String := "RENDER_FAILED"
def fieldNotFound : String := "FIELD_NOT_FOUND"
def contextFailure : String := "CONTEXT_FAILURE"
def templateNotFound : String := "TEMPLATE_NOT_FOUND"
def partialLoadFailed : String := "PARTIAL_LOAD_FAILED"
def configInvalid : String := "CONFIG_INVALID"
def trimInvariantViolation : String := "TRIM_INVARIANT_VIOLATION"
def internalError : String := "INTERNAL_ERROR"

end Code

/-- The forms in the order of their first registration. -/
structure Registry where
  forms : List FaultForm
  deriving Inhabited

namespace Registry

/-- The form of a code. -/
def find? (registry : Registry) (code : String) : Option FaultForm :=
  registry.forms.find? (·.code == code)

/-- The codes in the order of their first registration. -/
def codes (registry : Registry) : List String := registry.forms.map (·.code)

/-- Put a form under its code: in the place of the one that had it, else at the end. -/
def insert (form : FaultForm) : List FaultForm → List FaultForm
  | [] => [form]
  | first :: rest => if first.code == form.code then form :: rest else first :: insert form rest

/-- Register a form, replacing the one with its code. -/
def register (registry : Registry) (form : FaultForm) : Registry :=
  ⟨insert form registry.forms⟩

/-- The forms that every registry starts with. -/
def builtin : Registry where
  forms := [
    { code := Code.templateParseError
      category := .template
      message := some "Failed to parse template '{origin}'"
      detail := some "The template source is malformed"
      suggestion := some "Check that every '$' tag is closed and blocks are balanced" },
    { code := Code.typeMismatch
      category := .template
      message := some "expected {expected} but got {actual} for {subject}"
      suggestion := some "Use $for$ for list fields and $key$ for string fields" },
    { code := Code.includeDepthExceeded
      category := .template
      message := some "Partial inclusion nested deeper than {max_depth} levels"
      detail := some "A template probably includes itself, directly or transitively"
      suggestion := some "Break the include cycle or raise render.max_include_depth" },
    { code := Code.renderFailed
      category := .template
      message := some "{message}" },
    { code := Code.fieldNotFound
      category := .context
      message := some "Missing field '{key}' in context"
      suggestion := some "Add a provider for '{key}' to the context or guard it with $if$" },
    { code := Code.contextFailure
      category := .context
      message := some "{message}"
      detail := some "A context provider failed while computing a field" },
    { code := Code.templateNotFound
      category := .store
      message := some "Template '{identifier}' not found"
      suggestion := some "Check the template identifier and the templates directory" },
    { code := Code.partialLoadFailed
      category := .store
      message := some "Failed to load template '{identifier}': {reason}"
      suggestion := some "Check that the partial exists and parses" },
    { code := Code.configInvalid
      category := .config
      message := some "Invalid configuration"
      detail := some "The Stencil configuration is invalid"
      suggestion := some "Check the configuration file and fix errors" },
    { code := Code.trimInvariantViolation
      category := .system
      message := some "Template '{origin}' not fully trimmed"
      detail := some "A template reached the evaluator with unresolved trim markers"
      suggestion := some "Construct templates with make_template" },
    { code := Code.internalError
      category := .system
      message := some "Internal Stencil error"
      detail := some "An unexpected error occurred in the template engine"
      suggestion := some "Check the logs and report this issue" }]

end Registry

/-- What faults are reported with: the registry, and the time that stands in reports. -/
structure Reporter where
  registry : Registry
  now : Moment
  deriving Inhabited

namespace Reporter

/-- Fill a pattern; one with a field that has no value stands as it is. -/
def interpolate (values : Entries) (pattern : String) : Except Misuse String :=
  match Pattern.fill values pattern with
  | .ok text => .ok text
  | .error .missing => .ok pattern
  | .error (.misuse misuse) => .error misuse

/-- Fill a pattern that may be absent. -/
def interpolate? (values : Entries) : Option String → Except Misuse (Option String)
  | none => .ok none
  | some pattern => do .ok (some (← interpolate values pattern))

/-- The breadcrumbs that the values give. -/
def trailOf (values : Entries) : Except Misuse (List Value) :=
  match values.field? "trail" with
  | none => .ok []
  | some value =>
    match value.members? with
    | none => .error .wrongKind
    | some members => .ok members

/-- Make the fault of a code from named values. A value named `detail` takes the place of the
filled detail, whatever it is. -/
def report (reporter : Reporter) (code : String) (values : Entries)
    (cause : Option Fault := none) : Except Misuse Fault := do
  match reporter.registry.find? code with
  | none => .error (.unknownCode code)
  | some form =>
    let message ← interpolate? values form.message
    let detail ← interpolate? values form.detail
    let suggestion ← interpolate? values form.suggestion
    return {
      code := form.code
      category := form.category
      message := message.getD ("Error " ++ code)
      detail := (values.field? "detail").getD (.ofText? detail)
      suggestion
      origin := (values.field? "template_origin").getD .null
      item := (values.field? "item_identifier").getD .null
      trail := ← trailOf values
      cause
      reported := reporter.now }

/-- Make a fault from values that are passed beside those named in `reserved`; a value may not take
such a name. Values of the same names in `others` give way. -/
def reportBeside (reporter : Reporter) (reserved : List String) (code : String)
    (values : Entries) (others : Entries := []) : Except Misuse Fault :=
  let taken (entry : Value × Value) : Bool := match entry.1 with
    | .text name => reserved.contains name
    | _ => true
  if values.any taken then .error .wrongKind
  else reporter.report code (others.putAll values)

/-- The message of a fault, without the rest of it. -/
def message (reporter : Reporter) (code : String) (values : Entries) : Except Misuse String := do
  return (← reporter.report code values).message

/-- The fault that ends a render. It has the code of the innermost failure, the framing of the
render as its message, and the whole trail as its detail, so each breadcrumb must be a text. A code
that nobody registered is reported as a failed render. A suggestion that still has a field to fill
is left out. -/
def reportFailure (reporter : Reporter) (code : String) (trail : List Value) (framing : String)
    (origin item : Value) : Except Misuse Fault := do
  let detail ← Fault.lines trail
  let code := if (reporter.registry.find? code).isSome then code else Code.renderFailed
  let fault ← reporter.report code [
    (.text "template_origin", origin),
    (.text "item_identifier", item),
    (.text "trail", .list trail),
    (.text "detail", .text detail)]
  let suggestion ← match fault.suggestion with
    | none => pure none
    | some text => do
      if !text.isEmpty && (← Pattern.hasSlot text) then pure none else pure (some text)
  return { fault with message := framing, suggestion }

/-- Report a fault, or the misuse that keeps it from being made. -/
def stop (reporter : Reporter) (code : String) (values : Entries) : Stop :=
  match reporter.report code values with
  | .ok fault => .fault fault
  | .error misuse => .misuse misuse

end Reporter

end Inlay
