import Inlay.Render.Evaluate

/-!
# Where an evaluation fails

The first failure of an evaluation happens at one site, for one cause, within the loops and
inclusions that enclose the site. A `Trail` says which, and `Trail.failure` is the failure that is
reported for it: one breadcrumb for each loop, two for each inclusion, none for a condition, that of
the site, and then the messages of the cause.
-/

namespace Inlay.Evaluator

open Template

/-- A construct that encloses the site of a failure. -/
inductive Enclosure where
  /-- A loop that fails in its separator or its body. -/
  | loop (source : Expr)
  /-- An inclusion of the template of an origin, for the item of an identifier. -/
  | inclusion (name : Expr) (origin identifier : Value)

/-- The breadcrumbs that a construct puts before those within it. -/
def Enclosure.breadcrumbs : Enclosure → List String
  | .loop source => [Breadcrumb.inLoop source]
  | .inclusion name origin identifier =>
    [Breadcrumb.inInclusion name, Breadcrumb.framing origin identifier]

/-- What fails by itself. -/
inductive Site where
  | value (expr : Expr)
  /-- The list of a loop. -/
  | loopHead (source : Expr)
  /-- The name of an inclusion. -/
  | inclusionName (name : Expr)
  /-- An inclusion whose template is not reached. -/
  | inclusion (name : Expr)

/-- The breadcrumb of a site. -/
def Site.breadcrumb : Site → String
  | .value expr => Breadcrumb.inExpr expr
  | .loopHead source => Breadcrumb.inLoopHead source
  | .inclusionName name => Breadcrumb.inInclusionName name
  | .inclusion name => Breadcrumb.inInclusion name

/-- Why it fails. -/
inductive Cause where
  /-- A provider knows the field and cannot answer. -/
  | provider (failure : Failure)
  /-- No provider knows the field. -/
  | missing (key : String)
  /-- A field is of the wrong kind. -/
  | mismatch (expected actual : FieldKind) (subject : String)
  | notLoaded (identifier reason : String)
  | tooDeep (limit : Int)

/-- The failure that a cause is reported as. -/
def Cause.failure : Cause → Failure
  | .provider failure => failure
  | .missing key =>
    ⟨[.text ("Missing field '" ++ key ++ "' in context")], Code.fieldNotFound⟩
  | .mismatch expected actual subject =>
    ⟨[.text ("expected " ++ expected.name ++ " but got " ++ actual.name ++ " for " ++ subject)],
      Code.typeMismatch⟩
  | .notLoaded identifier reason =>
    ⟨[.text ("Failed to load template '" ++ identifier ++ "': " ++ reason)],
      Code.partialLoadFailed⟩
  | .tooDeep limit =>
    ⟨[.text ("Partial inclusion nested deeper than " ++ (Value.int limit).asText ++ " levels")],
      Code.includeDepthExceeded⟩

/-- The way to a failure: the constructs around its site, outermost first, the site and the
cause. -/
structure Trail where
  path : List Enclosure
  site : Site
  cause : Cause

namespace Trail

/-- The trail seen from outside of a construct. -/
def inside (enclosure : Enclosure) (trail : Trail) : Trail :=
  { trail with path := enclosure :: trail.path }

/-- The breadcrumbs along the trail, outermost first. -/
def breadcrumbs (trail : Trail) : List String :=
  trail.path.flatMap Enclosure.breadcrumbs ++ [trail.site.breadcrumb]

/-- The failure that is reported: the breadcrumbs and then what the cause says, under the code of
the cause. -/
def failure (trail : Trail) : Failure where
  messages := trail.breadcrumbs.map .text ++ trail.cause.failure.messages
  code := trail.cause.failure.code

/-- A loop puts one breadcrumb before the failure within it. -/
theorem failure_inside_loop (source : Expr) (trail : Trail) :
    (trail.inside (.loop source)).failure = trail.failure.below (Breadcrumb.inLoop source) := rfl

/-- An inclusion puts two breadcrumbs before the failure within it. -/
theorem failure_inside_inclusion (name : Expr) (origin identifier : Value) (trail : Trail) :
    (trail.inside (.inclusion name origin identifier)).failure
      = (trail.failure.below (Breadcrumb.framing origin identifier)).below
          (Breadcrumb.inInclusion name) := rfl

/-- A trail has a breadcrumb, that of its site. -/
theorem failure_messages_ne_nil (trail : Trail) : trail.failure.messages ≠ [] := by
  simp [failure, breadcrumbs]

end Trail

end Inlay.Evaluator
