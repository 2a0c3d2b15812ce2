import Inlay.Log.Logger
import Inlay.Number.Layout

/-!
# Events

What is logged about renders and about template stores. `RenderEvent.entry` and `StoreEvent.entry`
say how each event is told.
-/

namespace Inlay.Log

/-- What happens in the course of a render. -/
inductive RenderEvent where
  | started
  /-- The render took this many milliseconds and wrote this many characters. -/
  | completed (milliseconds length : Int)
  /-- The render ended with this report. -/
  | failed (report : String)
  /-- The field of a condition could not be had, and the condition was taken as false. -/
  | conditionError (expression : String) (trail : List String)
  /-- A template was included, at this depth. -/
  | included (name : String) (depth : Int)
  deriving Inhabited

/-- What happens in a store of templates. -/
inductive StoreEvent where
  | loaded (identifier source : String)
  | cacheHit (identifier : String)
  | missing (identifier : String)
  deriving Inhabited

/-- A named value of an entry's context. -/
def named (name : String) (value : Value) : Value × Value := (.text name, value)

/-- Milliseconds as seconds with three places. -/
def secondsText (milliseconds : Int) : String :=
  match Binary64.ofRatio (decide (milliseconds < 0)) milliseconds.natAbs 1000 with
  | .finite negative mantissa exponent =>
    let (num, den) := Binary64.ratio false mantissa exponent
    let (whole, places) := Number.fixed num.natAbs den 3
    (if negative then "-" else "") ++ String.ofList (whole ++ '.' :: places)
  | x => x.text

namespace RenderEvent

/-- The name of an event. -/
def name : RenderEvent → String
  | .started => "render_started"
  | .completed .. => "render_completed"
  | .failed _ => "render_failed"
  | .conditionError .. => "condition_error"
  | .included .. => "partial_included"

/-- The values that an event adds to its context. -/
def values : RenderEvent → Entries
  | .started => []
  | .completed milliseconds length =>
    [named "duration_ms" (.int milliseconds), named "length" (.int length)]
  | .failed report => [named "error" (.text report), named "error_type" (.text "StencilError")]
  | .conditionError expression trail =>
    [named "expression" (.text expression), named "trail" (.list (trail.map .text))]
  | .included name depth => [named "partial" (.text name), named "depth" (.int depth)]

/-- The level of an event. -/
def level : RenderEvent → Level
  | .completed .. => .info
  | .failed _ => .error
  | _ => .debug

/-- The message of an event of the template `origin` applied to `item`. -/
def message (origin : Value) (item : String) : RenderEvent → String
  | .started => "Applying template '" ++ origin.asText ++ "' to '" ++ item ++ "'"
  | .completed milliseconds length =>
    "Template '" ++ origin.asText ++ "' applied to '" ++ item ++ "' (" ++ toString length ++
      " chars, " ++ secondsText milliseconds ++ "s) ✓"
  | .failed report => "Template '" ++ origin.asText ++ "' failed on '" ++ item ++ "': " ++ report
  | .conditionError expression trail =>
    "[ERROR] in 'if' condition on expr '" ++ expression ++ "':" ++
      String.join (trail.map fun message => "\n  " ++ message)
  | .included name _ => "Including partial '" ++ name ++ "'"

/-- The entry of an event of the template `origin` applied to `item`. -/
def entry (origin : Value) (item : String) (event : RenderEvent) : Entry where
  level := event.level
  component := "render"
  message := event.message origin item
  context :=
    [named "template" origin, named "item" (.text item),
      named "event" (.text event.name)] ++ event.values

end RenderEvent

namespace StoreEvent

/-- The entry of an event. -/
def entry : StoreEvent → Entry
  | .loaded identifier source => {
      level := .debug
      component := "store"
      message := "Loaded template '" ++ identifier ++ "'"
      context := [named "event" (.text "template_loaded"),
        named "identifier" (.text identifier), named "source" (.text source)] }
  | .cacheHit identifier => {
      level := .debug
      component := "store"
      message := "Template '" ++ identifier ++ "' cached"
      context := [named "event" (.text "template_cache_hit"),
        named "identifier" (.text identifier)] }
  | .missing identifier => {
      level := .warn
      component := "store"
      message := "Template '" ++ identifier ++ "' not found"
      context := [named "event" (.text "template_missing"),
        named "identifier" (.text identifier)] }

end StoreEvent

end Inlay.Log
