import Inlay.Proofs.Render.Trail

/-!
# How an evaluation fails

`ElementsFail` relates a list of elements to the trail of its failure. The rules follow the order of
evaluation: what stands before the failing element has been evaluated, and has left the session that
the failing element begins with.
-/

namespace Inlay.Evaluator

open Template

section

variable (settings : Settings)

/-! ## Expressions -/

/-- The session after a question to the context of a frame. -/
def asked (frame : Frame) (session : Session) (key : String) (args : List String) : Session :=
  { session with calls := session.calls ++ (frame.context.lookup key args frame.subject).calls }

/-- A question to the context of a frame has no field for an answer. -/
inductive LookupFails (frame : Frame) (key : String) (args : List String) : Cause → Prop where
  | provider {failure : Failure}
    (hanswer : (frame.context.lookup key args frame.subject).answer = .ok (.failed failure)) :
    LookupFails frame key args (.provider failure)
  | missing {messages : List Value}
    (hanswer : (frame.context.lookup key args frame.subject).answer = .ok (.notFound messages)) :
    LookupFails frame key args (.missing key)

mutual

/-- An expression stands for no field. -/
inductive FieldFails (frame : Frame) : Expr → Session → Cause → Session → Prop where
  | ident {key : String} {session : Session} {cause : Cause}
    (hlookup : LookupFails frame key [] cause) :
    FieldFails frame (.ident key) session cause (asked frame session key [])
  | argument {key : String} {args : List Expr} {session after : Session} {cause : Cause}
    (hargument : ArgumentFails frame args session cause after) :
    FieldFails frame (.call key args) session cause after
  | call {key : String} {args : List Expr} {texts : List String} {session after : Session}
    {cause : Cause} (harguments : arguments settings frame args session = (.value texts, after))
    (hlookup : LookupFails frame key texts cause) :
    FieldFails frame (.call key args) session cause (asked frame after key texts)

/-- The first argument of a call that has no text is one of these. -/
inductive ArgumentFails (frame : Frame) : List Expr → Session → Cause → Session → Prop where
  | first {arg : Expr} {rest : List Expr} {session after : Session} {cause : Cause}
    (htext : TextFails frame arg (Breadcrumb.argumentSubject arg) session cause after) :
    ArgumentFails frame (arg :: rest) session cause after
  | later {arg : Expr} {rest : List Expr} {text : String} {session between after : Session}
    {cause : Cause}
    (hfirst : textAt settings frame (Breadcrumb.argumentSubject arg) arg session
      = (.value text, between))
    (hlater : ArgumentFails frame rest between cause after) :
    ArgumentFails frame (arg :: rest) session cause after

/-- An expression stands for no text, and is called `subject` if its field is of another kind. -/
inductive TextFails (frame : Frame) : Expr → String → Session → Cause → Session → Prop where
  | field {expr : Expr} {subject : String} {session after : Session} {cause : Cause}
    (hfield : FieldFails frame expr session cause after) :
    TextFails frame expr subject session cause after
  | mismatch {expr : Expr} {subject : String} {field : Field} {session after : Session}
    (hvalue : fieldOf settings frame expr session = (.value field, after))
    (hkind : field.kind ≠ .string) :
    TextFails frame expr subject session (.mismatch .string field.kind subject) after

end

/-! ## Inclusions -/

/-- The template of an identifier cannot be loaded, for a reason. -/
inductive LoadFails (identifier : String) : Session → String → Session → Prop where
  | noStore {session : Session} (hstore : session.store = none) :
    LoadFails identifier session "no template store configured" session
  | fault {session after : Session} {store : Store} {fault : Fault}
    (hheld : session.store = some store)
    (hload : Render.loadFrom settings.reporter settings.workspace store identifier session
      = (.stopped (.fault fault), after)) :
    LoadFails identifier session fault.headline after

/-- How the evaluation of an included template fails. -/
abbrev Inside := Frame → List Element → Session → Trail → Session → Prop

/-- The frame that an included template is evaluated in. -/
def Frame.including (frame : Frame) (template : Template) : Frame :=
  { frame with origin := template.origin, depth := frame.depth + 1 }

/-- An inclusion fails: its name has no text, or it is too deep for a limit that can be written, or
its template cannot be loaded, or the elements of its template fail. -/
inductive InclusionFails (inside : Inside) (frame : Frame) (name : Expr) :
    Session → Trail → Session → Prop where
  | name {session after : Session} {cause : Cause}
    (htext : TextFails settings frame name (Breadcrumb.inclusionSubject name) session cause after) :
    InclusionFails inside frame name session ⟨[], .inclusionName name, cause⟩ after
  | tooDeep {session after : Session} {identifier : String} {limit : Int}
    (htext : textAt settings frame (Breadcrumb.inclusionSubject name) name session
      = (.value identifier, after))
    (hlimited : settings.limit = some limit) (hreached : limit ≤ frame.depth)
    (htold : (Value.int limit).hasText = true) :
    InclusionFails inside frame name session ⟨[], .inclusion name, .tooDeep limit⟩ after
  | notLoaded {session between after : Session} {identifier reason : String}
    (htext : textAt settings frame (Breadcrumb.inclusionSubject name) name session
      = (.value identifier, between))
    (hallowed : ∀ limit ∈ settings.limit, (frame.depth : Int) < limit)
    (hload : LoadFails settings identifier between reason after) :
    InclusionFails inside frame name session
      ⟨[], .inclusion name, .notLoaded identifier reason⟩ after
  | elements {session between loaded noted after : Session} {identifier : String}
    {template : Template} {item : Value} {trail : Trail}
    (htext : textAt settings frame (Breadcrumb.inclusionSubject name) name session
      = (.value identifier, between))
    (hallowed : ∀ limit ∈ settings.limit, (frame.depth : Int) < limit)
    (hload : load settings identifier between = (.value template, loaded))
    (hnote : RenderLogger.note settings.log (.included identifier (frame.depth + 1)) loaded
      = (.value (), noted))
    (hitem : frame.subject.identifier = .ok item)
    (helements : inside (frame.including template) template.elements noted trail after) :
    InclusionFails inside frame name session
      (trail.inside (.inclusion name template.origin item)) after

/-! ## Elements -/

section

variable (enter : Enter) (inside : Inside)

mutual

/-- An element fails, with the trail of its failure. -/
inductive ElementFails : Frame → Element → Session → Trail → Session → Prop where
  | value {frame : Frame} {expr : Expr} {session after : Session} {cause : Cause}
    (htext : TextFails settings frame expr (Breadcrumb.exprSubject expr) session cause after) :
    ElementFails frame (.value expr) session ⟨[], .value expr, cause⟩ after
  | whenPresent {frame : Frame} {test : Expr} {body : List Element}
    {other : Option (List Element)} {session between after : Session} {trail : Trail}
    (hpresent : isPresent settings frame test session = (.value true, between))
    (hbody : ElementsFail frame body between trail after) :
    ElementFails frame (.cond test body other) session trail after
  | whenAbsent {frame : Frame} {test : Expr} {body other : List Element}
    {session between after : Session} {trail : Trail}
    (habsent : isPresent settings frame test session = (.value false, between))
    (hbody : ElementsFail frame other between trail after) :
    ElementFails frame (.cond test body (some other)) session trail after
  | loopHead {frame : Frame} {source : Expr} {body : List Element}
    {separator : Option (List Element)} {session after : Session} {cause : Cause}
    (hfield : FieldFails settings frame source session cause after) :
    ElementFails frame (.loop source body separator) session ⟨[], .loopHead source, cause⟩ after
  | noList {frame : Frame} {source : Expr} {body : List Element}
    {separator : Option (List Element)} {field : Field} {session after : Session}
    (hvalue : fieldOf settings frame source session = (.value field, after))
    (hkind : field.kind ≠ .list) :
    ElementFails frame (.loop source body separator) session
      ⟨[], .loopHead source, .mismatch .list field.kind (Breadcrumb.loopSubject source)⟩ after
  | separator {frame : Frame} {source : Expr} {body separator : List Element} {field : Field}
    {session between after : Session} {trail : Trail}
    (hvalue : fieldOf settings frame source session = (.value field, between))
    (hkind : field.kind = .list)
    (hseparator : ElementsFail frame separator between trail after) :
    ElementFails frame (.loop source body (some separator)) session
      (trail.inside (.loop source)) after
  | repetition {frame : Frame} {source : Expr} {body : List Element}
    {separator : Option (List Element)} {field : Field}
    {members : List (Except Stop Frame)} {frames : List Frame} {text : String}
    {session between separated after : Session} {trail : Trail}
    (hvalue : fieldOf settings frame source session = (.value field, between))
    (hmembers : loopFrames frame field = some members)
    (hseparator : optional settings enter frame separator between = (.value text, separated))
    (hframes : members.mapM id = .ok frames)
    (hrepetition : RepetitionFails body frames separated trail after) :
    ElementFails frame (.loop source body separator) session (trail.inside (.loop source)) after
  | inclusion {frame : Frame} {name : Expr} {session after : Session} {trail : Trail}
    (hinclusion : InclusionFails settings inside frame name session trail after) :
    ElementFails frame (.inclusion name) session trail after

/-- The first element that fails is one of these. -/
inductive ElementsFail : Frame → List Element → Session → Trail → Session → Prop where
  | first {frame : Frame} {first : Element} {rest : List Element} {session after : Session}
    {trail : Trail} (hfirst : ElementFails frame first session trail after) :
    ElementsFail frame (first :: rest) session trail after
  | later {frame : Frame} {first : Element} {rest : List Element} {text : String}
    {session between after : Session} {trail : Trail}
    (hfirst : element settings enter frame first session = (.value text, between))
    (hlater : ElementsFail frame rest between trail after) :
    ElementsFail frame (first :: rest) session trail after

/-- The first repetition of a body that fails is that in one of these frames. -/
inductive RepetitionFails : List Element → List Frame → Session → Trail → Session → Prop where
  | first {frame : Frame} {rest : List Frame} {body : List Element} {session after : Session}
    {trail : Trail} (hfirst : ElementsFail frame body session trail after) :
    RepetitionFails body (frame :: rest) session trail after
  | later {frame : Frame} {rest : List Frame} {body : List Element} {text : String}
    {session between after : Session} {trail : Trail}
    (hfirst : elements settings enter frame body session = (.value text, between))
    (hlater : RepetitionFails body rest between trail after) :
    RepetitionFails body (frame :: rest) session trail after

end

/-- A body that may be absent is there and fails. -/
def OptionalFails (frame : Frame) (body : Option (List Element)) (session : Session)
    (trail : Trail) (after : Session) : Prop :=
  ∃ elements, body = some elements ∧
    ElementsFail settings enter inside frame elements session trail after

end

/-- How elements fail with room for so many inclusions nested in each other. -/
def FailsWithin : Nat → Inside
  | 0 => ElementsFail settings (fun _ _ => Render.stop (.misuse .endless)) fun _ _ _ _ _ => False
  | room + 1 => ElementsFail settings (within settings room) (FailsWithin room)

/-- The evaluation of a template fails, with the trail of its failure. -/
def TemplateFails (template : Template) (context : Context) (subject : Value) (session : Session) :
    Trail → Session → Prop :=
  FailsWithin settings session.room ⟨context, subject, template.origin, 0⟩ template.elements session

end

end Inlay.Evaluator
