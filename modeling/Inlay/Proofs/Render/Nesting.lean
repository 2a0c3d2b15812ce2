import Inlay.Proofs.Log.Lines
import Inlay.Proofs.Render.Contract
import Inlay.Proofs.Render.Reaching

/-!
# How deep inclusions are nested

An inclusion goes on with a template that may be any, and include others or itself in turn. Under a
limit this comes to an end: each inclusion is one level deeper than the elements it stands in, and
none is performed from the limit on. So the recursion that counts no room has exactly one solution
under a limit, and `within` agrees with it as soon as there is room for the limit
(`Unbounded.eq_within`).

Main statement: `evaluate_terminates`.
-/

namespace Inlay

open Log

/-! ## What is logged -/

/-- The depths that a line tells are those of inclusions that the limit allows for. -/
def Log.Line.TellsDepthUpTo (limit : Int) (line : Line) : Prop :=
  ∀ depth, named "depth" (.int depth) ∈ line.entry.context → 1 ≤ depth ∧ depth ≤ limit

/-- What the store logs tells no depth at all. -/
theorem StoreEvent.tellsDepthUpTo (limit : Int) {line : Line} (event : StoreEvent)
    (hentry : line.entry = event.entry) : line.TellsDepthUpTo limit := by
  intro depth hdepth
  rw [hentry] at hdepth
  cases event <;> simp [StoreEvent.entry, named] at hdepth

namespace Evaluator

open Template

/-- Whatever happens, the lines that are added to the log tell no depth beyond the limit. -/
def depthContract (limit : Int) (before : List Line) : Contract where
  session session := ∃ added, session.lines = before ++ added ∧
    ∀ line ∈ added, line.TellsDepthUpTo limit
  failure _ := True
  stop _ := True

section

variable {limit : Int} {before : List Line} {settings : Settings}

/-- A step that leaves the log as it is keeps to the contract. -/
theorem kept_of_lines {α : Type} {step : Render α}
    (h : ∀ session, (step session).2.lines = session.lines) :
    (depthContract limit before).KeptBy step := by
  intro session hsession
  constructor
  · cases (step session).1 <;> exact trivial
  · obtain ⟨added, hlines, hadded⟩ := hsession
    exact ⟨added, (h session).trans hlines, hadded⟩

/-- A step that adds lines keeps to the contract, if these lines do. -/
theorem kept_of_added {α : Type} {step : Render α}
    (h : ∀ session, ∃ added, (step session).2.lines = session.lines ++ added ∧
      ∀ line ∈ added, line.TellsDepthUpTo limit) :
    (depthContract limit before).KeptBy step := by
  intro session ⟨added, hlines, hadded⟩
  obtain ⟨further, hafter, hfurther⟩ := h session
  constructor
  · cases (step session).1 <;> exact trivial
  · refine ⟨added ++ further, ?_, fun line hline => ?_⟩
    · rw [hafter, hlines, List.append_assoc]
    · exact (List.mem_append.1 hline).elim (hadded line) (hfurther line)

theorem depthContract_makes (made : Except Misuse Failure) :
    (depthContract limit before).Makes made :=
  ⟨fun _ _ => trivial, fun _ _ => trivial⟩

/-- An event that tells no depth, or one that the limit allows for, may be logged. -/
theorem note_kept {log : Option RenderLogger} {event : RenderEvent}
    (h : ∀ depth, named "depth" (.int depth) ∈ event.values → 1 ≤ depth ∧ depth ≤ limit) :
    (depthContract limit before).KeptBy (RenderLogger.note log event) := by
  cases log with
  | none => exact .pure trivial
  | some log =>
    have hlines : (depthContract limit before).Ensures
        (fun lines => ∀ line ∈ lines, line.TellsDepthUpTo limit)
        (Render.ofExcept (log.linesOf event)) := by
      refine .ofExcept (fun lines hlines line hline depth hdepth => ?_) fun _ _ => trivial
      rw [Logger.entry_of_write hlines line hline] at hdepth
      apply h depth
      simpa [RenderEvent.entry, named] using hdepth
    exact hlines.bind fun lines hlines => kept_of_added fun session => ⟨lines, rfl, hlines⟩

/-- A lookup logs nothing. -/
theorem lookup_kept (frame : Frame) (key : String) (args : List String) :
    (depthContract limit before).KeptBy (lookup settings frame key args) := by
  refine kept_of_lines fun session => ?_
  unfold lookup Render.ask
  dsimp only
  split <;> rfl

/-- Loading a template logs at most that, and no depth. -/
theorem load_kept (identifier : String) :
    (depthContract limit before).KeptBy (load settings identifier) := by
  refine kept_of_added fun session => ?_
  have hfail : ∀ reason between,
      ((Render.failWith (settings.reporter.loadFailure identifier reason) :
        Render Template) between).2 = between := by
    intro reason between
    cases settings.reporter.loadFailure identifier reason <;> rfl
  unfold load
  cases hstore : session.store with
  | none => exact ⟨[], by simp [hfail], by simp⟩
  | some store =>
    refine ⟨(store.load settings.reporter settings.workspace identifier).2.1, ?_, ?_⟩
    · -- a load adds the lines of the store, whether or not it is made a failure
      have hfrom : Session.lines
          (Render.loadFrom settings.reporter settings.workspace store identifier session).2
            = session.lines
              ++ (store.load settings.reporter settings.workspace identifier).2.1 := by
        unfold Render.loadFrom
        split
        next hload => rw [hload]; split <;> rfl
      dsimp only
      split
      next hfault => rw [hfail, ← hfrom, hfault]
      next => exact hfrom
    · intro line hline
      cases store with
      | memory store => cases hline
      | directory store =>
        obtain ⟨event, hentry⟩ := DirectoryStore.load_lines _ _ _ _ line hline
        exact StoreEvent.tellsDepthUpTo limit event hentry

/-- Nor does the text of a field. -/
theorem textOf_kept (subject : String) (field : Field) :
    (depthContract limit before).KeptBy (textOf settings subject field) := by
  cases field with
  | text text => exact .pure trivial
  | present | items | values => exact .failWith (depthContract_makes _)

/-- Nor does an expression that is looked up. -/
theorem fieldOf_kept (frame : Frame) (expr : Expr) :
    (depthContract limit before).KeptBy (fieldOf settings frame expr) :=
  fieldOf_ensures (lookup_kept frame) (fun subject field _ => textOf_kept subject field)
    (fun _ => trivial) expr (.inr fun _ => trivial)

/-- Nor does the text of an expression. -/
theorem textAt_kept (frame : Frame) (subject : String) (expr : Expr) :
    (depthContract limit before).KeptBy (textAt settings frame subject expr) :=
  (fieldOf_kept frame expr).bind fun field _ => textOf_kept subject field

/-- The failure of a condition is logged without a depth. -/
theorem noteCondition_kept (test : Expr) (failure : Failure) :
    (depthContract limit before).KeptBy (noteCondition settings test failure) := by
  unfold noteCondition
  split
  · refine Contract.Ensures.bind (.ofExcept (fun _ _ => trivial) fun _ _ => trivial) ?_
    intro trail _
    refine note_kept fun depth hdepth => ?_
    simp [RenderEvent.values, named] at hdepth
  · exact .pure trivial

/-- Under a limit, each construct logs no depth beyond it. -/
theorem depthRules (hlimit : settings.limit = some limit) :
    Rules (depthContract limit before) settings (fun _ => True) (fun _ => True) where
  below _ _ _ := trivial
  mark _ _ _ := trivial
  foreign _ _ := trivial
  value frame expr _ _ := textAt_kept frame _ expr
  test frame test _ _ _ _ := isPresent_kept (fieldOf_kept frame test) fun failure _ =>
    noteCondition_kept test failure
  branches _ _ _ _ := ⟨fun _ _ => trivial, fun _ _ _ _ => trivial⟩
  head frame source _ _ _ _ := by
    refine head_ensures (fun _ _ _ => trivial) (fieldOf_kept frame source)
      (fun _ _ => depthContract_makes _) fun _ _ _ _ _ _ => ?_
    exact ⟨fun _ _ => trivial, fun _ _ => trivial⟩
  bodies _ _ _ _ := ⟨fun _ _ => trivial, fun _ _ _ _ => trivial⟩
  inclusion enter frame name _ _ henter := by
    refine inclusion_kept (fun _ _ _ => trivial) (textAt_kept frame _ name)
      (checkDepth_ensures fun _ _ => depthContract_makes _)
      (fun identifier => load_kept identifier) (fun identifier hallowed => ?_)
      (fun _ _ => trivial) fun template hallowed _ => ?_
    · have hless := hallowed limit hlimit
      refine note_kept fun depth hdepth => ?_
      -- the depth that is logged is that of the template which is entered
      have hdepth' : depth = frame.depth + 1 := by
        simpa [RenderEvent.values, named] using hdepth
      omega
    · exact henter template hallowed trivial fun _ _ => trivial

end

/-! ## Inclusions that are nested -/

/-- The elements that an evaluation is about at a moment, with their frame and the session that they
begin with. -/
structure Visit where
  frame : Frame
  body : List Element
  session : Session

/-- The evaluation of one list of elements performs an inclusion that leads to the other one. -/
def Visit.Includes (settings : Settings) (run : Enter) (outer inner : Visit) : Prop :=
  ElementsReach settings run (fun frame name session => ∃ identifier template noted,
    Enters settings frame name session identifier template noted ∧
    inner = ⟨frame.including template, template.elements, noted⟩)
    outer.frame outer.body outer.session

/-- So many inclusions, each in the template of the one before it, lead to a list of elements. -/
inductive Visit.Nests (settings : Settings) (run : Enter) (outer : Visit) : Nat → Visit → Prop where
  | here : Nests settings run outer 0 outer
  | deeper {count : Nat} {between inner : Visit} (houter : Nests settings run outer count between)
    (hincludes : between.Includes settings run inner) : Nests settings run outer (count + 1) inner

section

variable {settings : Settings} {limit : Int} {run : Enter}

/-- An inclusion leads one level deeper, to no more levels than the limit. -/
theorem Visit.Includes.depth (hlimit : settings.limit = some limit) {outer inner : Visit}
    (h : outer.Includes settings run inner) :
    inner.frame.depth = outer.frame.depth + 1 ∧ (inner.frame.depth : Int) ≤ limit := by
  obtain ⟨frame, name, session, hsite, hdepth, -⟩ :=
    elementsReach_singlesOut outer.body outer.frame rfl outer.session h
  obtain ⟨identifier, template, noted, henters, rfl⟩ := hsite
  obtain ⟨-, hallowed, -, -⟩ := henters
  have hless := hallowed limit hlimit
  have hinner : (frame.including template).depth = frame.depth + 1 := rfl
  constructor <;> dsimp only <;> omega

/-- Inclusions cannot be nested without end. -/
theorem Visit.includes_wellFounded (hlimit : settings.limit = some limit) :
    WellFounded fun inner outer : Visit => outer.Includes settings run inner := by
  refine Subrelation.wf ?_ (measure fun visit : Visit => limit.toNat - visit.frame.depth).wf
  intro inner outer hincludes
  obtain ⟨hdeeper, hle⟩ := hincludes.depth hlimit
  show limit.toNat - inner.frame.depth < limit.toNat - outer.frame.depth
  omega

/-- The depth of a template is the number of the inclusions that lead to it. -/
theorem Visit.Nests.depth (hlimit : settings.limit = some limit) {outer inner : Visit} {count : Nat}
    (h : outer.Nests settings run count inner) :
    inner.frame.depth = outer.frame.depth + count ∧
      (count ≠ 0 → (inner.frame.depth : Int) ≤ limit) := by
  induction h with
  | here => exact ⟨rfl, fun hzero => absurd rfl hzero⟩
  | deeper _ hincludes ih =>
    obtain ⟨hdeeper, hle⟩ := hincludes.depth hlimit
    refine ⟨?_, fun _ => hle⟩
    rw [hdeeper, ih.1, Nat.add_assoc]

end

/-! ## The recursion that counts no room -/

/-- An evaluator of elements whose inclusions go on with the elements of their templates, without
any count of how often this happens. -/
def Unbounded (settings : Settings) (run : Enter) : Prop :=
  ∀ frame body, run frame body = elements settings run frame body

section

variable {settings : Settings} {limit : Int}

/-- Elements of a depth are evaluated to the same if the templates are that the limit allows to be
included there. -/
theorem elements_congr_enter {enter enter' : Enter} {frame : Frame} (body : List Element)
    (h : ∀ (inner : Frame) (template : Template), inner.depth = frame.depth →
      (∀ limit ∈ settings.limit, (frame.depth : Int) < limit) →
      enter (inner.including template) template.elements
        = enter' (inner.including template) template.elements) :
    elements settings enter frame body = elements settings enter' frame body := by
  funext session
  have hagree : InclusionsAgree settings settings enter enter' (fun _ _ _ => False)
      frame.depth := by
    intro inner name between hdepth _
    refine inclusion_congr ⟨rfl, rfl, rfl⟩ (fun _ _ _ => rfl) fun _ template noted henters => ?_
    obtain ⟨-, hallowed, -, -⟩ := henters
    rw [hdepth] at hallowed
    rw [h inner template hdepth hallowed]
  refine elements_congr ⟨rfl, rfl, rfl⟩ hagree body frame rfl session fun hreach => ?_
  obtain ⟨_, _, _, hsite, -, -⟩ := elementsReach_singlesOut body frame rfl session hreach
  exact hsite

/-- With room for the limit, `within` is what every solution of the recursion is. -/
theorem Unbounded.eq_within (hlimit : settings.limit = some limit) {run : Enter}
    (hrun : Unbounded settings run) (room : Nat) : ∀ frame body,
    limit ≤ (room : Int) + frame.depth → run frame body = within settings room frame body := by
  induction room with
  | zero =>
    intro frame body hroom
    rw [hrun, within]
    refine elements_congr_enter body fun inner template _ hallowed => ?_
    have hless := hallowed limit hlimit
    omega
  | succ room ih =>
    intro frame body hroom
    rw [hrun, within]
    refine elements_congr_enter body fun inner template hdepth _ => ih _ _ ?_
    have hdeeper : (inner.including template).depth = inner.depth + 1 := rfl
    omega

/-- Under a limit, the recursion has a solution. -/
theorem exists_unbounded (hlimit : settings.limit = some limit) :
    ∃ run, Unbounded settings run := by
  -- every list of elements is given the room that the limit leaves at its depth
  refine ⟨fun frame => within settings (limit.toNat - frame.depth) frame, fun frame body => ?_⟩
  show within settings (limit.toNat - frame.depth) frame body = _
  cases hroom : limit.toNat - frame.depth with
  | zero =>
    rw [within]
    refine elements_congr_enter body fun inner template hdepth hallowed => ?_
    have hless := hallowed limit hlimit
    omega
  | succ room =>
    rw [within]
    refine elements_congr_enter body fun inner template hdepth _ => ?_
    have hdeeper : (inner.including template).depth = inner.depth + 1 := rfl
    have hsame : limit.toNat - (inner.including template).depth = room := by omega
    rw [hsame]

/-- Under a limit every evaluation comes to an end, whatever the templates include. The recursion
that counts nothing has exactly one solution, in which inclusions cannot be nested without end;
where there is room for the limit, this solution is what is evaluated. The depth of a template is
the number of the inclusions that lead to it, which is at most the limit; and the depths that are
logged lie between one and the limit. -/
theorem evaluate_terminates (settings : Settings) (limit : Int)
    (hlimit : settings.limit = some limit) :
    ∃ run, Unbounded settings run ∧ (∀ other, Unbounded settings other → other = run) ∧
      (WellFounded fun inner outer : Visit => outer.Includes settings run inner) ∧
      (∀ (outer : Visit) count inner, outer.frame.depth = 0 → outer.Nests settings run count inner →
        inner.frame.depth = count ∧ count ≤ limit.toNat) ∧
      ∀ template context subject session,
        let ended := evaluate settings template context subject session
        (limit ≤ session.room →
          ended = run ⟨context, subject, template.origin, 0⟩ template.elements session) ∧
        ∃ added, ended.2.lines = session.lines ++ added ∧
          ∀ line ∈ added, line.TellsDepthUpTo limit := by
  obtain ⟨run, hrun⟩ := exists_unbounded hlimit
  refine ⟨run, hrun, fun other hother => ?_, Visit.includes_wellFounded hlimit, ?_, ?_⟩
  · -- below the limit there is no difference between an unbounded run and one with enough room
    funext frame body
    have hroom : limit ≤ (limit.toNat : Int) + frame.depth := by omega
    rw [hother.eq_within hlimit _ frame body hroom, hrun.eq_within hlimit _ frame body hroom]
  · intro outer count inner hdepth hnests
    obtain ⟨hcount, hle⟩ := hnests.depth hlimit
    constructor <;> omega
  · intro template context subject session ended
    constructor
    · intro hroom
      have hle : limit ≤ (session.room : Int) + (0 : Nat) := by omega
      rw [hrun.eq_within hlimit session.room _ _ hle]
      rfl
    · have hkept : (depthContract limit session.lines).KeptBy
          (within settings session.room ⟨context, subject, template.origin, 0⟩ template.elements) :=
        within_kept (depthRules hlimit) session.room _ _ trivial (fun _ _ => trivial) (.inl trivial)
      exact (hkept session ⟨[], (List.append_nil _).symm, fun _ hline => nomatch hline⟩).2

/-- A template that includes itself. -/
def mirror : Template := ⟨.text "mirror", [.inclusion (.literal "mirror")]⟩

/-- A session whose store has the template that includes itself. -/
def mirrorSession : Session where
  store := some (.memory ⟨[("mirror", mirror)]⟩)

/-- Under a limit of two, a template that includes itself fails below its second inclusion. -/
theorem mirror_terminates :
    ∃ run, Unbounded ⟨⟨.builtin, default⟩, default, some 2, none⟩ run ∧
      run ⟨.empty, .item (.text "a.md") .null [], .text "mirror", 0⟩ mirror.elements mirrorSession
        = (.failed ⟨[
          .text "In inclusion of '$partial(\"mirror\")$'",
          .text "Failed to apply template mirror to item a.md",
          .text "In inclusion of '$partial(\"mirror\")$'",
          .text "Failed to apply template mirror to item a.md",
          .text "In inclusion of '$partial(\"mirror\")$'",
          .text "Partial inclusion nested deeper than 2 levels"],
          Code.includeDepthExceeded⟩, mirrorSession) := by
  obtain ⟨run, hrun, -, -, -, hevaluate⟩ :=
    evaluate_terminates ⟨⟨.builtin, default⟩, default, some 2, none⟩ 2 rfl
  refine ⟨run, hrun, ?_⟩
  have hequal := (hevaluate mirror .empty (.item (.text "a.md") .null []) mirrorSession).1
    (by decide)
  exact hequal.symm.trans rfl

end

end Evaluator

end Inlay
