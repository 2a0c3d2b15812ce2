import Inlay.Proofs.Trim.Thinning

/-!
# Elements of the language

An element is *known* if all of it is written in the language of templates: no object of another
kind stands in it or in its bodies and expressions. Whether trimming marks may stand in it is a
parameter. Elements that are thinner than known ones are known, so the trimming pass leaves known
elements without marks (`normalize_known`).
-/

namespace Inlay.Template

mutual

/-- All of the expression is written in the language of templates. -/
def Expr.Known : Expr → Prop
  | .ident _ => True
  | .call _ args => Expr.AllKnown args
  | .literal _ => True
  | .foreign _ => False

/-- All of the expressions are known. -/
def Expr.AllKnown : List Expr → Prop
  | [] => True
  | arg :: rest => arg.Known ∧ Expr.AllKnown rest

end

namespace Element

mutual

/-- All of the element is written in the language of templates, with trimming marks if they are
allowed. -/
def Known (marks : Prop) : Element → Prop
  | .chunk _ => True
  | .dollar => True
  | .value expr => expr.Known
  | .cond test whenPresent whenAbsent =>
    test.Known ∧ AllKnown marks whenPresent ∧ AllKnown? marks whenAbsent
  | .loop source body separator =>
    source.Known ∧ AllKnown marks body ∧ AllKnown? marks separator
  | .inclusion name => name.Known
  | .trimLeft => marks
  | .trimRight => marks
  | .foreign _ => False

/-- All of the elements are known. -/
def AllKnown (marks : Prop) : List Element → Prop
  | [] => True
  | element :: rest => element.Known marks ∧ AllKnown marks rest

/-- All of a body that may be absent is known. -/
def AllKnown? (marks : Prop) : Option (List Element) → Prop
  | none => True
  | some body => AllKnown marks body

end

section

variable {marks : Prop}

/-- Elements are known if each of them is. -/
theorem allKnown_iff {elements : List Element} :
    AllKnown marks elements ↔ ∀ element ∈ elements, element.Known marks := by
  induction elements with
  | nil => simp [AllKnown]
  | cons element rest ih => simp [AllKnown, ih]

/-- Known elements may be put behind known ones. -/
theorem allKnown_append {first second : List Element} :
    AllKnown marks (first ++ second) ↔ AllKnown marks first ∧ AllKnown marks second := by
  simp only [allKnown_iff, List.mem_append]
  constructor
  · intro h
    exact ⟨fun element hfirst => h element (.inl hfirst),
      fun element hsecond => h element (.inr hsecond)⟩
  · rintro ⟨hfirst, hsecond⟩ element (h | h)
    · exact hfirst element h
    · exact hsecond element h

/-- A body that is absent counts as an empty one. -/
theorem allKnown?_iff {body : Option (List Element)} :
    AllKnown? marks body ↔ AllKnown marks (body.getD []) := by
  cases body with
  | none => simp [AllKnown?, AllKnown]
  | some body => simp [AllKnown?]

end

/-! ## The trimming pass -/

mutual

/-- Without the marks in its bodies, a known element has no marks in it. -/
theorem unmarkedElement_known : (element : Element) → element.Known True →
    element ≠ .trimLeft → element ≠ .trimRight → (unmarkedElement element).Known False
  | .cond test whenPresent whenAbsent, hknown, _, _ => by
    rw [Known] at hknown
    rw [unmarkedElement, Known]
    obtain ⟨htest, hpresent, habsent⟩ := hknown
    exact ⟨htest, unmarked_known whenPresent hpresent, unmarked?_known whenAbsent habsent⟩
  | .loop source body separator, hknown, _, _ => by
    rw [Known] at hknown
    rw [unmarkedElement, Known]
    obtain ⟨hsource, hbody, hseparator⟩ := hknown
    exact ⟨hsource, unmarked_known body hbody, unmarked?_known separator hseparator⟩
  | .chunk _, hknown, _, _ | .dollar, hknown, _, _ | .value _, hknown, _, _
  | .inclusion _, hknown, _, _ | .foreign _, hknown, _, _ => hknown
  | .trimLeft, _, hleft, _ => absurd rfl hleft
  | .trimRight, _, _, hright => absurd rfl hright

/-- Without their marks, known elements hold none. -/
theorem unmarked_known : (elements : List Element) → AllKnown True elements →
    AllKnown False (unmarked elements)
  | [], _ => by rw [unmarked, AllKnown]; trivial
  | element :: rest, hknown => by
    rw [AllKnown] at hknown
    have hrest := unmarked_known rest hknown.2
    have hfirst := unmarkedElement_known element hknown.1
    cases element with
    | trimLeft | trimRight => exact hrest
    | chunk | dollar | value | cond | loop | inclusion | foreign =>
      exact ⟨hfirst (by simp) (by simp), hrest⟩

/-- So it is with a body that may be absent. -/
theorem unmarked?_known : (body : Option (List Element)) → AllKnown? True body →
    AllKnown? False (unmarked? body)
  | none, _ => trivial
  | some body, hknown => unmarked_known body hknown

end

/-- Blanks take no part in whether elements are known. -/
theorem known_of_thinner {marks : Prop} {first second : List Element} (h : Thinner first second)
    (hknown : AllKnown marks second) : AllKnown marks first := by
  induction h with
  | nil => exact hknown
  | keep element _ ih =>
    obtain ⟨hfirst, hrest⟩ := hknown
    exact ⟨hfirst, ih hrest⟩
  | chunk _ _ ih => exact ⟨trivial, ih hknown.2⟩
  | drop _ _ ih => exact ih hknown.2
  | cond test _ _ _ ihPresent ihAbsent ih =>
    obtain ⟨⟨htest, hpresent, habsent⟩, hrest⟩ := hknown
    have habsent' := ihAbsent (allKnown?_iff.1 habsent)
    exact ⟨⟨htest, ihPresent hpresent, allKnown?_iff.2 habsent'⟩, ih hrest⟩
  | loop source _ _ _ ihEach ihBetween ih =>
    obtain ⟨⟨hsource, hbody, hseparator⟩, hrest⟩ := hknown
    have hseparator' := ihBetween (allKnown?_iff.1 hseparator)
    exact ⟨⟨hsource, ihEach hbody, allKnown?_iff.2 hseparator'⟩, ih hrest⟩

/-- The trimming pass leaves no marks at any depth. -/
theorem normalize_known {elements : List Element} (h : AllKnown True elements) :
    AllKnown False (normalize elements) :=
  known_of_thinner (normalize_thinner elements) (unmarked_known elements h)

end Element

end Inlay.Template
