import Inlay.Proofs.Render.Like
import Inlay.Proofs.Render.View
import Inlay.Proofs.Trim.Thinning
import Mathlib.Data.List.Forall2

/-!
# Evaluating trimmed templates

Thinner elements are evaluated to thinner texts, with the same questions asked, the same lines
logged and the same failures (`elements_like`). So the trimming pass changes nothing but blanks
(`evaluate_make_thinner`).
-/

namespace Inlay

open Template

/-- The first text is the second one with some of its blanks deleted. -/
def Text.ThinnerString (first second : String) : Prop := Thinner first.toList second.toList

namespace Text.ThinnerString

variable {first second first' second' : String}

/-- Every text counts as thinner than itself. -/
theorem refl (s : String) : ThinnerString s s := Thinner.refl s.toList

/-- Deleting blanks in two texts deletes blanks in the text that they make up. -/
theorem append (h : ThinnerString first second) (h' : ThinnerString first' second') :
    ThinnerString (first ++ first') (second ++ second') := by
  unfold ThinnerString at *
  rw [String.toList_append, String.toList_append]
  exact Thinner.append h h'

/-- So it does in texts that are put together with a separator, which may lose blanks itself. -/
theorem intercalate (h : ThinnerString first second) {texts texts' : List String}
    (htexts : List.Forall₂ ThinnerString texts texts') :
    ThinnerString (first.intercalate texts) (second.intercalate texts') := by
  induction htexts with
  | nil => exact refl _
  | cons head tail ih =>
    cases tail with
    | nil => simpa using head
    | cons next rest =>
      rw [String.intercalate_cons_cons, String.intercalate_cons_cons]
      exact (head.append h).append ih

end Text.ThinnerString

namespace Evaluator

open Render (Like)
open Text

section

variable (settings : Settings) (enter : Enter)

/-- Steps that come to thinner texts in every frame do so in a row of frames. -/
theorem inEach_like {step step' : Frame → Render String}
    (h : ∀ frame, Like ThinnerString (step frame) (step' frame)) (frames : List Frame) :
    Like (List.Forall₂ ThinnerString) (inEach step frames) (inEach step' frames) := by
  induction frames with
  | nil => exact Like.pure .nil
  | cons frame rest ih =>
    refine (h frame).bind fun text text' htext => ?_
    exact ih.bind fun texts texts' htexts => Like.pure (.cons htext htexts)

/-- Texts one behind the other are thinner if each of them is. -/
theorem elements_cons_like {frame : Frame} {first second : Element} {rest rest' : List Element}
    (h : Like ThinnerString (element settings enter frame first)
      (element settings enter frame second))
    (hrest : Like ThinnerString (elements settings enter frame rest)
      (elements settings enter frame rest')) :
    Like ThinnerString (elements settings enter frame (first :: rest))
      (elements settings enter frame (second :: rest')) := by
  rw [elements, elements]
  refine h.bind fun text text' htext => ?_
  exact hrest.bind fun more more' hmore => Like.pure (htext.append hmore)

/-- Thinner elements are evaluated to a thinner text. -/
theorem elements_like {first second : List Element} (h : Template.Thinner first second) :
    ∀ frame : Frame, Like ThinnerString (elements settings enter frame first)
      (elements settings enter frame second) := by
  induction h with
  | nil =>
    intro frame
    exact Like.pure (.refl "")
  | keep first _ ih =>
    intro frame
    refine elements_cons_like settings enter ((Like.refl _).mono ?_) (ih frame)
    rintro text _ rfl
    exact .refl text
  | chunk thinner _ ih =>
    intro frame
    exact elements_cons_like settings enter (Like.pure thinner) (ih frame)
  | @drop text blank _ second _ ih =>
    intro frame
    -- only the second elements take a step here, which adds nothing but blanks
    rw [elements.eq_2]
    show Like ThinnerString _
      (elements settings enter frame second >>= fun rest => pure (text ++ rest))
    refine (ih frame).bind_right fun rest rest' hrest => ?_
    unfold ThinnerString at *
    rw [String.toList_append]
    exact Text.Thinner.append blank hrest
  | cond test _ _ _ ihPresent ihAbsent ih =>
    intro frame
    refine elements_cons_like settings enter ?_ (ih frame)
    rw [element, element]
    -- the test is the same expression, so both choose the same body
    refine Like.bind_same _ fun present => ?_
    cases present with
    | true => exact ihPresent frame
    | false =>
      rw [if_neg (by decide), if_neg (by decide), optional_eq, optional_eq]
      exact ihAbsent frame
  | loop source _ _ _ ihEach ihBetween ih =>
    intro frame
    refine elements_cons_like settings enter ?_ (ih frame)
    rw [element, element]
    refine Like.bind_same _ fun field => Like.bind_same _ fun frames => Like.under ?_ _
    rw [optional_eq, optional_eq]
    -- and both go through the frames of the same list
    refine (ihBetween frame).bind fun separator separator' hseparator => ?_
    refine Like.bind_same _ fun frames => ?_
    refine (inEach_like ihEach frames).bind fun texts texts' htexts => ?_
    exact Like.pure (hseparator.intercalate htexts)

/-- The same at any depth of inclusions. -/
theorem within_like {first second : List Element} (h : Template.Thinner first second)
    (room : Nat) (frame : Frame) :
    Like ThinnerString (within settings room frame first)
      (within settings room frame second) := by
  cases room with
  | zero => exact elements_like settings _ h frame
  | succ room => exact elements_like settings _ h frame

end

/-- The trimming pass changes nothing but blanks: from every session, a template whose marks have
been applied asks the same questions, logs the same lines and ends the same way as one whose marks
have only been deleted, but for blanks that its text lacks. -/
theorem evaluate_make_thinner (settings : Settings) (origin : Value) (elements : List Element)
    (context : Context) (subject : Value) (session : Session) :
    let trimmed := evaluate settings (Template.make origin elements) context subject session
    let whole := evaluate settings ⟨origin, Element.unmarked elements⟩ context subject session
    trimmed.2 = whole.2 ∧
      trimmed.1.Like (fun text text' : String => ThinnerString text text' ∧
        text.toList.filter (fun c => !isBlank c) = text'.toList.filter (fun c => !isBlank c))
        whole.1 := by
  obtain ⟨hending, hsession⟩ := within_like settings (Element.normalize_thinner elements)
    session.room ⟨context, subject, origin, 0⟩ session
  exact ⟨hsession, hending.mono fun text text' h => ⟨h, h.filter_eq⟩⟩

end Evaluator

end Inlay
