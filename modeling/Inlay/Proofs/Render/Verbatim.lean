import Inlay.Proofs.Grammar.Concatenation
import Inlay.Proofs.Render.Steps
import Inlay.Proofs.Trim.NormalForm
import Inlay.Render.Evaluate

/-!
# Text that is written as it stands

A source writes a dollar sign by doubling it. Where every dollar sign of a text is doubled, in runs
as well as beside hyphens, quotes and the words of tags, the doubled signs are read as such from the
first to the last, and nothing is read as a tag: character by character, each is a source of its own
(`ofSource_doubled`), and sources one behind another are read as they are alone.

So the template of such a source is plain text (`Plain`), which the trimming pass leaves alone, and
it is evaluated to the text without asking for anything.

Main statement: `Evaluator.evaluate_verbatim`.
-/

namespace Inlay

namespace Template

/-- A character as a source writes it. -/
def doubled (c : Char) : List Char := if c = '$' then ['$', '$'] else [c]

/-- The source that writes a text: every dollar sign of it is doubled. -/
def verbatim (text : String) : String := String.ofList (text.toList.flatMap doubled)

/-- The element that a character is read as. -/
def characterElement (c : Char) : Element :=
  if c = '$' then .dollar else .chunk (String.singleton c)

/-- The elements that characters are read as, one by one. -/
def verbatimElements : List Char → List Element
  | [] => []
  | c :: rest => joinElements [characterElement c] (verbatimElements rest)

/-- A character is a source of its own. -/
theorem ofSource_doubled (c : Char) :
    Element.ofSource (doubled c) = .ok [characterElement c] := by
  by_cases hc : c = '$'
  · subst hc
    rfl
  · have hwritten : DocumentWritten [.text [c]] :=
      ⟨⟨List.cons_ne_nil _ _, by simpa using Ne.symm hc⟩, trivial, trivial⟩
    rw [doubled, if_neg hc, characterElement, if_neg hc]
    exact Progress.ofSource_source hwritten ⟨trivial, trivial⟩

/-- A text whose dollar signs are doubled is read as texts and dollar signs, without a mistake. -/
theorem ofSource_verbatim (cs : List Char) :
    Element.ofSource (cs.flatMap doubled) = .ok (verbatimElements cs) := by
  induction cs with
  | nil => rfl
  | cons c rest ih =>
    rw [List.flatMap_cons, ofSource_append (ofSource_doubled c), ih]
    rfl

/-! ## Plain text -/

/-- The elements are text and dollar signs only, and write these characters. -/
inductive Plain : List Element → List Char → Prop where
  | nil : Plain [] []
  | chunk {text : String} {rest : List Element} {cs : List Char} (hne : text ≠ "")
    (hrest : Plain rest cs) : Plain (.chunk text :: rest) (text.toList ++ cs)
  | dollar {rest : List Element} {cs : List Char} (hrest : Plain rest cs) :
    Plain (.dollar :: rest) ('$' :: cs)

/-- A character in front of plain text joins the text that it begins with. -/
theorem Plain.cons {rest : List Element} {cs : List Char} (h : Plain rest cs) (c : Char) :
    Plain (joinElements [characterElement c] rest) (c :: cs) := by
  unfold characterElement
  split
  · next hc =>
    subst hc
    exact .dollar h
  · have hfront : ∀ {rest cs}, Plain rest cs →
        Plain (.chunk (String.singleton c) :: rest) (c :: cs) := by
      intro rest cs hrest
      have hchunk := @Plain.chunk (String.singleton c) rest cs (by simp) hrest
      rwa [String.toList_singleton] at hchunk
    cases h with
    | nil => exact hfront .nil
    | dollar hrest => exact hfront (.dollar hrest)
    | @chunk text rest cs hne hrest =>
      have hjoined : String.singleton c ++ text ≠ "" := by simp [hne]
      have hchars : c :: (text.toList ++ cs) = (String.singleton c ++ text).toList ++ cs := by simp
      rw [hchars]
      exact .chunk hjoined hrest

/-- These elements spell the text. -/
theorem plain_verbatimElements (cs : List Char) : Plain (verbatimElements cs) cs := by
  induction cs with
  | nil => exact .nil
  | cons c rest ih => exact ih.cons c

/-- Elements that spell a text have no empty text among them. -/
theorem Plain.normal {body : List Element} {cs : List Char} (h : Plain body cs) :
    Element.AllNormal body := by
  induction h with
  | nil => trivial
  | chunk hne _ ih => exact ⟨hne, ih⟩
  | dollar _ ih => exact ⟨trivial, ih⟩

end Template

namespace Evaluator

open Template

/-- Plain text is written, and nothing else is done. -/
theorem elements_of_plain (settings : Settings) (enter : Enter) (frame : Frame)
    {body : List Element} {cs : List Char} (h : Plain body cs) :
    elements settings enter frame body = pure (String.ofList cs) := by
  induction h with
  | nil => rw [elements, String.ofList_nil]
  | @chunk text rest cs _ _ ih =>
    have htext : String.ofList (text.toList ++ cs) = text ++ String.ofList cs := by
      rw [String.ofList_append, String.ofList_toList]
    rw [elements, element, ih, Render.pure_bind, Render.pure_bind, htext]
  | @dollar rest cs _ ih =>
    have htext : String.ofList ('$' :: cs) = "$" ++ String.ofList cs := by
      rw [← List.singleton_append, String.ofList_append]
    rw [elements, element, ih, Render.pure_bind, Render.pure_bind, htext]

/-- A text with its dollar signs doubled is compiled, and the template is evaluated to the text
whatever it is evaluated with and against: nothing is asked, loaded, logged or otherwise done to the
session. -/
theorem evaluate_verbatim (reporter : Reporter) (origin : Value) (text : String) :
    ∃ template, Template.compile reporter origin (verbatim text) = .ok template ∧
      ∀ (settings : Settings) (context : Context) (subject : Value),
        evaluate settings template context subject = pure text := by
  have hplain : Plain (verbatimElements text.toList) text.toList :=
    plain_verbatimElements text.toList
  have hread : readElements reporter origin (verbatim text)
      = .ok (verbatimElements text.toList) := by
    rw [readElements_eq_ok_iff, verbatim, String.toList_ofList]
    exact ofSource_verbatim text.toList
  refine ⟨⟨origin, verbatimElements text.toList⟩, ?_, fun settings context subject => ?_⟩
  · rw [Template.compile, hread, Except.ok_bind, Template.make,
      Element.normalize_of_normal hplain.normal]
    rfl
  · funext session
    rw [evaluate]
    cases session.room with
    | zero => rw [within, elements_of_plain _ _ _ hplain, String.ofList_toList]
    | succ room => rw [within, elements_of_plain _ _ _ hplain, String.ofList_toList]

/-- What looks like a tag is written as text. -/
example : verbatim "-$if(a)$$" = "-$$if(a)$$$$" := by decide

end Evaluator

end Inlay
