import Inlay.Template.Trim

/-!
# The trimming pass deletes nothing but blanks

A text is *thinner* than another one if it is that text with some of its blanks deleted. Elements
are thinner than others if they differ in nothing but their texts, of which some are thinner and
some, with no text left of them, are gone.

Main statement: the elements that the pass leaves are thinner than those that are left if the marks
are merely deleted (`Element.normalize_thinner`).
-/

namespace Inlay

namespace Text

/-! ## Texts -/

/-- The first text is the second one with some of its blanks deleted. -/
inductive Thinner : List Char → List Char → Prop where
  | nil : Thinner [] []
  | keep (c : Char) {first second : List Char} (rest : Thinner first second) :
    Thinner (c :: first) (c :: second)
  | drop {c : Char} (blank : isBlank c = true) {first second : List Char}
    (rest : Thinner first second) : Thinner first (c :: second)

namespace Thinner

/-- Every text counts as thinner than itself. -/
@[refl] theorem refl (cs : List Char) : Thinner cs cs := by
  induction cs with
  | nil => exact nil
  | cons c cs ih => exact keep c ih

/-- Blanks may be deleted in two goes. -/
theorem trans {first second third : List Char} (h₁ : Thinner first second)
    (h₂ : Thinner second third) : Thinner first third := by
  induction h₂ generalizing first with
  | nil => exact h₁
  | keep c _ ih =>
    cases h₁ with
    | keep _ rest => exact keep c (ih rest)
    | drop blank rest => exact drop blank (ih rest)
  | drop blank _ ih => exact drop blank (ih h₁)

/-- Blanks deleted in two texts are deleted in the text that they make up. -/
theorem append {first second first' second' : List Char} (h : Thinner first second)
    (h' : Thinner first' second') : Thinner (first ++ first') (second ++ second') := by
  induction h with
  | nil => exact h'
  | keep c _ ih => exact keep c ih
  | drop blank _ ih => exact drop blank ih

/-- Blanks alone can be deleted. -/
theorem of_blanks {cs : List Char} (h : ∀ c ∈ cs, isBlank c = true) : Thinner [] cs := by
  induction cs with
  | nil => exact nil
  | cons c cs ih =>
    exact drop (h c List.mem_cons_self) (ih fun d hd => h d (List.mem_cons_of_mem c hd))

/-- What is not blank stays. -/
theorem filter_eq {first second : List Char} (h : Thinner first second) :
    first.filter (fun c => !isBlank c) = second.filter (fun c => !isBlank c) := by
  induction h with
  | nil => rfl
  | keep c _ ih => simp only [List.filter_cons, ih]
  | drop blank _ ih => rw [ih, List.filter_cons_of_neg (by simp [blank])]

end Thinner

/-- Trimming the start of a text deletes nothing but blanks. -/
theorem dropBlanks_thinner (cs : List Char) : Thinner (dropBlanks cs) cs := by
  have hblanks : Thinner [] (cs.takeWhile isBlank) :=
    .of_blanks (List.all_eq_true.1 List.all_takeWhile)
  have h := hblanks.append (.refl (dropBlanks cs))
  rwa [List.nil_append, dropBlanks, List.takeWhile_append_dropWhile] at h

/-- Trimming its end does neither. -/
theorem dropBlanksEnd_thinner (cs : List Char) : Thinner (dropBlanksEnd cs) cs := by
  have hblanks : Thinner [] (cs.reverse.takeWhile isBlank).reverse := by
    refine .of_blanks fun c hc => ?_
    exact List.all_eq_true.1 List.all_takeWhile c (List.mem_reverse.1 hc)
  have h := Thinner.append (.refl (dropBlanksEnd cs)) hblanks
  rwa [List.append_nil, dropBlanksEnd, ← List.reverse_append, List.takeWhile_append_dropWhile,
    List.reverse_reverse] at h

end Text

namespace Template

/-! ## Elements -/

/-- The first elements are the second ones with blanks deleted from their texts, at any depth. An
absent body counts as an empty one. -/
inductive Thinner : List Element → List Element → Prop where
  | nil : Thinner [] []
  | keep (element : Element) {first second : List Element} (rest : Thinner first second) :
    Thinner (element :: first) (element :: second)
  | chunk {text text' : String} (thinner : Text.Thinner text.toList text'.toList)
    {first second : List Element} (rest : Thinner first second) :
    Thinner (.chunk text :: first) (.chunk text' :: second)
  | drop {text : String} (blank : Text.Thinner [] text.toList) {first second : List Element}
    (rest : Thinner first second) : Thinner first (.chunk text :: second)
  | cond (test : Expr) {body body' : List Element} (present : Thinner body body')
    {other other' : Option (List Element)} (absent : Thinner (other.getD []) (other'.getD []))
    {first second : List Element} (rest : Thinner first second) :
    Thinner (.cond test body other :: first) (.cond test body' other' :: second)
  | loop (source : Expr) {body body' : List Element} (each : Thinner body body')
    {other other' : Option (List Element)} (between : Thinner (other.getD []) (other'.getD []))
    {first second : List Element} (rest : Thinner first second) :
    Thinner (.loop source body other :: first) (.loop source body' other' :: second)

namespace Thinner

/-- Elements count as thinner than themselves. -/
@[refl] theorem refl (elements : List Element) : Thinner elements elements := by
  induction elements with
  | nil => exact nil
  | cons element elements ih => exact keep element ih

/-- Blanks may be deleted in two goes. -/
theorem trans {first second third : List Element} (h₁ : Thinner first second)
    (h₂ : Thinner second third) : Thinner first third := by
  -- on the second pair: what it drops is gone from the first one too, whatever that looks like
  induction h₂ generalizing first with
  | nil => exact h₁
  | keep element rest₂ ih =>
    cases h₁ with
    | keep _ rest => exact keep element (ih rest)
    | chunk thinner rest => exact chunk thinner (ih rest)
    | drop blank rest => exact drop blank (ih rest)
    | cond test present absent rest => exact cond test present absent (ih rest)
    | loop source each between rest => exact loop source each between (ih rest)
  | chunk thinner _ ih =>
    cases h₁ with
    | keep _ rest => exact chunk thinner (ih rest)
    | chunk thinner' rest => exact chunk (thinner'.trans thinner) (ih rest)
    | drop blank rest => exact drop (blank.trans thinner) (ih rest)
  | drop blank _ ih => exact drop blank (ih h₁)
  | cond test present₂ absent₂ _ ihPresent ihAbsent ih =>
    cases h₁ with
    | keep _ rest => exact cond test present₂ absent₂ (ih rest)
    | cond _ present absent rest => exact cond test (ihPresent present) (ihAbsent absent) (ih rest)
  | loop source each₂ between₂ _ ihEach ihBetween ih =>
    cases h₁ with
    | keep _ rest => exact loop source each₂ between₂ (ih rest)
    | loop _ each between rest => exact loop source (ihEach each) (ihBetween between) (ih rest)

/-- Elements may be thinned before and behind a place at once. -/
theorem append {first second first' second' : List Element} (h : Thinner first second)
    (h' : Thinner first' second') : Thinner (first ++ first') (second ++ second') := by
  induction h with
  | nil => exact h'
  | keep element _ ih => exact keep element ih
  | chunk thinner _ ih => exact chunk thinner ih
  | drop blank _ ih => exact drop blank ih
  | cond test present absent _ _ _ ih => exact cond test present absent ih
  | loop source each between _ _ _ ih => exact loop source each between ih

/-- A text that is trimmed, and dropped if nothing is left of it. -/
theorem of_text {text text' : String} (h : Text.Thinner text.toList text'.toList) :
    Thinner (if text.isEmpty then none else some (Element.chunk text)).toList [.chunk text'] := by
  split
  · next hempty =>
    rw [String.isEmpty_iff] at hempty
    subst hempty
    exact drop h nil
  · exact chunk h nil

end Thinner

namespace Element

/-! ## Deleting the marks -/

mutual

/-- The element without the marks in its bodies. -/
def unmarkedElement : Element → Element
  | .cond test whenPresent whenAbsent => .cond test (unmarked whenPresent) (unmarked? whenAbsent)
  | .loop source body separator => .loop source (unmarked body) (unmarked? separator)
  | element => element

/-- The elements without their marks, at every depth. -/
def unmarked : List Element → List Element
  | [] => []
  | element :: rest =>
    match element with
    | .trimLeft => unmarked rest
    | .trimRight => unmarked rest
    | _ => unmarkedElement element :: unmarked rest

/-- A body that may be absent, without its marks. -/
def unmarked? : Option (List Element) → Option (List Element)
  | none => none
  | some body => some (unmarked body)

end

/-! ## Trimming -/

mutual

/-- Trimming the end of an element deletes nothing but blanks. -/
theorem endTrimmed_thinner : (element : Element) → Thinner (endTrimmed element).toList [element]
  | .chunk text => by
    rw [endTrimmed]
    refine Thinner.of_text ?_
    rw [Text.trimEnd, String.toList_ofList]
    exact Text.dropBlanksEnd_thinner text.toList
  | .cond test whenPresent whenAbsent => by
    rw [endTrimmed]
    exact .cond test (trimLast_thinner whenPresent) (trimLast?_thinner whenAbsent) .nil
  | .loop source body separator => by
    rw [endTrimmed]
    exact .loop source (trimLast_thinner body) (.refl _) .nil
  | .dollar | .value _ | .inclusion _ | .trimLeft | .trimRight | .foreign _ => .refl _

/-- Trimming the end of a body makes its elements thinner. -/
theorem trimLast_thinner : (body : List Element) → Thinner (trimLast body) body
  | [] => .nil
  | [element] => endTrimmed_thinner element
  | element :: next :: rest => .keep element (trimLast_thinner (next :: rest))

/-- So it does with a body that may be absent. -/
theorem trimLast?_thinner : (body : Option (List Element)) →
    Thinner ((trimLast? body).getD []) (body.getD [])
  | none => .nil
  | some body => trimLast_thinner body

end

/-- The pass holds what it has read the other way round, but that is at most one element here. -/
theorem reverse_toList (element : Option Element) : element.toList.reverse = element.toList := by
  cases element <;> rfl

/-- A `trimLeft` makes what has been read thinner, once it is put in order. -/
theorem trimRead_thinner (read : List Element) : Thinner (trimRead read).reverse read.reverse := by
  cases read with
  | nil => exact .nil
  | cons element before =>
    rw [trimRead, List.reverse_append, List.reverse_cons, reverse_toList]
    exact Thinner.append (.refl before.reverse) (endTrimmed_thinner element)

mutual

/-- Trimming the start of an element, and applying the marks in its bodies, deletes nothing but
blanks and the marks. -/
theorem startTrimmed_thinner : (strip : Bool) → (element : Element) →
    Thinner (startTrimmed strip element).toList [unmarkedElement element]
  | strip, .chunk text => by
    rw [startTrimmed]
    refine Thinner.of_text ?_
    cases strip with
    | false => exact .refl _
    | true =>
      rw [if_pos rfl, Text.trimStart, String.toList_ofList]
      exact Text.dropBlanks_thinner text.toList
  | strip, .cond test whenPresent whenAbsent => by
    rw [startTrimmed, unmarkedElement]
    exact .cond test (normalizeFrom_thinner strip [] whenPresent [] .nil)
      (normalizeFrom?_thinner strip whenAbsent) .nil
  | strip, .loop source body separator => by
    rw [startTrimmed, unmarkedElement]
    exact .loop source (normalizeFrom_thinner strip [] body [] .nil)
      (normalizeFrom?_thinner false separator) .nil
  | _, .dollar | _, .value _ | _, .inclusion _ | _, .trimLeft | _, .trimRight | _, .foreign _ =>
    .refl _

/-- The pass goes on from what it has read, thinner than `whole` so far. -/
theorem normalizeFrom_thinner : (strip : Bool) → (read elements whole : List Element) →
    Thinner read.reverse whole →
      Thinner (normalizeFrom strip read elements) (whole ++ unmarked elements)
  | strip, read, [], whole, h => by
    rw [normalizeFrom, unmarked, List.append_nil]
    exact h
  | strip, read, element :: rest, whole, h => by
    have hread : Thinner ((startTrimmed strip element).toList ++ read).reverse
        (whole ++ [unmarkedElement element]) := by
      rw [List.reverse_append, reverse_toList]
      exact h.append (startTrimmed_thinner strip element)
    have hrest := normalizeFrom_thinner false _ rest _ hread
    rw [List.append_assoc] at hrest
    cases element with
    -- a mark is deleted on both sides; one on the left trims what has been read, once more
    | trimLeft => exact normalizeFrom_thinner strip _ rest whole ((trimRead_thinner read).trans h)
    | trimRight => exact normalizeFrom_thinner true read rest whole h
    | chunk | dollar | value | cond | loop | inclusion | foreign => exact hrest

/-- The pass over a body that may be absent leaves elements that are thinner than its own without
the marks. -/
theorem normalizeFrom?_thinner : (strip : Bool) → (body : Option (List Element)) →
    Thinner ((normalizeFrom? strip body).getD []) ((unmarked? body).getD [])
  | _, none => .nil
  | strip, some body => normalizeFrom_thinner strip [] body [] .nil

end

/-- The pass deletes nothing but blanks and the marks. -/
theorem normalize_thinner (elements : List Element) :
    Thinner (normalize elements) (unmarked elements) :=
  normalizeFrom_thinner false [] elements [] .nil

end Element

end Template

end Inlay
