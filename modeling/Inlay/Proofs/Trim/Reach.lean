import Inlay.Template.Source
import Inlay.Proofs.Trim.Thinning
import Mathlib.Data.List.DropRight
import Mathlib.Logic.Function.Iterate

/-!
# How far a mark reaches

The pass goes over its elements once and trims those that it has finished; the rule that is meant
looks at the neighbours of each element as they are written. By the rule a mark trims the text or
the block directly beside it, with nothing but marks between them, and no more than that.

The two differ where a text is gone: the pass has forgotten it, and the next mark on its left
reaches over it. `Element.allTrimmed` states both, the rule as it is meant and the one that the pass
follows, by whether marks reach `across` such texts. The pass follows the second one
(`normalize_eq_allTrimmed`), and so the first one where no blank text behind a text or a block is
trimmed more than once (`allTrimmed_of_apart`).
-/

namespace Inlay

namespace Text

/-- The second of two marks finds no blank left at the end of a text. -/
theorem trimEnd_trimEnd (text : String) : trimEnd (trimEnd text) = trimEnd text := by
  have h := List.rdropWhile_idempotent isBlank text.toList
  exact congrArg String.ofList ((congrArg dropBlanksEnd String.toList_ofList).trans h)

end Text

namespace Template.Element

/-! ## The rule -/

/-- How many of the marks behind a text, of which there are `count`, reach over it: those that find
nothing left of it. -/
def reachingOver (strip : Bool) (text : String) (count : Nat) : Nat :=
  let text := if strip then Text.trimStart text else text
  if text.isEmpty then count else if (Text.trimEnd text).isEmpty then count - 1 else 0

/-- How often the end of the element before these ones is trimmed: once by each `trimLeft` directly
behind it, and `stop` times more if nothing but marks comes to the end of the body. `strip` says
whether a `trimRight` stands before the next element. -/
def reaching (across strip : Bool) (stop : Nat) : List Element → Nat
  | [] => stop
  | element :: rest =>
    match element with
    | .trimLeft => reaching across strip stop rest + 1
    | .trimRight => reaching across true stop rest
    | .chunk text => if across then reachingOver strip text (reaching across false stop rest) else 0
    | _ => 0

mutual

/-- The element, trimmed at its start if `start` and at its end as often as `stop` says. A block
hands this on to its bodies, but not to the separator of a loop. A text of which nothing is left is
dropped. -/
def trimmed (across start : Bool) (stop : Nat) : Element → Option Element
  | .chunk text =>
    let text := if start then Text.trimStart text else text
    let text := if 0 < stop then Text.trimEnd text else text
    if text.isEmpty then none else some (.chunk text)
  | .cond test whenPresent whenAbsent =>
    some (.cond test (allTrimmed across start stop whenPresent)
      (allTrimmed? across start stop whenAbsent))
  | .loop source body separator =>
    some (.loop source (allTrimmed across start stop body) (allTrimmed? across false 0 separator))
  | element => some element

/-- The elements of a body without the marks, each of them trimmed at its start if it is the first
one and `start`, or a `trimRight` stands directly before it, and at its end if `trimLeft` stands
directly behind it, or it is the last one and `stop` is not zero. -/
def allTrimmed (across start : Bool) (stop : Nat) : List Element → List Element
  | [] => []
  | element :: rest =>
    match element with
    | .trimLeft => allTrimmed across start stop rest
    | .trimRight => allTrimmed across true stop rest
    | _ =>
      (trimmed across start (reaching across false stop rest) element).toList ++
        allTrimmed across false stop rest

/-- The elements of a body that may be absent. -/
def allTrimmed? (across start : Bool) (stop : Nat) : Option (List Element) → Option (List Element)
  | none => none
  | some body => some (allTrimmed across start stop body)

end

/-! ## Texts that are trimmed once -/

/-- The element is a text or a block, which are what a mark trims. -/
def HasEnd : Element → Prop
  | .chunk _ => True
  | .cond _ _ _ => True
  | .loop _ _ _ => True
  | _ => False

/-- None of the marks directly behind the next text reaches over it. -/
def Shields (strip : Bool) (stop : Nat) : List Element → Prop
  | [] => True
  | element :: rest =>
    match element with
    | .trimLeft => Shields strip stop rest
    | .trimRight => Shields true stop rest
    | .chunk text => reachingOver strip text (reaching false false stop rest) = 0
    | _ => True

mutual

/-- In the bodies of the element, no mark reaches over a text to a text or a block before it. -/
def Apart (start : Bool) (stop : Nat) : Element → Prop
  | .cond _ whenPresent whenAbsent =>
    AllApart start stop whenPresent ∧ AllApart? start stop whenAbsent
  | .loop _ body separator => AllApart start stop body ∧ AllApart? false 0 separator
  | _ => True

/-- No mark reaches over a text to a text or a block before it, here or in the bodies. -/
def AllApart (start : Bool) (stop : Nat) : List Element → Prop
  | [] => True
  | element :: rest =>
    match element with
    | .trimLeft => AllApart start stop rest
    | .trimRight => AllApart true stop rest
    | _ =>
      (element.HasEnd → Shields false stop rest) ∧
        element.Apart start (reaching false false stop rest) ∧ AllApart false stop rest

/-- The same of a body that may be absent. -/
def AllApart? (start : Bool) (stop : Nat) : Option (List Element) → Prop
  | none => True
  | some body => AllApart start stop body

end

/-! ## The pass follows the rule -/

/-- A mark reaches the element that was read last, and none before it. -/
theorem trimRead_append {read : List Element} (hread : read ≠ []) (before : List Element) :
    trimRead (read ++ before) = trimRead read ++ before := by
  cases read with
  | nil => exact absurd rfl hread
  | cons element read => exact (List.append_assoc _ _ _).symm

/-- Backwards, what was read last is the end of the body. -/
theorem trimRead_reverse (body : List Element) :
    trimRead body.reverse = (trimLast body).reverse := by
  induction body with
  | nil => rfl
  | cons element rest ih =>
    cases rest with
    | nil =>
      rw [trimLast, reverse_toList]
      exact List.append_nil _
    | cons next rest =>
      have hrest : (next :: rest).reverse ≠ [] := by simp
      rw [List.reverse_cons, trimRead_append hrest, ih]
      exact (List.reverse_cons ..).symm

/-- Trimming the end of a body so often is what as many marks do to the body read backwards. -/
theorem iterate_trimLast (count : Nat) (body : List Element) :
    trimLast^[count] body = (trimRead^[count] body.reverse).reverse := by
  induction count generalizing body with
  | zero => exact body.reverse_reverse.symm
  | succ count ih =>
    rw [Function.iterate_succ_apply, Function.iterate_succ_apply, ih, trimRead_reverse]

/-- At the start of a body, marks find nothing to trim. -/
theorem iterate_trimRead_nil (count : Nat) : trimRead^[count] [] = [] :=
  Function.iterate_fixed rfl count

/-- A body that is absent stays so, however often it is trimmed. -/
theorem iterate_trimLast? (count : Nat) (body : Option (List Element)) :
    trimLast?^[count] body = body.map trimLast^[count] := by
  cases body with
  | none => exact Function.iterate_fixed rfl count
  | some body =>
    induction count generalizing body with
    | zero => rfl
    | succ count ih =>
      rw [Function.iterate_succ_apply]
      exact ih (trimLast body)

/-- An element that trimming does not change keeps all marks to itself. -/
theorem iterate_trimRead_of_fixed {element : Element} (h : endTrimmed element = some element)
    (count : Nat) (read : List Element) :
    trimRead^[count] (element :: read) = element :: read := by
  refine Function.iterate_fixed ?_ count
  rw [trimRead, h]
  rfl

/-- A condition keeps all marks to itself and hands them on to the ends of both of its bodies. -/
theorem iterate_trimRead_cond (test : Expr) (whenPresent : List Element)
    (whenAbsent : Option (List Element)) (count : Nat) (read : List Element) :
    trimRead^[count] (cond test whenPresent whenAbsent :: read)
      = cond test (trimLast^[count] whenPresent) (trimLast?^[count] whenAbsent) :: read := by
  induction count generalizing whenPresent whenAbsent with
  | zero => rfl
  | succ count ih =>
    rw [Function.iterate_succ_apply, trimRead, endTrimmed]
    exact ih (trimLast whenPresent) (trimLast? whenAbsent)

/-- A loop keeps all marks to itself and hands them on to the end of its body, not of its separator.
-/
theorem iterate_trimRead_loop (source : Expr) (body : List Element)
    (separator : Option (List Element)) (count : Nat) (read : List Element) :
    trimRead^[count] (loop source body separator :: read)
      = loop source (trimLast^[count] body) separator :: read := by
  induction count generalizing body with
  | zero => rfl
  | succ count ih =>
    rw [Function.iterate_succ_apply, trimRead, endTrimmed]
    exact ih (trimLast body)

/-- A text takes the first mark, and is gone with it if it is blank: the others reach over it. -/
theorem iterate_trimRead_chunk (text : String) (count : Nat) (read : List Element) :
    trimRead^[count] ((if text.isEmpty then none else some (chunk text)).toList ++ read)
      = (trimmed true false count (.chunk text)).toList ++
        trimRead^[reachingOver false text count] read := by
  rw [trimmed, reachingOver]
  simp only [Bool.false_eq_true, if_false]
  cases count with
  | zero =>
    by_cases hempty : text.isEmpty <;> simp [hempty]
  | succ count =>
    rw [if_pos count.succ_pos]
    by_cases hempty : text.isEmpty
    · have hend : (Text.trimEnd text).isEmpty := by
        rw [String.isEmpty_iff.1 hempty]
        rfl
      rw [if_pos hempty, if_pos hend, if_pos hempty]
      rfl
    · have hfirst : trimRead (chunk text :: read)
          = (endTrimmed (chunk text)).toList ++ read := rfl
      rw [if_neg hempty, if_neg hempty, Option.toList_some, List.singleton_append,
        Function.iterate_succ_apply, hfirst, endTrimmed]
      by_cases hblank : (Text.trimEnd text).isEmpty
      · rw [if_pos hblank, if_pos hblank]
        rfl
      · have hfixed : endTrimmed (chunk (Text.trimEnd text))
            = some (chunk (Text.trimEnd text)) := by
          rw [endTrimmed, Text.trimEnd_trimEnd, if_neg hblank]
        rw [if_neg hblank, if_neg hblank]
        exact iterate_trimRead_of_fixed hfixed count read

mutual

/-- What is left of an element that is not a mark, once its start has been trimmed and its end
`count` times. -/
theorem iterate_trimRead_startTrimmed : (strip : Bool) → (element : Element) →
    element ≠ .trimLeft → element ≠ .trimRight → (count : Nat) → (read : List Element) →
    trimRead^[count] ((startTrimmed strip element).toList ++ read)
      = (trimmed true strip count element).toList ++
        trimRead^[reaching true strip count [element]] read
  | strip, .chunk text, _, _, count, read => by
    rw [startTrimmed]
    exact iterate_trimRead_chunk _ count read
  | strip, .cond test whenPresent whenAbsent, _, _, count, read => by
    have hpresent := iterate_trimLast_normalizeFrom strip whenPresent count
    have habsent := iterate_trimLast?_normalizeFrom? strip whenAbsent count
    rw [startTrimmed, Option.toList_some, List.singleton_append, iterate_trimRead_cond, hpresent,
      habsent, trimmed]
    rfl
  | strip, .loop source body separator, _, _, count, read => by
    have hbody := iterate_trimLast_normalizeFrom strip body count
    have hseparator := iterate_trimLast?_normalizeFrom? false separator 0
    rw [startTrimmed, Option.toList_some, List.singleton_append, iterate_trimRead_loop, hbody,
      trimmed, ← hseparator]
    rfl
  | _, .dollar, _, _, count, read | _, .value _, _, _, count, read
  | _, .inclusion _, _, _, count, read | _, .foreign _, _, _, count, read =>
    iterate_trimRead_of_fixed rfl count read
  | _, .trimLeft, hleft, _, _, _ => absurd rfl hleft
  | _, .trimRight, _, hright, _, _ => absurd rfl hright

/-- The marks that are still to come trim what the pass leaves of the elements, and those that reach
over all of these trim what it had read before. -/
theorem iterate_trimRead_normalizeFrom : (strip : Bool) → (elements : List Element) →
    (count : Nat) → (read : List Element) →
    trimRead^[count] (normalizeFrom strip read elements).reverse
      = (allTrimmed true strip count elements).reverse ++
        trimRead^[reaching true strip count elements] read
  | strip, [], count, read => by
    rw [normalizeFrom, List.reverse_reverse, allTrimmed, reaching]
    rfl
  | strip, element :: rest, count, read => by
    have hstart := iterate_trimRead_startTrimmed strip element
    have hrest := iterate_trimRead_normalizeFrom false rest count
      ((startTrimmed strip element).toList ++ read)
    cases element with
    | trimLeft => exact iterate_trimRead_normalizeFrom strip rest count (trimRead read)
    | trimRight => exact iterate_trimRead_normalizeFrom true rest count read
    | chunk | dollar | value | cond | loop | inclusion | foreign =>
      rw [hstart (by simp) (by simp), ← List.append_assoc] at hrest
      rw [allTrimmed, List.reverse_append, reverse_toList]
      · exact hrest
      · simp
      · simp

/-- The marks behind a block reach into its body as the rule says. -/
theorem iterate_trimLast_normalizeFrom (strip : Bool) (body : List Element) (count : Nat) :
    trimLast^[count] (normalizeFrom strip [] body) = allTrimmed true strip count body := by
  rw [iterate_trimLast, iterate_trimRead_normalizeFrom strip body count [], iterate_trimRead_nil,
    List.append_nil, List.reverse_reverse]

/-- So they do into a body that may be absent. -/
theorem iterate_trimLast?_normalizeFrom? : (strip : Bool) → (body : Option (List Element)) →
    (count : Nat) →
    trimLast?^[count] (normalizeFrom? strip body) = allTrimmed? true strip count body
  | strip, none, count => Function.iterate_fixed rfl count
  | strip, some body, count => by
    rw [normalizeFrom?, iterate_trimLast?]
    exact congrArg some (iterate_trimLast_normalizeFrom strip body count)

end

/-- The pass trims each element where the rule says, with marks that reach over what is gone. -/
theorem normalize_eq_allTrimmed (elements : List Element) :
    normalize elements = allTrimmed true false 0 elements :=
  iterate_trimLast_normalizeFrom false elements 0

/-! ## Where the pass follows the rule that is meant -/

/-- The same marks reach the element before these, whether or not they could reach over a text. -/
theorem reaching_of_apart {start strip : Bool} {stop : Nat} {elements : List Element}
    (happart : AllApart start stop elements) (hshields : Shields strip stop elements) :
    reaching true strip stop elements = reaching false strip stop elements := by
  induction elements generalizing start strip with
  | nil => rfl
  | cons element rest ih =>
    cases element with
    | trimLeft => exact congrArg (· + 1) (ih happart hshields)
    | trimRight => exact ih happart hshields
    | chunk text =>
      obtain ⟨hbehind, -, hrest⟩ := happart
      have hsame := ih hrest (hbehind trivial)
      calc reaching true strip stop (.chunk text :: rest)
        _ = reachingOver strip text (reaching true false stop rest) := rfl
        _ = reachingOver strip text (reaching false false stop rest) := by rw [hsame]
        _ = 0 := hshields
    | dollar | value | cond | loop | inclusion | foreign => rfl

mutual

/-- Where no mark reaches over a text inside of an element, both rules trim it in the same way. -/
theorem trimmed_of_apart : (start : Bool) → (stop : Nat) → (element : Element) →
    element.Apart start stop → trimmed true start stop element = trimmed false start stop element
  | start, stop, .chunk text, _ => by
    rw [trimmed, trimmed]
  | start, stop, .cond test whenPresent whenAbsent, happart => by
    have hpresent := allTrimmed_of_apart start stop whenPresent happart.1
    have habsent := allTrimmed?_of_apart start stop whenAbsent happart.2
    rw [trimmed, trimmed, hpresent, habsent]
  | start, stop, .loop source body separator, happart => by
    have hbody := allTrimmed_of_apart start stop body happart.1
    have hseparator := allTrimmed?_of_apart false 0 separator happart.2
    rw [trimmed, trimmed, hbody, hseparator]
  | _, _, .dollar, _ | _, _, .value _, _ | _, _, .inclusion _, _ | _, _, .trimLeft, _
  | _, _, .trimRight, _ | _, _, .foreign _, _ => rfl

/-- Where no mark reaches over a text to what can be trimmed, both rules are one. -/
theorem allTrimmed_of_apart : (start : Bool) → (stop : Nat) → (elements : List Element) →
    AllApart start stop elements →
      allTrimmed true start stop elements = allTrimmed false start stop elements
  | _, _, [], _ => rfl
  | start, stop, element :: rest, happart => by
    have helement := trimmed_of_apart start (reaching false false stop rest) element
    cases element with
    | trimLeft => exact allTrimmed_of_apart start stop rest happart
    | trimRight => exact allTrimmed_of_apart true stop rest happart
    -- what has no end to trim is the same, whatever reaches it
    | dollar | value | inclusion | foreign =>
      exact congrArg (_ :: ·) (allTrimmed_of_apart false stop rest happart.2.2)
    | chunk | cond | loop =>
      obtain ⟨hbehind, hbodies, hrest⟩ := happart
      have hreaching := reaching_of_apart hrest (hbehind trivial)
      have hall := allTrimmed_of_apart false stop rest hrest
      rw [allTrimmed, allTrimmed, hreaching, helement hbodies, hall] <;> simp

/-- So they are for a body that may be absent. -/
theorem allTrimmed?_of_apart : (start : Bool) → (stop : Nat) → (body : Option (List Element)) →
    AllApart? start stop body →
      allTrimmed? true start stop body = allTrimmed? false start stop body
  | _, _, none, _ => rfl
  | start, stop, some body, happart => congrArg some (allTrimmed_of_apart start stop body happart)

end

/-- The pass trims each element where the rule says, with marks that reach over the texts that are
gone. Where no mark does so to a text or a block, this is the rule that is meant: a mark trims its
neighbour and nothing else. -/
theorem normalize_follows_rule (elements : List Element) :
    normalize elements = allTrimmed true false 0 elements ∧
      (AllApart false 0 elements → normalize elements = allTrimmed false false 0 elements) := by
  refine ⟨normalize_eq_allTrimmed elements, fun happart => ?_⟩
  rw [normalize_eq_allTrimmed]
  exact allTrimmed_of_apart false 0 elements happart

/-- The blank line between a block and a tag with a mark before it is removed, and the mark does not
reach into the block. -/
theorem normalize_blank_line :
    normalize [.loop (.ident "x") [.chunk "a "] none, .chunk "\n", .trimLeft, .value (.ident "y")]
      = [.loop (.ident "x") [.chunk "a "] none, .value (.ident "y")] := by
  have happart : AllApart false 0
      [.loop (.ident "x") [.chunk "a "] none, .chunk "\n", .trimLeft, .value (.ident "y")] := by
    -- one mark stands behind the line, and the line is what it takes
    have hshields : Shields false 0 [.chunk "\n", .trimLeft, .value (.ident "y")] := rfl
    exact ⟨fun _ => hshields, ⟨⟨fun _ => trivial, trivial, trivial⟩, trivial⟩,
      ⟨fun _ => trivial, trivial, fun _ => trivial, trivial, trivial⟩⟩
  exact (normalize_follows_rule _).2 happart

/-- Between two marks, a blank text is gone before the second one is read. This one reaches over it
and trims the end of the block, where the rule leaves the block alone. -/
theorem blank_between_marks : ∃ elements,
    ofSource "$for(x)$a $endfor-$ $-y$".toList = .ok elements ∧
      normalize elements = [.loop (.ident "x") [.chunk "a"] none, .value (.ident "y")] ∧
      allTrimmed false false 0 elements
        = [.loop (.ident "x") [.chunk "a "] none, .value (.ident "y")] ∧
      normalize elements ≠ allTrimmed false false 0 elements := by
  have hsource : "$for(x)$a $endfor-$ $-y$".toList = ['$', 'f', 'o', 'r', '(', 'x', ')', '$', 'a',
      ' ', '$', 'e', 'n', 'd', 'f', 'o', 'r', '-', '$', ' ', '$', '-', 'y', '$'] := by
    decide
  refine ⟨[.loop (.ident "x") [.chunk "a "] none, .trimRight, .chunk " ", .trimLeft,
    .value (.ident "y")], ?_, rfl, rfl, ?_⟩
  · rw [hsource]
    rfl
  · intro hsame
    have hblocks : [loop (.ident "x") [.chunk "a"] none, .value (.ident "y")]
        = [loop (.ident "x") [.chunk "a "] none, .value (.ident "y")] := hsame
    simp at hblocks

end Template.Element

end Inlay
