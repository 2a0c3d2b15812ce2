import Inlay.Proofs.Trim.Thinning

/-!
# Normal forms of the trimming pass

Elements are *normal* if no trimming mark and no empty text stands in them, at any depth. Their
*skeleton* is what is left of them without their texts and marks: the other elements in order, with
their expressions, and with the skeletons of their bodies, which are there or absent as the bodies
are.

The pass leaves normal elements (`normalizeFrom_normal`), keeps the skeleton
(`skeleton_normalizeFrom`), and has nothing to do where the elements are normal already
(`normalizeFrom_of_normal`). So it does nothing the second time (`normalize_normal`).
-/

namespace Inlay.Template.Element

mutual

/-- No mark and no empty text stands in the element. -/
def Normal : Element → Prop
  | .chunk text => text ≠ ""
  | .dollar => True
  | .value _ => True
  | .cond _ whenPresent whenAbsent => AllNormal whenPresent ∧ AllNormal? whenAbsent
  | .loop _ body separator => AllNormal body ∧ AllNormal? separator
  | .inclusion _ => True
  | .trimLeft => False
  | .trimRight => False
  | .foreign _ => True

/-- All of the elements are normal. -/
def AllNormal : List Element → Prop
  | [] => True
  | element :: rest => element.Normal ∧ AllNormal rest

/-- All of a body that may be absent is normal. -/
def AllNormal? : Option (List Element) → Prop
  | none => True
  | some body => AllNormal body

end

mutual

/-- What the element adds to a skeleton. -/
def bone : Element → List Element
  | .chunk _ => []
  | .trimLeft => []
  | .trimRight => []
  | .cond test whenPresent whenAbsent => [.cond test (skeleton whenPresent) (skeleton? whenAbsent)]
  | .loop source body separator => [.loop source (skeleton body) (skeleton? separator)]
  | element => [element]

/-- The elements without texts and marks, at every depth. -/
def skeleton : List Element → List Element
  | [] => []
  | element :: rest => element.bone ++ skeleton rest

/-- The skeleton of a body that may be absent. -/
def skeleton? : Option (List Element) → Option (List Element)
  | none => none
  | some body => some (skeleton body)

end

/-! ## Lists of elements -/

/-- To be normal is asked of each element by itself, whatever stands beside it. -/
theorem allNormal_iff {elements : List Element} :
    AllNormal elements ↔ ∀ element ∈ elements, element.Normal := by
  induction elements with
  | nil => simp [AllNormal]
  | cons element rest ih => simp [AllNormal, ih]

/-- Normal elements may be put behind normal ones. -/
theorem allNormal_append {first second : List Element} :
    AllNormal (first ++ second) ↔ AllNormal first ∧ AllNormal second := by
  simp only [allNormal_iff, List.forall_mem_append]

/-- The order of elements plays no part, so those that the pass has read backwards are normal too.
-/
theorem allNormal_reverse {elements : List Element} :
    AllNormal elements.reverse ↔ AllNormal elements := by
  simp only [allNormal_iff, List.mem_reverse]

/-- The skeleton is made up element by element. -/
theorem skeleton_append (first second : List Element) :
    skeleton (first ++ second) = skeleton first ++ skeleton second := by
  induction first with
  | nil => rfl
  | cons element rest ih =>
    rw [List.cons_append, skeleton, skeleton, ih, List.append_assoc]

/-- What one element adds is the skeleton that it has alone. -/
theorem skeleton_singleton (element : Element) : skeleton [element] = element.bone := by
  rw [skeleton, skeleton, List.append_nil]

/-- A text that is dropped if nothing is left of it is normal, and adds nothing to the skeleton. -/
theorem text_normal (text : String) :
    AllNormal (if text.isEmpty then none else some (chunk text)).toList ∧
      skeleton (if text.isEmpty then none else some (chunk text)).toList = [] := by
  by_cases hempty : text.isEmpty
  · rw [if_pos hempty]
    exact ⟨trivial, rfl⟩
  · rw [if_neg hempty]
    have htext : text ≠ "" := fun h => hempty (String.isEmpty_iff.2 h)
    exact ⟨⟨htext, trivial⟩, rfl⟩

/-! ## What the pass leaves is normal -/

mutual

/-- Trimming the end of an element leaves no empty text: one of which nothing is left is dropped. -/
theorem endTrimmed_normal : (element : Element) → element.Normal →
    AllNormal (endTrimmed element).toList
  | .chunk text, _ => by
    rw [endTrimmed]
    exact (text_normal _).1
  | .cond test whenPresent whenAbsent, hnormal => by
    rw [endTrimmed]
    obtain ⟨hpresent, habsent⟩ := hnormal
    exact ⟨⟨trimLast_normal whenPresent hpresent, trimLast?_normal whenAbsent habsent⟩, trivial⟩
  | .loop source body separator, hnormal => by
    rw [endTrimmed]
    obtain ⟨hbody, hseparator⟩ := hnormal
    exact ⟨⟨trimLast_normal body hbody, hseparator⟩, trivial⟩
  | .dollar, h | .value _, h | .inclusion _, h | .trimLeft, h | .trimRight, h | .foreign _, h =>
    ⟨h, trivial⟩

/-- So a body that is trimmed at its end stays normal. -/
theorem trimLast_normal : (body : List Element) → AllNormal body → AllNormal (trimLast body)
  | [], _ => trivial
  | [element], hnormal => endTrimmed_normal element hnormal.1
  | _ :: next :: rest, hnormal => ⟨hnormal.1, trimLast_normal (next :: rest) hnormal.2⟩

/-- A body that is absent has nothing to be trimmed. -/
theorem trimLast?_normal : (body : Option (List Element)) → AllNormal? body →
    AllNormal? (trimLast? body)
  | none, _ => trivial
  | some body, hnormal => trimLast_normal body hnormal

end

/-- A `trimLeft` keeps what the pass has read so far in normal form. -/
theorem trimRead_normal {read : List Element} (hread : AllNormal read) :
    AllNormal (trimRead read) := by
  cases read with
  | nil => trivial
  | cons element before =>
    rw [trimRead, allNormal_append]
    exact ⟨endTrimmed_normal element hread.1, hread.2⟩

mutual

/-- Whatever is not a mark is normal once its start has been trimmed and the marks in its bodies
applied. -/
theorem startTrimmed_normal : (strip : Bool) → (element : Element) → element ≠ .trimLeft →
    element ≠ .trimRight → AllNormal (startTrimmed strip element).toList
  | strip, .chunk text, _, _ => by
    rw [startTrimmed]
    exact (text_normal _).1
  | strip, .cond test whenPresent whenAbsent, _, _ => by
    have hpresent := normalizeFrom_normal strip [] whenPresent trivial
    have habsent := normalizeFrom?_normal strip whenAbsent
    rw [startTrimmed]
    exact ⟨⟨hpresent, habsent⟩, trivial⟩
  | strip, .loop source body separator, _, _ => by
    have hbody := normalizeFrom_normal strip [] body trivial
    have hseparator := normalizeFrom?_normal false separator
    rw [startTrimmed]
    exact ⟨⟨hbody, hseparator⟩, trivial⟩
  | _, .dollar, _, _ | _, .value _, _, _ | _, .inclusion _, _, _ | _, .foreign _, _, _ =>
    ⟨trivial, trivial⟩
  | _, .trimLeft, hleft, _ => absurd rfl hleft
  | _, .trimRight, _, hright => absurd rfl hright

/-- From normal elements that it has read, the pass goes on to normal elements. -/
theorem normalizeFrom_normal : (strip : Bool) → (read elements : List Element) → AllNormal read →
    AllNormal (normalizeFrom strip read elements)
  | strip, read, [], hread => by
    rw [normalizeFrom]
    exact allNormal_reverse.2 hread
  | strip, read, element :: rest, hread => by
    have hstart := startTrimmed_normal strip element
    cases element with
    | trimLeft => exact normalizeFrom_normal strip _ rest (trimRead_normal hread)
    | trimRight => exact normalizeFrom_normal true read rest hread
    | chunk | dollar | value | cond | loop | inclusion | foreign =>
      have hfirst := hstart (by simp) (by simp)
      exact normalizeFrom_normal false _ rest (allNormal_append.2 ⟨hfirst, hread⟩)

/-- The pass over a body that may be absent leaves it normal, or absent. -/
theorem normalizeFrom?_normal : (strip : Bool) → (body : Option (List Element)) →
    AllNormal? (normalizeFrom? strip body)
  | _, none => trivial
  | strip, some body => normalizeFrom_normal strip [] body trivial

end

/-! ## The skeleton stays -/

mutual

/-- The end of an element holds texts alone, so trimming it keeps the skeleton. -/
theorem skeleton_endTrimmed : (element : Element) →
    skeleton (endTrimmed element).toList = element.bone
  | .chunk text => by
    rw [endTrimmed]
    exact (text_normal _).2
  | .cond test whenPresent whenAbsent => by
    rw [endTrimmed, Option.toList_some, skeleton_singleton, bone, bone,
      skeleton_trimLast whenPresent, skeleton?_trimLast? whenAbsent]
  | .loop source body separator => by
    rw [endTrimmed, Option.toList_some, skeleton_singleton, bone, bone, skeleton_trimLast body]
  | .dollar | .value _ | .inclusion _ | .trimLeft | .trimRight | .foreign _ =>
    skeleton_singleton _

/-- A body keeps its skeleton if its last element is trimmed. -/
theorem skeleton_trimLast : (body : List Element) → skeleton (trimLast body) = skeleton body
  | [] => rfl
  | [element] => by
    rw [skeleton_singleton]
    exact skeleton_endTrimmed element
  | element :: next :: rest => by
    have hrest := skeleton_trimLast (next :: rest)
    exact congrArg (element.bone ++ ·) hrest

/-- So does a body that may be absent. -/
theorem skeleton?_trimLast? : (body : Option (List Element)) →
    skeleton? (trimLast? body) = skeleton? body
  | none => rfl
  | some body => congrArg some (skeleton_trimLast body)

end

/-- A `trimLeft` takes nothing but texts out of what has been read, which is held last first. -/
theorem skeleton_trimRead (read : List Element) :
    skeleton (trimRead read).reverse = skeleton read.reverse := by
  cases read with
  | nil => rfl
  | cons element before =>
    rw [trimRead, List.reverse_append, List.reverse_cons, reverse_toList, skeleton_append,
      skeleton_append, skeleton_endTrimmed, skeleton_singleton]

mutual

/-- The pass over the bodies of a block keeps what the block adds to the skeleton. -/
theorem skeleton_startTrimmed : (strip : Bool) → (element : Element) →
    skeleton (startTrimmed strip element).toList = element.bone
  | strip, .chunk text => by
    rw [startTrimmed]
    exact (text_normal _).2
  | strip, .cond test whenPresent whenAbsent => by
    have hpresent := skeleton_normalizeFrom strip [] whenPresent
    have habsent := skeleton?_normalizeFrom? strip whenAbsent
    rw [startTrimmed, Option.toList_some, skeleton_singleton, bone, bone, hpresent, habsent]
    rfl
  | strip, .loop source body separator => by
    have hbody := skeleton_normalizeFrom strip [] body
    have hseparator := skeleton?_normalizeFrom? false separator
    rw [startTrimmed, Option.toList_some, skeleton_singleton, bone, bone, hbody, hseparator]
    rfl
  | _, .dollar | _, .value _ | _, .inclusion _ | _, .trimLeft | _, .trimRight | _, .foreign _ =>
    skeleton_singleton _

/-- The pass leaves the skeleton of what it has read, and behind it that of what is to come. -/
theorem skeleton_normalizeFrom : (strip : Bool) → (read elements : List Element) →
    skeleton (normalizeFrom strip read elements) = skeleton read.reverse ++ skeleton elements
  | strip, read, [] => by
    rw [normalizeFrom, skeleton, List.append_nil]
  | strip, read, element :: rest => by
    have hread : skeleton ((startTrimmed strip element).toList ++ read).reverse
        = skeleton read.reverse ++ element.bone := by
      rw [List.reverse_append, reverse_toList, skeleton_append, skeleton_startTrimmed strip element]
    have hrest := skeleton_normalizeFrom false ((startTrimmed strip element).toList ++ read) rest
    rw [hread, List.append_assoc] at hrest
    cases element with
    -- a mark has no part in the skeleton, and what it trims keeps its own
    | trimLeft =>
      have hleft := skeleton_normalizeFrom strip (trimRead read) rest
      rw [skeleton_trimRead] at hleft
      exact hleft
    | trimRight => exact skeleton_normalizeFrom true read rest
    | chunk | dollar | value | cond | loop | inclusion | foreign => exact hrest

/-- The pass over a body that may be absent keeps whether it is there, and its skeleton. -/
theorem skeleton?_normalizeFrom? : (strip : Bool) → (body : Option (List Element)) →
    skeleton? (normalizeFrom? strip body) = skeleton? body
  | _, none => rfl
  | strip, some body => congrArg some (skeleton_normalizeFrom strip [] body)

end

/-! ## Normal elements stay as they are -/

mutual

/-- In a normal element, with no mark before it, there is nothing to do. -/
theorem startTrimmed_of_normal : (element : Element) → element.Normal →
    startTrimmed false element = some element
  | .chunk text, hnormal => by
    have htext : text.isEmpty = false := by
      rw [← Bool.not_eq_true, String.isEmpty_iff]
      exact hnormal
    rw [startTrimmed, if_neg Bool.false_ne_true, if_neg (by rw [htext]; simp)]
  | .cond test whenPresent whenAbsent, hnormal => by
    have hpresent := normalizeFrom_of_normal [] whenPresent hnormal.1
    have habsent := normalizeFrom?_of_normal whenAbsent hnormal.2
    rw [startTrimmed, hpresent, habsent]
    rfl
  | .loop source body separator, hnormal => by
    have hbody := normalizeFrom_of_normal [] body hnormal.1
    have hseparator := normalizeFrom?_of_normal separator hnormal.2
    rw [startTrimmed, hbody, hseparator]
    rfl
  | .dollar, _ | .value _, _ | .inclusion _, _ | .foreign _, _ => rfl

/-- Where no mark and no empty text is to come, the pass only reads. -/
theorem normalizeFrom_of_normal : (read elements : List Element) → AllNormal elements →
    normalizeFrom false read elements = read.reverse ++ elements
  | read, [], _ => by
    rw [normalizeFrom, List.append_nil]
  | read, element :: rest, hnormal => by
    have hstart := startTrimmed_of_normal element hnormal.1
    have hrest := normalizeFrom_of_normal (element :: read) rest hnormal.2
    rw [List.reverse_cons, List.append_assoc, List.singleton_append] at hrest
    cases element with
    | trimLeft | trimRight => exact hnormal.1.elim
    | chunk | dollar | value | cond | loop | inclusion | foreign =>
      rw [normalizeFrom, hstart]
      · exact hrest
      · simp
      · simp

/-- A normal body that may be absent comes through the pass as it is. -/
theorem normalizeFrom?_of_normal : (body : Option (List Element)) → AllNormal? body →
    normalizeFrom? false body = body
  | none, _ => rfl
  | some body, hnormal => congrArg some (normalizeFrom_of_normal [] body hnormal)

end

/-- Normal elements come through the pass as they are. -/
theorem normalize_of_normal {elements : List Element} (h : AllNormal elements) :
    normalize elements = elements := normalizeFrom_of_normal [] elements h

/-- What comes out of the pass is normal, whatever went in. -/
theorem allNormal_normalize (elements : List Element) : AllNormal (normalize elements) :=
  normalizeFrom_normal false [] elements trivial

/-- Whatever the elements are, the pass leaves no mark and no empty text at any depth, and keeps all
else in order, with its expressions, and with its bodies there or absent as they were. The elements
that it leaves as they are are exactly those without marks and empty texts; so a second pass does
nothing, and a template that is made of its own elements again is the same. -/
theorem normalize_normal (elements : List Element) :
    AllNormal (normalize elements) ∧ skeleton (normalize elements) = skeleton elements ∧
      (normalize elements = elements ↔ AllNormal elements) ∧
      normalize (normalize elements) = normalize elements ∧
      ∀ origin, Template.make origin (Template.make origin elements).elements
        = Template.make origin elements := by
  have hnormal : AllNormal (normalize elements) := allNormal_normalize elements
  have hagain : normalize (normalize elements) = normalize elements := normalize_of_normal hnormal
  have hskeleton : skeleton (normalize elements) = skeleton elements :=
    skeleton_normalizeFrom false [] elements
  refine ⟨hnormal, hskeleton, ⟨fun hsame => ?_, normalize_of_normal⟩, hagain, fun origin => ?_⟩
  · rw [← hsame]
    exact hnormal
  · exact congrArg (Inlay.Template.mk origin) hagain

/-- A mark before a block reaches into both of its bodies. The one that is left without text is
still there. -/
example : normalize [.trimRight, .cond (.ident "tags") [.chunk " in "] (some [.chunk " "])]
    = [.cond (.ident "tags") [.chunk "in "] (some [])] := by
  rfl

end Inlay.Template.Element
