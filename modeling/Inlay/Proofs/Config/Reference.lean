import Inlay.Config.Environment
import Inlay.Proofs.Basic
import Mathlib.Data.List.Chain

/-!
# References in a text

A text is written as a row of segments: literal ones, and references to variables. Replacing the
references of such a text puts together what its segments stand for, or complains about the first
segment that stands for nothing (`resolveText_written`, `resolveText_written_error`). The text of a
literal holds no start of a reference, and literals that stand next to each other are one literal;
so a dollar sign at the end of a literal and a brace behind it are never read as a start.
-/

namespace Inlay.Config

/-! ## Segments -/

/-- What stands in a reference behind the name. -/
inductive Operator where
  | none
  /-- A text for when the variable is not set. -/
  | fallback (text : String)
  /-- A message for when the variable is not set. -/
  | required (message : String)

/-- A part of a text. -/
inductive Segment where
  | literal (text : String)
  | reference (name : String) (operator : Operator)

namespace Operator

/-- The operator as it is written, up to the closing brace. -/
def written : Operator → List Char
  | .none => []
  | .fallback text => ':' :: '-' :: text.toList
  | .required message => ':' :: '?' :: message.toList

/-- The text behind the mark. -/
def operand : Operator → String
  | .none => ""
  | .fallback text => text
  | .required message => message

/-- What the reference asks for if its variable is not set. -/
def otherwise : Operator → Otherwise
  | .none => .required ""
  | .fallback text => .fallback text
  | .required message => .required message

end Operator

namespace Segment

/-- The segment as it is written. -/
def written : Segment → List Char
  | .literal text => text.toList
  | .reference name operator => '$' :: '{' :: (name.toList ++ operator.written ++ ['}'])

/-- A literal holds no start of a reference; the name of a variable is not empty and does not go on
to the operator, and an operand does not go on behind the reference. -/
def WellFormed : Segment → Prop
  | .literal text => ¬ ['$', '{'] <:+: text.toList
  | .reference name operator =>
    name ≠ "" ∧ (∀ c ∈ name.toList, c ≠ '}' ∧ c ≠ ':') ∧ ∀ c ∈ operator.operand.toList, c ≠ '}'

-- The characters of a text are gone through, not all characters.
instance : DecidablePred WellFormed
  | .literal text => inferInstanceAs (Decidable (¬ ['$', '{'] <:+: text.toList))
  | .reference name operator =>
    have _ := List.decidableBAll (fun c => c ≠ '}' ∧ c ≠ ':') name.toList
    have _ := List.decidableBAll (fun c => c ≠ '}') operator.operand.toList
    inferInstanceAs (Decidable (name ≠ "" ∧ (∀ c ∈ name.toList, c ≠ '}' ∧ c ≠ ':') ∧
      ∀ c ∈ operator.operand.toList, c ≠ '}'))

/-- Is the segment a literal? -/
def isLiteral : Segment → Bool
  | .literal _ => true
  | .reference .. => false

/-- What a segment stands for: a literal for itself, a reference for the value of its variable or
else for its default. -/
def value? (environment : Environment) : Segment → Option String
  | .literal text => some text
  | .reference name operator =>
    match environment.lookup name, operator with
    | some value, _ => some value
    | none, .fallback text => some text
    | none, _ => none

/-- What is said of a reference that stands for nothing. -/
def complaint : Segment → String
  | .literal _ => ""
  | .reference name operator =>
    if operator.operand = "" then "Required environment variable " ++ name ++ " not set"
    else operator.operand

end Segment

/-- The text of a row of segments. -/
def written (segments : List Segment) : String :=
  String.ofList (segments.flatMap Segment.written)

/-- Segments of a text: each is well formed, and no two literals stand next to each other. -/
structure Segmented (segments : List Segment) : Prop where
  wellFormed : ∀ segment ∈ segments, segment.WellFormed
  apart : segments.IsChain fun first second => ¬ (first.isLiteral = true ∧ second.isLiteral = true)

/-- What a row of segments stands for, or the complaint about the first one that stands for
nothing. -/
def meaning (environment : Environment) : List Segment → Except String String
  | [] => .ok ""
  | segment :: rest =>
    match segment.value? environment with
    | none => .error segment.complaint
    | some value => (meaning environment rest).map (value ++ ·)

/-! ## Reading a reference -/

variable {environment : Environment} {segments : List Segment}

/-- Behind the name of a reference, its operator is read back up to the closing brace. -/
theorem scanOtherwise_written {operator : Operator}
    (h : ∀ c ∈ operator.operand.toList, c ≠ '}') (rest : List Char) :
    Reference.scanOtherwise (operator.written ++ '}' :: rest) =
      some (operator.otherwise, rest) := by
  have hrun : ∀ c ∈ operator.operand.toList, (c != '}') = true := by simpa using h
  have hclose : ∀ c ∈ ('}' :: rest).head?, (c != '}') = false := by simp
  have htake := takeWhile_run hrun hclose
  have hdrop := dropWhile_run hrun hclose
  cases operator with
  | none => rfl
  | fallback text =>
    simp only [Operator.operand] at htake hdrop
    simp [Operator.written, Operator.otherwise, Reference.scanOtherwise, htake, hdrop]
  | required message =>
    simp only [Operator.operand] at htake hdrop
    simp [Operator.written, Operator.otherwise, Reference.scanOtherwise, htake, hdrop]

/-- A name ends where the operator or the closing brace begins. -/
theorem head_written_otherwise (operator : Operator) (rest : List Char) :
    ∀ c ∈ (operator.written ++ '}' :: rest).head?, (c != '}' && c != ':') = false := by
  cases operator <;> simp [Operator.written]

/-- A well-formed reference is read back, whatever stands behind it. -/
theorem scan?_written {name : String} {operator : Operator}
    (h : (Segment.reference name operator).WellFormed) (rest : List Char) :
    Reference.scan? ((Segment.reference name operator).written ++ rest)
      = some (⟨name, operator.otherwise⟩, rest) := by
  obtain ⟨hne, hname, hoperand⟩ := h
  have hrun : ∀ c ∈ name.toList, (c != '}' && c != ':') = true := by simpa using hname
  have hhead := head_written_otherwise operator rest
  have htake := takeWhile_run hrun hhead
  have hdrop := dropWhile_run hrun hhead
  have hnonempty : name.toList.isEmpty = false := by simpa using hne
  simp [Segment.written, Reference.scan?, htake, hdrop, hnonempty, scanOtherwise_written hoperand]

/-- A reference is resolved to what it stands for. -/
theorem resolve_eq (environment : Environment) (name : String) (operator : Operator) :
    Reference.resolve environment ⟨name, operator.otherwise⟩
      = match (Segment.reference name operator).value? environment with
        | some value => .ok value
        | none => .error (Segment.reference name operator).complaint := by
  unfold Reference.resolve Segment.value? Segment.complaint
  dsimp only
  cases environment.lookup name with
  | some value => rfl
  | none =>
    cases operator with
    | none => rfl
    | fallback text => rfl
    | required message =>
      by_cases hempty : message = "" <;> simp [Operator.otherwise, Operator.operand, hempty]

/-! ## Reading a literal -/

/-- A reference starts with a dollar sign and a brace, and nothing else does. -/
theorem scan?_eq_none {cs : List Char} (h : ∀ back, cs ≠ '$' :: '{' :: back) :
    Reference.scan? cs = none := by
  unfold Reference.scan?
  split
  · next back => exact absurd rfl (h back)
  · rfl

/-- A literal is taken as it is, unless a dollar sign at its end meets a brace. -/
theorem resolveWithin_literal {literal rest : List Char}
    (hliteral : ¬ ['$', '{'] <:+: literal) (hrest : ∀ back, rest ≠ '{' :: back) (count : Nat) :
    resolveWithin environment (literal.length + count) (literal ++ rest)
      = (resolveWithin environment count rest).map (literal ++ ·) := by
  induction literal with
  | nil =>
    rw [List.length_nil, Nat.zero_add, List.nil_append]
    cases resolveWithin environment count rest <;> rfl
  | cons c literal ih =>
    have hlater : ¬ ['$', '{'] <:+: literal := 
      fun h => hliteral (List.infix_cons h)
    have hscan : Reference.scan? (c :: (literal ++ rest)) = none := by
      apply scan?_eq_none
      intro back heq
      obtain ⟨rfl, hnext⟩ := List.cons.inj heq
      -- the brace would stand in the literal, or at the start of what follows it
      cases literal with
      | nil => exact hrest back hnext
      | cons next literal =>
        obtain ⟨rfl, -⟩ := List.cons.inj hnext
        exact hliteral ⟨[], literal, rfl⟩
    rw [List.length_cons, Nat.add_right_comm, List.cons_append, resolveWithin, hscan]
    dsimp only
    rw [ih hlater]
    cases resolveWithin environment count rest <;> rfl

/-- What follows a literal does not start with a brace. -/
theorem written_behind_literal {text : String}
    (h : (Segment.literal text :: segments).IsChain
      fun first second => ¬ (first.isLiteral = true ∧ second.isLiteral = true)) (back : List Char) :
    segments.flatMap Segment.written ≠ '{' :: back := by
  cases segments with
  | nil => exact (List.cons_ne_nil '{' back).symm
  | cons segment rest =>
    cases segment with
    | literal other => exact absurd ⟨rfl, rfl⟩ (List.isChain_cons_cons.1 h).1
    | reference name operator => simp [Segment.written]

/-! ## Reading a text -/

/-- A text is resolved segment by segment, so it comes to what its segments mean. -/
theorem resolveWithin_written (h : Segmented segments) (count : Nat)
    (hcount : (segments.flatMap Segment.written).length ≤ count) :
    resolveWithin environment count (segments.flatMap Segment.written)
      = (meaning environment segments).map String.toList := by
  obtain ⟨hformed, hapart⟩ := h
  induction segments generalizing count with
  | nil =>
    rw [List.flatMap_nil, resolveWithin, meaning]
    rfl
  | cons segment rest ih =>
    obtain ⟨hsegment, hrest⟩ := List.forall_mem_cons.1 hformed
    rw [List.flatMap_cons, List.length_append] at hcount
    rw [List.flatMap_cons, meaning]
    cases segment with
    | literal text =>
      have hbehind := written_behind_literal hapart
      rw [Segment.written] at hcount ⊢
      -- each character of a literal is one step, and a whole reference is one
      obtain ⟨left, rfl⟩ : ∃ left, count = text.toList.length + left :=
        ⟨count - text.toList.length, by omega⟩
      rw [resolveWithin_literal hsegment hbehind, ih left (by omega) hrest hapart.tail]
      dsimp only [Segment.value?]
      cases meaning environment rest <;> simp [Except.map]
    | reference name operator =>
      obtain ⟨left, rfl⟩ : ∃ left, count = left + 1 := by
        refine ⟨count - 1, ?_⟩
        rw [Segment.written, List.length_cons] at hcount
        omega
      have hscan := scan?_written hsegment (rest.flatMap Segment.written)
      have hleft : (rest.flatMap Segment.written).length ≤ left := by
        rw [Segment.written, List.length_cons] at hcount
        omega
      obtain ⟨c, tail, hcons⟩ : ∃ c tail, (Segment.reference name operator).written = c :: tail :=
        ⟨_, _, rfl⟩
      rw [hcons, List.cons_append] at hscan ⊢
      rw [resolveWithin, hscan]
      dsimp only
      rw [resolve_eq, ih left hleft hrest hapart.tail]
      cases (Segment.reference name operator).value? environment with
      | none => rfl
      | some value => cases meaning environment rest <;> simp [Except.map, bind, Except.bind]

/-- Replacing the references of a text gives what its segments stand for. -/
theorem resolveText_written (h : Segmented segments) :
    resolveText environment (written segments) = meaning environment segments := by
  have hlength : (segments.flatMap Segment.written).length ≤ (written segments).length := by
    simp [written]
  unfold resolveText
  rw [written, String.toList_ofList, ← written, resolveWithin_written h _ hlength]
  cases meaning environment segments <;> simp [Except.map]

/-! ## What a row of segments stands for -/

/-- Where every segment stands for something, the text means what they stand for, put together. -/
theorem meaning_of_values {values : List String}
    (h : segments.mapM (Segment.value? environment) = some values) :
    meaning environment segments = .ok (String.join values) := by
  induction segments generalizing values with
  | nil =>
    cases h
    rfl
  | cons segment rest ih =>
    rw [List.mapM_cons, Option.bind_eq_bind, Option.bind_eq_some_iff] at h
    obtain ⟨value, hvalue, h⟩ := h
    obtain ⟨others, hothers, h⟩ := Option.bind_eq_some_iff.1 h
    cases h
    rw [meaning, hvalue, ih hothers]
    simp [Except.map]

/-- Else it is the first one that stands for nothing that is complained about. -/
theorem meaning_of_unset {front back : List Segment} {segment : Segment}
    (hfront : ∀ first ∈ front, first.value? environment ≠ none)
    (h : segment.value? environment = none) :
    meaning environment (front ++ segment :: back) = .error segment.complaint := by
  induction front with
  | nil => rw [List.nil_append, meaning, h]
  | cons first front ih =>
    obtain ⟨hfirst, hothers⟩ := List.forall_mem_cons.1 hfront
    obtain ⟨value, hvalue⟩ := Option.ne_none_iff_exists'.1 hfirst
    rw [List.cons_append, meaning, hvalue, ih hothers]
    rfl

end Inlay.Config
