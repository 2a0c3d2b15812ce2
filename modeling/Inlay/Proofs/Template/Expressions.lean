import Inlay.Store.Memory

/-!
# The expressions of a template

What is asked of all expressions in a template, at every depth: of those whose fields are written,
tested and gone through on the one hand, and of the names of inclusions on the other.
-/

namespace Inlay

namespace Template

namespace Element

variable (asked named : Expr → Prop)

mutual

/-- All fields that the element asks for, and all names that it includes, are such. -/
def Only : Element → Prop
  | .chunk _ => True
  | .dollar => True
  | .value expr => asked expr
  | .cond test whenPresent whenAbsent =>
    asked test ∧ AllOnly whenPresent ∧ AllOnly? whenAbsent
  | .loop source body separator => asked source ∧ AllOnly body ∧ AllOnly? separator
  | .inclusion name => named name
  | .trimLeft => True
  | .trimRight => True
  | .foreign _ => True

/-- It is so with all of the elements. -/
def AllOnly : List Element → Prop
  | [] => True
  | element :: rest => element.Only ∧ AllOnly rest

/-- It is so with a body that may be absent. -/
def AllOnly? : Option (List Element) → Prop
  | none => True
  | some body => AllOnly body

end

variable {asked named} in
/-- What is asked of all expressions in some elements is asked in each of the elements. -/
theorem allOnly_iff {elements : List Element} :
    AllOnly asked named elements ↔ ∀ element ∈ elements, element.Only asked named := by
  induction elements with
  | nil => simp [AllOnly]
  | cons element rest ih => simp [AllOnly, ih]

variable {asked named} in
/-- In a body that may be absent, it is asked in the elements that are there. -/
theorem allOnly?_iff {body : Option (List Element)} : AllOnly? asked named body ↔
    ∀ elements ∈ body, ∀ element ∈ elements, element.Only asked named := by
  cases body with
  | none => simp [AllOnly?]
  | some body => simp [AllOnly?, allOnly_iff]

section

variable {asked named}

mutual

/-- What holds of every expression holds of those in an element. -/
theorem only_of_forall (hasked : ∀ expr, asked expr) (hnamed : ∀ expr, named expr) :
    (element : Element) → element.Only asked named
  | .chunk _ | .dollar | .trimLeft | .trimRight | .foreign _ => by rw [Only]; trivial
  | .value expr => by
    rw [Only]
    exact hasked expr
  | .cond test whenPresent whenAbsent => by
    rw [Only]
    exact ⟨hasked test, allOnly_of_forall hasked hnamed whenPresent,
      allOnly?_of_forall hasked hnamed whenAbsent⟩
  | .loop source body separator => by
    rw [Only]
    exact ⟨hasked source, allOnly_of_forall hasked hnamed body,
      allOnly?_of_forall hasked hnamed separator⟩
  | .inclusion name => by
    rw [Only]
    exact hnamed name

/-- What holds of every expression holds of those in any elements. -/
theorem allOnly_of_forall (hasked : ∀ expr, asked expr) (hnamed : ∀ expr, named expr) :
    (elements : List Element) → AllOnly asked named elements
  | [] => by rw [AllOnly]; trivial
  | element :: rest => by
    rw [AllOnly]
    exact ⟨only_of_forall hasked hnamed element, allOnly_of_forall hasked hnamed rest⟩

/-- So it does in a body that may be absent. -/
theorem allOnly?_of_forall (hasked : ∀ expr, asked expr) (hnamed : ∀ expr, named expr) :
    (body : Option (List Element)) → AllOnly? asked named body
  | none => by rw [AllOnly?]; trivial
  | some body => by
    rw [AllOnly?]
    exact allOnly_of_forall hasked hnamed body

end

end

section

variable [DecidablePred asked] [DecidablePred named]

mutual

instance decidableOnly : (element : Element) → Decidable (element.Only asked named)
  | .chunk _ => .isTrue trivial
  | .dollar => .isTrue trivial
  | .value expr => inferInstanceAs (Decidable (asked expr))
  | .cond test whenPresent whenAbsent =>
    have := decidableAllOnly whenPresent
    have := decidableAllOnly? whenAbsent
    inferInstanceAs (Decidable (asked test ∧ AllOnly asked named whenPresent ∧
      AllOnly? asked named whenAbsent))
  | .loop source body separator =>
    have := decidableAllOnly body
    have := decidableAllOnly? separator
    inferInstanceAs (Decidable (asked source ∧ AllOnly asked named body ∧
      AllOnly? asked named separator))
  | .inclusion name => inferInstanceAs (Decidable (named name))
  | .trimLeft => .isTrue trivial
  | .trimRight => .isTrue trivial
  | .foreign _ => .isTrue trivial

instance decidableAllOnly : (elements : List Element) → Decidable (AllOnly asked named elements)
  | [] => .isTrue trivial
  | element :: rest =>
    have := decidableOnly element
    have := decidableAllOnly rest
    inferInstanceAs (Decidable (element.Only asked named ∧ AllOnly asked named rest))

instance decidableAllOnly? : (body : Option (List Element)) →
    Decidable (AllOnly? asked named body)
  | none => .isTrue trivial
  | some body =>
    have := decidableAllOnly body
    inferInstanceAs (Decidable (AllOnly asked named body))

end

end

end Element

/-- All fields that the template asks for, and all names that it includes, are such. -/
def Only (asked named : Expr → Prop) (template : Template) : Prop :=
  Element.AllOnly asked named template.elements

instance (asked named : Expr → Prop) [DecidablePred asked] [DecidablePred named]
    (template : Template) : Decidable (template.Only asked named) :=
  inferInstanceAs (Decidable (Element.AllOnly asked named template.elements))

end Template

/-- It is so with all templates of the store. -/
def MemoryStore.Only (asked named : Template.Expr → Prop) (store : MemoryStore) : Prop :=
  ∀ entry ∈ store.entries, entry.2.Only asked named

instance (asked named : Template.Expr → Prop) [DecidablePred asked] [DecidablePred named]
    (store : MemoryStore) : Decidable (store.Only asked named) :=
  inferInstanceAs (Decidable (∀ entry ∈ store.entries, entry.2.Only asked named))

end Inlay
