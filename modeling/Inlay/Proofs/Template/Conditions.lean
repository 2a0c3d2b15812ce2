import Inlay.Store.Memory

/-!
# Keys that are only tested

An expression *avoids* a key if it asks for it nowhere, neither at its head nor in the arguments of
its calls. Elements *only test* a key if they ask for it at the heads of conditions at most. What is
there of a key that is only tested cannot be written, looped over or included.
-/

namespace Inlay

namespace Template

namespace Expr

mutual

/-- The expression does not ask for the key. -/
def Avoids (key : String) : Expr → Prop
  | .ident other => other ≠ key
  | .call other args => other ≠ key ∧ AllAvoid key args
  | .literal _ => True
  | .foreign _ => True

/-- None of the expressions asks for the key. -/
def AllAvoid (key : String) : List Expr → Prop
  | [] => True
  | arg :: rest => arg.Avoids key ∧ AllAvoid key rest

end

/-- None of the arguments asks for a key that all of them avoid. -/
theorem AllAvoid.avoids {key : String} {args : List Expr} (h : AllAvoid key args) :
    ∀ arg ∈ args, arg.Avoids key := by
  induction args with
  | nil => exact fun _ hmem => nomatch hmem
  | cons arg rest ih => exact List.forall_mem_cons.2 ⟨h.1, ih h.2⟩

/-- The expression does not ask for the key in its arguments; it may do so at its head. -/
def ArgumentsAvoid (key : String) : Expr → Prop
  | .ident _ => True
  | .call _ args => AllAvoid key args
  | .literal _ => True
  | .foreign _ => True

section

variable (key : String)

mutual

instance decidableAvoids : (expr : Expr) → Decidable (expr.Avoids key)
  | .ident other => inferInstanceAs (Decidable (other ≠ key))
  | .call other args =>
    have := decidableAllAvoid args
    inferInstanceAs (Decidable (other ≠ key ∧ AllAvoid key args))
  | .literal _ => .isTrue trivial
  | .foreign _ => .isTrue trivial

instance decidableAllAvoid : (args : List Expr) → Decidable (AllAvoid key args)
  | [] => .isTrue trivial
  | arg :: rest =>
    have := decidableAvoids arg
    have := decidableAllAvoid rest
    inferInstanceAs (Decidable (arg.Avoids key ∧ AllAvoid key rest))

end

instance : (expr : Expr) → Decidable (expr.ArgumentsAvoid key)
  | .ident _ => .isTrue trivial
  | .call _ args => inferInstanceAs (Decidable (AllAvoid key args))
  | .literal _ => .isTrue trivial
  | .foreign _ => .isTrue trivial

end

end Expr

namespace Element

mutual

/-- The element does not ask for the key but at the heads of conditions. -/
def OnlyTests (key : String) : Element → Prop
  | .chunk _ => True
  | .dollar => True
  | .value expr => expr.Avoids key
  | .cond test whenPresent whenAbsent =>
    test.ArgumentsAvoid key ∧ AllOnlyTest key whenPresent ∧ AllOnlyTest? key whenAbsent
  | .loop source body separator =>
    source.Avoids key ∧ AllOnlyTest key body ∧ AllOnlyTest? key separator
  | .inclusion name => name.Avoids key
  | .trimLeft => True
  | .trimRight => True
  | .foreign _ => True

/-- None of the elements asks for the key but at the heads of conditions. -/
def AllOnlyTest (key : String) : List Element → Prop
  | [] => True
  | element :: rest => element.OnlyTests key ∧ AllOnlyTest key rest

/-- A body that may be absent does not ask for the key but at the heads of conditions. -/
def AllOnlyTest? (key : String) : Option (List Element) → Prop
  | none => True
  | some body => AllOnlyTest key body

end

/-- Elements only test a key if each of them does. -/
theorem allOnlyTest_iff {key : String} {elements : List Element} :
    AllOnlyTest key elements ↔ ∀ element ∈ elements, element.OnlyTests key := by
  induction elements with
  | nil => simp [AllOnlyTest]
  | cons element rest ih => simp [AllOnlyTest, ih]

/-- For a body that may be absent, this is asked of the elements that are there. -/
theorem allOnlyTest?_iff {key : String} {body : Option (List Element)} :
    AllOnlyTest? key body ↔ ∀ elements ∈ body, ∀ element ∈ elements, element.OnlyTests key := by
  cases body with
  | none => simp [AllOnlyTest?]
  | some body => simp [AllOnlyTest?, allOnlyTest_iff]

section

variable (key : String)

mutual

instance decidableOnlyTests : (element : Element) → Decidable (element.OnlyTests key)
  | .chunk _ => .isTrue trivial
  | .dollar => .isTrue trivial
  | .value expr => inferInstanceAs (Decidable (expr.Avoids key))
  | .cond test whenPresent whenAbsent =>
    have := decidableAllOnlyTest whenPresent
    have := decidableAllOnlyTest? whenAbsent
    inferInstanceAs (Decidable (test.ArgumentsAvoid key ∧ AllOnlyTest key whenPresent ∧
      AllOnlyTest? key whenAbsent))
  | .loop source body separator =>
    have := decidableAllOnlyTest body
    have := decidableAllOnlyTest? separator
    inferInstanceAs (Decidable (source.Avoids key ∧ AllOnlyTest key body ∧
      AllOnlyTest? key separator))
  | .inclusion name => inferInstanceAs (Decidable (name.Avoids key))
  | .trimLeft => .isTrue trivial
  | .trimRight => .isTrue trivial
  | .foreign _ => .isTrue trivial

instance decidableAllOnlyTest : (elements : List Element) → Decidable (AllOnlyTest key elements)
  | [] => .isTrue trivial
  | element :: rest =>
    have := decidableOnlyTests element
    have := decidableAllOnlyTest rest
    inferInstanceAs (Decidable (element.OnlyTests key ∧ AllOnlyTest key rest))

instance decidableAllOnlyTest? : (body : Option (List Element)) →
    Decidable (AllOnlyTest? key body)
  | none => .isTrue trivial
  | some body =>
    have := decidableAllOnlyTest body
    inferInstanceAs (Decidable (AllOnlyTest key body))

end

end

end Element

/-- The template asks for the key at the heads of conditions at most. -/
def OnlyTests (key : String) (template : Template) : Prop :=
  Element.AllOnlyTest key template.elements

instance (key : String) (template : Template) : Decidable (template.OnlyTests key) :=
  inferInstanceAs (Decidable (Element.AllOnlyTest key template.elements))

end Template

/-- All templates of the store ask for the key at the heads of conditions at most. -/
def MemoryStore.OnlyTests (key : String) (store : MemoryStore) : Prop :=
  ∀ entry ∈ store.entries, entry.2.OnlyTests key

instance (key : String) (store : MemoryStore) : Decidable (store.OnlyTests key) :=
  inferInstanceAs (Decidable (∀ entry ∈ store.entries, entry.2.OnlyTests key))

end Inlay
