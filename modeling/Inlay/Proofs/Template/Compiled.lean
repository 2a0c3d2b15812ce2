import Inlay.Proofs.Grammar.Derivation
import Inlay.Proofs.Template.Known
import Inlay.Store.Memory

/-!
# Compiled templates

What is read of a source is written in the language of templates, so what it is compiled to is known
and has no marks (`compile_known`). This holds of all templates in a store that is filled with
sources only (`filled_known`).
-/

namespace Inlay

namespace Template

/-! ## Sources -/

mutual

/-- Whatever a phrase spells is an expression of the language. -/
theorem Phrase.expr_known : (phrase : Phrase) → phrase.expr.Known
  | .ident key => by
    rw [Phrase.expr, Expr.Known]
    trivial
  | .call key spaces args => by
    rw [Phrase.expr, Expr.Known]
    exact argumentExprs_known args
  | .literal glyphs => by
    rw [Phrase.expr, Expr.Known]
    trivial

/-- So is an argument, quoted or not. -/
theorem Argument.expr_known : (argument : Argument) → argument.expr.Known
  | .quoted glyphs => by
    rw [Argument.expr, Expr.Known]
    trivial
  | .word chars => by
    rw [Argument.expr, Expr.Known]
    trivial
  | .nested phrase => by
    rw [Argument.expr]
    exact phrase.expr_known

/-- All arguments of a call are known. -/
theorem argumentExprs_known : (args : List (Spaced Argument)) →
    Expr.AllKnown (argumentExprs args)
  | [] => by
    rw [argumentExprs, Expr.AllKnown]
    trivial
  | ⟨_, arg, _⟩ :: rest => by
    rw [argumentExprs, Expr.AllKnown]
    exact ⟨arg.expr_known, argumentExprs_known rest⟩

end

open Element

/-- The mark at the left of a tag, if there is one, is a mark and nothing else. -/
theorem leftMark_known (marked : Bool) : AllKnown True (leftMark marked) := by
  cases marked with
  | false => trivial
  | true => exact ⟨trivial, trivial⟩

/-- So is the mark at its right. -/
theorem rightMark_known (marked : Bool) : AllKnown True (rightMark marked) := by
  cases marked with
  | false => trivial
  | true => exact ⟨trivial, trivial⟩

/-- Marks at both ends of a body keep it known. -/
theorem bodyBetween_known (opening closing : Marks) {body : List Element}
    (h : AllKnown True body) : AllKnown True (bodyBetween opening body closing) := by
  unfold bodyBetween
  rw [allKnown_append, allKnown_append]
  exact ⟨rightMark_known _, h, leftMark_known _⟩

/-- An element between the marks of its tags. -/
theorem marked_known (before after : Bool) {element : Element} (h : element.Known True) :
    AllKnown True (leftMark before ++ element :: rightMark after) := by
  rw [allKnown_append]
  exact ⟨leftMark_known before, h, rightMark_known after⟩

/-- A block is known if its expression and its bodies are. -/
theorem BlockKind.element_known (kind : BlockKind) {expr : Expr} (hexpr : expr.Known)
    {body : List Element} (hbody : AllKnown True body) {other : Option (List Element)}
    (hother : AllKnown? True other) : (kind.element expr body other).Known True := by
  cases kind with
  | cond => exact ⟨hexpr, hbody, hother⟩
  | loop => exact ⟨hexpr, hbody, hother⟩

mutual

/-- A node derives elements that are known, but for the marks of its tags. -/
theorem Node.elements_known : (node : Node) → AllKnown True node.elements
  | .text chars => by
    rw [Node.elements]
    exact ⟨trivial, trivial⟩
  | .dollar => by
    rw [Node.elements]
    exact ⟨trivial, trivial⟩
  | .value marks phrase => by
    rw [Node.elements]
    exact marked_known _ _ phrase.expr_known
  | .inclusion marks name => by
    rw [Node.elements]
    exact marked_known _ _ name.inner.expr_known
  | .block kind opening head body closing => by
    have hbody := bodyBetween_known opening closing (documentElements_known body)
    rw [Node.elements]
    exact marked_known _ _ (kind.element_known head.inner.expr_known hbody trivial)
  | .divided kind opening head first divider second closing => by
    have hfirst := bodyBetween_known opening divider (documentElements_known first)
    have hsecond := bodyBetween_known divider closing (documentElements_known second)
    rw [Node.elements]
    exact marked_known _ _ (kind.element_known head.inner.expr_known hfirst hsecond)

/-- The elements of a whole document are known. -/
theorem documentElements_known : (nodes : List Node) → AllKnown True (documentElements nodes)
  | [] => by
    rw [documentElements]
    trivial
  | node :: rest => by
    rw [documentElements, allKnown_append]
    exact ⟨node.elements_known, documentElements_known rest⟩

end

/-- A compiled template is written in the language of templates, and has no marks at any depth. -/
theorem compile_known {reporter : Reporter} {origin : Value} {source : String}
    {template : Template} (h : compile reporter origin source = .ok template) :
    AllKnown False template.elements := by
  unfold compile at h
  obtain ⟨elements, hread, hmake⟩ := Except.bind_eq_ok.1 h
  cases hmake
  unfold readElements at hread
  split at hread
  · next elements' hsource =>
    cases hread
    obtain ⟨nodes, -, -, -, rfl⟩ := Progress.exists_document hsource
    exact normalize_known (documentElements_known nodes)
  · cases hread

end Template

namespace MemoryStore

open Template Element

/-! ## Stores -/

/-- The store after sources have been registered under identifiers, one after the other. A malformed
one is refused and changes nothing. -/
def filled (reporter : Reporter) (sources : List (String × String)) : MemoryStore :=
  sources.foldl (fun store source =>
    match store.register reporter source.1 (.source source.2) with
    | .ok (after, _) => after
    | .error _ => store) {}

/-- All templates of the store are known and have no marks. -/
def Known (store : MemoryStore) : Prop :=
  ∀ entry ∈ store.entries, AllKnown False entry.2.elements

/-- An entry of a store after a registration is the new one or was there before. -/
theorem mem_put {identifier : String} {template : Template}
    {entries : List (String × Template)} {entry : String × Template}
    (h : entry ∈ put identifier template entries) :
    entry = (identifier, template) ∨ entry ∈ entries := by
  induction entries with
  | nil => exact .inl (List.mem_singleton.1 h)
  | cons first rest ih =>
    unfold put at h
    split at h
    · rcases List.mem_cons.1 h with rfl | hrest
      · exact .inl rfl
      · exact .inr (List.mem_cons_of_mem first hrest)
    · rcases List.mem_cons.1 h with rfl | hrest
      · exact .inr List.mem_cons_self
      · exact (ih hrest).imp_right (List.mem_cons_of_mem first)

/-- Registering a source leaves known templates only. -/
theorem register_known {reporter : Reporter} {store after : MemoryStore}
    {identifier source : String} {template : Template} (hstore : store.Known)
    (h : store.register reporter identifier (.source source) = .ok (after, template)) :
    after.Known := by
  unfold register at h
  obtain ⟨compiled, hcompile, hafter⟩ := Except.bind_eq_ok.1 h
  cases hafter
  intro entry hentry
  rcases mem_put hentry with rfl | hbefore
  · exact compile_known hcompile
  · exact hstore entry hbefore

/-- A store that is filled with sources alone holds nothing but compiled templates. -/
theorem filled_known (reporter : Reporter) (sources : List (String × String)) :
    (filled reporter sources).Known := by
  have hfold : ∀ store : MemoryStore, store.Known →
      (sources.foldl (fun store source =>
        match store.register reporter source.1 (.source source.2) with
        | .ok (after, _) => after
        | .error _ => store) store).Known := by
    induction sources with
    | nil => exact fun store hstore => hstore
    | cons source rest ih =>
      intro store hstore
      rw [List.foldl_cons]
      refine ih _ ?_
      split
      · next hregister => exact register_known hstore hregister
      · exact hstore
  refine hfold {} fun entry hentry => ?_
  cases hentry

/-- A template that is found is held under the name that was asked for. -/
theorem mem_of_find {store : MemoryStore} {identifier : String} {template : Template}
    (h : store.find? identifier = some template) : (identifier, template) ∈ store.entries := by
  obtain ⟨before, after, hentries, -⟩ := List.lookup_eq_some_iff.1 h
  rw [hentries]
  exact List.mem_append_right before List.mem_cons_self

/-- So what is found in a store of known templates is known. -/
theorem known_of_find {store : MemoryStore} (hstore : store.Known) {identifier : String}
    {template : Template} (h : store.find? identifier = some template) :
    AllKnown False template.elements := hstore _ (mem_of_find h)

end MemoryStore

end Inlay
