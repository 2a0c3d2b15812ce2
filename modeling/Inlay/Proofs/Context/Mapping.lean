import Inlay.Proofs.Context.Chaining

/-!
# Texts put through a function

A context whose texts are put through a function is asked as the context itself, and what it answers
is then changed (`lookup_map_eq`). It declines where the context does, so a row of contexts is put
through a function by putting each of them through, and two functions one after the other are one
function. A list is the only field that no function lets through: it fails.
-/

namespace Inlay.Context

/-- A list fails, and all else stays as it is. -/
def withoutLists (key : String) : Outcome Field → Outcome Field
  | .found field => if field.kind = .list then .failed (unmapped key) else .found field
  | outcome => outcome

section

variable (f g : String → String) (key : String) (args : List String) (subject : Value)

/-- No function has lists, so even the one that changes no text does not let them through. -/
theorem mapOutcome_id (outcome : Outcome Field) :
    mapOutcome id key outcome = withoutLists key outcome := by
  obtain (_ | text | ⟨inner, items⟩ | members) | messages | failure := outcome <;> rfl

/-- An outcome that is put through two functions may be put through one. -/
theorem mapOutcome_mapOutcome (outcome : Outcome Field) :
    mapOutcome f key (mapOutcome g key outcome) = mapOutcome (f ∘ g) key outcome := by
  obtain (_ | text | ⟨inner, items⟩ | members) | messages | failure := outcome <;> rfl

/-- A context that declines gives no messages. -/
theorem lookup_bind_behind (context : Context) :
    context.lookup key args subject >>= behind (pure (.notFound []))
      = context.lookup key args subject := by
  have hempty := lookup_append key args subject context empty
  have hcontext : context ++ empty = context := by
    obtain ⟨providers⟩ := context
    exact congrArg Context.of (List.append_nil providers)
  rw [hcontext] at hempty
  exact hempty.symm

/-- What becomes of the answer of a context whose texts are put through a function. -/
theorem lookup_map_eq (context : Context) :
    (map f context).lookup key args subject
      = context.lookup key args subject >>= fun outcome => pure (mapOutcome f key outcome) := by
  rw [lookup_map, ← lookup_bind_behind key args subject context, Reply.bind_assoc, Reply.bind_assoc]
  congr 1
  funext outcome
  obtain (_ | text | ⟨inner, items⟩ | members) | messages | failure := outcome <;> rfl

/-- A row is put through a function by putting each of its contexts through. -/
theorem lookup_map_chain (first second : Context) :
    (map f (chain [first, second])).lookup key args subject
      = (chain [map f first, map f second]).lookup key args subject := by
  rw [lookup_map_eq, lookup_chain, lookup_chain, lookup_map_eq, lookup_map_eq, Reply.bind_assoc,
    Reply.bind_assoc]
  congr 1
  funext outcome
  rw [Reply.pure_bind]
  obtain (_ | text | ⟨inner, items⟩ | members) | messages | failure := outcome <;> rfl

/-- So may all answers of a context. -/
theorem lookup_map_map (context : Context) :
    (map f (map g context)).lookup key args subject
      = (map (f ∘ g) context).lookup key args subject := by
  rw [lookup_map_eq, lookup_map_eq, lookup_map_eq, Reply.bind_assoc]
  congr 1
  funext outcome
  rw [Reply.pure_bind, mapOutcome_mapOutcome]

/-- What is put through a function declines where it would decline itself. -/
theorem declines_lookup_map (context : Context) :
    ((map f context).lookup key args subject).declines
      = (context.lookup key args subject).declines := by
  rw [lookup_map_eq]
  generalize context.lookup key args subject = reply
  obtain ⟨calls, reason | ((_ | text | ⟨inner, items⟩ | members) | messages | failure)⟩ := reply
    <;> rfl

/-- What is asked does not depend on the function. -/
theorem calls_lookup_map (context : Context) :
    ((map f context).lookup key args subject).calls = (context.lookup key args subject).calls := by
  rw [lookup_map_eq]
  generalize context.lookup key args subject = reply
  obtain ⟨calls, reason | outcome⟩ := reply
  · rfl
  · exact List.append_nil calls

/-! ## The laws -/

/-- Putting texts through a function goes through a row of contexts, and two functions are put
together to one. The function that changes nothing leaves a context as it is, but that its lists
fail. Of two contexts in a row, the second is asked only if each provider of the first declines, and
then behind it; otherwise it plays no part. -/
theorem map_laws (first second : Context) :
    (map f (chain [first, second])).lookup key args subject
        = (chain [map f first, map f second]).lookup key args subject ∧
      (map f (map g first)).lookup key args subject
        = (map (f ∘ g) first).lookup key args subject ∧
      (map id first).lookup key args subject
        = first.lookup key args subject >>= (fun outcome => pure (withoutLists key outcome)) ∧
      (chain [map f first, map f second]).lookup key args subject
        = if ∀ provider ∈ first.providers, (provider key args subject).declines = true then
            ⟨(first.lookup key args subject).calls ++ (second.lookup key args subject).calls,
              ((map f second).lookup key args subject).answer⟩
          else (map f first).lookup key args subject := by
  refine ⟨lookup_map_chain f key args subject first second, lookup_map_map f g key args subject
    first, ?_, ?_⟩
  · rw [lookup_map_eq]
    congr 1
    funext outcome
    rw [mapOutcome_id]
  · -- the first context declines, as it stands or put through, if each of its providers does
    have hall : (∀ provider ∈ first.providers, (provider key args subject).declines = true) ↔
        ((map f first).lookup key args subject).declines = true := by
      rw [declines_lookup_map, lookup, ask_eq, Reply.declines_firstOf, List.forall_mem_map]
    by_cases h : ((map f first).lookup key args subject).declines = true
    · rw [if_pos (hall.2 h), lookup_chain_of_declines key args subject _ h, calls_lookup_map,
        calls_lookup_map]
    · rw [if_neg (mt hall.1 h), lookup_chain_of_not_declines key args subject _
        (Bool.eq_false_iff.2 h)]

end

end Inlay.Context
