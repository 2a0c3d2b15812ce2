import Inlay.Proofs.Store.Memoisation
import Inlay.Store.Basic

/-!
# What a store serves

A store *serves* what a load gives under each identifier. A directory that keeps a template that it
has read answers later loads from its cache, and logs other lines; but as long as the files stay as
they are, it serves what it has served before (`Store.load_serves`). So what a template includes is
not changed by what was included before.
-/

namespace Inlay

open File Log

namespace DirectoryStore

variable {reporter : Reporter} {workspace : Workspace} {store : DirectoryStore}
  {identifier : String}

/-- As long as the files stay as they are, a load makes no difference to what later ones give. -/
theorem load_result_load (reporter : Reporter) (workspace : Workspace) (store : DirectoryStore)
    (identifier other : String) :
    ((store.load reporter workspace identifier).store.load reporter workspace other).result
      = (store.load reporter workspace other).result := by
  obtain hsame | ⟨template, lines, hcaches, hnone, hhit, hload, hresult, hstore⟩ :=
    load_store_eq_or_kept reporter workspace store identifier
  · rw [hsame]
  rw [hload, hstore]
  by_cases hother : other = identifier
  · subst hother
    rw [hload]
    have hlookup : (store.cache ++ [(other, template)]).lookup other = some template := by
      rw [List.lookup_append, hnone, List.lookup_cons_self]
      rfl
    have hkept : { store with cache := store.cache ++ [(other, template)] }.load reporter workspace
        other = ⟨.ok template, lines, _⟩ := load_of_lookup hcaches hlookup hhit
    rw [hkept, hresult]
  · have hlookup : (store.cache ++ [(identifier, template)]).lookup other
        = store.cache.lookup other := by
      have hne : (other == identifier) = false := by simpa using hother
      rw [List.lookup_append, List.lookup_cons, hne]
      exact Option.or_none
    cases hkept : store.cache.lookup other with
    | some found =>
      -- the other template is in both caches, and the line about it is the same
      rw [load, load, if_pos hcaches, if_pos hcaches, hlookup, hkept]
      dsimp only
      have hnote : { store with cache := store.cache ++ [(identifier, template)] }.note
          (.cacheHit other) = store.note (.cacheHit other) := rfl
      rw [logged, logged, hnote]
      split <;> rfl
    | none =>
      rw [load_of_lookup_none (hlookup.trans hkept), load_of_lookup_none hkept]
      exact (loadFile_congr reporter workspace store other store.caches _).1

end DirectoryStore

namespace Store

/-- Two stores serve the same: under each identifier, a load gives the same template, or stops for
the same reason. -/
def Serves (reporter : Reporter) (workspace : Workspace) (store store' : Store) : Prop :=
  ∀ identifier, (store'.load reporter workspace identifier).1
    = (store.load reporter workspace identifier).1

/-- What a store serves stays the same when something is loaded from it. -/
theorem load_serves (reporter : Reporter) (workspace : Workspace) (store : Store)
    (identifier : String) :
    Serves reporter workspace store (store.load reporter workspace identifier).2.2 := by
  intro other
  cases store with
  | memory store => rfl
  | directory store => exact store.load_result_load reporter workspace identifier other

end Store

end Inlay
