import Inlay.Config.Basic
import Inlay.Store.Directory

/-!
# Stores

Where included templates come from: memory or a directory.
-/

namespace Inlay

open File Log

/-- The directory that a configuration names. Its list of extensions must be there. -/
def DirectoryStore.ofConfig (templates : Config.Templates) (logger : Option Logger) :
    Except Misuse DirectoryStore :=
  match templates.extensions with
  | none => .error .wrongKind
  | some extensions => .ok {
      path := Path.ofString templates.directory
      encoding := templates.encoding
      extensions := DirectoryStore.listed extensions
      caches := templates.cache.isTruthy
      logger }

/-- A store of templates. -/
inductive Store where
  | memory (store : MemoryStore)
  | directory (store : DirectoryStore)
  deriving Inhabited

namespace Store

/-- Load the template of an identifier: the template or the reason to stop, what was logged, and
the store after. -/
def load (reporter : Reporter) (workspace : Workspace) (identifier : String) :
    Store → Except Stop Template × List Line × Store
  | .memory store => (store.load reporter identifier, [], .memory store)
  | .directory store =>
    let loading := store.load reporter workspace identifier
    (loading.result, loading.lines, .directory loading.store)

end Store

end Inlay
