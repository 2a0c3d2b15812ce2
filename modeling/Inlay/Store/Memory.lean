import Inlay.Template.Compile

/-!
# Templates in memory

A store of templates that are registered one by one, as source text or ready-made. A registration
that fails changes nothing.
-/

namespace Inlay

/-- The templates in the order of their first registration. -/
structure MemoryStore where
  entries : List (String × Template) := []
  deriving Inhabited

namespace MemoryStore

/-- Set the template of an identifier. -/
def put (identifier : String) (template : Template) :
    List (String × Template) → List (String × Template)
  | [] => [(identifier, template)]
  | entry :: rest =>
    if entry.1 = identifier then (identifier, template) :: rest
    else entry :: put identifier template rest

/-- The template of an identifier. -/
def find? (store : MemoryStore) (identifier : String) : Option Template :=
  store.entries.lookup identifier

/-- Is something registered under the identifier? -/
def contains (store : MemoryStore) (identifier : String) : Bool :=
  (store.find? identifier).isSome

/-- Register a ready-made template. -/
def insert (store : MemoryStore) (identifier : String) (template : Template) : MemoryStore :=
  ⟨put identifier template store.entries⟩

/-- What may be registered. -/
inductive Registrable where
  | source (text : String)
  | ready (template : Template)
  deriving Inhabited

/-- The template that is registered: of source text, the one compiled under the identifier. -/
def Registrable.template (reporter : Reporter) (identifier : String) :
    Registrable → Except Stop Template
  | .source text => Template.compile reporter (.text identifier) text
  | .ready template => .ok template

/-- Register a template, and give it back. -/
def register (reporter : Reporter) (store : MemoryStore) (identifier : String)
    (new : Registrable) : Except Stop (MemoryStore × Template) := do
  let template ← new.template reporter identifier
  return (store.insert identifier template, template)

/-- A store with these templates, registered in order. -/
def ofList (reporter : Reporter) (entries : List (String × Registrable)) :
    Except Stop MemoryStore :=
  entries.foldlM (fun store entry => do return (← store.register reporter entry.1 entry.2).1) {}

/-- The template of an identifier, or the report that there is none. -/
def load (reporter : Reporter) (store : MemoryStore) (identifier : String) :
    Except Stop Template :=
  match store.find? identifier with
  | some template => .ok template
  | none =>
    .error (reporter.stop Code.templateNotFound [(.text "identifier", .text identifier)])

end MemoryStore

end Inlay
