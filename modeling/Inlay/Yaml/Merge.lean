import Inlay.Yaml.Node

/-!
# Merging mappings

A mapping takes in the entries of other mappings under its merge keys: they come before its own,
and of several mappings in a sequence the last comes first. What is taken in is merged itself
before, and stays so: later aliases of it find the merged entries.

A mapping may take in itself. It then does so without the merge key by which it did, so every step
uses up a merge key of the graph, and merging ends.
-/

namespace Inlay.Yaml.Graph

/-- The tag of a node. -/
def tag (graph : Graph) (id : Nat) : Tag := (graph[id]?.getD default).tag

/-- What a node holds. -/
def content (graph : Graph) (id : Nat) : Content := (graph[id]?.getD default).content

/-- The entries of a node, which must be a mapping. -/
def entries (graph : Graph) (id : Nat) : Except Problem (List (Nat × Nat)) :=
  match graph.content id with
  | .mapping entries => .ok entries
  | _ => malformed

/-- Give a mapping other entries. -/
def setEntries (graph : Graph) (id : Nat) (entries : List (Nat × Nat)) : Graph :=
  graph.modify id fun node => { node with content := .mapping entries }

/-- An equals sign as a key is a text. -/
def asKey (graph : Graph) (id : Nat) : Graph :=
  if graph.tag id = Tag.value then graph.modify id fun node => { node with tag := Tag.str }
  else graph

/-- The number of merge keys in a graph. -/
def mergeKeys (graph : Graph) : Nat :=
  graph.foldl (fun count node =>
    match node.content with
    | .mapping entries => count + (entries.filter fun e => graph.tag e.1 = Tag.merge).length
    | _ => count) 0

/-- The first merge key among entries: the value under it, and the other entries. -/
def takeMerge (graph : Graph) (entries : List (Nat × Nat)) : Option (Nat × List (Nat × Nat)) :=
  let isMerge (entry : Nat × Nat) : Bool := graph.tag entry.1 = Tag.merge
  match entries.dropWhile fun entry => !isMerge entry with
  | [] => none
  | entry :: after => some (entry.2, entries.takeWhile (fun entry => !isMerge entry) ++ after)

/-- Merge what a mapping takes in into it, behind entries that it has taken in before. The first
argument bounds the number of merge keys. -/
def mergeWithin : Nat → List (Nat × Nat) → Nat → Graph → Except Problem Graph
  | 0, _, _, _ => malformed
  | count + 1, taken, id, graph => do
    let own ← graph.entries id
    match graph.takeMerge own with
    | none => .ok ((own.foldl (fun graph entry => asKey graph entry.1) graph).setEntries id
        (taken ++ own))
    | some (source, rest) =>
      let graph := graph.setEntries id rest
      match graph.content source with
      | .scalar _ => malformed
      | .mapping _ =>
        let graph ← mergeWithin count [] source graph
        mergeWithin count (taken ++ (← graph.entries source)) id graph
      | .sequence items =>
        let (graph, found) ← items.foldlM (fun (state : Graph × List (Nat × Nat)) item => do
          let graph ← mergeWithin count [] item state.1
          .ok (graph, (← graph.entries item) ++ state.2)) (graph, [])
        mergeWithin count (taken ++ found) id graph

/-- Merge what a mapping takes in into it. -/
def merge (graph : Graph) (id : Nat) : Except Problem Graph :=
  mergeWithin (graph.mergeKeys + 1) [] id graph

end Inlay.Yaml.Graph
