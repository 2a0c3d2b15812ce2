import Inlay.Yaml.Kind
import Inlay.Yaml.Merge

/-!
# Values of a data file

The value that the one document of a file describes, in the safe part of the format: the tags of the
format's own kinds and no others.

Values are made from the outside in and level by level: a list or a mapping is made empty where it
is met, and filled after everything that was met before it. So of several mistakes the one that is
nested least counts, and a list may be put into itself.
-/

namespace Inlay.Yaml

/-- What the value of a node is made of: the values of other nodes, by their numbers. -/
inductive Part where
  | leaf (value : Value)
  | list (items : List Nat)
  | set (members : List Nat)
  | pairs (entries : List (Nat × Nat))
  | map (entries : List (Nat × Nat))
  deriving Inhabited

/-- How far values have been made. -/
structure Builder where
  graph : Graph
  /-- What has been made, by the numbers of the nodes. -/
  parts : Array (Option Part)
  /-- The nodes whose values are to be filled, the first met first. -/
  waiting : List Nat := []
  /-- The nodes that stand for the format's one value that is no number. -/
  nans : List Nat := []

/-- Making values. -/
abbrev Build := StateT Builder (Except Problem)

namespace Build

/-- The tags of values that are made empty and filled later. -/
def emptyPart? (tag : Tag) : Option Part :=
  if tag = Tag.seq then some (.list [])
  else if tag = Tag.map then some (.map [])
  else if tag = Tag.set then some (.set [])
  else if tag = Tag.pairs ∨ tag = Tag.orderedMap then some (.pairs [])
  else none

/-- The text of a scalar, or of the value under the equals sign of a mapping. A mapping that refers
to itself there has none. -/
def textOf (graph : Graph) : Nat → Nat → Except Problem String
  | 0, _ => .error (.misuse .endless)
  | count + 1, id =>
    match graph.content id with
    | .scalar text => .ok text
    | .sequence _ => malformed
    | .mapping entries =>
      match entries.find? fun entry => graph.tag entry.1 = Tag.value with
      | some (_, value) => textOf graph count value
      | none => malformed

/-- Is the node a scalar? -/
def isScalar (graph : Graph) (id : Nat) : Bool :=
  match graph.content id with
  | .scalar _ => true
  | _ => false

/-- The value of a text of a kind, which stands in a scalar or in a mapping. -/
def leafOf (tag : Tag) (inScalar : Bool) (text : String) : Except Problem Value :=
  if tag = Tag.str then .ok (.text text)
  else if tag = Tag.null then .ok .null
  else if tag = Tag.bool then boolOf text
  else if tag = Tag.int then intOf text
  else if tag = Tag.float then floatOf text
  else if tag = Tag.bytes then bytesOf text
  else if inScalar then momentOf text
  else .error (.misuse .wrongKind)

/-- The kinds of values that are made at once. -/
def leafTags : List Tag :=
  [Tag.str, Tag.null, Tag.bool, Tag.int, Tag.float, Tag.bytes, Tag.timestamp]

/-- Note what a node is made of. -/
def record (id : Nat) (part : Part) : Build Unit :=
  modify fun builder => { builder with parts := builder.parts.set! id (some part) }

/-- Make the value of a node, unless it has been made. -/
def make (id : Nat) : Build Unit := do
  let builder ← get
  if (builder.parts[id]?.join).isSome then return
  let tag := builder.graph.tag id
  match emptyPart? tag with
  | some part =>
    record id part
    modify fun builder => { builder with waiting := builder.waiting ++ [id] }
  | none =>
    if !leafTags.contains tag then throw .malformed
    let text ← textOf builder.graph (builder.graph.size + 1) id
    record id (.leaf (← leafOf tag (isScalar builder.graph id) text))
    if tag = Tag.float && isNanWord text then
      modify fun builder => { builder with nans := id :: builder.nans }

/-- Do two nodes name the same entry of a mapping? What is no number names its own entry only, but
all nodes that stand for the format's one such value stand for the same. -/
def sameEntry (builder : Builder) (a b : Nat) : Bool :=
  let valueOf (id : Nat) : Value := match builder.parts[id]?.join with
    | some (.leaf value) => value
    | _ => .again true
  a == b || (valueOf a).sameKey (valueOf b) || builder.nans.contains a && builder.nans.contains b

/-- Can the value of a node name an entry of a mapping? -/
def isKey (builder : Builder) (id : Nat) : Bool :=
  match builder.parts[id]?.join with
  | some (.leaf value) => value.isKey
  | _ => false

/-- Set the value of a key: in its place if the mapping has it, else at the end. -/
def put (builder : Builder) (key value : Nat) : List (Nat × Nat) → List (Nat × Nat)
  | [] => [(key, value)]
  | entry :: rest =>
    if sameEntry builder entry.1 key then (entry.1, value) :: rest
    else entry :: put builder key value rest

/-- The entries of a mapping, with what it takes in. -/
def mappingEntries (id : Nat) : Build (List (Nat × Nat)) := do
  let graph ← (← get).graph.merge id
  modify fun builder => { builder with graph }
  (← graph.entries id).foldlM (fun found (key, value) => do
    make key
    if !isKey (← get) key then throw .malformed
    make value
    return put (← get) key value found) []

/-- The items of a sequence. -/
def items (id : Nat) : Build (List Nat) := do
  match (← get).graph.content id with
  | .sequence items => return items
  | _ => throw .malformed

/-- The one entry of a mapping. -/
def pair (id : Nat) : Build (Nat × Nat) := do
  match ← (← get).graph.entries id with
  | [(key, value)] =>
    make key
    make value
    return (key, value)
  | _ => throw .malformed

/-- Fill the value of a node. -/
def fill (id : Nat) : Part → Build Unit
  | .leaf _ => return
  | .list _ => do
    let items ← items id
    items.forM make
    record id (.list items)
  | .pairs _ => do
    let entries ← (← items id).mapM pair
    record id (.pairs entries)
  | .set _ => do
    let entries ← mappingEntries id
    record id (.set (entries.map Prod.fst))
  | .map _ => do
    let entries ← mappingEntries id
    record id (.map entries)

/-- Fill the values that wait for it, and those that are met on the way. Each node waits at most
once; `count` bounds their number. -/
def fillAll : Nat → Build Unit
  | 0 => return
  | count + 1 => do
    let builder ← get
    match builder.waiting with
    | [] => return
    | id :: waiting =>
      set { builder with waiting }
      match builder.parts[id]?.join with
      | some part => fill id part
      | none => return
      fillAll count

end Build

/-- The value of a node that stands in the nodes `path`. No path is longer than there are nodes. -/
def valueOf (parts : Array (Option Part)) : Nat → List Nat → Nat → Value
  | 0, _, _ => .null
  | count + 1, path, id =>
    let inner (node : Nat) : Value := valueOf parts count (id :: path) node
    match parts[id]?.join with
    | none => .null
    | some (.leaf value) => value
    | some (.list items) =>
      if path.contains id then .again false else .list (items.map inner)
    | some (.set members) =>
      if path.contains id then .again false else .set (members.map inner)
    | some (.pairs entries) =>
      if path.contains id then .again false
      else .list (entries.map fun (key, value) => .pair (inner key) (inner value))
    | some (.map entries) =>
      if path.contains id then .again true
      else .map (entries.map fun (key, value) => (inner key, inner value))

/-- The value of a file; an empty file has none. -/
def load (source : Source) : Except Problem (Option Value) := do
  match ← Node.ofTokens (Token.scan source) with
  | (none, _) => return none
  | (some root, graph) =>
    let build : Build Unit := do
      Build.make root
      Build.fillAll (graph.size + 1)
    let (_, builder) ← build.run { graph, parts := Array.replicate graph.size none }
    return some (valueOf builder.parts (graph.size + 1) [] root)

end Inlay.Yaml
