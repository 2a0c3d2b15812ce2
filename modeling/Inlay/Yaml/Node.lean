import Inlay.Yaml.Resolve
import Inlay.Yaml.Token

/-!
# Nodes of a data file

The nodes that the tokens of a file describe: scalars, sequences and mappings, each with a tag. An
alias stands for the node of its anchor. As a sequence or a mapping has its anchor before it is
complete, it may hold itself, so the nodes are a graph: they are numbered, and hold each other by
their numbers.
-/

namespace Inlay.Yaml

/-- What a node holds. -/
inductive Content where
  | scalar (text : String)
  | sequence (items : List Nat)
  | mapping (entries : List (Nat × Nat))
  deriving Inhabited

/-- A node with its tag. -/
structure Node where
  tag : Tag
  content : Content
  deriving Inhabited

/-- The nodes of a file by their numbers. -/
abbrev Graph := Array Node

namespace Node

/-- How far the tokens have been read. -/
structure Reader where
  source : Tokens
  anchors : List (String × Nat) := []
  /-- The starts of tags that have a short name. -/
  handles : List (String × String) := Tag.handles
  /-- The nodes that have begun. -/
  nodes : Graph := #[]
  /-- How many sequences and mappings are open. -/
  depth : Nat := 0

/-- Reading from tokens. -/
abbrev Read := StateT Reader (Except Problem)

/-- The tokens do not fit. -/
def refuse {α : Type} : Read α := throw .malformed

/-- The next token. -/
def peek : Read Token := do
  let source := (← get).source
  match source.tokens, source.problem with
  | token :: _, _ => return token
  | [], some problem => throw problem
  | [], none => return .streamEnd

/-- Pass a token. -/
def skip : Read Unit := modify fun reader =>
  { reader with source := { reader.source with tokens := reader.source.tokens.tail } }

/-- Pass a certain token, if it is next. -/
def accept (token : Token) : Read Bool := do
  if (← peek) == token then
    skip
    return true
  else return false

/-- Pass a certain token, which must be next. -/
def expect (token : Token) : Read Unit := do
  unless ← accept token do refuse

/-- Is one of these tokens next? -/
def atAny (tokens : List Token) : Read Bool := return tokens.contains (← peek)

/-- Begin a node. -/
def begin (node : Node) : Read Nat := do
  let reader ← get
  set { reader with nodes := reader.nodes.push node }
  return reader.nodes.size

/-- An empty scalar. -/
def empty : Read Nat := begin ⟨Tag.ofPlain "", .scalar ""⟩

/-- The anchor before a node, if there is one. -/
def anchor? : Read (Option String) := do
  match ← peek with
  | .anchor name => skip; return some name
  | _ => return none

/-- The tag before a node as it is written, if there is one. -/
def writtenTag? : Read (Option (Option String × String)) := do
  match ← peek with
  | .tag handle suffix => skip; return some (handle, suffix)
  | _ => return none

/-- The full name of a tag. -/
def fullTag : Option String × String → Read Tag
  | (none, suffix) => return ⟨suffix⟩
  | (some handle, suffix) => do
    match (← get).handles.lookup handle with
    | some start => return ⟨start ++ suffix⟩
    | none => refuse

/-- The anchor and the tag before a node, in either order. -/
def properties : Read (Option String × Option Tag) := do
  match ← anchor? with
  | some name => return (some name, ← (← writtenTag?).mapM fullTag)
  | none =>
    let tag ← writtenTag?
    let anchor ← if tag.isSome then anchor? else pure none
    return (anchor, ← tag.mapM fullTag)

/-- Begin a node under its anchor. No two nodes have one anchor. -/
def beginAnchored (node : Node) : Option String → Read Nat
  | none => begin node
  | some name => do
    if ((← get).anchors.lookup name).isSome then refuse
    let id ← begin node
    modify fun reader => { reader with anchors := (name, id) :: reader.anchors }
    return id

/-- The node of an alias. -/
def ofAlias (name : String) : Read Nat := do
  match (← get).anchors.lookup name with
  | some id => return id
  | none => refuse

/-- How deep sequences and mappings may be written into each other, which is what a reader that
calls itself for each of them has room for. This belongs to the interpreter that the reader runs in.
-/
def deepest : Nat := 485

/-- A sequence or a mapping, begun before what it holds is read. -/
def collection (anchor : Option String) (tag : Tag) (start : Content) (fill : Read Content) :
    Read Nat := do
  let id ← beginAnchored ⟨tag, start⟩ anchor
  let depth := (← get).depth
  if deepest ≤ depth then throw (.misuse .endless)
  modify fun reader => { reader with depth := depth + 1 }
  let content ← fill
  modify fun reader => { reader with nodes := reader.nodes.set! id ⟨tag, content⟩, depth }
  return id

/-- A sequence of the items that are read. -/
def sequence (anchor : Option String) (tag : Tag) (items : Read (List Nat)) : Read Nat :=
  collection anchor tag (.sequence []) (Content.sequence <$> items)

/-- A mapping of the entries that are read. -/
def mapping (anchor : Option String) (tag : Tag) (entries : Read (List (Nat × Nat))) : Read Nat :=
  collection anchor tag (.mapping []) (Content.mapping <$> entries)

/-- A node of which only its properties are written. -/
def bare (anchor : Option String) (tag : Option Tag) : Read Nat := do
  if anchor.isNone && tag.isNone then refuse
  let tag := (tag.filter (· != Tag.nonSpecific)).getD (Tag.ofPlain "")
  beginAnchored ⟨tag, .scalar ""⟩ anchor

mutual

/-- A node. Blocks may begin only where `block` says so, and the members of a sequence may stand
without a block of their own only as the value of a mapping. The first argument bounds the number of
steps. -/
def read (block indentless : Bool) : Nat → Read Nat
  | 0 => refuse
  | count + 1 => do
    if let .alias name ← peek then
      skip
      return ← ofAlias name
    let (anchor, tag) ← properties
    let explicit := tag.filter (· != Tag.nonSpecific)
    let listTag := explicit.getD Tag.seq
    let mapTag := explicit.getD Tag.map
    match ← peek with
    | .scalar text isPlain =>
      skip
      let resolved :=
        if (isPlain && tag.isNone) || tag == some Tag.nonSpecific then Tag.ofPlain text
        else tag.getD Tag.str
      beginAnchored ⟨resolved, .scalar text⟩ anchor
    | .flowSequenceStart => sequence anchor listTag (do skip; flowItems true count)
    | .flowMappingStart => mapping anchor mapTag (do skip; flowEntries true count)
    | .blockEntry =>
      if indentless then sequence anchor listTag (indentlessItems count) else bare anchor tag
    | .sequenceStart =>
      if block then sequence anchor listTag (do skip; blockItems count) else bare anchor tag
    | .mappingStart =>
      if block then mapping anchor mapTag (do skip; blockEntries count) else bare anchor tag
    | _ => bare anchor tag

/-- A node, or an empty one if one of these tokens is next. -/
def readUnless (stops : List Token) (block indentless : Bool) : Nat → Read Nat
  | 0 => refuse
  | count + 1 => do
    if ← atAny stops then empty else read block indentless count

/-- The members of a block sequence. -/
def blockItems : Nat → Read (List Nat)
  | 0 => refuse
  | count + 1 => do
    if ← accept .blockEntry then
      let item ← readUnless [.blockEntry, .blockEnd] true false count
      return item :: (← blockItems count)
    else
      expect .blockEnd
      return []

/-- The members of a sequence without a block of its own. -/
def indentlessItems : Nat → Read (List Nat)
  | 0 => refuse
  | count + 1 => do
    if ← accept .blockEntry then
      let item ← readUnless [.blockEntry, .key, .value, .blockEnd] true false count
      return item :: (← indentlessItems count)
    else return []

/-- The entries of a block mapping. -/
def blockEntries : Nat → Read (List (Nat × Nat))
  | 0 => refuse
  | count + 1 => do
    if ← accept .key then
      let key ← readUnless [.key, .value, .blockEnd] true true count
      let value ←
        if ← accept .value then readUnless [.key, .value, .blockEnd] true true count
        else empty
      return (key, value) :: (← blockEntries count)
    else
      expect .blockEnd
      return []

/-- The value behind a key between brackets. -/
def flowValue (close : Token) : Nat → Read Nat
  | 0 => refuse
  | count + 1 => do
    if ← accept .value then readUnless [.flowEntry, close] false false count else empty

/-- The one entry of a mapping that is written as a member of a sequence between brackets. -/
def flowPair : Nat → Read (List (Nat × Nat))
  | 0 => refuse
  | count + 1 => do
    skip
    let key ← readUnless [.value, .flowEntry, .flowSequenceEnd] false false count
    return [(key, ← flowValue .flowSequenceEnd count)]

/-- The members of a sequence between brackets. A key makes a mapping of one entry. -/
def flowItems (first : Bool) : Nat → Read (List Nat)
  | 0 => refuse
  | count + 1 => do
    if ← accept .flowSequenceEnd then return []
    unless first do expect .flowEntry
    if (← peek) == .key then
      let item ← mapping none Tag.map (flowPair count)
      return item :: (← flowItems false count)
    else if ← accept .flowSequenceEnd then return []
    else
      let item ← read false false count
      return item :: (← flowItems false count)

/-- The entries of a mapping between brackets. -/
def flowEntries (first : Bool) : Nat → Read (List (Nat × Nat))
  | 0 => refuse
  | count + 1 => do
    if ← accept .flowMappingEnd then return []
    unless first do expect .flowEntry
    if ← accept .key then
      let key ← readUnless [.value, .flowEntry, .flowMappingEnd] false false count
      let value ← flowValue .flowMappingEnd count
      return (key, value) :: (← flowEntries false count)
    else if ← accept .flowMappingEnd then return []
    else
      let key ← read false false count
      return (key, ← empty) :: (← flowEntries false count)

end

/-- The directives before a document: the version must be the first of the format, and no directive
may be repeated. -/
def directives : Nat → Bool → List String → Read Bool
  | 0, _, _ => refuse
  | count + 1, versioned, named => do
    match ← peek with
    | .version major =>
      if versioned || major != 1 then refuse
      skip
      directives count true named
    | .tagHandle handle start =>
      if named.contains handle then refuse
      skip
      modify fun reader => { reader with handles := (handle, start) :: reader.handles }
      directives count versioned (handle :: named)
    | .otherDirective =>
      skip
      directives count versioned named
    | _ => return versioned || !named.isEmpty

/-- Pass marks behind documents. -/
def skipEnds : Nat → Read Unit
  | 0 => return
  | count + 1 => do if ← accept .documentEnd then skipEnds count

/-- The node of the one document of a file, if the file holds one. -/
def document : Read (Option Nat) := do
  let count := 6 * (← get).source.tokens.length + 8
  if ← atAny [.streamEnd] then return none
  let node ←
    match ← peek with
    | .version _ | .tagHandle .. | .otherDirective | .documentStart => do
      let _ ← directives count false []
      expect .documentStart
      match ← peek with
      | .version _ | .tagHandle .. | .otherDirective | .documentStart | .documentEnd
      | .streamEnd => empty
      | _ => read true false count
    | _ => read true false count
  skipEnds count
  expect .streamEnd
  return some node

/-- The nodes of a file, and the one that is its document if it has one. -/
def ofTokens (source : Tokens) : Except Problem (Option Nat × Graph) := do
  let (root, reader) ← document.run { source }
  return (root, reader.nodes)

end Node

end Inlay.Yaml
