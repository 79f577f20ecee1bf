import ClusterTopology.Entries
import ClusterTopology.Yaml.Error
import ClusterTopology.Yaml.Node
import ClusterTopology.Yaml.Token

/-!
# Documents

The nodes that the tokens of a text make. There is at most one document in a
text; a text without one has no nodes. Tokens are asked for one by one, so that a
fault among them is only noticed once it is reached.
-/

namespace ClusterTopology.Yaml

/-- A document: its nodes and the outermost one of them. -/
structure Document where
  nodes : Nodes
  root : NodeId
  deriving Repr

namespace Document

/-- What is left to read, with what has been read: the tokens and the fault that
ends them, the nodes and the anchors so far, the handles of tags, and the number of
collections that there may be from here on inwards. -/
structure Reading where
  tokens : List Token
  fault : Option Error
  nodes : Nodes
  anchors : Entries String NodeId
  handles : Entries String String
  room : Nat

/-- The greatest number of collections within each other. -/
def maxDepth : Nat := 485

/-- A step of reading. -/
abbrev Read := StateT Reading (Except Error)

/-- The text breaks the rules. -/
def refuse {α : Type} : Read α :=
  throw .malformed

/-- The next token. -/
def peek : Read Token := do
  let r ← get
  match r.tokens with
  | token :: _ => return token
  | [] => throw (r.fault.getD .malformed)

/-- Goes on to the token after the next one. -/
def skip : Read Unit :=
  modify fun r => { r with tokens := r.tokens.drop 1 }

/-- Whether the next token is one of some tokens; if so, goes on. -/
def skipIf (token : Token) : Read Bool := do
  if (← peek) = token then
    skip
    return true
  else return false

/-- The next token has to be this one. -/
def expect (token : Token) : Read Unit := do
  if !(← skipIf token) then refuse

/-- The node of an alias. -/
def ofAlias (name : String) : Read NodeId := do
  match Entries.get? (← get).anchors name with
  | some id => return id
  | none => refuse

/-- Adds a node. -/
def add (node : Node) : Read NodeId := do
  let r ← get
  set { r with nodes := r.nodes.push node }
  return r.nodes.size

/-- Adds a node that may have an anchor; a name can be given once. -/
def addAnchored (anchor : Option String) (node : Node) : Read NodeId := do
  match anchor with
  | none => add node
  | some name =>
    if Entries.contains (← get).anchors name then refuse
    else
      let id ← add node
      modify fun r => { r with anchors := Entries.insert r.anchors name id }
      return id

/-- Sets what a node consists of. -/
def fill (id : NodeId) (body : Node.Body) : Read Unit :=
  modify fun r => { r with nodes := r.nodes.modify id fun node => { node with body } }

/-- Reads something within a collection, of which only so many may be around it. -/
def within {α : Type} (inner : Read α) : Read α := do
  let r ← get
  match r.room with
  | 0 => throw .tooDeep
  | room + 1 =>
    set { r with room }
    let found ← inner
    modify fun after => { after with room := r.room }
    return found

/-- Adds a sequence whose items are read once it has its place. -/
def addSequence (anchor : Option String) (tag : Tag) (items : Read (List NodeId)) :
    Read NodeId := do
  let id ← addAnchored anchor ⟨tag, .sequence []⟩
  fill id (.sequence (← within items))
  return id

/-- Adds a mapping whose entries are read once it has its place. -/
def addMapping (anchor : Option String) (tag : Tag) (entries : Read (List (NodeId × NodeId))) :
    Read NodeId := do
  let id ← addAnchored anchor ⟨tag, .mapping []⟩
  fill id (.mapping (← within entries))
  return id

/-- The full name of a tag. -/
def tagName (text : TagText) : Read String := do
  match text.handle with
  | none => return text.suffix
  | some handle =>
    match Entries.get? (← get).handles handle with
    | some start => return start ++ text.suffix
    | none => refuse

/-- The properties of a node: an anchor and the full name of a tag, in either
order. -/
def properties : Read (Option String × Option String) := do
  match ← peek with
  | .anchor name =>
    skip
    match ← peek with
    | .tag text =>
      skip
      return (some name, some (← tagName text))
    | _ => return (some name, none)
  | .tag text =>
    skip
    match ← peek with
    | .anchor name =>
      skip
      return (some name, some (← tagName text))
    | _ => return (none, some (← tagName text))
  | _ => return (none, none)

/-- The tag of a scalar. The tag `!` asks for the type of a plain scalar. -/
def scalarTag (name : Option String) (text : String) (plain : Bool) : Tag :=
  match name with
  | none => if plain then .ofPlain text else .text
  | some "!" => .ofPlain text
  | some name => .ofName name

/-- The tag of a sequence or a mapping. -/
def collectionTag (name : Option String) (otherwise : Tag) : Tag :=
  match name with
  | none => otherwise
  | some "!" => otherwise
  | some name => .ofName name

mutual

/-- A node. Blocks can only be read where `block` says so, and a sequence without
an indentation of its own where `loose` does. The fuel bounds the number of steps. -/
def read (block loose : Bool) : Nat → Read NodeId
  | 0 => refuse
  | fuel + 1 => do
    match ← peek with
    | .alias name =>
      skip
      ofAlias name
    | _ =>
      let (anchor, tag) ← properties
      let sequenceTag := collectionTag tag .sequence
      let mappingTag := collectionTag tag .mapping
      match ← peek, block, loose with
      | .blockEntry, _, true =>
        addSequence anchor sequenceTag (looseItems fuel)
      | .scalar text plain, _, _ =>
        skip
        addAnchored anchor ⟨scalarTag tag text plain, .scalar text⟩
      | .flowSequenceStart, _, _ =>
        skip
        addSequence anchor sequenceTag (flowItems true fuel)
      | .flowMappingStart, _, _ =>
        skip
        addMapping anchor mappingTag (flowEntries true fuel)
      | .blockSequenceStart, true, _ =>
        skip
        addSequence anchor sequenceTag (blockItems fuel)
      | .blockMappingStart, true, _ =>
        skip
        addMapping anchor mappingTag (blockEntries fuel)
      | _, _, _ =>
        if anchor.isSome || tag.isSome then addAnchored anchor ⟨scalarTag tag "" true, .scalar ""⟩
        else refuse

/-- A node, unless one of some tokens shows that nothing is written. -/
def readUnless (stops : List Token) (block loose : Bool) : Nat → Read NodeId
  | 0 => refuse
  | fuel + 1 => do
    if stops.contains (← peek) then add .empty else read block loose fuel

/-- The items of a sequence that is indented. -/
def blockItems : Nat → Read (List NodeId)
  | 0 => refuse
  | fuel + 1 => do
    if ← skipIf .blockEntry then
      let item ← readUnless [.blockEntry, .blockEnd] true false fuel
      return item :: (← blockItems fuel)
    else
      expect .blockEnd
      return []

/-- The items of a sequence that stands as far in as the key before it. -/
def looseItems : Nat → Read (List NodeId)
  | 0 => refuse
  | fuel + 1 => do
    if ← skipIf .blockEntry then
      let item ← readUnless [.blockEntry, .key, .value, .blockEnd] true false fuel
      return item :: (← looseItems fuel)
    else return []

/-- The value after a colon, if there is one. -/
def valueUnless (stops : List Token) (block : Bool) : Nat → Read NodeId
  | 0 => refuse
  | fuel + 1 => do
    if ← skipIf .value then readUnless stops block block fuel else add .empty

/-- The entries of a mapping that is indented. -/
def blockEntries : Nat → Read (List (NodeId × NodeId))
  | 0 => refuse
  | fuel + 1 => do
    let stops := [.key, .value, .blockEnd]
    if ← skipIf .key then
      let key ← readUnless stops true true fuel
      let value ← valueUnless stops true fuel
      return (key, value) :: (← blockEntries fuel)
    else
      expect .blockEnd
      return []

/-- The items of a sequence between brackets. An entry with a key is a mapping of
its own. -/
def flowItems (first : Bool) : Nat → Read (List NodeId)
  | 0 => refuse
  | fuel + 1 => do
    if ← skipIf .flowSequenceEnd then return []
    else
      if !first then expect .flowEntry
      if ← skipIf .key then
        let item ← addMapping none .mapping (oneEntry fuel)
        return item :: (← flowItems false fuel)
      else if ← skipIf .flowSequenceEnd then return []
      else
        let item ← read false false fuel
        return item :: (← flowItems false fuel)

/-- The only entry of a mapping that stands as an item between brackets. -/
def oneEntry : Nat → Read (List (NodeId × NodeId))
  | 0 => refuse
  | fuel + 1 => do
    let key ← readUnless [.value, .flowEntry, .flowSequenceEnd] false false fuel
    let value ← valueUnless [.flowEntry, .flowSequenceEnd] false fuel
    return [(key, value)]

/-- The entries of a mapping between brackets. An entry without a colon has no
value. -/
def flowEntries (first : Bool) : Nat → Read (List (NodeId × NodeId))
  | 0 => refuse
  | fuel + 1 => do
    if ← skipIf .flowMappingEnd then return []
    else
      if !first then expect .flowEntry
      if ← skipIf .key then
        let key ← readUnless [.value, .flowEntry, .flowMappingEnd] false false fuel
        let value ← valueUnless [.flowEntry, .flowMappingEnd] false fuel
        return (key, value) :: (← flowEntries false fuel)
      else if ← skipIf .flowMappingEnd then return []
      else
        let key ← read false false fuel
        let value ← add .empty
        return (key, value) :: (← flowEntries false fuel)

end

/-- The directives before a document. The fuel is the number of tokens. -/
def directives (versionSeen : Bool) (tags : Entries String String) :
    Nat → Read (Entries String String)
  | 0 => refuse
  | fuel + 1 => do
    match ← peek with
    | .directive (.version major) =>
      skip
      if versionSeen || major ≠ 1 then refuse else directives true tags fuel
    | .directive (.tag handle start) =>
      skip
      if Entries.contains tags handle then refuse
      else directives versionSeen (Entries.insert tags handle start) fuel
    | .directive .unknown =>
      skip
      directives versionSeen tags fuel
    | _ => return tags

/-- The handles that need no directive. -/
def standardHandles : Entries String String :=
  [("!", "!"), ("!!", Tag.standardNames)]

/-- Whether a token shows that a document has no content. -/
def endsDocument : Token → Bool
  | .directive _ => true
  | .documentStart => true
  | .documentEnd => true
  | .streamEnd => true
  | _ => false

/-- Nothing may follow the document but marks of its end. What else follows is
looked at as far as the beginning of another document. The fuel is the number of
tokens. -/
def finish : Nat → Read Unit
  | 0 => refuse
  | fuel + 1 => do
    if ← skipIf .documentEnd then finish fuel
    else if ← skipIf .streamEnd then return ()
    else
      let _ ← directives false [] fuel
      expect .documentStart
      refuse

/-- The outermost node of the only document, if there is one. -/
def outermost (fuel : Nat) : Read (Option NodeId) := do
  match ← peek with
  | .streamEnd => return none
  | .directive _ | .documentStart =>
    let tags ← directives false [] fuel
    modify fun r => { r with handles := Entries.update standardHandles tags }
    expect .documentStart
    let root ← if endsDocument (← peek) then add .empty else read true false fuel
    finish fuel
    return some root
  | _ =>
    let root ← read true false fuel
    finish fuel
    return some root

/-- The document that tokens make, or the fault that ends them. -/
def ofTokens (tokens : List Token) (fault : Option Error) : Except Error (Option Document) :=
  let fuel := 4 * tokens.length + 4
  match (outermost fuel).run ⟨tokens, fault, #[], [], standardHandles, maxDepth⟩ with
  | .ok (root, r) => .ok (root.map fun root => ⟨r.nodes, root⟩)
  | .error error => .error error

end Document

end ClusterTopology.Yaml
