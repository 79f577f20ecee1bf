import ClusterTopology.Entries
import ClusterTopology.Yaml.Content
import ClusterTopology.Yaml.Document

/-!
# Objects

What the nodes of a document stand for: scalars, and collections that are known
by the node that they come from, so that they may be shared and may contain
themselves. Collections are filled in the order in which they are met, the outer
ones before the inner ones, so of several faults the first one in that order is
reported. Mappings may take over the entries of others by merge keys.
-/

namespace ClusterTopology.Yaml

/-- A key of a mapping. The number that is none is a key of its own each time it is
read; `origin` is the node that it comes from then. -/
structure Key where
  scalar : Scalar
  origin : Option NodeId
  deriving Repr

namespace Key

/-- Whether two keys are one. -/
def isSame (a b : Key) : Bool :=
  a.scalar == b.scalar ||
    (a.scalar = .float .nan && b.scalar = .float .nan && a.origin = b.origin)

instance : BEq Key := ⟨isSame⟩

end Key

/-- What a node stands for. -/
inductive Part where
  | scalar (key : Key)
  | collection (id : NodeId)
  deriving Repr

/-- What a collection contains. -/
inductive Contents where
  | list (items : List Part)
  | map (entries : Entries Key Part)
  | set (members : List Key)
  | pairs (entries : List (Part × Part))
  deriving Repr

/-- Whether a collection is shown between the brackets of a list. -/
def Contents.isList : Contents → Bool
  | .list _ => true
  | .pairs _ => true
  | .map _ => false
  | .set _ => false

namespace Object

/-- What has been made so far: the nodes, of which mappings lose their merge keys;
what they stand for; the collections that are to be filled next, the last one
first; and the contents of those that are. -/
structure Building where
  nodes : Nodes
  parts : Array (Option Part)
  waiting : List NodeId
  contents : Array (Option Contents)

/-- A step of making objects. -/
abbrev Build := StateT Building (Except Error)

/-- The document breaks the rules. -/
def refuse {α : Type} : Build α :=
  throw .malformed

/-- A node. -/
def node (id : NodeId) : Build Node := do
  return (← get).nodes.getD id .empty

/-- Sets the entries of a mapping. -/
def setEntries (id : NodeId) (entries : List (NodeId × NodeId)) : Build Unit :=
  modify fun b =>
    { b with nodes := b.nodes.modify id fun node => { node with body := .mapping entries } }

/-- A key that stands for a value of its mapping is a text once the mapping is
looked at. -/
def asText (id : NodeId) : Build Unit :=
  modify fun b =>
    { b with nodes := b.nodes.modify id fun node =>
        if node.tag = .content then { node with tag := .text } else node }

mutual

/-- Gives a mapping the entries that its merge keys name, before its own. The fuel
bounds the number of merge keys. -/
def flatten : Nat → NodeId → Build Unit
  | 0, _ => throw .tooDeep
  | fuel + 1, id => do
    let merged ← takeOver fuel id
    let own := (← node id).entries
    own.forM fun entry => asText entry.1
    setEntries id (merged ++ own)

/-- Takes the merge keys from a mapping, one by one, and collects the entries that
they name. -/
def takeOver : Nat → NodeId → Build (List (NodeId × NodeId))
  | 0, _ => throw .tooDeep
  | fuel + 1, id => do
    let nodes := (← get).nodes
    let isMerge (entry : NodeId × NodeId) : Bool := (nodes.getD entry.1 .empty).tag = .merge
    let entries := (← node id).entries
    match entries.dropWhile fun entry => !isMerge entry with
    | [] => return []
    | (_, value) :: after =>
      setEntries id ((entries.takeWhile fun entry => !isMerge entry) ++ after)
      let first ← named fuel value
      let others ← takeOver fuel id
      return first ++ others

/-- The entries that the value of a merge key names: those of a mapping, or of
several of which the last one comes first. -/
def named : Nat → NodeId → Build (List (NodeId × NodeId))
  | 0, _ => throw .tooDeep
  | fuel + 1, id => do
    match (← node id).body with
    | .mapping _ => flatEntries fuel id
    | .sequence items =>
      let parts ← items.mapM fun item => do
        if (← node item).isMapping then flatEntries fuel item else refuse
      return parts.reverse.flatten
    | .scalar _ => refuse

/-- The entries of a mapping once it is flat. -/
def flatEntries : Nat → NodeId → Build (List (NodeId × NodeId))
  | 0, _ => throw .tooDeep
  | fuel + 1, id => do
    flatten fuel id
    return (← node id).entries

end

/-- The text of a scalar, or of the value that a mapping has as its content. The
fuel is the number of nodes. -/
def contentText : Nat → NodeId → Build String
  | 0, _ => throw .tooDeep
  | fuel + 1, id => do
    let nodes := (← get).nodes
    match (nodes.getD id .empty).body with
    | .scalar text => return text
    | .sequence _ => refuse
    | .mapping entries =>
      match entries.find? fun entry => (nodes.getD entry.1 .empty).tag = .content with
      | some (_, value) => contentText fuel value
      | none => refuse

/-- The scalar that a node stands for under its tag. -/
def scalarKey (id : NodeId) : Build Key := do
  let node ← node id
  let text ← contentText ((← get).nodes.size + 1) id
  if node.tag = .time && node.isMapping then throw .mappingAsTime
  else
    let s ← Content.value node.tag text
    return ⟨s, if s = .float .nan && !Content.isNanName text then some id else none⟩

/-- What a node stands for, once its tag is known not to be that of a collection or
that it waits to be filled. -/
def newPart (id : NodeId) : Build Part := do
  match (← node id).tag with
  | .sequence | .mapping | .set | .orderedMapping | .pairs =>
    modify fun b => { b with waiting := id :: b.waiting }
    return .collection id
  | _ => return .scalar (← scalarKey id)

/-- What a node stands for. -/
def part (id : NodeId) : Build Part := do
  match (← get).parts.getD id none with
  | some found => return found
  | none =>
    let made ← newPart id
    modify fun b => { b with parts := b.parts.setIfInBounds id (some made) }
    return made

/-- The entries of a mapping once it is flat. Only scalars may be keys; of two
entries with one key the last one counts. -/
def entryParts (id : NodeId) : Build (Entries Key Part) := do
  let nodes := (← get).nodes
  let bound := nodes.foldl (fun sum node => sum + node.entries.length + 1) 1
  flatten (4 * bound) id
  let writes ← (← node id).entries.mapM fun (key, value) => do
    match ← part key with
    | .collection _ => refuse
    | .scalar key => return (key, ← part value)
  return Entries.ofList writes

/-- The key and the value of a mapping that has one entry. -/
def pairParts (id : NodeId) : Build (Part × Part) := do
  match (← node id).body with
  | .mapping [(key, value)] => return (← part key, ← part value)
  | _ => refuse

/-- What a collection contains. -/
def contentsOf (id : NodeId) : Build Contents := do
  let node ← node id
  match node.tag, node.body with
  | .sequence, .sequence items => return .list (← items.mapM part)
  | .mapping, .mapping _ => return .map (← entryParts id)
  | .set, .mapping _ => return .set (Entries.keys (← entryParts id))
  | .orderedMapping, .sequence items => return .pairs (← items.mapM pairParts)
  | .pairs, .sequence items => return .pairs (← items.mapM pairParts)
  | _, _ => refuse

/-- Fills a collection. -/
def fill (id : NodeId) : Build Unit := do
  let found ← contentsOf id
  modify fun b => { b with contents := b.contents.setIfInBounds id (some found) }

/-- Fills the collections that wait, and then those that are met by that. The fuel
is the number of nodes. -/
def fillAll : Nat → Build Unit
  | 0 => return ()
  | fuel + 1 => do
    match (← get).waiting with
    | [] => return ()
    | waiting =>
      modify fun b => { b with waiting := [] }
      waiting.reverse.forM fill
      fillAll fuel

/-- What a document stands for, with the contents of its collections. -/
def ofDocument (document : Document) : Except Error (Part × Array (Option Contents)) :=
  let size := document.nodes.size
  let build : Build Part := do
    let root ← part document.root
    fillAll (size + 1)
    return root
  match build.run ⟨document.nodes, .replicate size none, [], .replicate size none⟩ with
  | .ok (root, b) => .ok (root, b.contents)
  | .error error => .error error

end Object

end ClusterTopology.Yaml
