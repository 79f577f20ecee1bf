import ClusterTopology.Yaml.Tag

/-!
# Nodes

A document consists of nodes that refer to each other by number: an alias is a
reference to the node that its anchor was put on, so a node may stand in several
places, and also within itself.
-/

namespace ClusterTopology.Yaml

/-- The number of a node in its document. -/
abbrev NodeId := Nat

/-- What a node consists of: a text, a sequence, or pairs of keys and values. -/
inductive Node.Body where
  | scalar (text : String)
  | sequence (items : List NodeId)
  | mapping (entries : List (NodeId × NodeId))
  deriving Repr

/-- A part of a document. -/
structure Node where
  tag : Tag
  body : Node.Body
  deriving Repr

/-- The nodes of a document, in the order in which they begin. -/
abbrev Nodes := Array Node

namespace Node

/-- The node that stands where nothing is written. -/
def empty : Node := ⟨.null, .scalar ""⟩

instance : Inhabited Node := ⟨empty⟩

/-- The entries of a mapping; other nodes have none. -/
def entries (node : Node) : List (NodeId × NodeId) :=
  match node.body with
  | .mapping entries => entries
  | _ => []

/-- Whether a node consists of keys and values. -/
def isMapping (node : Node) : Bool :=
  match node.body with
  | .mapping _ => true
  | _ => false

end Node

end ClusterTopology.Yaml
