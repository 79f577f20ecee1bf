import ClusterTopology.Address
import ClusterTopology.Value

/-!
# Placements

Where a node is: a datacenter and a rack. A placement is also what a stored
record says about a node, under the names `datacenter` (or `data_center`) and
`rack`; a record may leave either of them out.
-/

namespace ClusterTopology

/-- The datacenter and the rack of a node. -/
structure Placement where
  datacenter : String
  rack : String
  deriving DecidableEq, Repr

/-- One of the two things that a node publishes about itself. -/
inductive Attribute where
  | datacenter
  | rack
  deriving DecidableEq, Repr

namespace Attribute

/-- The name that an attribute is published under. -/
def name : Attribute → String
  | .datacenter => "datacenter"
  | .rack => "rack"

/-- The attribute with a name. -/
def ofName? (name : String) : Option Attribute :=
  if name = "datacenter" then some .datacenter
  else if name = "rack" then some .rack
  else none

/-- What stands for an attribute of a node that nobody knows. -/
def unknown : Attribute → String
  | .datacenter => "UNKNOWN-DC"
  | .rack => "UNKNOWN-RACK"

@[simp]
theorem ofName?_name (key : Attribute) : ofName? key.name = some key := by
  cases key <;> rfl

end Attribute

namespace Placement

/-- The attribute of a placement. -/
def get (p : Placement) : Attribute → String
  | .datacenter => p.datacenter
  | .rack => p.rack

/-- The text of an entry of a record; absent and empty values give an empty
text. -/
def fieldText (value : Option Value) : String :=
  match value with
  | some value => if value.isPresent then value.plain else ""
  | none => ""

/-- The placement that a record gives, or the kind of a value that is none. -/
def ofRecord : Value → Except String Placement
  | .map entries =>
    .ok {
      datacenter :=
        fieldText ((Value.field? entries "datacenter").or (Value.field? entries "data_center"))
      rack := fieldText (Value.field? entries "rack") }
  | value => .error value.kindName

end Placement

/-- Placements by node, in the order in which the nodes were first recorded. -/
abbrev Placements := Entries NodeAddress Placement

end ClusterTopology
