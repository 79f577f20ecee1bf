import ClusterTopology.Yaml.Members
import ClusterTopology.Yaml.Object
import ClusterTopology.Yaml.Token.Stream

/-!
# Reading YAML

The value of a document. A collection that contains itself is written out once;
at the place within itself only the kind of its brackets is left. The outermost
collection does not count as being written out, so each of its items or entries
starts anew.
-/

namespace ClusterTopology.Yaml

/-- The values of collections that have been written out, apart from what is around
them. -/
abbrev Written := Array (Option Value)

/-- A value, and whether it depends on what is around it. -/
abbrev Writing := StateM Written (Value × Bool)

namespace Contents

/-- The values of several parts, and whether one of them depends on what is around
it. -/
def writeAll (write : Part → Writing) (parts : List Part) :
    StateM Written (List Value × Bool) := do
  let found ← parts.mapM write
  return (found.map Prod.fst, found.any Prod.snd)

/-- The value of a collection, given how its parts are written out. -/
def write (writePart : Part → Writing) : Contents → Writing
  | .list items => do
    let (items, isOpen) ← writeAll writePart items
    return (.list items, isOpen)
  | .map entries => do
    let (values, isOpen) ← writeAll writePart (entries.map Prod.snd)
    return (.map ((entries.map fun entry => entry.1.scalar).zip values), isOpen)
  | .set members => return (.set (Members.inOrder (members.map Key.scalar)), false)
  | .pairs entries => do
    let (keys, keysOpen) ← writeAll writePart (entries.map Prod.fst)
    let (values, valuesOpen) ← writeAll writePart (entries.map Prod.snd)
    return (.list (keys.zipWith .pair values), keysOpen || valuesOpen)

end Contents

/-- Writes a part out. `around` are the collections that it stands in. The fuel is
the number of collections that are not around it. -/
def Part.write (contents : Array (Option Contents)) : Nat → List NodeId → Part → Writing
  | _, _, .scalar key => return (.scalar key.scalar, false)
  | 0, _, .collection _ => return (.null, true)
  | fuel + 1, around, .collection id => do
    match contents.getD id none, (← get).getD id none with
    | none, _ => return (.null, false)
    | some _, some value => return (value, false)
    | some found, none =>
      if around.contains id then return (.again found.isList, true)
      else
        let (value, isOpen) ← found.write (Part.write contents fuel (id :: around))
        if !isOpen then modify fun written => written.setIfInBounds id (some value)
        return (value, isOpen)

/-- The value of a document. -/
def Document.value (document : Document) : Except Error Value := do
  let (root, contents) ← Object.ofDocument document
  let size := contents.size
  let writing : Writing :=
    match root with
    | .scalar key => return (.scalar key.scalar, false)
    | .collection id =>
      match contents.getD id none with
      | some found => found.write (Part.write contents (size + 1) [])
      | none => return (.null, false)
  return (writing.run (.replicate size none)).1.1

/-- Reads the bytes of a file as YAML; a file without a document is null. -/
def read (data : List UInt8) : Except Error Value := do
  let source ← Source.ofBytes data
  let (tokens, fault) := Token.ofSource source
  match ← Document.ofTokens tokens fault with
  | none => return .null
  | some document => document.value

end ClusterTopology.Yaml
