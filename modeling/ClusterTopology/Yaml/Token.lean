import ClusterTopology.Yaml.Cursor
import ClusterTopology.Yaml.Error

/-!
# Tokens of YAML

The pieces that a YAML text consists of. The structure that indentation gives
is made explicit by tokens that open and close blocks.
-/

namespace ClusterTopology.Yaml

/-- A tag as it is written: with a handle that stands for something else, or in
full. -/
structure TagText where
  handle : Option String
  suffix : String
  deriving DecidableEq, Repr

/-- An instruction before a document. -/
inductive Directive where
  | version (major : Nat)
  | tag (handle replacement : String)
  | unknown
  deriving DecidableEq, Repr

/-- A piece of a text. -/
inductive Token where
  | streamEnd
  | directive (d : Directive)
  | documentStart
  | documentEnd
  | blockSequenceStart
  | blockMappingStart
  | blockEnd
  | flowSequenceStart
  | flowSequenceEnd
  | flowMappingStart
  | flowMappingEnd
  | flowEntry
  | blockEntry
  | key
  | value
  | alias (name : String)
  | anchor (name : String)
  | tag (text : TagText)
  | scalar (text : String) (plain : Bool)
  deriving DecidableEq, Repr

/-- What was read and the place after it. -/
abbrev Token.Scan (α : Type) := Except Error (α × Cursor)

end ClusterTopology.Yaml
