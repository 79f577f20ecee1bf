import ClusterTopology.Value
import ClusterTopology.Yaml.Tag

/-!
# Writing YAML

The text of a mapping of scalars, one entry per line. A text is written plain if
it is made of harmless characters and would be read as a text, and else between
single quotes.
-/

namespace ClusterTopology.Yaml

/-- A character that means nothing to YAML wherever it stands inside a word. -/
def isHarmless (c : Char) : Bool :=
  c.isAlphanum || "_./:-".toList.contains c

/-- Whether a text can be written plain. -/
def isPlain (s : String) : Bool :=
  Tag.ofPlain s = .text && s.toList.all isHarmless &&
    (s.toList.head?.any Char.isAlphanum) && s.toList.getLast? ≠ some ':'

/-- A text between single quotes, where a quote is written twice. -/
def singleQuoted (s : String) : String :=
  "'" ++ String.ofList (s.toList.flatMap fun c => if c = '\'' then [c, c] else [c]) ++ "'"

/-- A scalar of an entry. -/
def writtenScalar : Scalar → String
  | .null => "null"
  | .bool b => if b then "true" else "false"
  | .int n => toString n
  | .float x => x.toText
  | .text s => if isPlain s then s else singleQuoted s
  | s => singleQuoted s.shown

/-- A mapping of scalars, in the order of the entries. -/
def writeScalars (entries : List (Scalar × Scalar)) : String :=
  String.join (entries.map fun (key, value) =>
    writtenScalar key ++ ": " ++ writtenScalar value ++ "\n")

end ClusterTopology.Yaml
