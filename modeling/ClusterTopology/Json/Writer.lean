import ClusterTopology.Value

/-!
# Writing JSON

The text of a value with one entry or item per line, each level two spaces
further in. Only ASCII is written; other characters are written by their code
units.
-/

namespace ClusterTopology.Json

/-- A code unit of sixteen bits by its number. -/
def unitEscape (n : Nat) : List Char :=
  '\\' :: 'u' :: Text.hexPadded 4 n

/-- A character as it stands in a string. -/
def writtenChar (c : Char) : List Char :=
  let n := c.toNat
  if c = '"' || c = '\\' then ['\\', c]
  else if c = '\n' then ['\\', 'n']
  else if c = '\r' then ['\\', 'r']
  else if c = '\t' then ['\\', 't']
  else if c = '\x08' then ['\\', 'b']
  else if c = '\x0c' then ['\\', 'f']
  else if 0x20 ≤ n && n < 0x7f then [c]
  else if n < 0x10000 then unitEscape n
  else unitEscape (0xd800 + (n - 0x10000) / 0x400) ++ unitEscape (0xdc00 + (n - 0x10000) % 0x400)

/-- A string between quotes. -/
def writtenText (s : String) : String :=
  "\"" ++ String.ofList (s.toList.flatMap writtenChar) ++ "\""

/-- A number of double precision; those that are not finite have names. -/
def writtenFloat : Number.Binary64 → String
  | .nan => "NaN"
  | .infinite negative => if negative then "-Infinity" else "Infinity"
  | x => x.toText

/-- A scalar; what JSON has no form for is written as the text of its message
form. -/
def writtenScalar : Scalar → String
  | .null => "null"
  | .bool b => if b then "true" else "false"
  | .int n => toString n
  | .float x => writtenFloat x
  | .text s => writtenText s
  | s => writtenText s.shown

/-- The name of an entry. -/
def writtenKey : Scalar → String
  | .text s => writtenText s
  | s => writtenText (writtenScalar s)

/-- The start of a line that is so many levels in. -/
def indentation (level : Nat) : String :=
  String.ofList ('\n' :: List.replicate (2 * level) ' ')

mutual

/-- A value that stands so many levels in. -/
def written (level : Nat) : Value → String
  | .scalar s => writtenScalar s
  | .list [] => "[]"
  | .list items => "[" ++ writtenItems (level + 1) items ++ indentation level ++ "]"
  | .map [] => "\x7b\x7d"
  | .map entries => "\x7b" ++ writtenEntries (level + 1) entries ++ indentation level ++ "\x7d"
  | .set members => writtenText (Value.set members).shown
  | .pair key value => writtenText (Value.pair key value).shown
  | .again isList => writtenText (Value.again isList).shown

/-- The items of a list, each on a line of its own. -/
def writtenItems (level : Nat) : List Value → String
  | [] => ""
  | [item] => indentation level ++ written level item
  | item :: rest => indentation level ++ written level item ++ "," ++ writtenItems level rest

/-- The entries of a mapping, each on a line of its own. -/
def writtenEntries (level : Nat) : List (Scalar × Value) → String
  | [] => ""
  | [(key, value)] => indentation level ++ writtenKey key ++ ": " ++ written level value
  | (key, value) :: rest =>
    indentation level ++ writtenKey key ++ ": " ++ written level value ++ "," ++
      writtenEntries level rest

end

/-- The text of a value. -/
def write (value : Value) : String :=
  written 0 value

end ClusterTopology.Json
