import ClusterTopology.Text.Blank

/-!
# Paths

A path as the names that lead to a file. `Path.parse` drops empty names and
the name `.`, and keeps `..`; `Path.toText` is the spelling that messages show.
-/

namespace ClusterTopology

/-- The slashes that a path starts with, and the names that follow. -/
structure Path where
  root : String
  names : List String
  deriving DecidableEq, Repr

namespace Path

/-- The root of a path: exactly two slashes are kept, any other number of them
is one. -/
def rootOf (cs : List Char) : String :=
  match cs.takeWhile (· = '/') with
  | [] => ""
  | ['/', '/'] => "//"
  | _ => "/"

/-- Reads a text as a path. -/
def parse (s : String) : Path where
  root := rootOf s.toList
  names := ((Text.splitAt '/' s.toList).map String.ofList).filter fun name =>
    name ≠ "" && name ≠ "."

/-- The text of a path; the path without names and root is a dot. -/
def toText (p : Path) : String :=
  if p.root = "" && p.names.isEmpty then "." else p.root ++ "/".intercalate p.names

/-- The path without its last name. -/
def parent (p : Path) : Path :=
  { p with names := p.names.dropLast }

/-- The last name, which may be missing. -/
def name (p : Path) : String :=
  p.names.getLast?.getD ""

/-- The end of a name from its last dot on, unless the dot leads or ends it. -/
def suffixOf (name : List Char) : List Char :=
  let after := name.reverse.takeWhile (· ≠ '.')
  if after.isEmpty || name.length ≤ after.length + 1 then []
  else '.' :: after.reverse

/-- The end of the last name from its last dot on. -/
def suffix (p : Path) : String :=
  String.ofList (suffixOf p.name.toList)

/-- Whether a character cannot stand in a path. -/
def hasNull (p : Path) : Bool :=
  p.toText.toList.contains '\x00'

/-- One step towards the path without `..`: a name is dropped with the `..`
that follows it. -/
def collapseStep (isRooted : Bool) (kept : List String) (name : String) : List String :=
  if name = ".." then
    match kept with
    | [] => if isRooted then [] else [name]
    | last :: rest => if last = ".." then name :: last :: rest else rest
  else name :: kept

/-- The path in which every `..` that follows a name is carried out on paper. -/
def collapsed (p : Path) : Path :=
  { p with names := (p.names.foldl (collapseStep (p.root ≠ "")) []).reverse }

end Path

end ClusterTopology
