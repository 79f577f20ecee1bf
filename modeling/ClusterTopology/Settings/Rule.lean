import ClusterTopology.Value

/-!
# Rules for values

What a setting may ask of its value: to be of some kind, to hold a text that is
not empty, to lie in a range, to be one of a few names. A rule that speaks about
another kind of value than it is given is kept; so a range says nothing about a
text, and it is the kind rule that refuses the text.
-/

namespace ClusterTopology.Settings

open Number

/-- The kinds of values that a rule can ask for. -/
inductive Kind where
  | text
  | null
  | integer
  | number
  | boolean
  deriving DecidableEq, Repr

/-- The name of a kind inside a message. -/
def Kind.name : Kind → String
  | .text => "string"
  | .null => "null"
  | .integer => "integer"
  | .number => "number"
  | .boolean => "boolean"

/-- Whether a value is of a kind. A number that is integral is an integer however
it is written, and a truth value is no number. -/
def Kind.holds : Kind → Value → Bool
  | .text, .text _ => true
  | .null, .null => true
  | .integer, .int _ => true
  | .integer, .float x => x.isIntegral
  | .number, .int _ => true
  | .number, .float _ => true
  | .boolean, .bool _ => true
  | _, _ => false

/-- How a value compares with an integer, if it is a number that does. -/
def compareWith (bound : Int) : Value → Option Ordering
  | .int n => some (compare n bound)
  | .float x => x.compareInt bound
  | _ => none

/-- One thing that is asked of a value. -/
inductive Rule where
  | kinds (allowed : List Kind)
  | nonEmpty
  | above (bound : Int)
  | atLeast (bound : Int)
  | atMost (bound : Int)
  | oneOf (names : List String)
  deriving DecidableEq, Repr

namespace Rule

/-- Whether a value keeps a rule. -/
def holds (rule : Rule) (value : Value) : Bool :=
  match rule with
  | .kinds allowed => allowed.any fun kind => kind.holds value
  | .nonEmpty =>
    match value with
    | .text s => s ≠ ""
    | _ => true
  | .above bound =>
    match compareWith bound value with
    | some .lt => false
    | some .eq => false
    | _ => true
  | .atLeast bound => compareWith bound value ≠ some .lt
  | .atMost bound => compareWith bound value ≠ some .gt
  | .oneOf names =>
    match value with
    | .text s => names.contains s
    | _ => false

/-- Names between single quotes, with commas between them. -/
def quotedList (names : List String) : String :=
  ", ".intercalate (names.map fun name => "'" ++ name ++ "'")

/-- What is said about a value that breaks a rule. -/
def complaint (rule : Rule) (value : Value) : String :=
  value.shown ++
    match rule with
    | .kinds allowed => " is not of type " ++ quotedList (allowed.map Kind.name)
    | .nonEmpty => " should be non-empty"
    | .above bound => " is less than or equal to the minimum of " ++ toString bound
    | .atLeast bound => " is less than the minimum of " ++ toString bound
    | .atMost bound => " is greater than the maximum of " ++ toString bound
    | .oneOf names => " is not one of [" ++ quotedList names ++ "]"

end Rule

end ClusterTopology.Settings
