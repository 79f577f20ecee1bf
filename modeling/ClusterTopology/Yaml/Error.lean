import ClusterTopology.Number.Literal
import ClusterTopology.Text.Utf8
import ClusterTopology.Value

/-!
# Faults of YAML texts

A file may fail to be text, a text may fail to be YAML, or it may be YAML with a
scalar whose content does not fit its type. All but the second kind of fault tell
what is wrong.
-/

namespace ClusterTopology.Yaml

/-- A scalar that does not have a value of its type. -/
inductive ValueFault where
  | integer (error : Number.LiteralError)
  | float (text : String)
  | year (year : Nat)
  | month
  | day
  | hour
  | minute
  | second
  | offset (seconds : Int)
  | codePoint
  deriving DecidableEq, Repr

/-- The text that reports a scalar without a value. -/
def ValueFault.message : ValueFault → String
  | .integer e => e.message
  | .float s => "could not convert string to float: " ++ Text.quoted s
  | .year n => "year " ++ toString n ++ " is out of range"
  | .month => "month must be in 1..12"
  | .day => "day is out of range for month"
  | .hour => "hour must be in 0..23"
  | .minute => "minute must be in 0..59"
  | .second => "second must be in 0..59"
  | .offset span =>
    "offset must be a timedelta strictly between -timedelta(hours=24) and " ++
      "timedelta(hours=24), not " ++ Scalar.shownSpan span ++ "."
  | .codePoint => "chr() arg not in range(0x110000)"

/-- Why a text is not read. -/
inductive Error where
  | malformed
  | value (fault : ValueFault)
  /-- A text that is said to be a truth value but is none of the words for one. -/
  | notTruth (word : String)
  /-- A text that is said to be a number but has no digits to look at. -/
  | emptyNumber
  /-- A number in base sixty with so many parts that their weights are no numbers. -/
  | hugeWeight
  /-- A text that is said to be a time but does not look like one. -/
  | notTime
  /-- A mapping that is said to be a time. -/
  | mappingAsTime
  /-- Nodes within nodes, more deeply than is followed. -/
  | tooDeep
  /-- Bytes that are no text, at the place from which the rest was read. -/
  | undecodable (error : Utf8.Error)
  deriving DecidableEq, Repr

/-- The text that reports an error. -/
def Error.message : Error → String
  | .malformed => "malformed document"
  | .value fault => fault.message
  | .notTruth word => Text.quoted word
  | .emptyNumber => "string index out of range"
  | .hugeWeight => "int too large to convert to float"
  | .notTime => "'NoneType' object has no attribute 'groupdict'"
  | .mappingAsTime => "expected string or bytes-like object, got 'list'"
  | .tooDeep => "maximum recursion depth exceeded"
  | .undecodable error => error.message

/-- Whether an error is a value that does not fit, as against a text that cannot
be followed. -/
def Error.isBadValue : Error → Bool
  | .value _ => true
  | .undecodable _ => true
  | _ => false

end ClusterTopology.Yaml
