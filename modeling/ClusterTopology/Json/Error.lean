import ClusterTopology.Number.Literal

/-!
# Faults of JSON texts

Where a text stops being JSON, and what was expected there. A place is counted
in characters; lines end at line feeds.
-/

namespace ClusterTopology.Json

/-- What is wrong at a place of a text. -/
inductive Fault where
  | expectingValue
  | expectingName
  | expectingColon
  | expectingComma
  | extraData
  | unterminatedString
  | controlCharacter
  | unknownEscape
  | badCodePoint
  | byteOrderMark
  deriving DecidableEq, Repr

/-- The words for a fault. -/
def Fault.describe : Fault → String
  | .expectingValue => "Expecting value"
  | .expectingName => "Expecting property name enclosed in double quotes"
  | .expectingColon => "Expecting ':' delimiter"
  | .expectingComma => "Expecting ',' delimiter"
  | .extraData => "Extra data"
  | .unterminatedString => "Unterminated string starting at"
  | .controlCharacter => "Invalid control character at"
  | .unknownEscape => "Invalid \\escape"
  | .badCodePoint => "Invalid \\uXXXX escape"
  | .byteOrderMark => "Unexpected UTF-8 BOM (decode using utf-8-sig)"

/-- A place in a text. -/
structure Position where
  line : Nat
  column : Nat
  offset : Nat
  deriving DecidableEq, Repr

/-- The place reached after reading a part of a text. -/
def Position.after (done : List Char) : Position where
  line := done.count '\n' + 1
  column := (done.reverse.takeWhile (· ≠ '\n')).length + 1
  offset := done.length

/-- Why a text is not read. -/
inductive Error where
  /-- The text is not JSON from a place on. -/
  | malformed (fault : Fault) (place : Position)
  /-- An integer has more digits than are accepted. -/
  | longInteger (digits : Nat)
  /-- Lists and mappings stand within each other more deeply than is followed. -/
  | tooDeep (isList : Bool)
  deriving DecidableEq, Repr

/-- The text that reports an error. -/
def Error.message : Error → String
  | .malformed fault place =>
    fault.describe ++ ": line " ++ toString place.line ++ " column " ++ toString place.column ++
      " (char " ++ toString place.offset ++ ")"
  | .longInteger digits => (Number.LiteralError.tooLong digits).message
  | .tooDeep isList =>
    "maximum recursion depth exceeded while decoding a JSON " ++
      (if isList then "array" else "object") ++ " from a unicode string"

end ClusterTopology.Json
