import ClusterTopology.Value

/-!
# Entries listed as pairs

A mapping may also be given as a list of pairs, each a key with its value. A pair
is a list of two items, a text of two characters, or a mapping with two keys. What
is no list of pairs is refused at the first item that is none.
-/

namespace ClusterTopology

/-- Why something is no list of pairs. -/
inductive ListingError where
  | notList (kind : String)
  /-- An item that has no parts. -/
  | notPair (index : Nat)
  | wrongLength (index length : Nat)
  /-- A key that has parts. -/
  | badKey (kind : String)
  deriving DecidableEq, Repr

namespace ListingError

/-- The text that reports what is no list of pairs. -/
def message : ListingError → String
  | .notList kind => "'" ++ kind ++ "' object is not iterable"
  | .notPair index =>
    "cannot convert dictionary update sequence element #" ++ toString index ++ " to a sequence"
  | .wrongLength index length =>
    "dictionary update sequence element #" ++ toString index ++ " has length " ++
      toString length ++ "; 2 is required"
  | .badKey kind => "unhashable type: '" ++ kind ++ "'"

/-- Whether the length of an item is at fault, as against its kind. -/
def isBadValue : ListingError → Bool
  | .wrongLength _ _ => true
  | _ => false

end ListingError

namespace Listing

/-- The parts of a value that has parts. -/
def parts? : Value → Option (List Value)
  | .list items => some items
  | .text s => some (s.toList.map fun c => .text (String.singleton c))
  | .map entries => some (entries.map fun entry => .scalar entry.1)
  | _ => none

/-- The entry that an item tells. -/
def entry (index : Nat) (item : Value) : Except ListingError (Scalar × Value) :=
  match parts? item with
  | none => .error (.notPair index)
  | some [.scalar key, value] => .ok (key, value)
  | some [key, _] => .error (.badKey key.kindName)
  | some parts => .error (.wrongLength index parts.length)

/-- The entries that a value tells: those of a mapping, or those of a list of
pairs. -/
def entries : Value → Except ListingError (Entries Scalar Value)
  | .map entries => .ok entries
  | value =>
    match parts? value with
    | none => .error (.notList value.kindName)
    | some items => (items.zipIdx.mapM fun (item, index) => entry index item).map Entries.ofList

end Listing

end ClusterTopology
