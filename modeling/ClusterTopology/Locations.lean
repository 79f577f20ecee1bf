import ClusterTopology.Failure
import ClusterTopology.Json.Reader

/-!
# Locations

The names of all places where a cloud has machines, read from the endpoints
document. The document maps `cloudEndpoint` to the clouds by name, each with a
list of `locations`; every one of these parts may also be a JSON text of its
own. Either all locations are found or the document is refused.
-/

namespace ClusterTopology

/-- The names of places, each once, in the order in which they were found. -/
abbrev Locations := List String

namespace Locations

/-- A part of the document, read again if it is a JSON text. -/
def unfold (part : DocumentPart) : Value → Except Failure Value
  | .text s =>
    match Json.read s with
    | .ok value => .ok value
    | .error (.malformed fault place) => .error (.metadata (.notJson part fault place))
    | .error error => .error (.json error)
  | value => .ok value

/-- The entries of a part that has to be a mapping. -/
def entriesOf (part : DocumentPart) (value : Value) :
    Except Failure (List (Scalar × Value)) := do
  match ← unfold part value with
  | .map entries => .ok entries
  | _ => .error (.metadata (.wrongShape part))

/-- The items of a part that has to be a list. -/
def itemsOf (part : DocumentPart) (value : Value) : Except Failure (List Value) := do
  match ← unfold part value with
  | .list items => .ok items
  | _ => .error (.metadata (.wrongShape part))

/-- The locations of one cloud; a cloud that lists none has none. -/
def ofCloud (name : String) (details : Value) : Except Failure (List String) := do
  let entries ← entriesOf (.cloud name) details
  let items ← itemsOf (.locations name) ((Value.field? entries "locations").getD (.list []))
  return items.map Value.plain

/-- The locations of clouds, one cloud after the other. -/
def ofClouds : List (Scalar × Value) → Except Failure (List String)
  | [] => .ok []
  | (name, details) :: rest => do
    let first ← ofCloud name.plain details
    let others ← ofClouds rest
    return first ++ others

/-- The value that holds the clouds. -/
def cloudsOf (entries : List (Scalar × Value)) : Except Failure Value :=
  match Value.field? entries "cloudEndpoint" with
  | some clouds => .ok clouds
  | none => .error (.metadata .noClouds)

/-- The locations that an endpoints document lists. -/
def parse (document : String) : Except Failure Locations := do
  let entries ← entriesOf .document (.text document)
  let clouds ← entriesOf .clouds (← cloudsOf entries)
  return (← ofClouds clouds).eraseDups

end Locations

end ClusterTopology
