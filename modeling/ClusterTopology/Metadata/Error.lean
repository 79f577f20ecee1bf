import ClusterTopology.Json.Error

/-!
# Faults of metadata

Why a metadata document cannot be had, or does not have the shape that is
expected of it.
-/

namespace ClusterTopology

/-- A part of the endpoints document that may be a JSON text of its own. -/
inductive DocumentPart where
  | document
  | clouds
  | cloud (name : String)
  | locations (name : String)
  deriving DecidableEq, Repr

/-- How a part is named inside a message. -/
def DocumentPart.describe : DocumentPart → String
  | .document => "endpoint metadata"
  | .clouds => "cloudEndpoint"
  | .cloud name => "cloud " ++ name
  | .locations name => name ++ " locations"

/-- What is wrong with metadata. -/
inductive MetadataError where
  | unreachable (url reason : String)
  | status (url : String) (code : Int)
  | notUtf8 (url : String)
  | notJson (part : DocumentPart) (fault : Json.Fault) (place : Json.Position)
  | wrongShape (part : DocumentPart)
  | noClouds
  deriving DecidableEq, Repr

/-- The text that reports a fault of metadata. -/
def MetadataError.message : MetadataError → String
  | .unreachable url reason => "Unable to reach metadata endpoint " ++ url ++ ": " ++ reason
  | .status url code =>
    "Unable to execute the metadata call to " ++ url ++ " (HTTP " ++ toString code ++
      "). Not an Azure node?"
  | .notUtf8 url => "Metadata response from " ++ url ++ " is not valid UTF-8"
  | .notJson part fault place =>
    "Invalid JSON in " ++ part.describe ++ ": " ++ (Json.Error.malformed fault place).message
  | .wrongShape .document => "Endpoint metadata is not a JSON object"
  | .wrongShape .clouds => "cloudEndpoint is not a JSON object"
  | .wrongShape (.cloud name) => "Details for cloud " ++ name ++ " are not a JSON object"
  | .wrongShape (.locations name) => "Locations for cloud " ++ name ++ " are not a list"
  | .noClouds => "Endpoint metadata has no cloudEndpoint"

end ClusterTopology
