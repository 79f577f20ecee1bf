import ClusterTopology.Locations
import ClusterTopology.Metadata
import ClusterTopology.Number.Decimal

/-!
# Checking names

Whether names of datacenters and racks fit the cloud. A datacenter must begin
with the name of a known location; while no location is known it must look like
the name of a region. A rack is an availability zone, or empty. The check is
advisory, so a document that cannot be had only means that no location is known.
-/

namespace ClusterTopology.NameCheck

open Number

/-- A small letter of ASCII. -/
def isSmallLetter (c : Char) : Bool :=
  'a' ≤ c && c ≤ 'z'

/-- Whether a name looks like that of a region: small letters, then at most one
digit. -/
def looksLikeRegion (cs : List Char) : Bool :=
  match cs.dropWhile isSmallLetter with
  | [] => !cs.isEmpty
  | [c] => isDigit c && 1 < cs.length
  | _ => false

/-- Whether a name fits a datacenter. -/
def isDatacenter (locations : Locations) (name : String) : Bool :=
  if locations.isEmpty then looksLikeRegion name.toList
  else locations.any fun location => location.toList.isPrefixOf name.toList

/-- Whether a name fits a rack. -/
def isRack (name : String) : Bool :=
  match name.toList with
  | [] => true
  | [c] => isDigit c
  | _ => false

/-- What is said about a name that does not fit a datacenter. -/
def datacenterComplaint (locations : Locations) (name : String) : String :=
  "Datacenter " ++ Text.quoted name ++
    if locations.isEmpty then " does not look like a region name"
    else " does not start with any known location"

/-- What is said about a name that does not fit a rack. -/
def rackComplaint (name : String) : String :=
  "Rack " ++ Text.quoted name ++ " is not an availability zone"

/-- Everything there is to say about names, datacenters first. -/
def complaints (locations : Locations) (datacenters racks : List String) : List String :=
  (datacenters.filter fun name => !isDatacenter locations name).map
      (datacenterComplaint locations) ++
    (racks.filter fun name => !isRack name).map rackComplaint

/-- Who reports the checks. -/
def logger : String := "TopologyValidator"

/-- Reports every name that does not fit, and tells whether all names fit. -/
def check (locations : Locations) (datacenters racks : List String) : Effect Bool := do
  (complaints locations datacenters racks).forM (Effect.report logger .warning)
  return datacenters.all (isDatacenter locations) && racks.all isRack

/-- The locations known to a document, or none if it cannot be had or read. -/
def fetchLocations (client : MetadataClient) (url : String) : Effect Locations := do
  let fetched ← (client.fetch url).attempt
  match fetched.bind Locations.parse with
  | .error failure =>
    Effect.report logger .warning
      ("Cloud locations unavailable, checking names by pattern only: " ++ failure.message)
    return []
  | .ok locations =>
    Effect.report logger .debug
      ("Discovered " ++ toString locations.length ++ " cloud locations")
    return locations

/-- Checks names against the locations that a document lists now. -/
def validate (client : MetadataClient) (url : String) (datacenters racks : List String) :
    Effect Bool := do
  check (← fetchLocations client url) datacenters racks

end ClusterTopology.NameCheck
