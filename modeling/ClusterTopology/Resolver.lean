import ClusterTopology.Membership
import ClusterTopology.Metadata
import ClusterTopology.Store

/-!
# Resolving labels

A resolver learns the label of its own node when it starts, and finds the label
of any other node in the live state, then in the recorded placements, and else
gives the names that stand for the unknown. The record is loaded at the first
miss at which that works, and is kept from then on.
-/

namespace ClusterTopology

/-- What is needed to tell where nodes are. -/
structure Resolver where
  localAddress : NodeAddress
  label : Placement
  membership : Option Membership
  store : Option Store
  deriving Repr

/-- The recorded placements, once they have been loaded. -/
abbrev SavedPlacements := Option Placements

namespace Resolver

/-- Who reports the work of a resolver. -/
def logger : String := "TopologyResolver"

/-- Learns where the own node is: the region with a suffix is its datacenter, the
zone its rack. Without them there is no resolver. -/
def start (localAddress : NodeAddress) (client : MetadataClient)
    (membership : Option Membership) (store : Option Store) (suffix : String) :
    Effect Resolver := do
  let region ← client.fetch Metadata.regionUrl
  let zone ← client.fetch Metadata.zoneUrl
  let label : Placement := ⟨region ++ suffix, zone⟩
  Effect.report logger .info
    ("Using region: " ++ label.datacenter ++ ", zone: " ++ label.rack)
  return ⟨localAddress, label, membership, store⟩

/-- What a node publishes; a source that cannot be read tells nothing. -/
def liveState (r : Resolver) (node : NodeAddress) (key : Attribute) :
    Effect (Option String) := do
  match r.membership with
  | none => return none
  | some membership =>
    match ← (membership.get node key).attempt with
    | .ok value => return value
    | .error (.source error) =>
      Effect.report logger .warning
        ("Membership state unavailable for " ++ node.toText ++ ": " ++ error.message)
      return none
    | .error failure => Effect.fail failure

/-- Loads the recorded placements; a store that cannot be read holds none, and
nothing is remembered of that. -/
def loadSaved (store : Store) : Session SavedPlacements Placements := do
  match ← store.load.attempt with
  | .ok placements =>
    Session.remember (some placements)
    Effect.report logger .debug
      ("Cached " ++ toString placements.length ++ " persisted placements")
    return placements
  | .error (.source error) =>
    Effect.report logger .warning ("Persisted topology unavailable: " ++ error.message)
    return []
  | .error failure => Effect.fail failure

/-- The recorded placements. -/
def saved (r : Resolver) : Session SavedPlacements Placements := do
  match ← Session.remembered with
  | some placements => return placements
  | none =>
    match r.store with
    | none => return []
    | some store => loadSaved store

/-- The attribute of another node. -/
def resolve (r : Resolver) (node : NodeAddress) (key : Attribute) :
    Session SavedPlacements String := do
  match ← r.liveState node key with
  | some value => return value
  | none =>
    match Entries.get? (← r.saved) node with
    | some placement => return placement.get key
    | none => return key.unknown

/-- The attribute of a node; the own one is known. -/
def query (r : Resolver) (node : NodeAddress) (key : Attribute) :
    Session SavedPlacements String :=
  if node = r.localAddress then return r.label.get key
  else r.resolve node key

/-- The label of a node. -/
def queryLabel (r : Resolver) (node : NodeAddress) : Session SavedPlacements Placement := do
  let datacenter ← r.query node .datacenter
  let rack ← r.query node .rack
  return ⟨datacenter, rack⟩

end Resolver

end ClusterTopology
