import ClusterTopology.NameCheck
import ClusterTopology.Resolver
import ClusterTopology.Settings.Error
import ClusterTopology.Settings

/-!
# Snitches

A snitch is a resolver with all that it needs, put together from settings: a
client for metadata, and Redis and a file as sources. The client is closed when
the snitch is, and also when the snitch does not come about.
-/

namespace ClusterTopology

/-- A resolver with its client; a client that was given from outside is not closed
with the snitch. -/
structure Snitch where
  client : MetadataClient
  ownsClient : Bool
  resolver : Resolver
  deriving Repr

namespace Snitch

/-- The value of an entry of a configuration, or another value if the entry is not
there. -/
def entry (config : List (Scalar × Value)) (setting : Setting) (otherwise : Value) : Value :=
  (Entries.get? config setting.key).getD otherwise

/-- Connects to Redis and tells whether it answers. That the connection is made and
tested without any other failure than one of the Redis library is assumed. -/
def connect (config : List (Scalar × Value)) : Effect Bool := do
  Effect.emit (.call (.connect
    (entry config .redisHost (.text "localhost"))
    (entry config .redisPort (.int 6379))
    (entry config .redisPassword .null)
    (entry config .redisDatabase (.int 0))))
  Effect.emit (.call .ping)
  let redis ← Effect.ask World.redis
  match redis.pingFailure with
  | some reason =>
    Effect.report Store.logger .error ("Failed to connect to Redis: " ++ reason)
    return false
  | none =>
    Effect.report Store.logger .info "Connected to Redis"
    return true

/-- The resolver of a node with given settings. -/
def startResolver (settings : Settings) (client : MetadataClient)
    (membership : Option Membership) (store : Option Store) : Effect Resolver := do
  let address := (settings.text? .broadcastAddress).getD ""
  let localAddress ← Effect.lift .address (NodeAddress.parse address)
  Resolver.start localAddress client membership store ((settings.text? .suffix).getD "")

/-- The client that settings ask for. -/
def clientOf (settings : Settings) : MetadataClient :=
  ⟨settings.get .metadataTimeout (.float Setting.fiveSeconds)⟩

/-- Ends the connections of a client that is the snitch's own. -/
def release (ownsClient : Bool) : Effect Unit :=
  if ownsClient then MetadataClient.close else pure ()

/-- Starts a snitch with given sources and, if it is not to make one, a client. -/
def start (settings : Settings) (client : Option MetadataClient)
    (membership : Option Membership) (store : Option Store) : Effect Snitch := do
  let ownsClient := client.isNone
  let client := client.getD (clientOf settings)
  match ← (startResolver settings client membership store).attempt with
  | .ok resolver => return ⟨client, ownsClient, resolver⟩
  | .error failure =>
    release ownsClient
    Effect.fail failure

/-- Whether settings ask for Redis. -/
def wantsRedis (settings : Settings) : Bool :=
  (settings.get .redisEnabled (.bool true)).isPresent

/-- The stores that settings ask for, given whether Redis answers. -/
def storesOf (settings : Settings) (connected : Bool) : List Store :=
  let namespaceName := (settings.text? .redisNamespace).getD Membership.defaultNamespace
  let redis := if connected then [Store.redis namespaceName] else []
  let file :=
    match settings.text? .topologyFile with
    | none => []
    | some "" => []
    | some path => [Store.file (Path.parse path)]
  redis ++ file

/-- Starts the snitch that settings ask for. -/
def ofSettings (settings : Settings) : Effect Snitch := do
  let connected ← if wantsRedis settings then connect settings.entries else pure false
  let namespaceName := (settings.text? .redisNamespace).getD Membership.defaultNamespace
  let membership := if connected then some (Membership.redis namespaceName) else none
  let stores := storesOf settings connected
  let store := if stores.isEmpty then none else some (Store.fallback stores)
  start settings none membership store

/-- Checks names against the locations that are known now. -/
def validate (snitch : Snitch) (datacenters racks : List String) : Effect Bool :=
  NameCheck.validate snitch.client Metadata.endpointsUrl datacenters racks

/-- Ends the connections of the snitch's own client. -/
def close (snitch : Snitch) : Effect Unit :=
  release snitch.ownsClient

end Snitch

end ClusterTopology
