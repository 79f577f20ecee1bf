import ClusterTopology.Effect
import ClusterTopology.Placement

/-!
# Membership

The live state that nodes publish about themselves, held in memory or in Redis,
where each node has a hash of its own with one field per attribute.
-/

namespace ClusterTopology

/-- What nodes publish, by node and attribute. A value may be there and tell
nothing. -/
abbrev NodeStates := Entries NodeAddress (Entries Attribute (Option String))

/-- A source of live state. -/
inductive Membership where
  | static (states : NodeStates)
  | redis (namespaceName : String)
  deriving Repr

namespace Membership

/-- The namespace of Redis keys that nobody configured. -/
def defaultNamespace : String := "racksentry"

/-- The key of the hash that a node publishes. -/
def stateKey (namespaceName : String) (node : NodeAddress) : String :=
  namespaceName ++ ":gossip:" ++ node.toText

/-- What the states in memory say about a node. -/
def stateIn (states : NodeStates) (node : NodeAddress) (key : Attribute) : Option String :=
  ((Entries.get? states node).bind fun published => Entries.get? published key).join

/-- What a node publishes in Redis. The hash of a node whose address cannot be written
is not asked for. -/
def readRedis (namespaceName : String) (node : NodeAddress) (key : Attribute) :
    Effect (Option String) :=
  if node.isWritable then do
    let hash := stateKey namespaceName node
    Effect.emit (.call (.hashGet hash key.name))
    let redis ← Effect.ask World.redis
    match redis.failure with
    | some reason => Effect.fail (.source (.membership node reason))
    | none =>
      match Entries.get? (redis.hash hash) (.text key.name) with
      | none => return none
      | some value => return some (← Effect.lift .undecodable value.decode)
  else Effect.fail .unwritable

/-- What a node publishes under an attribute, if anything. -/
def get (membership : Membership) (node : NodeAddress) (key : Attribute) :
    Effect (Option String) :=
  match membership with
  | .static states => return stateIn states node key
  | .redis namespaceName => readRedis namespaceName node key

/-- The source once a node has published a value, if it is held in memory. -/
def set (membership : Membership) (node : NodeAddress) (key : Attribute)
    (value : Option String) : Membership :=
  match membership with
  | .static states =>
    let published := (Entries.get? states node).getD []
    .static (Entries.insert states node (Entries.insert published key value))
  | .redis namespaceName => .redis namespaceName

/-- The name that a kind of source is reported under. -/
def kindName : Membership → String
  | .static _ => "StaticMembershipState"
  | .redis _ => "RedisMembershipState"

end Membership

end ClusterTopology
