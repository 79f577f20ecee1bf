import ClusterTopology.Address

/-!
# Faults of state sources

Why membership state or recorded placements cannot be read. These are the
faults that a resolver lives with.
-/

namespace ClusterTopology

/-- A source that cannot be read. -/
inductive SourceError where
  | membership (node : NodeAddress) (reason : String)
  | recordsInRedis (reason : String)
  | recordsInFile (path reason : String)
  | recordsNotMapping (path : String)
  deriving DecidableEq, Repr

/-- The text that reports an unreadable source. -/
def SourceError.message : SourceError → String
  | .membership node reason =>
    "Unable to read membership state for " ++ node.toText ++ ": " ++ reason
  | .recordsInRedis reason => "Unable to load persisted topology from Redis: " ++ reason
  | .recordsInFile path reason =>
    "Unable to load persisted topology from " ++ path ++ ": " ++ reason
  | .recordsNotMapping path => "Persisted topology in " ++ path ++ " must be a JSON object"

end ClusterTopology
