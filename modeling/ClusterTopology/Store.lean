import ClusterTopology.Effect
import ClusterTopology.Json.Reader
import ClusterTopology.Placement

/-!
# Stores of placements

The durable record of where nodes were last seen: in memory, in one Redis hash,
in a JSON file, or in several stores of which the first one that knows anything
answers. Entries that cannot be read are skipped with a report; a store that
cannot be read fails with a `SourceError`.
-/

namespace ClusterTopology

/-- A record of placements that can be loaded as a whole. -/
inductive Store where
  | static (placements : Placements)
  | redis (namespaceName : String)
  | file (path : Path)
  | fallback (stores : List Store)
  deriving Repr

namespace Store

/-- Who reports the loading of stores. -/
def logger : String := "StateSources"

/-- The record of an entry, read again if it is a JSON text. -/
def unfoldRecord : Value → Except Failure Value
  | .text s => (Json.read s).mapError .json
  | record => .ok record

/-- The node and the placement that an entry tells. -/
def readEntry (address : String) (record : Value) : Except Failure (NodeAddress × Placement) := do
  let record ← unfoldRecord record
  let placement ← (Placement.ofRecord record).mapError .notRecord
  let node ← (NodeAddress.parse address).mapError .address
  return (node, placement)

/-- The placements that entries tell; of two entries for one node the last one
counts. -/
def placementsOf (entries : List (String × Value)) : Placements :=
  Entries.ofList (entries.filterMap fun entry => (readEntry entry.1 entry.2).toOption)

/-- What is reported about entries that cannot be read. -/
def skipReports (source : String) (entries : List (String × Value)) : List String :=
  entries.filterMap fun entry =>
    match readEntry entry.1 entry.2 with
    | .ok _ => none
    | .error failure =>
      some ("Skipping unreadable placement for " ++ entry.1 ++ " in " ++ source ++ ": " ++
        failure.message)

/-- Whether an entry stops the reading of all entries: its record is nested more
deeply than is followed. -/
def isFatal (entry : String × Value) : Bool :=
  match readEntry entry.1 entry.2 with
  | .error (.json (.tooDeep _)) => true
  | _ => false

/-- The placements that the entries of a source tell, with a report on every
entry that is skipped. -/
def decode (source : String) (entries : List (String × Value)) : Effect Placements := do
  let readable := entries.takeWhile fun entry => !isFatal entry
  (skipReports source readable).forM (Effect.report logger .warning)
  match entries.drop readable.length with
  | [] => return placementsOf entries
  | entry :: _ =>
    let _ ← Effect.ofExcept (readEntry entry.1 entry.2)
    return []

/-- The entries of a hash as texts; a field that is there as text and as bytes is
one entry. -/
def decodeHash (hash : List (Datum × Datum)) : Except Utf8.Error (Entries String String) :=
  hash.foldlM (fun entries (field, value) => do
    let field ← field.decode
    let value ← value.decode
    return Entries.insert entries field value) []

/-- The key of the hash that holds all placements. -/
def peersKey (namespaceName : String) : String :=
  namespaceName ++ ":topology:peers"

/-- The placements in Redis. -/
def loadRedis (namespaceName : String) : Effect Placements := do
  let key := peersKey namespaceName
  Effect.emit (.call (.hashGetAll key))
  let redis ← Effect.ask World.redis
  match redis.failure with
  | some reason => Effect.fail (.source (.recordsInRedis reason))
  | none =>
    let entries ← Effect.lift .undecodable (decodeHash (redis.hash key))
    let placements ← decode key (entries.map fun (field, value) => (field, .text value))
    Effect.report logger .info
      ("Loaded " ++ toString placements.length ++ " persisted placements from Redis")
    return placements

/-- The content of a file of placements. A file that cannot be opened or is no
JSON makes the store unreadable. -/
def readFile (files : Files) (path : Path) : Except Failure Value :=
  match files.read path with
  | .error (.refused cause text) =>
    .error (.source (.recordsInFile path.toText (FileError.refused cause text).message))
  | .error error => .error (.file error)
  | .ok data =>
    match Utf8.decodeLines data with
    | .error error => .error (.undecodable error)
    | .ok text =>
      match Json.read text with
      | .ok value => .ok value
      | .error (.malformed fault place) =>
        .error (.source (.recordsInFile path.toText (Json.Error.malformed fault place).message))
      | .error error => .error (.json error)

/-- The placements in a file. A missing file holds none. -/
def loadFile (path : Path) : Effect Placements := do
  let files ← Effect.ask World.files
  if !(← Effect.lift .file (files.contains path)) then
    Effect.report logger .info ("No persisted topology at " ++ path.toText)
    return []
  else
    match ← Effect.ofExcept (readFile files path) with
    | .map entries =>
      let placements ← decode path.toText (entries.map fun (key, record) => (key.plain, record))
      Effect.report logger .info
        ("Loaded " ++ toString placements.length ++ " persisted placements from " ++ path.toText)
      return placements
    | _ => Effect.fail (.source (.recordsNotMapping path.toText))

/-- The name that a kind of store is reported under. -/
def kindName : Store → String
  | .static _ => "StaticTopologyStore"
  | .redis _ => "RedisTopologyStore"
  | .file _ => "FileTopologyStore"
  | .fallback _ => "FallbackTopologyStore"

mutual

/-- The store once it holds a placement of a node, if any part of it is held in
memory; the first such part takes it. -/
def put (node : NodeAddress) (placement : Placement) : Store → Option Store
  | .static placements => some (.static (Entries.insert placements node placement))
  | .redis _ => none
  | .file _ => none
  | .fallback stores => (putFirst node placement stores).map Store.fallback

/-- The stores once the first of them that can hold a placement does. -/
def putFirst (node : NodeAddress) (placement : Placement) : List Store → Option (List Store)
  | [] => none
  | store :: rest =>
    match put node placement store with
    | some changed => some (changed :: rest)
    | none => (putFirst node placement rest).map (store :: ·)

end

mutual

/-- The placements of a store. -/
def load : Store → Effect Placements
  | .static placements => return placements
  | .redis namespaceName => loadRedis namespaceName
  | .file path => loadFile path
  | .fallback stores => loadFirst stores none false

/-- The placements of the first store that has any. `lastError` is the fault of
the last store that could not be read, and `loadedAny` tells whether one could;
only if none could the last fault counts. -/
def loadFirst (stores : List Store) (lastError : Option SourceError) (loadedAny : Bool) :
    Effect Placements :=
  match stores with
  | [] =>
    match lastError, loadedAny with
    | some error, false => Effect.fail (.source error)
    | _, _ => return []
  | store :: rest => do
    match ← (load store).attempt with
    | .ok [] => loadFirst rest lastError true
    | .ok placements => return placements
    | .error (.source error) =>
      Effect.report logger .warning (store.kindName ++ " unavailable: " ++ error.message)
      loadFirst rest (some error) loadedAny
    | .error failure => Effect.fail failure

end

end Store

end ClusterTopology
