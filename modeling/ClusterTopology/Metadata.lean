import ClusterTopology.Effect
import ClusterTopology.Settings.Setting

/-!
# Metadata documents

The documents that a cloud publishes for its machines, and the client that
fetches them: one request per document, whose body is UTF-8 text.
-/

namespace ClusterTopology

namespace Metadata

/-- The address of a field of the machine's own description. -/
def instanceUrl (field : String) : String :=
  "http://169.254.169.254/metadata/instance/compute/" ++ field ++
    "?api-version=2018-04-02&format=text"

/-- Where the region of the machine is told. -/
def regionUrl : String := instanceUrl "location"

/-- Where the availability zone of the machine is told. -/
def zoneUrl : String := instanceUrl "zone"

/-- Where the locations of all clouds are listed. -/
def endpointsUrl : String :=
  "https://management.azure.com/metadata/endpoints?api-version=2018-07-01"

end Metadata

/-- A client for metadata documents, which waits for a reply for some seconds. -/
structure MetadataClient where
  timeout : Value
  deriving Repr

namespace MetadataClient

/-- The client that nobody configured. -/
def default : MetadataClient := ⟨.float Setting.fiveSeconds⟩

/-- The text of a reply to a request. -/
def textOf (url : String) : Reply → Except Failure String
  | .unreachable reason => .error (.metadata (.unreachable url reason))
  | .failing error => .error (.foreign error)
  | .answer status body =>
    if status ≠ 200 then .error (.metadata (.status url status))
    else
      match Utf8.decode body with
      | .ok text => .ok text
      | .error _ => .error (.metadata (.notUtf8 url))

/-- Fetches a document. -/
def fetch (client : MetadataClient) (url : String) : Effect String := do
  Effect.report "MetadataClient" .debug ("Querying metadata endpoint " ++ url)
  Effect.emit (.call (.get url client.timeout))
  let reply ← Effect.ask fun w => w.http url
  Effect.ofExcept (textOf url reply)

/-- Ends the connections of a client. -/
def close : Effect Unit :=
  Effect.emit (.call .close)

end MetadataClient

end ClusterTopology
