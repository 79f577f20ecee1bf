import ClusterTopology.Address.Ip
import ClusterTopology.Number.Literal

/-!
# Addresses of nodes

A node is known by a host and a port. `NodeAddress.parse` reads the four shapes
`[host]`, `[host]:port`, `host:port` and a bare host, and brings IP addresses
into their canonical spelling, so that equal ones name one node. Printing puts
brackets around a host that holds a colon.
-/

namespace ClusterTopology

/-- The address that a member of the cluster is known by. -/
structure NodeAddress where
  host : String
  port : Int := 7000
  deriving DecidableEq, Repr

/-- Why a text is no address. -/
inductive AddressError where
  | empty
  | invalid (text : String)
  | badPort (error : Number.LiteralError)
  deriving DecidableEq, Repr

/-- The text that reports a refused address. -/
def AddressError.message : AddressError → String
  | .empty => "Empty node address"
  | .invalid text => "Invalid node address: " ++ text
  | .badPort error => error.message

namespace NodeAddress

/-- The port of an address that names none. -/
def defaultPort : Int := 7000

/-- A host in canonical spelling: IP addresses are normalised, names are kept. -/
def canonicalHost (host : List Char) : List Char :=
  match IpAddress.ofChars? host with
  | some ip => ip.toChars
  | none => host

/-- The host and the text of the port, if there is one. -/
def splitPort? (cs : List Char) : Option (List Char × Option (List Char)) :=
  match cs with
  | '[' :: inner =>
    match IpAddress.splitFirst? ']' inner with
    | some (host, []) => some (host, none)
    | some (host, ':' :: port) => some (host, some port)
    | _ => none
  | _ =>
    if cs.count ':' = 1 then
      (IpAddress.splitFirst? ':' cs).map fun (host, port) => (host, some port)
    else some (cs, none)

/-- The port that a text names; without one it is the default port. -/
def readPort : Option (List Char) → Except AddressError Int
  | none => .ok defaultPort
  | some digits => (Number.read digits).mapError .badPort

/-- Reads a trimmed text as an address. -/
def parseTrimmed (cs : List Char) : Except AddressError NodeAddress :=
  if cs.isEmpty then .error .empty
  else
    match splitPort? cs with
    | none => .error (.invalid (String.ofList cs))
    | some (host, digits) =>
      match readPort digits with
      | .error error => .error error
      | .ok port =>
        let host := canonicalHost host
        if host.isEmpty then .error (.invalid (String.ofList cs))
        else .ok ⟨String.ofList host, port⟩

/-- Reads a text as an address; blanks around it do not count. -/
def parse (s : String) : Except AddressError NodeAddress :=
  parseTrimmed (Text.trim s.toList)

/-- The text of an address. -/
def toText (a : NodeAddress) : String :=
  if a.host.toList.contains ':' then "[" ++ a.host ++ "]:" ++ toString a.port
  else a.host ++ ":" ++ toString a.port

/-- Whether the port of an address has few enough digits to be written. -/
def isWritable (a : NodeAddress) : Bool :=
  (Number.decimalDigits a.port.natAbs).length ≤ Number.maxDigits

/-- Addresses in order: by the code points of the host, then by port. -/
def before (a b : NodeAddress) : Bool :=
  a.host < b.host || (a.host = b.host && a.port ≤ b.port)

/-- Addresses in increasing order. -/
def sort (addresses : List NodeAddress) : List NodeAddress :=
  addresses.mergeSort before

end NodeAddress

end ClusterTopology
