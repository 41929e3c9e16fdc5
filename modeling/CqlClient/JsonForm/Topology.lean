import CqlClient.JsonForm.Failure
import CqlClient.Retry.Policy
import CqlClient.Routing.Policy

/-!
JSON forms of what is known about a cluster, and of policies.
-/

namespace CqlClient

namespace IpAddress

/-- Addresses in their order. -/
def listToJson (addresses : List IpAddress) : Json := .ofList toJson addresses

end IpAddress

namespace Peer

/-- The JSON form of a record. -/
def toJson (peer : Peer) : Json :=
  .object [
    ("ip", peer.address.toJson), ("dc", .ofOption .ofText peer.datacenter),
    ("rack", .ofOption .ofText peer.rack), ("host_id", .ofOption Uuid.toJson peer.hostId),
    ("schema_version", .ofOption Uuid.toJson peer.schemaVersion),
    ("release_version", .ofOption .ofText peer.releaseVersion),
    ("tokens", .ofList (fun token => .ofText token.text) peer.tokens), ("up", peer.isUp)]

/-- A record by its fields. Its tokens may be bad. -/
def ofJson (json : Json) : Decoded (Except TokenTextError Peer) := do
  let text (name : String) : Decoded (Option String) := (json.get name).toOption Json.toText
  let partitioner ← Partitioner.ofJson (json.get "p")
  let tokens ← (json.get "tokens").toListOrNone Json.toText
  let peer : Peer := {
    address := ← IpAddress.ofJson (json.get "ip")
    datacenter := ← text "dc"
    rack := ← text "rack"
    hostId := ← (json.get "host_id").toOption Uuid.ofJson
    schemaVersion := ← (json.get "schema_version").toOption Uuid.ofJson
    releaseVersion := ← text "release_version"
    isUp := ← (json.get "up").toDefault true Json.toBool }
  return (tokens.mapM partitioner.parseToken).map fun tokens => { peer with tokens }

end Peer

/-- The JSON form of a keyspace. -/
def Keyspace.toJson (keyspace : Keyspace) : Json :=
  .object [
    ("name", .ofText keyspace.name), ("strategy", keyspace.strategy.toJson),
    ("durable", keyspace.durableWrites), ("tables", .ofList .ofText keyspace.tables)]

namespace Snapshot

/-- Names sorted. -/
def sortNames (names : List String) : List String :=
  names.mergeSort fun a b => !decide (b < a)

/-- The racks of the peers of a datacenter. -/
def rackNames (s : Snapshot) (datacenter : String) : List String :=
  sortNames ((s.peers.values.filter fun peer => peer.datacenter = some datacenter).map
    Peer.rackName).eraseDups

/-- The JSON form of a datacenter. -/
def datacenterToJson (s : Snapshot) (datacenter : String) : Json :=
  .object [
    ("dc", .ofText datacenter),
    ("endpoints", IpAddress.listToJson (s.datacenterEndpoints datacenter)),
    ("rack_count", .ofNat (s.rackCount datacenter)),
    ("racks", .ofList (fun rack => .array [
        .ofText rack, IpAddress.listToJson (s.rackEndpoints datacenter rack)])
      (s.rackNames datacenter))]

/-- The JSON form of the ring. -/
def ringToJson (s : Snapshot) (token : Token → Json) : Json :=
  .ofList (fun entry => .array [token entry.1, entry.2.toJson]) s.ring.entries

/-- The JSON form of a view of the cluster. -/
def toJson (s : Snapshot) : Json :=
  .object [
    ("cluster_name", .ofOption .ofText s.clusterName), ("partitioner", s.partitioner.name),
    ("peer_count", .ofNat s.peers.size),
    ("peers", .ofList Peer.toJson (s.peers.values.mergeSort fun a b =>
      a.address.le b.address)),
    ("datacenters", .ofList s.datacenterToJson (sortNames s.datacenters.keys)),
    ("ring", s.ringToJson fun token => .ofText token.text),
    ("keyspaces", .ofList Keyspace.toJson (s.keyspaces.values.mergeSort fun a b =>
      !decide (b.name < a.name)))]

end Snapshot

/-- A routing policy by its form; new rotations begin where the seed says. -/
def RoutingPolicy.ofJson (seed : Nat) : Json → Decoded RoutingPolicy
  | .object members => do
      let json := Json.object members
      match ← (json.get "kind").toStr with
      | "round_robin" =>
          let endpoints ← (json.get "endpoints").toListOrNone IpAddress.ofJson
          return .rotating (.ofEndpoints endpoints seed)
      | "dc_aware" => return .preferring (← (json.get "local").toText) seed
      | "token_aware" => .tokenAware <$> ofJson seed ((Json.object members).get "child")
      | _ => throw "routing policy expected"
  | _ => throw "routing policy expected"
termination_by json => json
decreasing_by exact Json.sizeOf_get_lt members "child"

/-- A level by its name. -/
def LogLevel.ofName? : String → Option LogLevel
  | "trace" => some .trace
  | "debug" => some .debug
  | "info" => some .info
  | "warn" => some .warn
  | "error" => some .error
  | _ => none

/-- A retry policy by its form. -/
def RetryPolicy.ofJson : Json → Decoded RetryPolicy
  | .object members => do
      let json := Json.object members
      match ← (json.get "kind").toStr with
      | "never" => return .never
      | "error_code" => return .errorCodeAware
      | "max" =>
          let inner ← ofJson ((Json.object members).get "inner")
          return .maxRetries inner (← (json.get "max").toDefault defaultLimit Json.toNat)
      | "default" => return .standard
      | "logging" =>
          let inner ← ofJson ((Json.object members).get "inner")
          let level ← (json.get "level").toDefault "info" Json.toStr
          return .logging inner ((LogLevel.ofName? level.toLower).getD .info)
      | _ => throw "retry policy expected"
  | _ => throw "retry policy expected"
termination_by json => json
decreasing_by all_goals exact Json.sizeOf_get_lt members "inner"

end CqlClient
