import CqlClient.Cell.Reader
import CqlClient.Cluster.View
import CqlClient.Failure.Discovery
import CqlClient.Text.Literal

/-!
The tables in which nodes describe their cluster, and how their rows are read. Answers to queries
may come from anywhere: a query is answered by a state that it may change.
-/

namespace CqlClient

namespace SystemTable

/-- The table that describes the node itself. -/
def localNode : String := "system.local"

/-- The table of all other nodes. -/
def peers : String := "system.peers"

/-- The table of keyspaces. -/
def keyspaces : String := "system.schema_keyspaces"

/-- The table of tables. -/
def tables : String := "system.schema_columnfamilies"

/-- The query for the node itself. -/
def localQuery : String :=
  "SELECT cluster_name, data_center, rack, host_id, partitioner, release_version, " ++
    "schema_version, tokens FROM system.local WHERE key='local'"

/-- The query for all other nodes. -/
def peersQuery : String :=
  "SELECT peer, data_center, rack, host_id, rpc_address, release_version, schema_version, " ++
    "tokens FROM system.peers"

/-- A condition on the name of the keyspace, if there is one. -/
def ofKeyspace : Option String → String
  | some name => " WHERE keyspace_name=" ++ Text.literal name
  | none => ""

/-- The query for all keyspaces, or for the one with a given name. -/
def keyspacesQuery (only : Option String) : String :=
  "SELECT keyspace_name, durable_writes, strategy_class, strategy_options " ++
    "FROM system.schema_keyspaces" ++ ofKeyspace only

/-- The query for all tables, or for those of one keyspace. -/
def tablesQuery (only : Option String) : String :=
  "SELECT keyspace_name, columnfamily_name FROM system.schema_columnfamilies" ++ ofKeyspace only

/-- Rows of a system table. -/
structure Contents where
  table : String
  rows : Rows

/-- The value of a column in a row. -/
def Contents.field {α : Type} (contents : Contents) (row : Row) (reader : CellReader α)
    (column : String) : Except MetadataError α :=
  (contents.rows.get reader row column).mapError fun e =>
    .badRow contents.table (column ++ ": " ++ e.message)

/-- A text that may be missing. -/
def optionalText : CellReader (Option String) := .optional .string

/-- An identifier that may be missing. -/
def optionalUuid : CellReader (Option Uuid) := .optional .uuid

/-- What a node tells about itself. -/
structure LocalNode where
  clusterName : Option String
  partitioner : Partitioner
  peer : Peer

/-- Read the row in which a node describes itself. Its address is the one at which it was asked. -/
def readLocal (contents : Contents) (address : IpAddress) : Except MetadataError LocalNode := do
  match contents.rows.rows with
  | [] => throw .missingLocalRow
  | row :: _ =>
      let className ← contents.field row .string "partitioner"
      match Partitioner.ofClassName? className with
      | none => throw (.unknownPartitioner className)
      | some partitioner =>
          let texts ← contents.field row (.list .string) "tokens"
          let datacenter ← contents.field row optionalText "data_center"
          let rack ← contents.field row optionalText "rack"
          let hostId ← contents.field row optionalUuid "host_id"
          let schemaVersion ← contents.field row optionalUuid "schema_version"
          let releaseVersion ← contents.field row optionalText "release_version"
          let tokens ← (texts.mapM partitioner.parseToken).mapError .badToken
          let clusterName ← contents.field row optionalText "cluster_name"
          let peer : Peer :=
            { address, datacenter, rack, hostId, schemaVersion, releaseVersion, tokens }
          return ⟨clusterName, partitioner, peer⟩

/-- The address at which clients reach a peer. A peer that listens everywhere gives the wildcard,
which is of no use. -/
def clientAddress (peerAddress : IpAddress) (rpcAddress : Option IpAddress) : IpAddress :=
  match rpcAddress with
  | some address => if address.isUnspecified then peerAddress else address
  | none => peerAddress

/-- Read the row of a peer. A peer with bad tokens is skipped. -/
def readPeer (contents : Contents) (partitioner : Partitioner) (row : Row) :
    Except MetadataError (Option Peer) := do
  let peerAddress ← contents.field row .inet "peer"
  let rpcAddress ← contents.field row (.optional .inet) "rpc_address"
  let texts ← contents.field row (.list .string) "tokens"
  match texts.mapM partitioner.parseToken with
  | .error _ => return none
  | .ok tokens =>
      let hostId ← contents.field row optionalUuid "host_id"
      let datacenter ← contents.field row optionalText "data_center"
      let rack ← contents.field row optionalText "rack"
      let schemaVersion ← contents.field row optionalUuid "schema_version"
      let releaseVersion ← contents.field row optionalText "release_version"
      return some {
        address := clientAddress peerAddress rpcAddress
        datacenter, rack, hostId, schemaVersion, releaseVersion, tokens }

/-- Read all peers. -/
def readPeers (contents : Contents) (partitioner : Partitioner) :
    Except MetadataError (List Peer) :=
  (·.filterMap id) <$> contents.rows.rows.mapM (readPeer contents partitioner)

/-- Read the row of a keyspace. If a single keyspace is wanted, others are skipped and a bad
strategy is a failure; otherwise keyspaces with a bad strategy are skipped. -/
def readKeyspace (contents : Contents) (only : Option String) (row : Row) :
    Except MetadataError (Option Keyspace) := do
  let name ← contents.field row .string "keyspace_name"
  if only.any (· ≠ name) then return none
  let durableWrites ← contents.field row (.optional .boolean) "durable_writes"
  let className ← contents.field row .string "strategy_class"
  let options ← contents.field row optionalText "strategy_options"
  match Strategy.ofSchema className (options.getD "\x7b\x7d") with
  | .ok strategy => return some { name, strategy, durableWrites := durableWrites.getD true }
  | .error e => if only.isSome then throw (.badStrategy name e) else return none

/-- Read all keyspaces, without their tables. -/
def readKeyspaces (contents : Contents) (only : Option String) :
    Except MetadataError (List Keyspace) :=
  (·.filterMap id) <$> contents.rows.rows.mapM (readKeyspace contents only)

/-- Read the row of a table: its keyspace and its name. -/
def readTable (contents : Contents) (only : Option String) (row : Row) :
    Except MetadataError (Option (String × String)) := do
  let keyspace ← contents.field row .string "keyspace_name"
  if only.any (· ≠ keyspace) then return none
  return some (keyspace, ← contents.field row .string "columnfamily_name")

/-- Read all tables. -/
def readTables (contents : Contents) (only : Option String) :
    Except MetadataError (List (String × String)) :=
  (·.filterMap id) <$> contents.rows.rows.mapM (readTable contents only)

/-- Put a table into the first keyspace with a given name; a table of an unknown keyspace is
dropped. -/
def placeTable (keyspaces : List Keyspace) (table : String × String) : List Keyspace :=
  match keyspaces with
  | [] => []
  | keyspace :: rest =>
      if keyspace.name = table.1 then keyspace.addTable table.2 :: rest
      else keyspace :: placeTable rest table

/-- Put together what the tables tell. The node that was asked comes first; it is no peer of
itself. -/
def assemble (node : LocalNode) (peers : List Peer) (keyspaces : List Keyspace)
    (tables : List (String × String)) : ClusterMetadata :=
  { clusterName := node.clusterName
    partitioner := node.partitioner
    peers := node.peer :: peers.filter fun peer => peer.address ≠ node.peer.address
    keyspaces := tables.foldl placeTable keyspaces }

variable {σ : Type}

/-- Answers queries on the connection to a node. -/
abbrev Asking (σ : Type) := (contents : String) → StateM σ (Except AttemptError QueryOutcome)

/-- Query a system table. -/
def query (ask : Asking σ) (table contents : String) :
    StateM σ (Except MetadataError Contents) := do
  match ← ask contents with
  | .error e => return .error (.query table e)
  | .ok (.rows rows) => return .ok ⟨table, rows⟩
  | .ok _ => return .error (.badRow table "query did not return rows")

/-- Query a system table and read its rows. -/
def queryAnd {α : Type} (ask : Asking σ) (table contents : String)
    (read : Contents → Except MetadataError α) : StateM σ (Except MetadataError α) := do
  return (← query ask table contents).bind read

/-- What a node tells about itself. -/
def queryLocal (ask : Asking σ) (address : IpAddress) :
    StateM σ (Except MetadataError LocalNode) :=
  queryAnd ask localNode localQuery (readLocal · address)

/-- All other nodes. -/
def queryPeers (ask : Asking σ) (partitioner : Partitioner) :
    StateM σ (Except MetadataError (List Peer)) :=
  queryAnd ask peers peersQuery (readPeers · partitioner)

/-- All keyspaces, or the one with a given name. -/
def queryKeyspaces (ask : Asking σ) (only : Option String) :
    StateM σ (Except MetadataError (List Keyspace)) :=
  queryAnd ask keyspaces (keyspacesQuery only) (readKeyspaces · only)

/-- All tables, or those of one keyspace. -/
def queryTables (ask : Asking σ) (only : Option String) :
    StateM σ (Except MetadataError (List (String × String))) :=
  queryAnd ask tables (tablesQuery only) (readTables · only)

/-- Everything, from the node at an address. The first failure ends it. -/
def queryAll (ask : Asking σ) (address : IpAddress) :
    StateM σ (Except MetadataError ClusterMetadata) := ExceptT.run do
  let node ← ExceptT.mk (queryLocal ask address)
  let peers ← ExceptT.mk (queryPeers ask node.partitioner)
  let keyspaces ← ExceptT.mk (queryKeyspaces ask none)
  let tables ← ExceptT.mk (queryTables ask none)
  return assemble node peers keyspaces tables

end SystemTable

end CqlClient
