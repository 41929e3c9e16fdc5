import CqlClient.Cell.Writer
import CqlClient.Message.Response
import CqlClient.Network
import CqlClient.Placement.Strategy

/-!
Scripted nodes, with which a client can be rehearsed: what their system tables hold, and rules for
answers other than the usual ones. Nodes are numbered; node `n` has the address `127.0.0.n`.
-/

namespace CqlClient.Rehearsal

/-- The address of a node. -/
def addressOf (node : Nat) : IpAddress := .ofOctets 127 0 0 (UInt8.ofNat node)

/-- A node as the system tables describe it. What is missing is a null cell. -/
structure NodeRow where
  node : Nat
  clusterName : Option String
  datacenter : Option String
  rack : Option String
  hostId : Option Uuid
  partitioner : Option String
  releaseVersion : Option String
  schemaVersion : Option Uuid
  tokens : Option (List String)
  peer : Option IpAddress
  rpcAddress : Option IpAddress

/-- A keyspace as the system tables describe it. -/
structure KeyspaceRow where
  name : Option String
  durableWrites : Option Bool
  className : Option String
  options : Option String

/-- What the system tables hold. -/
structure Tables where
  nodes : List NodeRow := []
  keyspaces : List KeyspaceRow := []
  /-- Keyspace and name of each table. -/
  tables : List (Option String × Option String) := []

namespace Tables

/-- The cell of a text. -/
def textCell (text : Option String) : Option Bytes := text.map Bytes.ofString

/-- The cell of an identifier. -/
def uuidCell (id : Option Uuid) : Option Bytes := id.map (·.octets.val)

/-- The cell of a set of texts. -/
def setCell (texts : Option (List String)) : Option Bytes := texts.map CellWriter.strings

/-- Rows of a system table. -/
def rows (table : String) (columns : List (String × ColumnType)) (rows : List Row) :
    QueryOutcome :=
  .rows (.ofTable "system" table columns rows)

/-- The row of a node in its own table, if it has one. -/
def localRows (t : Tables) (node : Nat) : QueryOutcome :=
  let found := t.nodes.filter (·.node = node)
  rows "local"
    [("cluster_name", .text), ("data_center", .text), ("rack", .text), ("host_id", .uuid),
      ("partitioner", .text), ("release_version", .text), ("schema_version", .uuid),
      ("tokens", .set .text)]
    ((found.take 1).map fun row => [
      textCell row.clusterName, textCell row.datacenter, textCell row.rack, uuidCell row.hostId,
      textCell row.partitioner, textCell row.releaseVersion, uuidCell row.schemaVersion,
      setCell row.tokens])

/-- The rows of all other nodes. -/
def peerRows (t : Tables) (node : Nat) : QueryOutcome :=
  rows "peers"
    [("peer", .inet), ("data_center", .text), ("rack", .text), ("host_id", .uuid),
      ("rpc_address", .inet), ("release_version", .text), ("schema_version", .uuid),
      ("tokens", .set .text)]
    ((t.nodes.filter (·.node ≠ node)).map fun row => [
      row.peer.map IpAddress.toBytes, textCell row.datacenter, textCell row.rack,
      uuidCell row.hostId, row.rpcAddress.map IpAddress.toBytes, textCell row.releaseVersion,
      uuidCell row.schemaVersion, setCell row.tokens])

/-- The rows of all keyspaces. -/
def keyspaceRows (t : Tables) : QueryOutcome :=
  rows "schema_keyspaces"
    [("keyspace_name", .text), ("durable_writes", .boolean), ("strategy_class", .text),
      ("strategy_options", .text)]
    (t.keyspaces.map fun row => [
      textCell row.name, row.durableWrites.map fun durable => [if durable then 1 else 0],
      textCell row.className, textCell row.options])

/-- The rows of all tables. -/
def tableRows (t : Tables) : QueryOutcome :=
  rows "schema_columnfamilies" [("keyspace_name", .text), ("columnfamily_name", .text)]
    (t.tables.map fun table => [textCell table.1, textCell table.2])

/-- Whether a text holds another one. -/
def holds (text part : String) : Bool := 1 < (text.splitOn part).length

/-- A text without quotes at its ends. -/
def unquoted (text : String) : String :=
  let isQuote (c : Char) : Bool := c = '"'
  String.ofList (((text.toList.dropWhile isQuote).reverse.dropWhile isQuote).reverse)

/-- The usual outcome of a query. -/
def outcome (t : Tables) (node : Nat) (contents : String) : QueryOutcome :=
  if holds contents "FROM system.local" then t.localRows node
  else if holds contents "FROM system.peers" then t.peerRows node
  else if holds contents "FROM system.schema_keyspaces" then t.keyspaceRows
  else if holds contents "FROM system.schema_columnfamilies" then t.tableRows
  else if contents.startsWith "USE " then
    .setKeyspace (unquoted (contents.drop 4).toString)
  else .void

/-- The usual answer to a request. -/
def answer (t : Tables) (node : Nat) : Request → Response
  | .options => .supported (Assoc.ofList [
      ("CQL_VERSION", ["3.1.1"]), ("COMPRESSION", ["snappy", "lz4"])])
  | .startup _ | .register _ => .ready
  | .query contents _ => .result (t.outcome node contents)
  | .prepare contents => .result (.prepared (Bytes.ofString ("P:" ++ contents)) {} {})
  | .execute _ _ => .result .void
  | .authResponse _ => .authSuccess none

end Tables

/-- What a node does about a request. -/
inductive ScriptedReply
  /-- Answer, after some other frames. -/
  | answer (response : Response) (noise : List Bytes) (traceId : Option Uuid) (compress : Bool)
  /-- Send a frame as it is, on the stream of the request. -/
  | raw (frame : Bytes)
  | silence
  | hangUp

/-- A rule for requests of a kind. -/
structure Rule where
  kind : RequestOpcode
  node : Option Nat := none
  /-- The whole text of the request. -/
  text : Option String := none
  /-- A part of the text. -/
  part : Option String := none
  /-- Hits that are passed over at first. -/
  skip : Nat := 0
  /-- Hits that are answered then; no limit if missing. -/
  times : Option Nat := none
  reply : ScriptedReply
  /-- Hits so far. -/
  hits : Nat := 0

/-- What rules call the text of a request. -/
def textOf : Request → String
  | .query contents _ => contents
  | .prepare contents => contents
  | .execute id _ => Bytes.toHex id
  | .authResponse token => Bytes.toHex (token.getD [])
  | _ => ""

namespace Rule

/-- Whether a rule is about a request. -/
def isFor (rule : Rule) (node : Nat) (request : Request) : Bool :=
  rule.kind = request.opcode && rule.node.all (· = node) &&
    rule.text.all (· = textOf request) && rule.part.all (Tables.holds (textOf request))

/-- Whether a rule answers its next hit. -/
def isActive (rule : Rule) : Bool :=
  decide (rule.skip ≤ rule.hits) && rule.times.all fun times => rule.hits < rule.skip + times

/-- What the first active rule for a request says, if there is one. Every rule up to it that is for
the request counts a hit. -/
def choose (node : Nat) (request : Request) : List Rule → Option ScriptedReply × List Rule
  | [] => (none, [])
  | rule :: rest =>
      if rule.isFor node request then
        let next := { rule with hits := rule.hits + 1 }
        if rule.isActive then (some rule.reply, next :: rest)
        else
          let (reply, rest) := choose node request rest
          (reply, next :: rest)
      else
        let (reply, rest) := choose node request rest
        (reply, rule :: rest)

end Rule

end CqlClient.Rehearsal
