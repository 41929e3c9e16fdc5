import CqlClient.JsonForm.Topology
import CqlClient.Rehearsal.Run

/-!
JSON forms of rehearsals: descriptions of scripted nodes, of a client's configuration and of steps,
and what each step left behind.
-/

namespace CqlClient.Rehearsal

/-- A member of an object that may be missing, which is not the same as null. -/
def member {α : Type} (json : Json) (name : String) (missing : α) (decode : Json → Decoded α) :
    Decoded α :=
  match json with
  | .object members =>
      match members.find? fun entry => entry.1 = name with
      | some entry => decode entry.2
      | none => return missing
  | _ => return missing

/-- A cell of a system table: null, or a value; it has a value of its own if it is missing. -/
def cell {α : Type} (json : Json) (name : String) (missing : Option α)
    (decode : Json → Decoded α) : Decoded (Option α) :=
  member json name missing (Json.toOption decode)

/-- Class name of the usual partitioner. -/
def usualPartitioner : String := "org.apache.cassandra.dht.Murmur3Partitioner"

namespace NodeRow

/-- A row by its columns. -/
def ofJson (json : Json) : Decoded NodeRow := do
  let node ← (json.get "n").toNat
  return {
    node
    clusterName := ← cell json "cluster_name" (some "Test Cluster") Json.toText
    datacenter := ← cell json "dc" none Json.toText
    rack := ← cell json "rack" none Json.toText
    hostId := ← cell json "host_id" (some (Uuid.ofNat node)) Uuid.ofJson
    partitioner := ← cell json "partitioner" (some usualPartitioner) Json.toText
    releaseVersion := ← cell json "release" (some "2.0.9") Json.toText
    schemaVersion := ← cell json "schema" (some (Uuid.ofNat 0xabcd)) Uuid.ofJson
    tokens := ← cell json "tokens" (some []) (Json.toList Json.toText)
    peer := ← cell json "peer" (some (addressOf node)) IpAddress.ofJson
    rpcAddress := ← cell json "rpc" (some (addressOf node)) IpAddress.ofJson }

end NodeRow

/-- A row of the table of keyspaces by its columns. -/
def KeyspaceRow.ofJson (json : Json) : Decoded KeyspaceRow := do
  return {
    name := ← cell json "name" none Json.toText
    durableWrites := ← cell json "durable" (some true) Json.toBool
    className := ← cell json "class" none Json.toText
    options := ← cell json "options" none Json.toText }

/-- Keyspace and name of a table, which may be null. -/
def tableOfJson (json : Json) : Decoded (Option String × Option String) := do
  match ← json.toList (Json.toOption Json.toText) with
  | [keyspace, table] => return (keyspace, table)
  | _ => throw "table expected"

/-- A reply by its form. -/
def ScriptedReply.ofJson (json : Json) : Decoded ScriptedReply := do
  match ← (json.get "kind").toStr with
  | "RAW" => .raw <$> Bytes.ofJson (json.get "frame")
  | "SILENCE" => return .silence
  | "CLOSE" => return .hangUp
  | _ =>
      return .answer (← Response.ofJson json)
        (← (json.get "noise").toListOrNone Bytes.ofJson)
        (← (json.get "trace_id").toOption Uuid.ofJson) (← (json.get "compress").toFlag)

/-- Kinds of requests by their names. -/
def requestKinds : List (String × RequestOpcode) :=
  [("STARTUP", .startup), ("OPTIONS", .options), ("QUERY", .query), ("PREPARE", .prepare),
    ("EXECUTE", .execute), ("REGISTER", .register), ("AUTH_RESPONSE", .authResponse),
    ("CREDENTIALS", .credentials), ("BATCH", .batch)]

/-- A rule by its form. -/
def Rule.ofJson (json : Json) : Decoded Rule := do
  let some kind := requestKinds.lookup (← (json.get "on").toStr) | throw "request kind expected"
  return {
    kind
    node := ← (json.get "node").toOption Json.toNat
    text := ← (json.get "text").toOption Json.toText
    part := ← (json.get "contains").toOption Json.toText
    skip := ← (json.get "skip").toDefault 0 Json.toNat
    times := ← (json.get "times").toOption Json.toNat
    reply := ← ScriptedReply.ofJson (json.get "reply") }

namespace Stage

/-- The network of a description that says nothing of one: there is none, as on the machine on which
the recorded rehearsals took place. -/
def usualNetwork : String := "down"

/-- Scripted nodes by their description. They can be reached if the network is "up". -/
def ofJson (json : Json) : Decoded Stage := do
  let listens (node : Json) : Decoded (Option Nat) := do
    if ← (node.get "listening").toDefault true Json.toBool then some <$> (node.get "n").toNat
    else return none
  return {
    hasRoute := decide ((← (json.get "network").toDefault usualNetwork Json.toStr) = "up")
    tables := {
      nodes := ← (json.get "nodes").toListOrNone NodeRow.ofJson
      keyspaces := ← (json.get "keyspaces").toListOrNone KeyspaceRow.ofJson
      tables := ← (json.get "tables").toListOrNone tableOfJson }
    listening := (← (json.get "nodes").toListOrNone listens).filterMap id
    rules := ← (json.get "rules").toListOrNone Rule.ofJson }

end Stage

/-- A token of an authenticator, or why there is none. -/
def tokenOfJson (json : Json) : Decoded (Except String (Option Bytes)) := do
  if json.has "err" then return .error (← (json.get "err").toText)
  else return .ok (← json.toOption Bytes.ofJson)

/-- An authenticator by what it says. -/
def authenticatorOfJson (json : Json) : Decoded Authenticator := do
  if json.has "username" || json.has "password" then
    return .plainText (← (json.get "username").toText) (← (json.get "password").toText)
  let initial ← tokenOfJson (json.get "initial")
  let answers ← (json.get "answers").toListOrNone tokenOfJson
  let refusal ← (json.get "success_err").toOption Json.toText
  let refusesName ← (json.get "echo_name").toFlag
  return {
    start := fun announced =>
      if refusesName then .error ("no authenticator for " ++ announced) else initial
    answer := fun _ challenges =>
      (answers[challenges.length - 1]?).getD (.ok (challenges.getLast?.getD none))
    finish := fun _ _ token =>
      match refusal with
      | some reason => .error (reason ++ ": " ++ (token.map Bytes.toHex).getD "null")
      | none => .ok () }

/-- A number of milliseconds, with a default. -/
def millisecondsOfJson (json : Json) (missing : Nat) : Decoded Duration := do
  return .ofMilliseconds (← json.toDefault missing Json.toNat)

/-- How connections are opened. -/
def connectionConfigOfJson (json : Json) : Decoded ConnectionConfig := do
  let compression ← (json.get "compression").toOption fun name => do
    match Compression.ofName? (← name.toStr) with
    | some algorithm => return algorithm
    | none => throw "compression expected"
  return {
    connectTimeout := ← millisecondsOfJson (json.get "connect_timeout_ms") 3000
    compression
    noDelay := ← (json.get "nodelay").toDefault true Json.toBool
    keepAlive := ← (json.get "keepalive_s").toOption fun s => do
      return .ofSeconds (← s.toNat)
    authenticator := ← (json.get "auth").toOption authenticatorOfJson
    cqlVersion := ← (json.get "cql_version").toDefault Request.defaultCqlVersion Json.toText }

/-- A configuration; rotations begin where the counter says. -/
def configOfJson (counter : Nat) (json : Json) : Decoded ClusterConfig := do
  let connection ← connectionConfigOfJson json
  let eventType (name : Json) : Decoded EventType := do
    match EventType.ofName? (← name.toStr) with
    | some kind => return kind
    | none => throw "event type expected"
  let usual : ClusterConfig := { seeds := [], routing := .roundRobin counter }
  return {
    seeds := ← (json.get "seeds").toListOrNone fun n => return addressOf (← n.toNat)
    connection
    requestDeadline := ← millisecondsOfJson (json.get "deadline_ms") 5000
    sweepInterval := ← millisecondsOfJson (json.get "sweep_ms") 5000
    routing := ← (json.get "policy").toDefault usual.routing (RoutingPolicy.ofJson counter)
    retry := ← (json.get "retry").toDefault usual.retry RetryPolicy.ofJson
    eventTypes := ← (json.get "events").toDefault usual.eventTypes (Json.toList eventType) }

/-- A rehearsal by its description. -/
def Progress.ofJson (json : Json) : Decoded Progress := do
  let counter ← (json.get "counter").toDefault 0 Json.toNat
  let config ← configOfJson counter (json.get "config")
  let listeners ← ((json.get "config").get "listeners").toDefault [some ""]
    (Json.toList fun name => some <$> name.toText)
  return .ofStage config (fun _ => counter) listeners (← Stage.ofJson json)

/-- An execution by its form. -/
def Execute.ofJson (json : Json) : Decoded Execute := do
  let source ←
    if json.has "prepared" then Source.prepared <$> (json.get "prepared").toText
    else Source.query <$> (json.get "query").toText
  let values ←
    if json.has "values" then some <$> QueryParameters.valuesOfJson (json.get "values")
    else pure none
  let candidates ← (json.get "candidates").toOption
    (Json.toList fun n => return addressOf (← n.toNat))
  let policy ← (json.get "retry").toOption RetryPolicy.ofJson
  return {
    session := ← (json.get "session").toText
    source, values
    consistency := ← (json.get "consistency").toOption Consistency.ofJson
    serialConsistency := ← member json "serial" none fun level =>
      some <$> level.toOption SerialConsistency.ofJson
    pageSize := ← member json "page_size" none fun size => some <$> size.toOption Json.toInt32
    keyspace := ← (json.get "ks").toOption Json.toText
    routingKey := ← (json.get "key").toOption Bytes.ofJson
    isBlocking := ← (json.get "blocking").toFlag
    candidates := candidates.map fun endpoints => (endpoints, policy) }

/-- A step by its form. -/
def Step.ofJson (json : Json) : Decoded Step := do
  let text (name : String) : Decoded String := (json.get name).toText
  let node : Decoded Nat := (json.get "n").toNat
  match ← (json.get "do").toStr with
  | "connect" => return .connect
  | "status" => return .status
  | "topology" => return .topology
  | "plan" =>
      return .plan {
        keyspace := ← (json.get "ks").toOption Json.toText
        routingKey := ← (json.get "key").toOption Bytes.ofJson }
  | "event" => .report <$> Event.ofJson json
  | "push_raw" => .push <$> Bytes.ofJson (json.get "frame")
  | "stop" => .stop <$> node
  | "start" => .start <$> node
  | "set_row" => .setRow <$> NodeRow.ofJson (json.get "row")
  | "remove_row" => .removeRow <$> node
  | "set_schema" =>
      return .setSchema (← (json.get "keyspaces").toOption (Json.toList KeyspaceRow.ofJson))
        (← (json.get "tables").toOption (Json.toList tableOfJson))
  | "rule" => .addRule <$> Rule.ofJson (json.get "rule")
  | "clear_rules" => return .clearRules
  | "add_listener" => .addListener <$> (json.get "name").toOption Json.toText
  | "session" =>
      return .openSession (← text "session") (← (json.get "keyspace").toOption Json.toText)
  | "prepare" =>
      return .prepare (← text "session") (← text "query") (← text "as")
        (← (json.get "blocking").toFlag)
  | "execute" => .execute <$> Execute.ofJson json
  | "flood" => return .flood (← text "session") (← text "query") (← (json.get "count").toNat)
  | _ => throw "step expected"

/-- The JSON form of the result of an execution. -/
def resultToJson (result : QueryResult) : Json :=
  .object (result.outcome.fields ++ [
    ("coordinator", result.coordinator.toJson),
    ("tracing_id", .ofOption Uuid.toJson result.traceId), ("void", result.isVoid),
    ("use", .ofOption .ofText result.keyspace?),
    ("first_row", .ofOption (.ofList (.ofOption Bytes.toJson)) result.firstRow?),
    ("created", result.isSchemaChange .created),
    ("row_count", .ofOption (fun data => .ofNat data.rows.length) result.rows?)])

/-- The JSON form of an outcome. -/
def Outcome.toJson : Outcome → Json
  | .done => .null
  | .status clusterName control isAvailable pending =>
      .object [
        ("cluster_name", .ofOption .ofText clusterName),
        ("control", .ofOption IpAddress.toJson control), ("available", isAvailable),
        ("pending", .ofNat pending)]
  | .notDiscovered e => e.toJson
  | .topology snapshot => snapshot.toJson
  | .plan candidates => IpAddress.listToJson candidates
  | .reported isSent => .object [("sent", isSent)]
  | .session keyspace => .object [("keyspace", .ofOption .ofText keyspace)]
  | .badKeyspaceName e => e.toJson
  | .prepared statement =>
      .object [
        ("id", statement.id.toJson), ("statement", .ofText statement.contents),
        ("keyspace", .ofOption .ofText statement.keyspace),
        ("metadata", statement.bindMarkers.toJson)]
  | .result data => resultToJson data
  | .fault reason => .failure "panic" reason.message
  | .failed e => e.toJson
  | .tally counts => .object (counts.entries.map fun entry => (entry.1, .ofNat entry.2))
  | .notConnected => .object [("error", "NotConnected")]
  | .noSession => .object [("error", "NoSession")]
  | .noPrepared => .object [("error", "NoPrepared")]
  | .unfinished => .object [("error", "Unfinished")]

/-- Sort each run of consecutive items that belong together. -/
def sortRuns {α : Type} (group : α → Option String) (key : α → String) (items : List α) :
    List α :=
  let runs := items.splitBy fun a b => (group a).isSome && group a = group b
  runs.flatMap fun run => run.mergeSort fun a b => !decide (key b < key a)

/-- A line for a call of a listener: the verb on which it may be sorted, and the text. -/
def callLine (call : ListenerCall) : Option String × String :=
  let s := call.announcement.snapshot
  let mark (isKnown : Bool) : String := if isKnown then " [known]" else " [unknown]"
  let node (verb : String) (address : IpAddress) : String :=
    let state := match s.peer? address with
      | some peer => if peer.isUp then "up" else "down"
      | none => "unknown"
    verb ++ " " ++ address.text ++ " [" ++ state ++ "]"
  let verb : SchemaChange → String
    | .created => "create"
    | .updated => "update"
    | .dropped => "drop"
    | .invalid => "ignore"
  let (group, line) := match call.announcement.notice with
    | .joined address => (none, node "join" address)
    | .left address => (some "leave", node "leave" address)
    | .moved address => (none, node "move" address)
    | .wentUp address => (none, node "up" address)
    | .wentDown address => (some "down", node "down" address)
    | .keyspaceChanged change keyspace =>
        (none, verb change ++ " keyspace " ++ keyspace ++ mark (s.keyspace? keyspace).isSome)
    | .tableChanged change keyspace table =>
        let tables := ((s.keyspace? keyspace).map Keyspace.tables).getD []
        (none, verb change ++ " table " ++ keyspace ++ "." ++ table ++
          mark (tables.contains table))
  (group, if call.listener.isEmpty then line else call.listener ++ ": " ++ line)

/-- The JSON form of the calls of listeners. Nodes that go at once are told in no fixed order. -/
def callsToJson (calls : List ListenerCall) : Json :=
  .ofList (fun line : Option String × String => .string line.2)
    (sortRuns Prod.fst Prod.snd (calls.map callLine))

/-- The JSON form of a request that a node received. -/
def LogEntry.toJson (entry : LogEntry) : Json :=
  let flags : List (String × Json) :=
    if entry.flags = 0 then [] else [("flags", .ofNat entry.flags.toNat)]
  .object ([("conn", .ofNat entry.connection)] ++ flags ++ entry.request.fields)

/-- The JSON forms of a record, equal ones in a row once with their number. -/
def entriesToJson (entries : List LogEntry) : Json :=
  let isPrepare (entry : LogEntry) : Option String :=
    if entry.request.opcode = .prepare then some "PREPARE" else none
  let sorted := sortRuns isPrepare (fun entry => entry.toJson.text) entries
  let runs := sorted.splitBy fun a b => a.toJson.text = b.toJson.text
  .array (runs.filterMap fun run => do
    let first ← run.head?
    match first.toJson with
    | .object members =>
        let times : List (String × Json) :=
          if run.length = 1 then [] else [("times", .ofNat run.length)]
        return .object (members ++ times)
    | json => return json)

/-- The JSON form of a record, by nodes. -/
def logToJson (log : List LogEntry) : Json :=
  .object ((log.map LogEntry.node).eraseDups.map fun node =>
    (toString node, entriesToJson (log.filter fun entry => entry.node = node)))

/-- The JSON form of what a step left behind. -/
def Scene.toJson (scene : Progress.Scene) : Json :=
  .object [
    ("out", scene.outcome.toJson), ("calls", callsToJson scene.calls),
    ("log", logToJson scene.log)]

/-- Rehearse what a description says. -/
def rehearse (json : Json) : Decoded Json := do
  let beginning ← Progress.ofJson json
  let steps ← (json.get "steps").toListOrNone Step.ofJson
  return .ofList Scene.toJson ((Progress.playAll steps).run beginning).1

end CqlClient.Rehearsal
