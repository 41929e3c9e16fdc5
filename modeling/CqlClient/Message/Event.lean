import CqlClient.Message.EventType

namespace CqlClient

/-- How the members of the cluster changed. -/
inductive TopologyChange
  | newNode
  | removedNode
  | movedNode
  deriving DecidableEq, Repr

/-- How the status of a node changed. -/
inductive StatusChange
  | up
  | down
  deriving DecidableEq, Repr

/-- How an object of the schema changed. -/
inductive SchemaChange
  | created
  | updated
  | dropped
  | invalid
  deriving DecidableEq, Repr

namespace TopologyChange

/-- Name on the wire. -/
def name : TopologyChange → String
  | .newNode => "NEW_NODE"
  | .removedNode => "REMOVED_NODE"
  | .movedNode => "MOVED_NODE"

/-- The change with a given name. -/
def ofName? : String → Option TopologyChange
  | "NEW_NODE" => some .newNode
  | "REMOVED_NODE" => some .removedNode
  | "MOVED_NODE" => some .movedNode
  | _ => none

end TopologyChange

namespace StatusChange

/-- Name on the wire. -/
def name : StatusChange → String
  | .up => "UP"
  | .down => "DOWN"

/-- The change with a given name. -/
def ofName? : String → Option StatusChange
  | "UP" => some .up
  | "DOWN" => some .down
  | _ => none

end StatusChange

namespace SchemaChange

/-- Name on the wire. -/
def name : SchemaChange → String
  | .created => "CREATED"
  | .updated => "UPDATED"
  | .dropped => "DROPPED"
  | .invalid => "INVALID"

/-- The change with a given name; any other name is the invalid change. -/
def ofName : String → SchemaChange
  | "CREATED" => .created
  | "UPDATED" => .updated
  | "DROPPED" => .dropped
  | _ => .invalid

end SchemaChange

/-- A change that a node reports: of the members, of their status, or of the schema. Without a
table a schema change concerns the keyspace itself. -/
inductive Event
  | topology (change : TopologyChange) (node : Endpoint)
  | status (change : StatusChange) (node : Endpoint)
  | schema (change : SchemaChange) (keyspace : String) (table : Option String)
  deriving DecidableEq

namespace Event

/-- Kind of the event. -/
def eventType : Event → EventType
  | .topology .. => .topologyChange
  | .status .. => .statusChange
  | .schema .. => .schemaChange

/-- The names in a schema change: change, keyspace, table; without a table its name is empty. -/
def writeSchema (change : SchemaChange) (keyspace : String) (table : Option String) : Written :=
  Write.concat [Write.string change.name, Write.string keyspace, Write.string (table.getD "")]

/-- Read the names in a schema change. -/
def readSchema : Reader (SchemaChange × String × Option String) := do
  let change ← SchemaChange.ofName <$> Reader.string
  let keyspace ← Reader.string
  let table ← Reader.string
  return (change, keyspace, if table.isEmpty then none else some table)

/-- The wire form: kind, change, and what changed. -/
def write (event : Event) : Written :=
  Write.concat [
    Write.string event.eventType.name,
    match event with
    | .topology change node => (· ++ Write.inet node) <$> Write.string change.name
    | .status change node => (· ++ Write.inet node) <$> Write.string change.name
    | .schema change keyspace table => writeSchema change keyspace table]

/-- Read what follows the kind of an event. -/
def readChange : EventType → Reader Event
  | .topologyChange => do
      let name ← Reader.string
      let node ← Reader.inet
      match TopologyChange.ofName? name with
      | some change => return .topology change node
      | none => Reader.refuse (.topologyChange name)
  | .statusChange => do
      let name ← Reader.string
      let node ← Reader.inet
      match StatusChange.ofName? name with
      | some change => return .status change node
      | none => Reader.refuse (.statusChange name)
  | .schemaChange => do
      let (change, keyspace, table) ← readSchema
      return .schema change keyspace table

/-- Read the wire form. -/
def read : Reader Event := do
  let name ← Reader.string
  readChange (← (EventType.ofName name : Except ParseError _))

end Event

end CqlClient
