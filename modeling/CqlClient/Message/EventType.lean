import CqlClient.Wire.Writer

namespace CqlClient

/-- Kinds of events that a node pushes to the connections registered for them. -/
inductive EventType
  | topologyChange
  | statusChange
  | schemaChange
  deriving DecidableEq, Repr

namespace EventType

/-- Name of the kind on the wire. -/
def name : EventType → String
  | .topologyChange => "TOPOLOGY_CHANGE"
  | .statusChange => "STATUS_CHANGE"
  | .schemaChange => "SCHEMA_CHANGE"

/-- The kind with a given name. -/
def ofName? : String → Option EventType
  | "TOPOLOGY_CHANGE" => some .topologyChange
  | "STATUS_CHANGE" => some .statusChange
  | "SCHEMA_CHANGE" => some .schemaChange
  | _ => none

theorem ofName?_name (kind : EventType) : ofName? kind.name = some kind := by
  cases kind <;> rfl

/-- The kind with a given name, or the fault of naming none. -/
def ofName (name : String) : Except ParseError EventType :=
  match ofName? name with
  | some kind => .ok kind
  | none => .error (.badIncomingData (.eventType name))

end EventType

end CqlClient
