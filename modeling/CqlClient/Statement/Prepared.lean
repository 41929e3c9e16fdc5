import CqlClient.Statement.Query
import CqlClient.Message.Result

namespace CqlClient

/-- A statement that nodes know by an id, with bound values. -/
structure PreparedStatement where
  id : Bytes
  contents : String
  bindMarkers : Metadata
  values : List (Option Bytes) := []
  options : ExecutionOptions := {}
  keyspace : Option String
  routingKey : Option Bytes := none
  deriving DecidableEq

namespace PreparedStatement

/-- A statement as a node prepared it. Its keyspace is that of its first bind marker. -/
def ofAnswer (id : Bytes) (contents : String) (bindMarkers : Metadata) : PreparedStatement :=
  { id, contents, bindMarkers
    keyspace := bindMarkers.columns.head?.map fun spec => spec.table.keyspace }

/-- The statement with other bound values. -/
def bind (statement : PreparedStatement) (values : List (Option Bytes)) : PreparedStatement :=
  { statement with values }

/-- The statement with another consistency. -/
def setConsistency (statement : PreparedStatement) (consistency : Consistency) :
    PreparedStatement :=
  { statement with options := { statement.options with consistency } }

/-- The statement with another consistency of conditional updates. -/
def setSerialConsistency (statement : PreparedStatement) (level : Option SerialConsistency) :
    PreparedStatement :=
  { statement with options := { statement.options with serialConsistency := level } }

/-- The statement with another page size, which must be positive. -/
def setPageSize (statement : PreparedStatement) (size : Int32) :
    Except StatementFault PreparedStatement :=
  if 0 < size then
    .ok { statement with options := { statement.options with pageSize := some size } }
  else .error .pageSizeNotPositive

/-- The request that executes the statement. -/
def request (statement : PreparedStatement) : Request :=
  .execute statement.id (statement.options.parameters statement.values)

end PreparedStatement

/-- Anything that can be executed. -/
inductive Statement
  | query (query : Query)
  | prepared (statement : PreparedStatement)
  deriving DecidableEq

namespace Statement

/-- What a routing policy may know about the statement. -/
def routing : Statement → RoutingRequest
  | .query q => ⟨q.options.consistency, q.keyspace, q.routingKey⟩
  | .prepared p => ⟨p.options.consistency, p.keyspace, p.routingKey⟩

/-- Text of the statement. -/
def contents : Statement → String
  | .query q => q.contents
  | .prepared p => p.contents

/-- The request that executes the statement. -/
def request : Statement → Request
  | .query q => q.request
  | .prepared p => p.request

end Statement

end CqlClient
