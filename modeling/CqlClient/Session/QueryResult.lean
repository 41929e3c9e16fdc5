import CqlClient.Connection.Reply

namespace CqlClient

/-- The result of a request, with the node that served it. -/
structure QueryResult where
  outcome : QueryOutcome
  traceId : Option Uuid
  coordinator : IpAddress
  deriving DecidableEq

namespace QueryResult

/-- The result in an answer, which must have one. -/
def ofAnswer (coordinator : IpAddress) (answer : Answer) : Except AttemptError QueryResult :=
  match answer.response with
  | .result outcome => .ok ⟨outcome, answer.traceId, coordinator⟩
  | response => .error (.unexpectedResponse response.kindName)

/-- Whether nothing was returned. -/
def isVoid (result : QueryResult) : Bool :=
  match result.outcome with
  | .void => true
  | _ => false

/-- The rows that were returned. -/
def rows? (result : QueryResult) : Option Rows :=
  match result.outcome with
  | .rows data => some data
  | _ => none

/-- The first of the rows. -/
def firstRow? (result : QueryResult) : Option Row :=
  result.rows?.bind fun data => data.rows.head?

/-- The keyspace that was switched to. -/
def keyspace? (result : QueryResult) : Option String :=
  match result.outcome with
  | .setKeyspace keyspace => some keyspace
  | _ => none

/-- Whether the schema was changed in a given way. -/
def isSchemaChange (result : QueryResult) (change : SchemaChange) : Bool :=
  match result.outcome with
  | .schemaChange made _ _ => made = change
  | _ => false

end QueryResult

end CqlClient
