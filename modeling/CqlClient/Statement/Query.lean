import CqlClient.Message.Request
import CqlClient.Routing.Policy

namespace CqlClient

/-- How a statement is executed. -/
structure ExecutionOptions where
  consistency : Consistency := .quorum
  serialConsistency : Option SerialConsistency := some .serial
  /-- Rows of a page; `none` turns paging off. -/
  pageSize : Option Int32 := some 1000
  deriving DecidableEq

namespace ExecutionOptions

/-- The parameters of a request with given values. -/
def parameters (options : ExecutionOptions) (values : List (Option Bytes)) : QueryParameters :=
  { consistency := options.consistency
    serialConsistency := options.serialConsistency
    pageSize := options.pageSize
    values }

end ExecutionOptions

/-- A statement in the wrong use. -/
inductive StatementFault
  | pageSizeNotPositive
  deriving DecidableEq, Repr

/-- Wording of a fault. -/
def StatementFault.message : StatementFault → String
  | .pageSizeNotPositive => "page size must be larger than 0"

/-- The text of a statement with the values of its bind markers. -/
structure Query where
  contents : String
  values : List (Option Bytes) := []
  options : ExecutionOptions := {}
  keyspace : Option String := none
  routingKey : Option Bytes := none
  deriving DecidableEq

namespace Query

/-- The query with other values. -/
def withValues (query : Query) (values : List (Option Bytes)) : Query := { query with values }

/-- The query with another consistency. -/
def setConsistency (query : Query) (consistency : Consistency) : Query :=
  { query with options := { query.options with consistency } }

/-- The query with another consistency of conditional updates. -/
def setSerialConsistency (query : Query) (level : Option SerialConsistency) : Query :=
  { query with options := { query.options with serialConsistency := level } }

/-- The query with another page size, which must be positive. -/
def setPageSize (query : Query) (size : Int32) : Except StatementFault Query :=
  if 0 < size then .ok { query with options := { query.options with pageSize := some size } }
  else .error .pageSizeNotPositive

/-- The query without paging. -/
def disablePaging (query : Query) : Query :=
  { query with options := { query.options with pageSize := none } }

/-- The query with the partition that it touches. -/
def setRouting (query : Query) (keyspace : String) (routingKey : Bytes) : Query :=
  { query with keyspace := some keyspace, routingKey := some routingKey }

/-- The request that executes the query. -/
def request (query : Query) : Request :=
  .query query.contents (query.options.parameters query.values)

end Query

end CqlClient
