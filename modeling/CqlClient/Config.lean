import CqlClient.Authentication
import CqlClient.Failure.Discovery
import CqlClient.Retry.Policy
import CqlClient.Routing.Policy
import CqlClient.Text.Blank

namespace CqlClient

/-- How each connection is opened. -/
structure ConnectionConfig where
  connectTimeout : Duration := .ofSeconds 3
  compression : Option Compression := none
  noDelay : Bool := true
  /-- Idle time before the first probe of whether the node is still there. -/
  keepAlive : Option Duration := none
  authenticator : Option Authenticator := none
  cqlVersion : String := Request.defaultCqlVersion
  /-- Keyspace that the connection switches to once it is set up. -/
  keyspace : Option KeyspaceName := none

/-- How a cluster is found and used. -/
structure ClusterConfig where
  /-- Nodes contacted first, in this order. -/
  seeds : List IpAddress
  port : UInt16 := 9042
  connection : ConnectionConfig := {}
  /-- A request that is not answered for this long fails. -/
  requestDeadline : Duration := .ofSeconds 10
  /-- How often waiting requests are checked. -/
  sweepInterval : Duration := .ofSeconds 10
  routing : RoutingPolicy
  retry : RetryPolicy := .standard
  eventTypes : List EventType := [.topologyChange, .statusChange, .schemaChange]

namespace ClusterConfig

/-- A seed by its text; blanks around it do not count. -/
def readSeed (text : String) : Except ConfigError IpAddress :=
  let text := Text.trimBlanks text
  match IpAddress.ofText? text with
  | some ip => .ok ip
  | none => .error (.badSeed text)

/-- The usual configuration for given seeds, of which there must be one at least. -/
def ofSeeds (texts : List String) (counterSeed : Nat) : Except ConfigError ClusterConfig := do
  let seeds ← texts.mapM readSeed
  if seeds.isEmpty then throw .noSeeds
  return { seeds, routing := .roundRobin counterSeed }

end ClusterConfig

end CqlClient
