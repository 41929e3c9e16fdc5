import CqlClient.Client
import CqlClient.Cluster.Worker

/-!
How a client finds and follows a cluster. Each thing that it does for the cluster takes at most as
long as a request may wait.
-/

namespace CqlClient

namespace Client

variable {σ : Type}

/-- Open a control connection. -/
def openControl (net : Network σ) (config : ClusterConfig) (address : IpAddress) :
    StateM (Client σ) (Except ConnectionError ConnectionId) := do
  let id ← newConnection address { config.connection with keyspace := none } true
  let limit := config.requestDeadline
  let result ← within limit (.error (.setupTimeout limit)) do
    match ← openConnection net id with
    | .error e => return .error e
    | .ok () => return (← register net id config.eventTypes).mapError ConnectionError.ofAttempt
  match result with
  | .ok () => return .ok id
  | .error e =>
      shutDown net id .closed
      return .error e

/-- Query a node on a connection. -/
def asking (net : Network σ) (id : ConnectionId) : SystemTable.Asking (Client σ) :=
  fun contents => do
    let result ← execute net id (.query (singlePage contents))
    return result.map QueryResult.outcome

/-- Read system tables in the time of a request. -/
def inTime {α : Type} (config : ClusterConfig)
    (read : StateM (Client σ) (Except MetadataError α)) :
    StateM (Client σ) (Except MetadataError α) :=
  within config.requestDeadline (.error (.timeout config.requestDeadline)) read

/-- Open a connection to a node for a moment. -/
def isReachable (net : Network σ) (config : ClusterConfig) (address : IpAddress) :
    StateM (Client σ) Bool := do
  let id ← newConnection address { config.connection with keyspace := none } false
  let limit := config.requestDeadline
  let result ← within limit (.error (.setupTimeout limit)) (openConnection net id)
  shutDown net id .closed
  return match result with
    | .ok () => true
    | .error _ => false

/-- Find out which of some nodes cannot be reached, all at the same time. -/
def unreachable (net : Network σ) (config : ClusterConfig) (addresses : List IpAddress) :
    StateM (Client σ) (List IpAddress) := do
  let results ← concurrently (addresses.map (isReachable net config))
  return ((addresses.zip results).filter fun pair => !pair.2).map Prod.fst

/-- What a client can do to the nodes of a cluster. -/
def clusterAccess (net : Network σ) (config : ClusterConfig) :
    ClusterAccess (Client σ) ConnectionId where
  openControl := openControl net config
  closeControl id := shutDown net id .closed
  readAll id address := inTime config (SystemTable.queryAll (asking net id) address)
  reads id := {
    peers := fun partitioner => inTime config (SystemTable.queryPeers (asking net id) partitioner)
    keyspace := fun name =>
      inTime config (SystemTable.queryKeyspaces (asking net id) (some name)) }
  unreachable := unreachable net config

/-- A client that did nothing yet. -/
def ofConfig (config : ClusterConfig) (network : σ) : Client σ :=
  { network, pending := { deadline := config.requestDeadline } }

end Client

end CqlClient
