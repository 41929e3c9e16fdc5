import CqlClient.Cluster.Worker
import CqlClient.Session.Execution
import CqlClient.Session.QueryResult
import CqlClient.Statement.Prepared

/-!
Requests of a session. A session chooses the candidates for a request by the routing policy of its
cluster, and tries them as the retry policy says.
-/

namespace CqlClient

/-- A way to use a cluster, with a keyspace of its own. -/
structure Session where
  keyspace : Option KeyspaceName := none

/-- What a session does on connections, for nodes with states `σ`. Connections are known by a `κ`. -/
structure SessionAccess (σ κ : Type) where
  /-- A connection to an endpoint that can carry requests. -/
  connect : IpAddress → StateM σ (Except ConnectionError κ)
  /-- Execute a statement on a connection. -/
  execute : κ → Statement → StateM σ (Except AttemptError QueryResult)
  /-- Have a statement prepared on a connection. -/
  prepare : κ → String → StateM σ (Except AttemptError PreparedStatement)

namespace Session

variable {σ κ α : Type}

/-- A session whose connections use a keyspace. -/
def ofKeyspace (name : Option String) : Except KeyspaceNameError Session := do
  match name with
  | some name => return ⟨some (← KeyspaceName.ofText name false)⟩
  | none => return {}

/-- What the routing policy may know about a request: without a keyspace of its own it is for the
keyspace of the session. -/
def routing (session : Session) (request : RoutingRequest) : RoutingRequest :=
  { request with
    keyspace := request.keyspace <|> session.keyspace.map KeyspaceName.text }

/-- The candidates for a request. -/
def candidates (session : Session) (view : ClusterView) (request : RoutingRequest) :
    List IpAddress :=
  view.plan (session.routing request)

/-- Begin a request: choose its candidates. The routing policy moves on. -/
def start {κ' : Type} (session : Session) (worker : Worker κ') (request : RoutingRequest) :
    Except ExecutionError RetryContext × Worker κ' :=
  if worker.isUnavailable then (.error .clusterUnavailable, worker)
  else
    let next := { worker with view := worker.view.afterPlan }
    match RetryContext.start? (session.candidates worker.view request) with
    | some context => (.ok context, next)
    | none => (.error .emptyPlan, next)

/-- Run an action on a connection to an endpoint. -/
def attempt (access : SessionAccess σ κ) (action : κ → StateM σ (Except AttemptError α))
    (endpoint : IpAddress) : StateM σ (Attempt κ α) := do
  match ← access.connect endpoint with
  | .error e => return .notConnected e
  | .ok connection =>
      match ← action connection with
      | .ok value => return .succeeded value
      | .error e => return .failed connection e

/-- What nodes do with an action. A statement to recover is prepared again when they no longer know
it. -/
def service (access : SessionAccess σ κ) (recovery : Option String)
    (action : κ → StateM σ (Except AttemptError α)) : Service σ κ α where
  attempt := attempt access action
  prepareAgain connection := do
    match recovery with
    | some contents => return (← access.prepare connection contents).map fun _ => ()
    | none => return .ok ()

/-- Text of the statement to prepare again when a node no longer knows it. -/
def recovery? : Statement → Option String
  | .prepared statement => some statement.contents
  | .query _ => none

/-- How far an action comes in a number of steps. -/
def run (access : SessionAccess σ κ) (policy : RetryPolicy) (recovery : Option String)
    (action : κ → StateM σ (Except AttemptError α)) (fuel : Nat) (context : RetryContext) :
    StateM σ (Execution α) := do
  return (← Execution.runFor (service access recovery action) policy.asked recovery.isSome fuel
    (.trying context)).1

/-- Execute a statement on the candidates of a context. Nothing is sent if the cluster is
unavailable. -/
def executeWith (access : SessionAccess σ κ) (policy : RetryPolicy) (isUnavailable : Bool)
    (statement : Statement) (fuel : Nat) (context : RetryContext) :
    StateM σ (Execution QueryResult) := do
  if isUnavailable then return .finished (.error .clusterUnavailable)
  run access policy (recovery? statement) (access.execute · statement) fuel context

/-- Execute a statement. -/
def execute {κ' : Type} (session : Session) (access : SessionAccess σ κ) (policy : RetryPolicy)
    (worker : Worker κ') (statement : Statement) (fuel : Nat) :
    StateM σ (Execution QueryResult × Worker κ') := do
  let (context, worker) := session.start worker statement.routing
  match context with
  | .error e => return (.finished (.error e), worker)
  | .ok context =>
      return (← executeWith access policy worker.isUnavailable statement fuel context, worker)

/-- Prepare a statement. Gives the connection on which it was prepared, too. -/
def prepare {κ' : Type} (session : Session) (access : SessionAccess σ κ) (policy : RetryPolicy)
    (worker : Worker κ') (contents : String) (fuel : Nat) :
    StateM σ (Execution (PreparedStatement × κ) × Worker κ') := do
  let (context, worker) := session.start worker {}
  match context with
  | .error e => return (.finished (.error e), worker)
  | .ok context =>
      let action (connection : κ) : StateM σ (Except AttemptError (PreparedStatement × κ)) := do
        return (← access.prepare connection contents).map (·, connection)
      return (← run access policy none action fuel context, worker)

end Session

end CqlClient
