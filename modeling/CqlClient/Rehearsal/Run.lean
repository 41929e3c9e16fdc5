import CqlClient.Client.ClusterAccess
import CqlClient.Client.SessionAccess
import CqlClient.Rehearsal.Stage

/-!
A rehearsal: a client among scripted nodes does what a list of steps says. Each step tells its
outcome, what listeners were told, and which requests nodes received.
-/

namespace CqlClient.Rehearsal

/-- What is executed. -/
inductive Source
  | query (contents : String)
  | prepared (name : String)

/-- How a statement is executed. What is missing is left as it is. -/
structure Execute where
  session : String
  source : Source
  values : Option (List (Option Bytes)) := none
  consistency : Option Consistency := none
  serialConsistency : Option (Option SerialConsistency) := none
  pageSize : Option (Option Int32) := none
  keyspace : Option String := none
  routingKey : Option Bytes := none
  /-- Whether the caller waits at most as long as a request may. -/
  isBlocking : Bool := false
  /-- Nodes to try in place of those that the routing policy chooses, and a retry policy for them
  in place of the usual one. -/
  candidates : Option (List IpAddress × Option RetryPolicy) := none

/-- A step of a rehearsal. -/
inductive Step
  | connect
  | status
  | topology
  | plan (request : RoutingRequest)
  /-- Nodes report an event to whoever registered for it. -/
  | report (change : Event)
  /-- Nodes send bytes to whoever registered for anything. -/
  | push (bytes : Bytes)
  | stop (node : Nat)
  | start (node : Nat)
  | setRow (row : NodeRow)
  | removeRow (node : Nat)
  | setSchema (keyspaces : Option (List KeyspaceRow))
      (tables : Option (List (Option String × Option String)))
  /-- A rule goes before the others. -/
  | addRule (rule : Rule)
  | clearRules
  /-- A listener without a name says nothing. -/
  | addListener (name : Option String)
  | openSession (name : String) (keyspace : Option String)
  | prepare (session contents name : String) (isBlocking : Bool)
  | execute (what : Execute)
  /-- Many executions at the same time. -/
  | flood (session contents : String) (count : Nat)

/-- The outcome of a step. -/
inductive Outcome
  | done
  | status (clusterName : Option String) (control : Option IpAddress) (isAvailable : Bool)
      (pending : Nat)
  | notDiscovered (error : DiscoveryError)
  | topology (snapshot : Snapshot)
  | plan (candidates : List IpAddress)
  | reported (isSent : Bool)
  | session (keyspace : Option String)
  | badKeyspaceName (error : KeyspaceNameError)
  | prepared (statement : PreparedStatement)
  | result (result : QueryResult)
  | fault (fault : StatementFault)
  | failed (error : ExecutionError)
  | tally (counts : Assoc String Nat)
  | notConnected
  | noSession
  | noPrepared
  /-- The step was cut short, as it would not end. -/
  | unfinished

/-- The connections of a session. -/
structure OpenSession where
  session : Session
  cache : ConnectionCache
  connections : List ConnectionId := []

/-- A rehearsal in progress. -/
structure Progress where
  config : ClusterConfig
  firstCounter : String → Nat
  client : Client Stage
  worker : Option (Worker ConnectionId) := none
  listeners : List (Option String) := []
  sessions : Assoc String OpenSession := .empty
  prepared : Assoc String PreparedStatement := .empty
  /-- What listeners with a name were told since the last step. -/
  calls : List ListenerCall := []

namespace Progress

/-- The most steps of an execution, and the most inputs of a worker at a time. -/
def fuel : Nat := 10000

/-- A rehearsal that did not begin. -/
def ofStage (config : ClusterConfig) (firstCounter : String → Nat)
    (listeners : List (Option String)) (stage : Stage) : Progress :=
  { config, firstCounter, client := .ofConfig config stage, listeners }

/-- Let the client do something. -/
def onClient {α : Type} (action : StateM (Client Stage) α) : StateM Progress α := fun r =>
  let (a, client) := action.run r.client
  (a, { r with client })

/-- Change the nodes. -/
def changeStage (change : Stage → Stage) : StateM Progress Unit :=
  onClient (modify fun c => { c with network := change c.network })

/-- What the client can do to the nodes. -/
def access (r : Progress) : ClusterAccess (Client Stage) ConnectionId :=
  Client.clusterAccess Stage.network r.config

/-- Tell the listeners. -/
def tell (announcements : List Announcement) : StateM Progress Unit := modify fun r =>
  { r with calls := r.calls ++ ListenerCall.all (r.listeners.filterMap id) announcements }

/-- The next input of the worker, if there is one: an event, or the loss of its connection. -/
def nextInput? : StateM Progress (Option WorkerInput) := do
  let r ← get
  match r.client.events with
  | change :: events =>
      onClient (modify fun c => { c with events })
      return some (.event change)
  | [] =>
      match r.worker.bind (·.control) with
      | some (_, id) =>
          return if (← onClient (Client.phase id)) = .closed then some .controlLost else none
      | none => return none

/-- Let the worker react to all that happened. -/
def settle : (inputs : Nat) → StateM Progress Unit
  | 0 => return ()
  | inputs + 1 => do
      let some worker := (← get).worker | return ()
      match ← nextInput? with
      | none => return ()
      | some input =>
          let r ← get
          let (worker, announcements) ← onClient (worker.step r.access r.config.seeds input)
          modify fun r => { r with worker := some worker }
          tell announcements
          settle inputs

/-- Find the cluster. -/
def connect : StateM Progress Outcome := do
  let r ← get
  match ← onClient (Worker.discover r.access r.config r.firstCounter) with
  | .error e => return .notDiscovered e
  | .ok (worker, announcements) =>
      modify fun r => { r with worker := some worker }
      tell announcements
      return .done

/-- What a worker and its client can tell about themselves. -/
def status (worker : Worker ConnectionId) : StateM Progress Outcome := do
  return .status worker.view.snapshot.clusterName worker.controlAddress? (!worker.isUnavailable)
    (← get).client.pending.size

/-- Bytes arrive on connections. -/
def deliver (connections : List ConnectionId) (reaction : Reaction) : StateM Progress Unit :=
  connections.forM fun id => onClient (Client.receive Stage.network id reaction)

/-- Let a session of the client do something. -/
def onSession {α : Type} (name : String) (s : OpenSession)
    (action : StateM (SessionClient Stage) α) : StateM Progress α := fun r =>
  let (a, after) := action.run ⟨r.client, s.session, s.cache, s.connections⟩
  (a, { r with
    client := after.client
    sessions := r.sessions.insert name ⟨after.session, after.cache, after.connections⟩ })

/-- Do something with the session of a name, in a connected cluster. -/
def withSession (name : String)
    (action : Worker ConnectionId → OpenSession → StateM Progress Outcome) :
    StateM Progress Outcome := do
  let r ← get
  match r.worker, r.sessions.get? name with
  | none, _ => return .notConnected
  | some _, none => return .noSession
  | some worker, some session => action worker session

/-- The outcome for a caller who, if blocking, waits at most as long as a request may. -/
def inTime (isBlocking : Bool) (start : Moment) (outcome : Outcome) :
    StateM Progress Outcome := do
  let r ← get
  let limit := r.config.requestDeadline
  if isBlocking && limit.isOver start r.client.clock then
    return .failed (.timeout limit)
  else return outcome

/-- The outcome of an execution. -/
def outcomeOf {α : Type} (onValue : α → Outcome) : Execution α → Outcome
  | .finished (.ok value) => onValue value
  | .finished (.error e) => .failed e
  | .trying _ => .unfinished

/-- Note how far the worker got. -/
def setWorker (worker : Worker ConnectionId) : StateM Progress Unit :=
  modify fun r => { r with worker := some worker }

/-- Prepare a statement in a session. -/
def prepare (session contents name : String) (isBlocking : Bool) : StateM Progress Outcome :=
  withSession session fun worker s => do
    let r ← get
    let access := SessionClient.access Stage.network r.config
    let (execution, worker) ← onSession session s
      (s.session.prepare access r.config.retry worker contents fuel)
    setWorker worker
    match execution with
    | .finished (.ok (statement, id)) => do
        match (← get).sessions.get? session with
        | some s => onSession session s (SessionClient.remember Stage.network statement id)
        | none => pure ()
        modify fun r => { r with prepared := r.prepared.insert name statement }
    | _ => pure ()
    inTime isBlocking r.client.clock (outcomeOf (fun result => .prepared result.1) execution)

/-- A query with the options of an execution. -/
def queryOf (what : Execute) (contents : String) : Except StatementFault Query := do
  let query : Query := { contents }
  let query := what.values.elim query query.withValues
  let query := what.consistency.elim query query.setConsistency
  let query := what.serialConsistency.elim query query.setSerialConsistency
  let query := match what.keyspace, what.routingKey with
    | some keyspace, some key => query.setRouting keyspace key
    | _, _ => query
  match what.pageSize with
  | none => return query
  | some none => return query.disablePaging
  | some (some size) => query.setPageSize size

/-- A prepared statement with the options of an execution. -/
def preparedOf (what : Execute) (known : PreparedStatement) :
    Except StatementFault PreparedStatement := do
  let statement := what.values.elim known known.bind
  let statement := what.consistency.elim statement statement.setConsistency
  let statement := what.serialConsistency.elim statement statement.setSerialConsistency
  let statement := { statement with
    keyspace := what.keyspace <|> statement.keyspace
    routingKey := what.routingKey <|> statement.routingKey }
  match what.pageSize with
  | some (some size) => statement.setPageSize size
  | _ => return statement

/-- The statement of an execution; nothing if it was never prepared. -/
def statementOf (r : Progress) (what : Execute) : Option (Except StatementFault Statement) :=
  match what.source with
  | .query contents => some ((queryOf what contents).map Statement.query)
  | .prepared name =>
      (r.prepared.get? name).map fun known => (preparedOf what known).map Statement.prepared

/-- Execute a statement in a session. -/
def execute (what : Execute) : StateM Progress Outcome :=
  withSession what.session fun worker s => do
    let r ← get
    match statementOf r what with
    | none => return .noPrepared
    | some (.error fault) => return .fault fault
    | some (.ok statement) =>
        let access := SessionClient.access Stage.network r.config
        let chosen := what.candidates.map fun (candidates, policy) =>
          (RetryContext.start? candidates, policy.getD r.config.retry)
        let execution ← match chosen with
          | some (none, _) => pure (.finished (.error .emptyPlan))
          | some (some context, policy) =>
              onSession what.session s
                (Session.executeWith access policy worker.isUnavailable statement fuel context)
          | none => do
              let (execution, worker) ← onSession what.session s
                (s.session.execute access r.config.retry worker statement fuel)
              setWorker worker
              pure execution
        inTime what.isBlocking r.client.clock (outcomeOf .result execution)

/-- An execution among many, with what it waits for. -/
inductive Flying
  | waiting (context : RetryContext) (endpoint : IpAddress) (connection : ConnectionId)
      (ticket : Client.Ticket)
  | failed (context : RetryContext) (endpoint : IpAddress)
      (attempt : Attempt ConnectionId QueryResult)
  | landed (result : Except ExecutionError QueryResult)

/-- Send the request of an execution, and do not wait for the answer. -/
def takeOff (net : Network Stage) (config : ClusterConfig) (statement : Statement) :
    Execution QueryResult → StateM (SessionClient Stage) Flying
  | .finished result => return .landed result
  | .trying context =>
      match context.current with
      | none => return .landed (.error .emptyPlan)
      | some endpoint => do
          match ← SessionClient.connect net config endpoint with
          | .error e => return .failed context endpoint (.notConnected e)
          | .ok id =>
              match ← SessionClient.onClient (Client.submit net id statement.request) with
              | .error e => return .failed context endpoint (.failed id e)
              | .ok ticket => return .waiting context endpoint id ticket

/-- Read what came back for an execution. -/
def arrive (net : Network Stage) : Flying → StateM (SessionClient Stage) Unit
  | .waiting _ _ id ticket => SessionClient.onClient (Client.receive net id ticket.reaction)
  | _ => return ()

/-- What to do after the answer to an execution. -/
def land (service : Service (SessionClient Stage) ConnectionId QueryResult) (policy : RetryPolicy) :
    Flying → StateM (SessionClient Stage) (Execution QueryResult)
  | .landed result => return .finished result
  | .failed context endpoint attempt => go context endpoint attempt
  | .waiting context endpoint id ticket => do
      let attempt ← match (← SessionClient.onClient (Client.collect ticket)).bind
          (QueryResult.ofAnswer endpoint) with
        | .ok result => pure (.succeeded result)
        | .error e => pure (.failed id e)
      go context endpoint attempt
where
  go (context : RetryContext) (endpoint : IpAddress)
      (attempt : Attempt ConnectionId QueryResult) :
      StateM (SessionClient Stage) (Execution QueryResult) := do
    return (← Execution.afterAttempt service policy.asked false context endpoint attempt).1

/-- Let executions make their attempts at the same time, until all are finished. -/
def flyAll (config : ClusterConfig) (statement : Statement) :
    (rounds : Nat) → List (Execution QueryResult) →
      StateM (SessionClient Stage) (List (Execution QueryResult))
  | 0, executions => return executions
  | rounds + 1, executions => do
      if executions.all Execution.isFinished then return executions
      let net := Stage.network
      let flying ← executions.mapM (takeOff net config statement)
      flying.forM (arrive net)
      let access := SessionClient.access net config
      let service := Session.service access none (access.execute · statement)
      flyAll config statement rounds (← flying.mapM (land service config.retry))

/-- Begin executions one after another. -/
def startAll (session : Session) (request : RoutingRequest) :
    Nat → Worker ConnectionId → List (Execution QueryResult) × Worker ConnectionId
  | 0, worker => ([], worker)
  | count + 1, worker =>
      let (context, worker) := session.start worker request
      let execution := match context with
        | .ok context => .trying context
        | .error e => .finished (.error e)
      let (others, worker) := startAll session request count worker
      (execution :: others, worker)

/-- How an execution ended, in a word. -/
def verdict : Execution QueryResult → String
  | .finished (.ok result) => "ok " ++ result.coordinator.text
  | .finished (.error (.lastAttempt e)) => e.kind
  | .finished (.error e) => e.kind
  | .trying _ => "unfinished"

/-- Execute a query many times at once. -/
def flood (session contents : String) (count : Nat) : StateM Progress Outcome :=
  withSession session fun worker s => do
    let statement : Statement := .query { contents }
    let (executions, worker) := startAll s.session statement.routing count worker
    setWorker worker
    let executions ← onSession session s
      (flyAll (← get).config statement fuel executions)
    let add (counts : Assoc String Nat) (execution : Execution QueryResult) : Assoc String Nat :=
      let word := verdict execution
      counts.insert word ((counts.get? word).getD 0 + 1)
    return .tally (executions.foldl add .empty)

/-- Do a step that needs a cluster. -/
def withWorker (action : Worker ConnectionId → StateM Progress Outcome) :
    StateM Progress Outcome := do
  match (← get).worker with
  | some worker => action worker
  | none => return .notConnected

/-- Open a session. -/
def openSession (name : String) (keyspace : Option String) : StateM Progress Outcome :=
  withWorker fun _ => do
    match Session.ofKeyspace keyspace with
    | .error e => return .badKeyspaceName e
    | .ok session =>
        modify fun r =>
          let cache : ConnectionCache := { patience := r.config.connection.connectTimeout }
          { r with sessions := r.sessions.insert name { session, cache } }
        return .session (session.keyspace.map KeyspaceName.text)

/-- Report an event to all connections that registered for its kind. -/
def report (change : CqlClient.Event) : StateM Progress Outcome := do
  let listeners := (← get).client.network.listeners fun kinds => kinds.contains change.eventType
  match Frame.ofResponse (.event change) (-1) with
  | .error _ => return .reported false
  | .ok frame =>
      deliver listeners { bytes := frame }
      return .reported (!listeners.isEmpty)

/-- Stop a node. -/
def stop (node : Nat) : StateM Progress Outcome := do
  let (closed, stage) := (← get).client.network.stop node
  changeStage fun _ => stage
  deliver closed { hangsUp := true }
  return .done

/-- Do what a step says. -/
def perform : Step → StateM Progress Outcome
  | .connect => connect
  | .status => withWorker status
  | .topology => withWorker fun worker => return .topology worker.view.snapshot
  | .plan request => withWorker fun worker => do
      setWorker { worker with view := worker.view.afterPlan }
      return .plan (worker.view.plan request)
  | .report change => report change
  | .push bytes => do
      deliver ((← get).client.network.listeners fun kinds => !kinds.isEmpty) { bytes }
      return .done
  | .stop node => stop node
  | .start node => onStage fun s => s.start node
  | .setRow row => onStage fun s => s.setRow row
  | .removeRow node => onStage fun s => s.changeTables fun t =>
      { t with nodes := t.nodes.filter (·.node ≠ node) }
  | .setSchema keyspaces tables => onStage fun s => s.changeTables fun t =>
      { t with keyspaces := keyspaces.getD t.keyspaces, tables := tables.getD t.tables }
  | .addRule rule => onStage fun s => { s with rules := rule :: s.rules }
  | .clearRules => onStage fun s => { s with rules := [] }
  | .addListener name => withWorker fun _ => do
      modify fun r => { r with listeners := r.listeners ++ [name] }
      return .done
  | .openSession name keyspace => openSession name keyspace
  | .prepare session contents name isBlocking => prepare session contents name isBlocking
  | .execute what => execute what
  | .flood session contents count => flood session contents count
where
  onStage (change : Stage → Stage) : StateM Progress Outcome := do
    changeStage change
    return .done

/-- What a step left behind. -/
structure Scene where
  outcome : Outcome
  calls : List ListenerCall
  log : List LogEntry

/-- Do a step, and let the worker react to all that it caused. A cluster that was just found tells
its status. -/
def play (step : Step) : StateM Progress Scene := do
  let outcome ← perform step
  settle fuel
  let outcome ← match step, outcome, (← get).worker with
    | .connect, .done, some worker => status worker
    | _, outcome, _ => pure outcome
  let r ← get
  set { r with calls := [] }
  changeStage fun s => { s with log := [] }
  return ⟨outcome, r.calls, r.client.network.log⟩

/-- Do steps one after another. -/
def playAll (steps : List Step) : StateM Progress (List Scene) := steps.mapM play

end Progress

end CqlClient.Rehearsal
