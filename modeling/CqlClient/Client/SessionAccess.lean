import CqlClient.Client
import CqlClient.Session
import CqlClient.Session.ConnectionCache

/-!
The connections on which a session sends its requests. A connection that was just opened gets all
statements that the client has prepared so far.
-/

namespace CqlClient

/-- A client with the connections of one of its sessions. -/
structure SessionClient (σ : Type) where
  client : Client σ
  session : Session
  cache : ConnectionCache
  /-- The connections of the cache by their numbers there. -/
  connections : List ConnectionId := []

namespace SessionClient

variable {σ α : Type}

/-- Let the client do something. -/
def onClient (action : StateM (Client σ) α) : StateM (SessionClient σ) α := fun s =>
  let (a, client) := action.run s.client
  (a, { s with client })

/-- Note how far a connection of the cache got. -/
def note (connections : Assoc ConnectionId Connection) (cache : ConnectionCache)
    (entry : ConnectionId × Nat) : ConnectionCache :=
  match (connections.get? entry.1).map Connection.phase with
  | some .created => cache
  | some phase => (cache.advance entry.2 .connecting).advance entry.2 phase
  | none => cache.close entry.2

/-- Note how far the connections of the cache got. -/
def refresh : StateM (SessionClient σ) Unit := modify fun s =>
  { s with cache := s.connections.zipIdx.foldl (note s.client.connections) s.cache }

/-- Have all known statements prepared on a connection, at the same time. Failures do not
matter. -/
def prepareKnown (net : Network σ) (id : ConnectionId) : StateM (SessionClient σ) Unit :=
  onClient do
    let known := (← get).prepared.values
    let _ ← Client.concurrently (known.map (Client.prepare net id))

/-- Open a connection in place of the one that the cache gave up. -/
def replace (net : Network σ) (config : ClusterConfig) (endpoint : IpAddress)
    (evicted : Option ConnectionId) :
    StateM (SessionClient σ) (Except ConnectionError ConnectionId) := do
  let s ← get
  let connectionConfig := { config.connection with keyspace := s.session.keyspace }
  let id ← onClient (Client.newConnection endpoint connectionConfig false)
  modify fun s => { s with connections := s.connections ++ [id] }
  match evicted with
  | some old => onClient (Client.shutDown net old .closed)
  | none => pure ()
  match ← onClient (Client.openConnection net id) with
  | .error e => return .error e
  | .ok () =>
      prepareKnown net id
      return .ok id

/-- A connection to an endpoint that can carry requests. -/
def connect (net : Network σ) (config : ClusterConfig) (endpoint : IpAddress) :
    StateM (SessionClient σ) (Except ConnectionError ConnectionId) := do
  refresh
  let s ← get
  let evicted := (s.cache.cached.get? endpoint).bind (s.connections[·]?)
  let (found, cache) := s.cache.lookup endpoint s.client.clock
  set { s with cache }
  match found with
  | .usable number => return (s.connections[number]?).elim (.error .closed) .ok
  | .opening _ => return .error .closed
  | .fresh _ => replace net config endpoint evicted

/-- What a session does on its connections. -/
def access (net : Network σ) (config : ClusterConfig) :
    SessionAccess (SessionClient σ) ConnectionId where
  connect := connect net config
  execute id statement := onClient (Client.execute net id statement)
  prepare id contents := onClient (Client.prepare net id contents)

/-- Remember a prepared statement, and have it prepared on the other open connections of the
session if it is new. -/
def remember (net : Network σ) (statement : PreparedStatement) (coordinator : ConnectionId) :
    StateM (SessionClient σ) Unit := do
  refresh
  let s ← get
  let isNew := !s.client.prepared.contains statement.id
  onClient (modify fun c =>
    { c with prepared := c.prepared.insert statement.id statement.contents })
  if isNew then
    let cached := s.cache.cached.values.filterMap fun number => do
      let connection ← s.cache.created[number]?
      if connection.phase = .opened then s.connections[number]? else none
    let address (id : ConnectionId) : Option IpAddress :=
      (s.client.connections.get? id).map (·.address)
    let others := cached.filter fun id => address id ≠ address coordinator
    let _ ← onClient
      (Client.concurrently (others.map fun id => Client.prepare net id statement.contents))

end SessionClient

end CqlClient
