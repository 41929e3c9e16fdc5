import CqlClient.Connection.Handshake
import CqlClient.Network
import CqlClient.Session.QueryResult
import CqlClient.Statement.Prepared

/-!
A client that does one thing after another: its clock, its connections, and the requests that wait
on them. Time passes while it waits for a node: a moment for an answer, and more only while a node
stays silent.
-/

namespace CqlClient

/-- A connection of a client. -/
structure Connection where
  address : IpAddress
  config : ConnectionConfig
  /-- Whether events are of interest. -/
  listens : Bool
  createdAt : Moment
  phase : ConnectionPhase := .created
  /-- Whether requests are compressed by now, if compression is configured. -/
  compresses : Bool := false
  /-- Bytes that arrived and make no frame yet. -/
  unread : Bytes := []

namespace Connection

/-- Compression of the next request. -/
def compression (connection : Connection) : Option Compression :=
  if connection.compresses then connection.config.compression else none

end Connection

/-- A client among nodes with states `σ`. -/
structure Client (σ : Type) where
  network : σ
  pending : PendingRequests
  clock : Moment := 0
  connections : Assoc ConnectionId Connection := .empty
  /-- Ends of waits that nobody has looked at. -/
  deliveries : List (Delivery Reply) := []
  /-- Events that were not handled yet. -/
  events : List Event := []
  /-- Texts of the statements that were prepared, by their identifiers. -/
  prepared : Assoc Bytes String := .empty

namespace Client

variable {σ α : Type}

/-- Let the nodes do something. -/
def onNetwork (action : StateM σ α) : StateM (Client σ) α := fun c =>
  let (a, network) := action.run c.network
  (a, { c with network })

/-- Let time pass. -/
def wait (span : Duration) : StateM (Client σ) Unit :=
  modify fun c => { c with clock := c.clock + span.nanoseconds }

/-- The time that an answer takes: some, as only what needs no answer is done at once. -/
def answerTime : Duration := ⟨1⟩

/-- Do something for at most a span of time. -/
def within (limit : Duration) (onTimeout : α) (action : StateM (Client σ) α) :
    StateM (Client σ) α := do
  let start := (← get).clock
  let result ← action
  if limit.isOver start (← get).clock then
    modify fun c => { c with clock := start + limit.nanoseconds }
    return onTimeout
  else return result

/-- Change a connection. -/
def update (id : ConnectionId) (change : Connection → Connection) : StateM (Client σ) Unit :=
  modify fun c => { c with connections := c.connections.modify id change }

/-- A connection by its number. -/
def connection? (id : ConnectionId) : StateM (Client σ) (Option Connection) :=
  return (← get).connections.get? id

/-- Phase of a connection; what is not there is closed. -/
def phase (id : ConnectionId) : StateM (Client σ) ConnectionPhase :=
  return ((← connection? id).map (·.phase)).getD .closed

/-- Close a connection; all requests on it fail. -/
def shutDown (net : Network σ) (id : ConnectionId) (error : ConnectionError) :
    StateM (Client σ) Unit := do
  update id fun connection => { connection with phase := .closed, unread := [] }
  modify fun c =>
    let (failed, pending) := c.pending.failConnection id error
    { c with pending, deliveries := c.deliveries ++ failed }
  onNetwork (net.hangUp id)

/-- Do with a frame what it means. -/
def accept (id : ConnectionId) : Incoming → StateM (Client σ) Unit
  | .answer stream reply => modify fun c =>
      let (delivery, pending) := c.pending.complete id stream reply
      { c with pending, deliveries := c.deliveries ++ delivery.toList }
  | .event change => modify fun c => { c with events := c.events ++ [change] }
  | .ignored => return ()

/-- Bytes arrive on a connection, and perhaps its end. -/
def receive (net : Network σ) (id : ConnectionId) (reaction : Reaction) :
    StateM (Client σ) Unit := do
  let some connection ← connection? id | return ()
  if connection.phase = .closed then return ()
  let received := Incoming.readAll connection.listens connection.config.compression
    (connection.unread ++ reaction.bytes)
  received.frames.forM (accept id)
  match received.rest with
  | .error broken => shutDown net id (.broken broken)
  | .ok rest =>
      update id fun connection => { connection with unread := rest }
      if reaction.hangsUp then shutDown net id (.broken .closedByPeer)

/-- A request on its way. -/
structure Ticket where
  connection : ConnectionId
  request : Nat
  since : Moment
  reaction : Reaction

/-- Write a request on a connection, without regard to its phase. What comes back is not read
yet. -/
def submit (net : Network σ) (id : ConnectionId) (request : Request) :
    StateM (Client σ) (Except AttemptError Ticket) := do
  let some connection ← connection? id | return .error .connectionClosed
  if connection.phase = .closed then return .error .connectionClosed
  let frame := Frame.ofRequest request connection.compression false
  match frame 0 with
  | .error e => return .error (.ofFrameError e)
  | .ok _ =>
      let c ← get
      let (allocated, pending) := c.pending.allocate id c.clock
      set { c with pending }
      match allocated with
      | none => return .error .noFreeStream
      | some (stream, number) =>
          match frame stream with
          | .error e => return .error (.ofFrameError e)
          | .ok bytes =>
              let reaction ← onNetwork (net.write id bytes)
              return .ok ⟨id, number, c.clock, reaction⟩

/-- Take the end of the wait of a request, if it came. -/
def take? (request : Nat) : StateM (Client σ) (Option (Delivery Reply)) := do
  let c ← get
  set { c with deliveries := c.deliveries.filter (·.request ≠ request) }
  return c.deliveries.find? (·.request = request)

/-- Let time pass until a request is too old, and give up all that are. -/
def giveUp (since : Moment) : StateM (Client σ) Unit := modify fun c =>
  let clock := max c.clock (since + c.pending.deadline.nanoseconds)
  let (expired, pending) := c.pending.sweep clock
  { c with clock, pending, deliveries := c.deliveries ++ expired }

/-- The outcome of a request. A request that gets no answer times out. -/
def collect (ticket : Ticket) : StateM (Client σ) (Except AttemptError Answer) := do
  let compression := ((← connection? ticket.connection).map (·.config.compression)).getD none
  let ended ← match ← take? ticket.request with
    | some delivery => do
        wait answerTime
        pure (some delivery)
    | none => do
        giveUp ticket.since
        take? ticket.request
  match ended with
  | some ⟨_, .ok reply⟩ => return reply.answer compression
  | some ⟨_, .error e⟩ => return .error (.ofStreamError e)
  | none => return .error (.broken .routerGone)

/-- Send a request, without regard to the phase of the connection, and wait for its outcome. -/
def ask (net : Network σ) (id : ConnectionId) (request : Request) :
    StateM (Client σ) (Except AttemptError Answer) := do
  match ← submit net id request with
  | .error e => return .error e
  | .ok ticket =>
      receive net id ticket.reaction
      collect ticket

/-- Why a connection that is not open carries no requests. -/
def notOpen? : ConnectionPhase → Option AttemptError
  | .opened => none
  | .closed => some .connectionClosed
  | _ => some .notYetOpen

/-- Send a request on an open connection. -/
def request (net : Network σ) (id : ConnectionId) (request : Request) :
    StateM (Client σ) (Except AttemptError Answer) := do
  match notOpen? (← phase id) with
  | some e => return .error e
  | none => ask net id request

/-- A connection on which nothing happened yet. -/
def newConnection (address : IpAddress) (config : ConnectionConfig) (listens : Bool) :
    StateM (Client σ) ConnectionId := do
  let c ← get
  let (id, pending) := c.pending.newConnection
  let connection : Connection := { address, config, listens, createdAt := c.clock }
  set { c with pending, connections := c.connections.insert id connection }
  return id

/-- The most requests that a handshake may take. -/
def maxRounds : Nat := 10000

/-- Do the steps of a handshake. -/
def handshake (net : Network σ) (id : ConnectionId) (config : ConnectionConfig) :
    (rounds : Nat) → Handshake.Step → StateM (Client σ) (Except ConnectionError Unit)
  | _, .fail e => return .error e
  | _, .finish => do
      if (← phase id) = .closed then return .error .closed
      update id fun connection => { connection with phase := .opened }
      return .ok ()
  | 0, _ => return .error .closed
  | rounds + 1, .enter phase next => do
      if (← Client.phase id).rank + 1 = phase.rank then
        update id fun connection => { connection with phase }
        handshake net id config rounds next
      else return .error .closed
  | rounds + 1, .send request awaited => do
      let answer ← ask net id request
      match awaited, answer with
      | .ready, .ok _ => update id fun connection => { connection with compresses := true }
      | _, _ => pure ()
      handshake net id config rounds
        (Handshake.received config awaited (answer.map Answer.response))

/-- Get the socket of a connection. -/
def dial (net : Network σ) (id : ConnectionId) (connection : Connection) :
    StateM (Client σ) (Except ConnectionError Unit) := do
  let limit := connection.config.connectTimeout
  within limit (.error (.connectTimeout limit)) do
    match ← onNetwork (net.dial id connection.address) with
    | .accepted =>
        wait answerTime
        return .ok ()
    | .refused e =>
        wait answerTime
        return .error (.io e)
    | .unreachable => return .error (.io .noRoute)
    | .silent =>
        wait limit
        return .error (.connectTimeout limit)

/-- Open a connection. One that cannot be opened is closed. -/
def openConnection (net : Network σ) (id : ConnectionId) :
    StateM (Client σ) (Except ConnectionError Unit) := do
  let some connection ← connection? id | return .error .closed
  if connection.phase ≠ .created then
    return if connection.phase = .opened then .ok () else .error .closed
  update id fun connection => { connection with phase := .connecting }
  let result ← match ← dial net id connection with
    | .error e => pure (.error e)
    | .ok () => handshake net id connection.config maxRounds Handshake.start
  match result with
  | .ok () => return .ok ()
  | .error e =>
      shutDown net id e
      return .error e

/-- Execute a statement on a connection. -/
def execute (net : Network σ) (id : ConnectionId) (statement : Statement) :
    StateM (Client σ) (Except AttemptError QueryResult) := do
  let answer ← request net id statement.request
  match ← connection? id with
  | some connection => return answer.bind (QueryResult.ofAnswer connection.address)
  | none => return .error .connectionClosed

/-- A query whose result is not split into pages, at the lowest consistency. -/
def singlePage (contents : String) : Query :=
  (Query.setConsistency { contents } .one).disablePaging

/-- Have a statement prepared on a connection. -/
def prepare (net : Network σ) (id : ConnectionId) (contents : String) :
    StateM (Client σ) (Except AttemptError PreparedStatement) := do
  match ← request net id (.prepare contents) with
  | .error e => return .error e
  | .ok ⟨.result (.prepared key bindMarkers _), _⟩ =>
      return .ok (PreparedStatement.ofAnswer key contents bindMarkers)
  | .ok answer => return .error (.unexpectedResponse answer.response.kindName)

/-- Register a connection for events. -/
def register (net : Network σ) (id : ConnectionId) (eventTypes : List EventType) :
    StateM (Client σ) (Except AttemptError Unit) := do
  match ← request net id (.register eventTypes) with
  | .error e => return .error e
  | .ok ⟨.ready, _⟩ => return .ok ()
  | .ok answer => return .error (.unexpectedResponse answer.response.kindName)

/-- Do several things at the same time; together they take as long as the longest of them. -/
def concurrently (actions : List (StateM (Client σ) α)) : StateM (Client σ) (List α) := do
  let start := (← get).clock
  let results ← actions.mapM fun action => do
    modify fun c => { c with clock := start }
    let result ← action
    return (result, (← get).clock)
  modify fun c => { c with clock := (results.map Prod.snd).foldl max start }
  return results.map Prod.fst

end Client

end CqlClient
