import CqlClient.Connection.Lifecycle
import CqlClient.Session.ConnectionCache

/-!
The connections of a session while several calls look for one at the same time. A lookup is one
step, as it holds the lock of the session; all that happens to a connection happens between lookups.
-/

namespace CqlClient

/-- A connection that a session made, with all that goes on around it. -/
structure SharedConnection where
  endpoint : IpAddress
  createdAt : Moment
  state : Lifecycle.State

/-- What the session sees of a connection. -/
def SharedConnection.summary (connection : SharedConnection) : CachedConnection :=
  { endpoint := connection.endpoint
    createdAt := connection.createdAt
    phase := connection.state.phase }

/-- Where a call that asks for a connection stands. Connections are numbered in the order in which
the session made them. -/
inductive CallStage
  /-- It was given a connection and is about to open it. -/
  | given (connection : Nat)
  /-- It performs the handshake. -/
  | performing (connection : Nat)
  /-- It waits for the call that does. -/
  | waiting (connection : Nat)
  | returned (result : Except ConnectionError Nat)

/-- A call that asks for a connection to an endpoint. -/
structure ConnectionCall where
  endpoint : IpAddress
  stage : CallStage

/-- The connections of a session and the calls that ask for them. -/
structure Sharing where
  /-- The age at which a connection that is still being opened is given up. -/
  patience : Duration
  connections : List SharedConnection := []
  /-- The connection in use for each endpoint. -/
  cached : Assoc IpAddress Nat := .empty
  calls : List ConnectionCall := []

namespace Sharing

/-- What the session knows when it looks for a connection. -/
def cache (s : Sharing) : ConnectionCache :=
  { patience := s.patience
    created := s.connections.map SharedConnection.summary
    cached := s.cached }

/-- Let something happen to a connection. -/
def onConnection (s : Sharing) (number : Nat) (change : Lifecycle.State → Lifecycle.State) :
    Sharing :=
  { s with connections := s.connections.modify number fun connection =>
      { connection with state := change connection.state } }

def addCall (s : Sharing) (endpoint : IpAddress) (stage : CallStage) : Sharing :=
  { s with calls := s.calls ++ [⟨endpoint, stage⟩] }

def setStage (s : Sharing) (call : Nat) (stage : CallStage) : Sharing :=
  { s with calls := s.calls.modify call fun known => { known with stage } }

/-- Close the connection in use for an endpoint, if there is one, before others get a turn. -/
def evict (s : Sharing) (endpoint : IpAddress) : Sharing :=
  match s.cached.get? endpoint with
  | some evicted => s.onConnection evicted Lifecycle.State.closeAtOnce
  | none => s

/-- Make a connection for an endpoint and use it from now on. -/
def add (s : Sharing) (endpoint : IpAddress) (now : Moment) (config : ConnectionConfig) : Sharing :=
  { s with
    connections := s.connections ++ [{ endpoint, createdAt := now, state := { config } }]
    cached := s.cached.insert endpoint s.connections.length }

/-- Put a new connection in the place of the one in use for an endpoint. -/
def replace (s : Sharing) (endpoint : IpAddress) (now : Moment) (config : ConnectionConfig) :
    Sharing :=
  (s.evict endpoint).add endpoint now config

/-- A new call looks for a connection. -/
def lookUp (s : Sharing) (endpoint : IpAddress) (now : Moment) (config : ConnectionConfig) :
    Sharing :=
  match (s.cache.lookup endpoint now).1 with
  | .usable number => s.addCall endpoint (.returned (.ok number))
  | .opening number => s.addCall endpoint (.given number)
  | .fresh number => (s.replace endpoint now config).addCall endpoint (.given number)

/-- A call goes on: it opens the connection that it was given, or returns once it knows how that
went. -/
def proceed (s : Sharing) (call : Nat) : CallStage → Sharing
  | .given number =>
      match s.connections[number]? with
      | some connection =>
          (s.onConnection number (·.apply (.openCall call))).setStage call
            (if connection.state.phase = .created then .performing number else .waiting number)
      | none => s
  | .performing number =>
      match s.connections[number]? with
      | some connection =>
          match connection.state.opener with
          | .ended result => s.setStage call (.returned (result.map fun _ => number))
          | _ => s
      | none => s
  | .waiting number =>
      match s.connections[number]? with
      | some connection =>
          match connection.state.returned.find? fun answer => answer.1 = call with
          | some (_, result) => s.setStage call (.returned (result.map fun _ => number))
          | none => s
      | none => s
  | .returned _ => s

/-- Something that happens while calls share the connections of a session. -/
inductive Event
  /-- A new call looks for a connection; one that is made for it is configured like this. -/
  | call (endpoint : IpAddress) (now : Moment) (config : ConnectionConfig)
  /-- A call goes on. -/
  | proceed (call : Nat)
  /-- Something happens to a connection. -/
  | happen (connection : Nat) (event : Lifecycle.Event)

/-- The state after an event. -/
def apply (s : Sharing) : Event → Sharing
  | .call endpoint now config => s.lookUp endpoint now config
  | .proceed call =>
      match s.calls[call]? with
      | some known => s.proceed call known.stage
      | none => s
  | .happen connection event => s.onConnection connection (·.apply event)

/-- The state after some events. -/
def after (s : Sharing) (events : List Event) : Sharing := events.foldl apply s

/-- What a session comes to that has no connections at first. -/
def run (patience : Duration) (events : List Event) : Sharing :=
  ({ patience } : Sharing).after events

end Sharing

end CqlClient
