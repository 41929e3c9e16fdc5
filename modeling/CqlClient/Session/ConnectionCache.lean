import CqlClient.Connection.Handshake
import CqlClient.Connection.Pending

/-!
The connections of a session: at most one for each endpoint is in use. A lookup finds it, waits for
it, or puts a new one in its place; it is one step, as it holds the lock of the session. Connections
change their phase between lookups.
-/

namespace CqlClient

/-- What a session knows about a connection that it made. -/
structure CachedConnection where
  endpoint : IpAddress
  createdAt : Moment
  phase : ConnectionPhase := .created
  deriving DecidableEq

/-- What a lookup finds. Connections are numbered in the order in which the session made them. -/
inductive CacheLookup
  /-- An open connection. -/
  | usable (connection : Nat)
  /-- A connection that another request is opening. -/
  | opening (connection : Nat)
  /-- None that can be used; a new one was made. -/
  | fresh (connection : Nat)
  deriving DecidableEq

/-- The connections of a session. -/
structure ConnectionCache where
  /-- The age at which a connection that is still being opened is given up. -/
  patience : Duration
  /-- All connections that were made. -/
  created : List CachedConnection := []
  /-- The connection in use for each endpoint. -/
  cached : Assoc IpAddress Nat := .empty

namespace ConnectionCache

/-- The connection in use for an endpoint, with its number. -/
def find? (cache : ConnectionCache) (endpoint : IpAddress) : Option (Nat × CachedConnection) := do
  let number ← cache.cached.get? endpoint
  return (number, ← cache.created[number]?)

/-- Whether a connection should have been opened by now. -/
def isStale (cache : ConnectionCache) (now : Moment) (connection : CachedConnection) : Bool :=
  cache.patience.nanoseconds ≤ (Duration.between connection.createdAt now).nanoseconds

/-- Change what is known about a connection. -/
def update (cache : ConnectionCache) (number : Nat)
    (change : CachedConnection → CachedConnection) : ConnectionCache :=
  { cache with created := cache.created.modify number change }

/-- Close a connection. -/
def close (cache : ConnectionCache) (number : Nat) : ConnectionCache :=
  cache.update number fun connection => { connection with phase := .closed }

/-- Make a connection for an endpoint. The one that it replaces, if any, is closed. -/
def replace (cache : ConnectionCache) (endpoint : IpAddress) (now : Moment) :
    CacheLookup × ConnectionCache :=
  let number := cache.created.length
  let rest := match cache.cached.get? endpoint with
    | some evicted => cache.close evicted
    | none => cache
  (.fresh number,
    { rest with
      created := rest.created ++ [{ endpoint, createdAt := now }]
      cached := rest.cached.insert endpoint number })

/-- Look for a connection to an endpoint. One that is open is used, and one that is being opened is
waited for unless it takes too long; otherwise a new one takes its place. -/
def lookup (cache : ConnectionCache) (endpoint : IpAddress) (now : Moment) :
    CacheLookup × ConnectionCache :=
  match cache.find? endpoint with
  | some (number, connection) =>
      if connection.phase = .opened then (.usable number, cache)
      else if connection.phase ≠ .closed ∧ !cache.isStale now connection then
        (.opening number, cache)
      else cache.replace endpoint now
  | none => cache.replace endpoint now

/-- Move a connection on to a phase. Phases never go back, and only a handshake in progress can be
completed. -/
def advance (cache : ConnectionCache) (number : Nat) (phase : ConnectionPhase) :
    ConnectionCache :=
  cache.update number fun connection =>
    if connection.phase.rank < phase.rank ∧
        (phase = .opened → connection.phase ≠ .created) then
      { connection with phase }
    else connection

end ConnectionCache

end CqlClient
