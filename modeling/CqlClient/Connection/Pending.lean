import CqlClient.Assoc
import CqlClient.Failure.Attempt

/-!
Requests that wait for their answers, on all connections of a client. A request is known by its
connection and the stream of its frame. It leaves the table once: when its answer comes, when its
connection fails, when it is given back, or when a sweep finds it too old.
-/

namespace CqlClient

/-- Number of a connection of a client. -/
abbrev ConnectionId := UInt64

/-- A reading of the clock of a client, in nanoseconds. -/
abbrev Moment := Nat

/-- Time from one moment to a later one; none if it is earlier. -/
def Duration.between (start finish : Moment) : Duration := ⟨finish - start⟩

/-- Whether a span of time is over. What is done before any time passes is in time, however short
the span. -/
def Duration.isOver (limit : Duration) (start now : Moment) : Bool :=
  start < now && limit.nanoseconds ≤ (Duration.between start now).nanoseconds

/-- A request that waits for its answer. -/
structure WaitingRequest where
  /-- Requests are numbered in the order in which they were registered. -/
  request : Nat
  since : Moment
  deriving DecidableEq

/-- How the wait of a request ended. -/
structure Delivery (ρ : Type) where
  request : Nat
  outcome : Except StreamError ρ

/-- All waiting requests. -/
structure PendingRequests where
  /-- The age at which a request is given up. -/
  deadline : Duration
  entries : Assoc (ConnectionId × Int8) WaitingRequest := .empty
  /-- Where the next search for a free stream begins, on whatever connection. It wraps around. -/
  streamCounter : UInt32 := 0
  /-- Number of the next connection. -/
  connectionCounter : ConnectionId := 0
  /-- Number of the next request. -/
  registered : Nat := 0

namespace PendingRequests

/-- Streams of a connection; those with negative numbers are not for requests. -/
def streamCount : Nat := 128

/-- Number of waiting requests. -/
def size (p : PendingRequests) : Nat := p.entries.size

/-- A number for a new connection. -/
def newConnection (p : PendingRequests) : ConnectionId × PendingRequests :=
  (p.connectionCounter, { p with connectionCounter := p.connectionCounter + 1 })

/-- The stream that a search starting at a counter tries after `offset` others. -/
def streamAt (counter : UInt32) (offset : Nat) : Int8 :=
  ((counter + UInt32.ofNat offset) &&& 0x7F).toUInt8.toInt8

/-- The streams in the order in which they are tried. -/
def streamsFrom (counter : UInt32) : List Int8 :=
  (List.range streamCount).map (streamAt counter)

/-- The first stream of a connection on which nothing waits. -/
def freeStream? (p : PendingRequests) (connection : ConnectionId) : Option Int8 :=
  (streamsFrom p.streamCounter).find? fun stream => !p.entries.contains (connection, stream)

/-- Register a request on a free stream. Gives the stream and the number of the request, or nothing
if all streams of the connection are taken. -/
def allocate (p : PendingRequests) (connection : ConnectionId) (now : Moment) :
    Option (Int8 × Nat) × PendingRequests :=
  let next := { p with streamCounter := p.streamCounter + 1 }
  match p.freeStream? connection with
  | none => (none, next)
  | some stream =>
      (some (stream, p.registered),
        { next with
          entries := p.entries.insert (connection, stream) ⟨p.registered, now⟩
          registered := p.registered + 1 })

/-- End the wait of the request on a stream, if there is one, without an outcome. -/
def release (p : PendingRequests) (connection : ConnectionId) (stream : Int8) :
    PendingRequests :=
  { p with entries := p.entries.erase (connection, stream) }

/-- Hand an answer to the request that waits on its stream, if there is one. -/
def complete {ρ : Type} (p : PendingRequests) (connection : ConnectionId) (stream : Int8)
    (reply : ρ) : Option (Delivery ρ) × PendingRequests :=
  match p.entries.get? (connection, stream) with
  | some waiting => (some ⟨waiting.request, .ok reply⟩, p.release connection stream)
  | none => (none, p)

/-- Take out all requests that satisfy a condition, each with the same failure. -/
def fail {ρ : Type} (p : PendingRequests)
    (condition : ConnectionId × Int8 → WaitingRequest → Bool) (error : StreamError) :
    List (Delivery ρ) × PendingRequests :=
  ((p.entries.entries.filter fun entry => condition entry.1 entry.2).map fun entry =>
      ⟨entry.2.request, .error error⟩,
    { p with entries := p.entries.filter fun key waiting => !condition key waiting })

/-- Whether a request has reached the deadline. -/
def isExpired (p : PendingRequests) (now : Moment) (waiting : WaitingRequest) : Bool :=
  p.deadline.nanoseconds ≤ (Duration.between waiting.since now).nanoseconds

/-- Fail every request that has reached the deadline. -/
def sweep {ρ : Type} (p : PendingRequests) (now : Moment) : List (Delivery ρ) × PendingRequests :=
  p.fail (fun _ waiting => p.isExpired now waiting) (.timeout p.deadline)

/-- Fail every request of a connection. -/
def failConnection {ρ : Type} (p : PendingRequests) (connection : ConnectionId)
    (error : ConnectionError) : List (Delivery ρ) × PendingRequests :=
  p.fail (fun key _ => key.1 = connection) (.connectionFailed error)

end PendingRequests

/-- A step of the table of waiting requests. -/
inductive PendingOperation (ρ : Type)
  | allocate (connection : ConnectionId) (now : Moment)
  | complete (connection : ConnectionId) (stream : Int8) (reply : ρ)
  | release (connection : ConnectionId) (stream : Int8)
  | sweep (now : Moment)
  | failConnection (connection : ConnectionId) (error : ConnectionError)

namespace PendingRequests

variable {ρ : Type}

/-- The waits that a step ends, and the table after it. -/
def apply (p : PendingRequests) : PendingOperation ρ → List (Delivery ρ) × PendingRequests
  | .allocate connection now => ([], (p.allocate connection now).2)
  | .complete connection stream reply =>
      let (delivery, p) := p.complete connection stream reply
      (delivery.toList, p)
  | .release connection stream => ([], p.release connection stream)
  | .sweep now => p.sweep now
  | .failConnection connection error => p.failConnection connection error

/-- The waits that steps end one after another, and the table after them. -/
def applyAll (p : PendingRequests) : List (PendingOperation ρ) →
    List (Delivery ρ) × PendingRequests
  | [] => ([], p)
  | operation :: rest =>
      let (first, p) := p.apply operation
      let (others, p) := p.applyAll rest
      (first ++ others, p)

end PendingRequests

end CqlClient
