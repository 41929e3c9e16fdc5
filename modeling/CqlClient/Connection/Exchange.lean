import CqlClient.Connection.Pending

/-!
Requests and answers on one connection. The node answers every frame at most once, on the stream of
the frame, and may take any time to do so.
-/

namespace CqlClient

/-- A frame of a request on its way through a node. -/
structure Inquiry where
  stream : Int8
  /-- The number of the request. -/
  request : Nat
  deriving DecidableEq

/-- A connection with the node behind it. An answer is known by the request that it answers. -/
structure Exchange where
  connection : ConnectionId
  pending : PendingRequests
  /-- Frames that the node has not answered, in the order in which they were sent. -/
  unanswered : List Inquiry := []
  /-- How the waits of requests ended. -/
  deliveries : List (Delivery Nat) := []

namespace Exchange

/-- Something that happens on the connection. -/
inductive Event
  /-- A request is sent. -/
  | send (now : Moment)
  /-- The node answers a frame that it has not answered. -/
  | answer (index : Nat)
  /-- Requests that are too old are given up. -/
  | sweep (now : Moment)
  deriving DecidableEq

/-- The exchange after an event. A request without a free stream is not sent. -/
def apply (x : Exchange) : Event → Exchange
  | .send now =>
      match x.pending.allocate x.connection now with
      | (some (stream, request), pending) =>
          { x with pending, unanswered := x.unanswered ++ [⟨stream, request⟩] }
      | (none, pending) => { x with pending }
  | .answer index =>
      match x.unanswered[index]? with
      | some inquiry =>
          let (delivery, pending) :=
            x.pending.complete x.connection inquiry.stream inquiry.request
          { x with
            pending
            unanswered := x.unanswered.eraseIdx index
            deliveries := x.deliveries ++ delivery.toList }
      | none => x
  | .sweep now =>
      let (expired, pending) := x.pending.sweep now
      { x with pending, deliveries := x.deliveries ++ expired }

/-- A connection on which nothing was sent. -/
def start (connection : ConnectionId) (deadline : Duration) : Exchange :=
  { connection, pending := { deadline } }

/-- The exchange after events from the start. -/
def run (connection : ConnectionId) (deadline : Duration) (events : List Event) : Exchange :=
  events.foldl apply (start connection deadline)

/-- Whether every request that was handed an answer got its own. -/
def AnswersOwnRequests (x : Exchange) : Prop :=
  ∀ delivery ∈ x.deliveries, ∀ answered, delivery.outcome = .ok answered →
    answered = delivery.request

end Exchange

end CqlClient
