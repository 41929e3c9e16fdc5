import CqlClient.Connection.Handshake
import CqlClient.Statement.Prepared

/-!
One connection that several callers use at once. Opening it, closing it, giving up the opening and
the end of its router are processes; every event is one access of one of them to what they share,
so that the events of a run may come in any order.
-/

namespace CqlClient

namespace Lifecycle

/-- What closing a connection does, one after another. -/
inductive ClosingStep
  | markClosed
  | stopRouter
  | failWaiting
  | announce
  deriving DecidableEq, Repr

/-- What shutting a connection down takes. -/
def shutdownSteps : List ClosingStep := [.markClosed, .stopRouter, .failWaiting, .announce]

/-- A process that closes the connection, with the error for those it concerns and what is left to
do. -/
structure Closing where
  error : ConnectionError
  rest : List ClosingStep
  deriving DecidableEq

/-- A call of close. -/
def Closing.ofCall : Closing := ⟨.closed, .markClosed :: shutdownSteps⟩

/-- A router that ended. -/
def Closing.ofRouter (error : ConnectionError) : Closing := ⟨error, [.markClosed, .failWaiting]⟩

/-- Where the call that performs the handshake stands. -/
inductive Opener
  /-- There is no such call yet. -/
  | absent
  /-- It waits for the socket. -/
  | connecting
  /-- It is about to do a step. -/
  | doing (step : Handshake.Step)
  /-- It found the router and is about to hand it a request. -/
  | sending (request : Request) (awaited : Handshake.Awaited)
  /-- It waits for an answer. -/
  | waiting (awaited : Handshake.Awaited)
  /-- It closes the connection, as the handshake failed. -/
  | closing (error : ConnectionError) (rest : List ClosingStep)
  /-- It was given up, which closes the connection. -/
  | abandoning (rest : List ClosingStep)
  /-- It is about to tell everyone how the handshake ended. -/
  | announcing (result : Except ConnectionError Unit)
  | ended (result : Except ConnectionError Unit)
  | abandoned

/-- Whether the handshake was completed. -/
def Opener.isSuccess : Opener → Bool
  | .announcing (.ok ()) | .ended (.ok ()) => true
  | _ => false

/-- What callers ask of a node. -/
inductive Demand
  | execute (statement : Statement)
  | prepare (contents : String)
  | register (events : List EventType)
  | use (keyspace : KeyspaceName)

/-- The request for what a caller asks. -/
def Demand.request : Demand → Request
  | .execute statement => statement.request
  | .prepare contents => .prepare contents
  | .register events => .register events
  | .use keyspace => Handshake.useRequest keyspace

/-- A demand of a caller, with the phase in which it was made. -/
structure Asked where
  phase : ConnectionPhase
  demand : Demand

/-- Where a request comes from. -/
inductive Sender
  | handshake
  /-- A caller, who asked in a phase. -/
  | caller (phase : ConnectionPhase)
  deriving DecidableEq

/-- A connection and the processes around it. Callers are numbered. -/
structure State where
  config : ConnectionConfig
  phase : ConnectionPhase := .created
  /-- Whether requests can be handed to the router. -/
  hasRouter : Bool := false
  /-- Whether the router reads and writes. -/
  routerRuns : Bool := false
  opener : Opener := .absent
  /-- How the requests of the handshake ended. -/
  heard : List (Except AttemptError Response) := []
  /-- What all calls of open are told. -/
  announced : Option (Except ConnectionError Unit) := none
  /-- Calls of open that wait. -/
  waiting : List Nat := []
  /-- Calls of open that waited and returned, with what they returned. -/
  returned : List (Nat × Except ConnectionError Unit) := []
  /-- Calls of close that are under way, and the end of the router. -/
  closings : List Closing := []
  /-- Demands that were let through. -/
  admitted : List Asked := []
  /-- Demands that found the router. -/
  sending : List Asked := []
  /-- Requests that the router took. -/
  wire : List (Sender × Request) := []

/-- One access of a process to what all share. -/
inductive Event
  /-- A call of open begins. -/
  | openCall (caller : Nat)
  /-- A waiting call of open looks for the outcome. -/
  | look (caller : Nat)
  /-- The socket is there, or cannot be had. -/
  | socket (result : Except ConnectionError Unit)
  /-- The opening call does its next step. -/
  | advance
  /-- There is no stream for the request of the opening call. -/
  | noStream
  /-- The wait of the opening call for an answer ends. -/
  | answer (result : Except AttemptError Response)
  /-- The opening call is given up. -/
  | abandon
  /-- A call of close begins. -/
  | closeCall
  /-- A process that closes the connection does its next step. -/
  | advanceClosing (index : Nat)
  /-- The router ends by itself. -/
  | routerEnds (error : ConnectionError)
  /-- The router ends as it was stopped. -/
  | routerStops
  /-- A caller asks for something. -/
  | ask (demand : Demand)
  /-- A demand that was let through looks for the router. -/
  | findRouter (index : Nat)
  /-- A demand that found the router is handed to it. -/
  | submit (index : Nat)

namespace State

/-- What a call of open returns when it finds an outcome. A connection that opened and was closed
since is closed. -/
def resultOf (s : State) : Except ConnectionError Unit → Except ConnectionError Unit
  | .ok () => if s.phase = .closed then .error .closed else .ok ()
  | .error e => .error e

/-- End the wait of the opening call for an answer. -/
def hear (s : State) (result : Except AttemptError Response) : State :=
  match s.opener with
  | .waiting awaited =>
      { s with
        opener := .doing (Handshake.received s.config awaited result)
        heard := s.heard ++ [result] }
  | _ => s

/-- Do a step of closing. An outcome that was announced stays. -/
def close (s : State) (error : ConnectionError) : ClosingStep → State
  | .markClosed => { s with phase := .closed }
  | .stopRouter => { s with hasRouter := false }
  | .failWaiting => s.hear (.error (.ofStreamError (.connectionFailed error)))
  | .announce => { s with announced := some (s.announced.getD (.error error)) }

/-- Begin to close the connection because the handshake failed. -/
def giveUp (s : State) (error : ConnectionError) : State :=
  { s with opener := .closing error shutdownSteps }

/-- Do a step of the handshake. -/
def perform (s : State) : Handshake.Step → State
  | .enter phase next =>
      if s.phase.rank + 1 = phase.rank then { s with phase, opener := .doing next }
      else s.giveUp .closed
  | .send request awaited =>
      if s.hasRouter then
        match Frame.ofRequest request (Handshake.compressionOf s.config awaited) false 0 with
        | .ok _ => { s with opener := .sending request awaited }
        | .error e => s.giveUp (.ofAttempt (.ofFrameError e))
      else s.giveUp (.ofAttempt .connectionClosed)
  | .finish =>
      if s.phase = .closed then s.giveUp .closed
      else { s with phase := .opened, opener := .announcing (.ok ()) }
  | .fail error => s.giveUp error

/-- Do the next step of the opening call, wherever it stands. -/
def advance (s : State) : State :=
  match s.opener with
  | .doing step => s.perform step
  | .sending request awaited =>
      if s.routerRuns then
        { s with opener := .waiting awaited, wire := s.wire ++ [(.handshake, request)] }
      else s.giveUp (.ofAttempt (.broken .routerGone))
  | .closing error (step :: rest) =>
      { s.close error step with opener := .closing error rest }
  | .closing error [] => { s with opener := .announcing (.error error) }
  | .abandoning (step :: rest) => { s.close .closed step with opener := .abandoning rest }
  | .abandoning [] => { s with opener := .abandoned }
  | .announcing result => { s with announced := some result, opener := .ended result }
  | _ => s

/-- Let a caller ask for something, which takes an open connection. -/
def ask (s : State) (demand : Demand) : State :=
  if s.phase = .opened then { s with admitted := s.admitted ++ [⟨s.phase, demand⟩] } else s

/-- Let a demand look for the router. What does not fit the wire format is not sent. -/
def findRouter (s : State) (asked : Asked) : State :=
  if s.hasRouter && (Frame.ofRequest asked.demand.request s.config.compression false 0).isOk then
    { s with sending := s.sending ++ [asked] }
  else s

/-- Hand a demand to the router. -/
def submit (s : State) (asked : Asked) : State :=
  if s.routerRuns then
    { s with wire := s.wire ++ [(.caller asked.phase, asked.demand.request)] }
  else s

/-- The state after an event. An event that cannot happen changes nothing. -/
def apply (s : State) : Event → State
  | .openCall caller =>
      if s.phase = .created then { s with phase := .connecting, opener := .connecting }
      else { s with waiting := s.waiting ++ [caller] }
  | .look caller =>
      match s.announced with
      | some outcome =>
          if caller ∈ s.waiting then
            { s with
              waiting := s.waiting.erase caller
              returned := s.returned ++ [(caller, s.resultOf outcome)] }
          else s
      | none => s
  | .socket result =>
      match s.opener, result with
      | .connecting, .ok () =>
          { s with hasRouter := true, routerRuns := true, opener := .doing Handshake.start }
      | .connecting, .error e => s.giveUp e
      | _, _ => s
  | .advance => s.advance
  | .noStream =>
      match s.opener with
      | .sending _ _ => s.giveUp (.ofAttempt .noFreeStream)
      | _ => s
  | .answer result => s.hear result
  | .abandon =>
      match s.opener with
      | .connecting | .doing _ | .sending _ _ | .waiting _ =>
          { s with opener := .abandoning shutdownSteps }
      | _ => s
  | .closeCall => { s with closings := s.closings ++ [.ofCall] }
  | .advanceClosing index =>
      match s.closings[index]? with
      | some ⟨error, step :: rest⟩ =>
          { s.close error step with closings := s.closings.set index ⟨error, rest⟩ }
      | _ => s
  | .routerEnds error =>
      if s.routerRuns then
        { s with routerRuns := false, closings := s.closings ++ [.ofRouter error] }
      else s
  | .routerStops =>
      if s.hasRouter then s else { s with routerRuns := false }
  | .ask demand => s.ask demand
  | .findRouter index =>
      match s.admitted[index]? with
      | some asked => { s with admitted := s.admitted.eraseIdx index }.findRouter asked
      | none => s
  | .submit index =>
      match s.sending[index]? with
      | some asked => { s with sending := s.sending.eraseIdx index }.submit asked
      | none => s

/-- Close the connection at once, as nobody else gets a turn. -/
def closeAtOnce (s : State) : State :=
  let turns := List.replicate Closing.ofCall.rest.length (.advanceClosing s.closings.length)
  (.closeCall :: turns).foldl apply s

/-- The state of a run from a new connection. -/
def run (config : ConnectionConfig) (events : List Event) : State :=
  events.foldl apply { config }

end State

end Lifecycle

end CqlClient
