import CqlClient.Retry.Policy

/-!
A request that is tried on one candidate after another until it succeeds or the retry policy gives
up. What the nodes do is a state of its own; it decides every outcome. A policy may remember what it
was asked: its answers come out of the same state.
-/

namespace CqlClient

/-- How it went to try a request on an endpoint. A failed attempt tells its connection. -/
inductive Attempt (κ α : Type)
  | notConnected (error : ConnectionError)
  | failed (connection : κ) (error : AttemptError)
  | succeeded (value : α)

/-- Whether the node no longer knows the statement. -/
def AttemptError.isUnprepared : AttemptError → Bool
  | .database (.unprepared _) _ => true
  | _ => false

/-- What nodes with states `σ` do with a request. -/
structure Service (σ κ α : Type) where
  /-- Try the request on an endpoint. -/
  attempt : IpAddress → StateM σ (Attempt κ α)
  /-- Have the statement prepared again on a connection. -/
  prepareAgain : κ → StateM σ (Except AttemptError Unit)

/-- A step of an execution: what was asked of a node or of the retry policy, with the answer. -/
inductive ExecutionStep (κ α : Type)
  | tried (endpoint : IpAddress) (attempt : Attempt κ α)
  /-- The policy was asked whether the execution may go on. -/
  | asked (context : RetryContext) (isAllowed : Bool)
  | preparedAgain (endpoint : IpAddress) (connection : κ) (result : Except AttemptError Unit)

/-- Ask a policy that remembers nothing. -/
def RetryPolicy.asked {σ : Type} (policy : RetryPolicy) (context : RetryContext) : StateM σ Bool :=
  return policy.canRetry context

/-- How far an execution came. -/
inductive Execution (α : Type)
  | trying (context : RetryContext)
  | finished (result : Except ExecutionError α)

namespace Execution

variable {σ κ α : Type}

/-- Whether there is nothing left to do. -/
def isFinished : Execution α → Bool
  | .trying _ => false
  | .finished _ => true

/-- Give up. The error is that of the last attempt. -/
def giveUp (context : RetryContext) : Execution α :=
  match context.lastError with
  | some error => .finished (.error (.lastAttempt error))
  | none => .finished (.error .emptyPlan)

/-- Go on with the next candidate, if there is one. -/
def moveOn (context : RetryContext) : Execution α :=
  if context.next.current.isSome then .trying context.next else giveUp context.next

/-- Go on after a failure was recorded and the policy agreed. A statement that the node no longer
knows is prepared again and tried on the same node. -/
def afterRetry (service : Service σ κ α) (recovers : Bool) (context : RetryContext)
    (endpoint : IpAddress) (error : AttemptError) (connection : Option κ) :
    StateM σ (Execution α × List (ExecutionStep κ α)) := do
  match connection with
  | some connection =>
      if error.isUnprepared && recovers then
        let result ← service.prepareAgain connection
        let next := match result with
          | .ok () => .trying context
          | .error _ => giveUp context
        return (next, [.preparedAgain endpoint connection result])
      else return (moveOn context, [])
  | none => return (moveOn context, [])

/-- Record a failure, and go on if the policy agrees. -/
def afterFailure (service : Service σ κ α) (policy : RetryContext → StateM σ Bool)
    (recovers : Bool) (context : RetryContext) (endpoint : IpAddress) (error : AttemptError)
    (connection : Option κ) : StateM σ (Execution α × List (ExecutionStep κ α)) := do
  let context := context.fail error
  if ← policy context then
    let (next, steps) ← afterRetry service recovers context endpoint error connection
    return (next, .asked context true :: steps)
  else return (giveUp context, [.asked context false])

/-- What to do after an attempt. -/
def afterAttempt (service : Service σ κ α) (policy : RetryContext → StateM σ Bool)
    (recovers : Bool) (context : RetryContext) (endpoint : IpAddress) :
    Attempt κ α → StateM σ (Execution α × List (ExecutionStep κ α))
  | .succeeded value => return (.finished (.ok value), [])
  | .notConnected error =>
      afterFailure service policy recovers context endpoint (.connection error) none
  | .failed connection error =>
      afterFailure service policy recovers context endpoint error (some connection)

/-- Try the current candidate and decide what to do next. -/
def step (service : Service σ κ α) (policy : RetryContext → StateM σ Bool) (recovers : Bool)
    (context : RetryContext) : StateM σ (Execution α × List (ExecutionStep κ α)) := do
  match context.current with
  | none => return (giveUp context, [])
  | some endpoint =>
      let attempt ← service.attempt endpoint
      let (next, steps) ← afterAttempt service policy recovers context endpoint attempt
      return (next, .tried endpoint attempt :: steps)

/-- At most `fuel` attempts of an execution, with all its steps. -/
def runFor (service : Service σ κ α) (policy : RetryContext → StateM σ Bool) (recovers : Bool) :
    (fuel : Nat) → Execution α → StateM σ (Execution α × List (ExecutionStep κ α))
  | 0, execution => return (execution, [])
  | fuel + 1, execution => do
      match execution with
      | .finished result => return (.finished result, [])
      | .trying context =>
          let (next, first) ← step service policy recovers context
          let (last, others) ← runFor service policy recovers fuel next
          return (last, first ++ others)

/-- An execution over given candidates that has not begun. -/
def ofCandidates (candidates : List IpAddress) : Execution α :=
  match RetryContext.start? candidates with
  | some context => .trying context
  | none => .finished (.error .emptyPlan)

end Execution

end CqlClient
