import CqlClient.Session.Execution

namespace CqlClient

variable {σ κ α β : Type}

/-- A call of an execution to a node or to the retry policy, with the answer. -/
inductive Call (κ α : Type)
  | attempt (endpoint : IpAddress) (answer : Attempt κ α)
  | canRetry (context : RetryContext) (answer : Bool)
  | prepareAgain (connection : κ) (answer : Except AttemptError Unit)

namespace Call

/-- Do an action and put the call that it is, with its answer, at the end of a record. -/
def recording (call : β → Call κ α) (action : StateM σ β) : StateM (σ × List (Call κ α)) β :=
  fun (nodes, calls) =>
    let (answer, nodes) := action.run nodes
    (answer, (nodes, calls ++ [call answer]))

/-- A service that records what is asked of it. -/
def ofService (service : Service σ κ α) : Service (σ × List (Call κ α)) κ α where
  attempt endpoint := recording (.attempt endpoint) (service.attempt endpoint)
  prepareAgain connection := recording (.prepareAgain connection) (service.prepareAgain connection)

/-- A policy that records what it is asked. -/
def ofPolicy (policy : RetryContext → StateM σ Bool) (context : RetryContext) :
    StateM (σ × List (Call κ α)) Bool :=
  recording (.canRetry context) (policy context)

end Call

/-- The call that a step tells of. -/
def ExecutionStep.call : ExecutionStep κ α → Call κ α
  | .tried endpoint answer => .attempt endpoint answer
  | .asked context answer => .canRetry context answer
  | .preparedAgain _ connection answer => .prepareAgain connection answer

namespace Execution

open Call

variable {service : Service σ κ α} {policy : RetryContext → StateM σ Bool} {recovers : Bool}
  {nodes : σ} {calls : List (Call κ α)}

/-- What was done with recording, if without it steps were taken: the same, and each step is in the
record as the call that it tells of. -/
def withCalls (calls : List (Call κ α)) (done : (Execution α × List (ExecutionStep κ α)) × σ) :
    (Execution α × List (ExecutionStep κ α)) × (σ × List (Call κ α)) :=
  (done.1, (done.2, calls ++ done.1.2.map ExecutionStep.call))

theorem withCalls_nil (calls : List (Call κ α)) (next : Execution α) (nodes : σ) :
    withCalls calls ((next, []), nodes) = ((next, []), (nodes, calls)) := by
  rw [withCalls, List.map_nil, List.append_nil]

theorem withCalls_append (calls : List (Call κ α)) (first : List (ExecutionStep κ α))
    (done : (Execution α × List (ExecutionStep κ α)) × σ) :
    let others := withCalls (calls ++ first.map ExecutionStep.call) done
    ((others.1.1, first ++ others.1.2), others.2) =
      withCalls calls ((done.1.1, first ++ done.1.2), done.2) := by
  simp only [withCalls, List.map_append, List.append_assoc]

theorem afterRetry_recording (context : RetryContext) (endpoint : IpAddress) (error : AttemptError)
    (connection : Option κ) :
    afterRetry (ofService service) recovers context endpoint error connection (nodes, calls) =
      withCalls calls (afterRetry service recovers context endpoint error connection nodes) := by
  cases connection with
  | none => exact (withCalls_nil calls _ nodes).symm
  | some known =>
      simp only [afterRetry]
      split
      · rfl
      · exact (withCalls_nil calls _ nodes).symm

theorem afterFailure_recording (context : RetryContext) (endpoint : IpAddress)
    (error : AttemptError) (connection : Option κ) :
    afterFailure (ofService service) (ofPolicy policy) recovers context endpoint error connection
        (nodes, calls) =
      withCalls calls
        (afterFailure service policy recovers context endpoint error connection nodes) := by
  have hasked : ofPolicy policy (context.fail error) (nodes, calls) =
      let answer := policy (context.fail error) nodes
      (answer.1, (answer.2, calls ++ [.canRetry (context.fail error) answer.1])) := rfl
  simp only [afterFailure, bind, StateT.bind, hasked]
  rcases policy (context.fail error) nodes with ⟨isAllowed, later⟩
  cases isAllowed with
  | false => rfl
  | true =>
      simp only [if_true, afterRetry_recording, bind, StateT.bind]
      exact withCalls_append calls [.asked (context.fail error) true] _

theorem afterAttempt_recording (context : RetryContext) (endpoint : IpAddress)
    (attempt : Attempt κ α) :
    afterAttempt (ofService service) (ofPolicy policy) recovers context endpoint attempt
        (nodes, calls) =
      withCalls calls (afterAttempt service policy recovers context endpoint attempt nodes) := by
  cases attempt with
  | succeeded value => exact (withCalls_nil calls _ nodes).symm
  | notConnected error => exact afterFailure_recording context endpoint _ none
  | failed connection error => exact afterFailure_recording context endpoint error _

theorem step_recording (context : RetryContext) :
    step (ofService service) (ofPolicy policy) recovers context (nodes, calls) =
      withCalls calls (step service policy recovers context nodes) := by
  cases hcurrent : context.current with
  | none =>
      simp only [step, hcurrent]
      exact (withCalls_nil calls _ nodes).symm
  | some endpoint =>
      have hcalled : (ofService service).attempt endpoint (nodes, calls) =
          let answer := service.attempt endpoint nodes
          (answer.1, (answer.2, calls ++ [.attempt endpoint answer.1])) := rfl
      simp only [step, hcurrent, bind, StateT.bind, hcalled, afterAttempt_recording]
      exact withCalls_append calls [.tried endpoint (service.attempt endpoint nodes).1] _

/-- The steps of an execution are the calls that were made, each with the answer that it got, in
their order; and to record them changes nothing. -/
theorem runFor_recording (fuel : Nat) (execution : Execution α) (nodes : σ)
    (calls : List (Call κ α)) :
    runFor (ofService service) (ofPolicy policy) recovers fuel execution (nodes, calls) =
      withCalls calls (runFor service policy recovers fuel execution nodes) := by
  -- By induction on the attempts left. What was recorded before grows, so it is general.
  induction fuel generalizing execution nodes calls with
  | zero => exact (withCalls_nil calls execution nodes).symm
  | succ fuel ih =>
      cases execution with
      | finished result => exact (withCalls_nil calls _ nodes).symm
      | trying context =>
          simp only [runFor, bind, StateT.bind, step_recording, ih, withCalls]
          exact withCalls_append calls (step service policy recovers context nodes).1.2 _

end Execution

end CqlClient
