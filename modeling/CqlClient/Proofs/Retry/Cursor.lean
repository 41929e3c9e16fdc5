import CqlClient.Proofs.Session.Execution

namespace CqlClient

open Execution

/-- What can be called on the context of a request. -/
inductive RetryCall
  | next
  | hasNext
  | fail (error : AttemptError)
  | canRetry

/-- What a call gives. -/
inductive RetryAnswer
  | moved (endpoint : Option IpAddress)
  | remains (isLeft : Bool)
  | recorded
  | decided (isAllowed : Bool)

namespace RetryCall

def moves : RetryCall → Bool
  | .next => true
  | _ => false

def error? : RetryCall → Option AttemptError
  | .fail error => some error
  | _ => none

def asks : RetryCall → Bool
  | .canRetry => true
  | _ => false

/-- How far calls move a context. -/
def distance (calls : List RetryCall) : Nat := calls.countP moves

/-- The failures that calls record. -/
def errors (calls : List RetryCall) : List AttemptError := calls.filterMap error?

theorem distance_append (calls more : List RetryCall) :
    distance (calls ++ more) = distance calls + distance more :=
  List.countP_append

theorem errors_append (calls more : List RetryCall) :
    errors (calls ++ more) = errors calls ++ errors more :=
  List.filterMap_append

end RetryCall

namespace RetryAnswer

def moved? : RetryAnswer → Option (Option IpAddress)
  | .moved endpoint => some endpoint
  | _ => none

def isDecision : RetryAnswer → Bool
  | .decided _ => true
  | _ => false

/-- Where calls moved a context, step by step; `none` stands for the end. -/
def stops (answers : List RetryAnswer) : List (Option IpAddress) := answers.filterMap moved?

theorem stops_append (answers more : List RetryAnswer) :
    stops (answers ++ more) = stops answers ++ stops more :=
  List.filterMap_append

end RetryAnswer

namespace RetryContext

open RetryCall RetryAnswer

variable {σ : Type}

/-- Make a call. What a policy answers may depend on what it remembers. -/
def call (policy : RetryContext → StateM σ Bool) (context : RetryContext) :
    RetryCall → StateM σ (RetryAnswer × RetryContext)
  | .next => return (.moved context.next.current, context.next)
  | .hasNext => return (.remains context.hasNext, context)
  | .fail error => return (.recorded, context.fail error)
  | .canRetry => do return (.decided (← policy context), context)

def callAll (policy : RetryContext → StateM σ Bool) (context : RetryContext) :
    List RetryCall → StateM σ (List RetryAnswer × RetryContext)
  | [] => return ([], context)
  | first :: calls => do
      let (answer, context) ← context.call policy first
      let (answers, context) ← context.callAll policy calls
      return (answer :: answers, context)

/-- The candidates after the current one. -/
def ahead (context : RetryContext) : List IpAddress :=
  context.lookahead.toList ++ context.remaining

/-- A context as a cursor on candidates, after some calls with their answers. -/
structure IsCursor (candidates : List IpAddress) (calls : List RetryCall)
    (answers : List RetryAnswer) (context : RetryContext) : Prop where
  standsAt : StandsAt candidates (distance calls) context
  stops : stops answers = (List.range (distance calls)).map fun i => candidates[i + 1]?
  /-- The first candidate, those that the context moved to and those ahead of it are the candidates
  in their order. -/
  partition : candidates.head?.toList ++
    ((RetryAnswer.stops answers).filterMap id ++ context.ahead) = candidates
  hasNext : context.hasNext = context.next.current.isSome
  failures : context.failures = (errors calls).length
  lastError : context.lastError = (errors calls).getLast?

theorem hasNext_eq_isSome (context : RetryContext) :
    context.hasNext = context.next.current.isSome := by
  rw [hasNext, next]
  split <;> simp [*]

theorem ahead_next (context : RetryContext) :
    context.next.current.toList ++ context.next.ahead = context.ahead := by
  cases hlookahead : context.lookahead with
  | none => simp [ahead, next, hlookahead]
  | some endpoint =>
      cases hremaining : context.remaining <;> simp [ahead, next, hlookahead, hremaining]

variable {candidates : List IpAddress} {done : List RetryCall} {given : List RetryAnswer}
  {context : RetryContext}

theorem isCursor_start (first : IpAddress) (others : List IpAddress) :
    IsCursor (first :: others) [] [] ⟨some first, others.head?, others.tail, 0, none⟩ where
  standsAt := ⟨rfl, List.head?_eq_getElem?, List.drop_one.symm⟩
  stops := rfl
  partition := by cases others <;> rfl
  hasNext := hasNext_eq_isSome _
  failures := rfl
  lastError := rfl

theorem IsCursor.next (h : IsCursor candidates done given context) :
    IsCursor candidates (done ++ [.next]) (given ++ [.moved context.next.current])
      context.next := by
  have hnext := h.standsAt.next
  have hdistance : distance (done ++ [.next]) = distance done + 1 := distance_append ..
  have herrors : errors (done ++ [.next]) = errors done :=
    (errors_append ..).trans (List.append_nil _)
  have hstops : RetryAnswer.stops (given ++ [.moved context.next.current]) =
      RetryAnswer.stops given ++ [context.next.current] := stops_append ..
  refine ⟨?_, ?_, ?_, hasNext_eq_isSome _, ?_, ?_⟩
  · rwa [hdistance]
  · rw [hstops, h.stops, hdistance, List.range_succ, List.map_append, hnext.current]
    rfl
  · have hstop : [context.next.current].filterMap id = context.next.current.toList := by
      cases context.next.current <;> rfl
    rw [hstops, List.filterMap_append, hstop, List.append_assoc, ahead_next]
    exact h.partition
  · rw [failures_next, herrors, h.failures]
  · rw [lastError_next, herrors, h.lastError]

theorem IsCursor.fail (h : IsCursor candidates done given context) (error : AttemptError) :
    IsCursor candidates (done ++ [.fail error]) (given ++ [.recorded]) (context.fail error) := by
  have hdistance : distance (done ++ [.fail error]) = distance done := distance_append ..
  have herrors : errors (done ++ [.fail error]) = errors done ++ [error] := errors_append ..
  have hstops : RetryAnswer.stops (given ++ [.recorded]) = RetryAnswer.stops given :=
    (stops_append ..).trans (List.append_nil _)
  refine ⟨?_, ?_, ?_, hasNext_eq_isSome _, ?_, ?_⟩
  · rw [hdistance]
    exact h.standsAt.fail error
  · rw [hstops, h.stops, hdistance]
  · rw [hstops]
    exact h.partition
  · rw [herrors, List.length_append, ← h.failures]
    rfl
  · rw [herrors, List.getLast?_concat]
    rfl

theorem IsCursor.unchanged (h : IsCursor candidates done given context) {call : RetryCall}
    {answer : RetryAnswer} (hmoves : call.moves = false) (herror : call.error? = none)
    (hmoved : answer.moved? = none) :
    IsCursor candidates (done ++ [call]) (given ++ [answer]) context := by
  have hdistance : distance (done ++ [call]) = distance done := by
    rw [distance_append]
    simp [distance, hmoves]
  have herrors : errors (done ++ [call]) = errors done := by
    rw [errors_append]
    simp [errors, herror]
  have hstops : RetryAnswer.stops (given ++ [answer]) = RetryAnswer.stops given := by
    rw [stops_append]
    simp [RetryAnswer.stops, hmoved]
  exact ⟨hdistance ▸ h.standsAt, by rw [hstops, h.stops, hdistance], hstops ▸ h.partition,
    h.hasNext, by rw [herrors, h.failures], by rw [herrors, h.lastError]⟩

theorem IsCursor.call (h : IsCursor candidates done given context)
    (policy : RetryContext → StateM σ Bool) (memory : σ) (call : RetryCall) :
    IsCursor candidates (done ++ [call]) (given ++ [(context.call policy call memory).1.1])
      (context.call policy call memory).1.2 := by
  cases call with
  | next => exact h.next
  | hasNext => exact h.unchanged rfl rfl rfl
  | fail error => exact h.fail error
  | canRetry => exact h.unchanged rfl rfl rfl

theorem IsCursor.callAll (h : IsCursor candidates done given context)
    (policy : RetryContext → StateM σ Bool) (memory : σ) (calls : List RetryCall) :
    IsCursor candidates (done ++ calls) (given ++ (context.callAll policy calls memory).1.1)
      (context.callAll policy calls memory).1.2 := by
  induction calls generalizing done given context memory with
  | nil =>
      rw [List.append_nil]
      change IsCursor candidates done (given ++ []) context
      rwa [List.append_nil]
  | cons first calls ih =>
      -- The first call joins those that were made before.
      have hrest := ih (h.call policy memory first) (context.call policy first memory).2
      rw [List.append_assoc, List.append_assoc] at hrest
      exact hrest

theorem callAll_filter (policy : RetryContext → StateM σ Bool) (memory other : σ)
    (calls : List RetryCall) :
    (context.callAll policy (calls.filter (!·.asks)) other).1 =
      ((context.callAll policy calls memory).1.1.filter (!·.isDecision),
        (context.callAll policy calls memory).1.2) := by
  induction calls generalizing context memory with
  | nil => rfl
  | cons first calls ih =>
      have hrest := @ih (context.call policy first memory).1.2 (context.call policy first memory).2
      have hcons :=
        congrArg (fun rest => ((context.call policy first memory).1.1 :: rest.1, rest.2)) hrest
      cases first with
      | next => exact hcons
      | hasNext => exact hcons
      | fail error => exact hcons
      | canRetry => exact hrest

/-- Calls in any order, also behind the end, find a cursor on the candidates, and whether the policy
was asked among them changes neither the context nor any other answer. -/
theorem isCursor_callAll (policy : RetryContext → StateM σ Bool) (memory : σ) (first : IpAddress)
    (others : List IpAddress) (calls : List RetryCall) :
    ∃ start answers context memory',
      start? (first :: others) = some start ∧
      start.callAll policy calls memory = ((answers, context), memory') ∧
      IsCursor (first :: others) calls answers context ∧
      (start.callAll policy (calls.filter (!·.asks)) memory).1 =
        (answers.filter (!·.isDecision), context) := by
  refine ⟨_, _, _, _, rfl, rfl, ?_, callAll_filter policy memory memory calls⟩
  exact (isCursor_start first others).callAll policy memory calls

end RetryContext

end CqlClient
