import CqlClient.Proofs.Session.Calls

/-!
What an execution does, whatever the nodes and the retry policy answer. It tries the candidates in
their order, one attempt for each but where a statement was prepared again, and its error is that of
the last attempt.
-/

namespace CqlClient

variable {σ κ α : Type}

theorem RetryContext.failures_next (context : RetryContext) :
    context.next.failures = context.failures := by
  unfold next
  split
  · rfl
  · rfl

theorem RetryContext.lastError_next (context : RetryContext) :
    context.next.lastError = context.lastError := by
  unfold next
  split
  · rfl
  · rfl

/-- The failure that an attempt ended in. -/
def Attempt.error? : Attempt κ α → Option AttemptError
  | .notConnected error => some (.connection error)
  | .failed _ error => some error
  | .succeeded _ => none

namespace ExecutionStep

def attempt? : ExecutionStep κ α → Option (Attempt κ α)
  | .tried _ attempt => some attempt
  | _ => none

/-- Whether a statement was prepared again. -/
def isRecovery : ExecutionStep κ α → Bool
  | .preparedAgain _ _ (.ok ()) => true
  | _ => false

/-- Whether the next step is an attempt. -/
def goesOn : ExecutionStep κ α → Bool
  | .tried _ _ => false
  | .asked _ isAllowed => isAllowed
  | .preparedAgain _ _ result => result.isOk

/-- Whether there is no next step. -/
def isEnd : ExecutionStep κ α → Bool
  | .tried _ attempt => attempt.error?.isNone
  | .asked _ isAllowed => !isAllowed
  | .preparedAgain _ _ result => !result.isOk

theorem isEnd_eq_false_of_goesOn {step : ExecutionStep κ α} (h : step.goesOn = true) :
    step.isEnd = false := by
  cases step with
  | tried endpoint attempt => exact absurd h (by simp [goesOn])
  | asked context isAllowed => rw [isEnd, Bool.not_eq_false']; exact h
  | preparedAgain endpoint connection result => rw [isEnd, Bool.not_eq_false']; exact h

end ExecutionStep

namespace Execution

open ExecutionStep

variable {candidates : List IpAddress} {recovers : Bool} {history steps : List (ExecutionStep κ α)}
  {context : RetryContext} {endpoint : IpAddress}

def attempts (steps : List (ExecutionStep κ α)) : List (Attempt κ α) := steps.filterMap attempt?

/-- Whether some steps left a number of candidates behind. Every attempt leaves one behind, but if
the statement was prepared again its candidate is tried once more. -/
def LeftBehind (count : Nat) (steps : List (ExecutionStep κ α)) : Prop :=
  count + steps.countP isRecovery = (attempts steps).length

/-- Whether a step may come after others. -/
def Follows (candidates : List IpAddress) (recovers : Bool) (before : List (ExecutionStep κ α)) :
    ExecutionStep κ α → Prop
  -- The candidate that comes next is tried, unless the step before was the last one.
  | .tried endpoint _ =>
      (∀ last ∈ before.getLast?, last.goesOn = true) ∧
        ∃ count, LeftBehind count before ∧ candidates[count]? = some endpoint
  -- The policy is asked about the failure of the attempt just made.
  | .asked context _ => ∃ earlier endpoint attempt,
      before = earlier ++ [.tried endpoint attempt] ∧ attempt.error?.isSome ∧
        context.current = some endpoint ∧ context.lastError = attempt.error? ∧
        context.failures = (attempts before).length
  -- A statement is prepared again where it was not known, if the policy agreed.
  | .preparedAgain endpoint connection _ => recovers = true ∧ ∃ earlier error context,
      before = earlier ++ [.tried endpoint (.failed connection error), .asked context true] ∧
        error.isUnprepared = true

def EachFollows (candidates : List IpAddress) (recovers : Bool) (steps : List (ExecutionStep κ α)) :
    Prop :=
  ∀ before step after, steps = before ++ step :: after → Follows candidates recovers before step

/-- Whether a result is what some steps came to. -/
def Concludes (candidates : List IpAddress) (steps : List (ExecutionStep κ α)) :
    Except ExecutionError α → Prop
  | .ok value => ∃ before endpoint, steps = before ++ [.tried endpoint (.succeeded value)]
  | .error error => (candidates = [] ∧ steps = [] ∧ error = .emptyPlan) ∨
      ∃ attempt failure, (attempts steps).getLast? = some attempt ∧ attempt.error? = some failure ∧
        error = .lastAttempt failure ∧
        (LeftBehind candidates.length steps ∨ ∃ last ∈ steps.getLast?, last.isEnd = true)

/-- What is true of an execution over candidates after some attempts. -/
structure Orderly (candidates : List IpAddress) (recovers : Bool) (fuel : Nat)
    (execution : Execution α) (steps : List (ExecutionStep κ α)) : Prop where
  follows : EachFollows candidates recovers steps
  /-- Nothing comes after a success, a refusal or a statement that could not be prepared again. -/
  ends : ∀ before step after, steps = before ++ step :: after → step.isEnd = true → after = []
  concludes : ∀ result, execution = .finished result → Concludes candidates steps result
  succeeds : ∀ endpoint value, .tried endpoint (.succeeded value) ∈ steps →
    execution = .finished (.ok value)
  /-- There are no more attempts than candidates but for statements that were prepared again. -/
  underway : ∀ context, execution = .trying context →
    (attempts steps).length = fuel ∧ fuel < candidates.length + steps.countP isRecovery ∧
      ∀ step ∈ steps, step.isEnd = false

/-- Where a context stands among the candidates. -/
structure StandsAt (candidates : List IpAddress) (position : Nat) (context : RetryContext) :
    Prop where
  current : context.current = candidates[position]?
  lookahead : context.lookahead = candidates[position + 1]?
  remaining : context.remaining = candidates.drop (position + 2)

/-- What a context knows of the steps so far. -/
structure Underway (candidates : List IpAddress) (recovers : Bool)
    (history : List (ExecutionStep κ α)) (context : RetryContext) : Prop where
  follows : EachFollows candidates recovers history
  goesOn : ∀ last ∈ history.getLast?, last.goesOn = true
  failures : context.failures = (attempts history).length
  standsAt : ∃ position, LeftBehind position history ∧ position < candidates.length ∧
    StandsAt candidates position context

/-- What is true of an execution and its steps at any time. -/
def Accounts (candidates : List IpAddress) (recovers : Bool) (history : List (ExecutionStep κ α)) :
    Execution α → Prop
  | .trying context => Underway candidates recovers history context
  | .finished result => EachFollows candidates recovers history ∧
      Concludes candidates history result

/-- How it can go to try a candidate. -/
inductive Round (recovers : Bool) (context : RetryContext) (endpoint : IpAddress) :
    Execution α → List (ExecutionStep κ α) → Prop
  | succeeded (value : α) :
      Round recovers context endpoint (.finished (.ok value)) [.tried endpoint (.succeeded value)]
  | refused {attempt : Attempt κ α} {error : AttemptError} (failed : attempt.error? = some error) :
      Round recovers context endpoint (giveUp (context.fail error))
        [.tried endpoint attempt, .asked (context.fail error) false]
  | movedOn {attempt : Attempt κ α} {error : AttemptError} (failed : attempt.error? = some error) :
      Round recovers context endpoint (moveOn (context.fail error))
        [.tried endpoint attempt, .asked (context.fail error) true]
  | recovered {connection : κ} {error : AttemptError} (hrecovers : recovers = true)
      (unprepared : error.isUnprepared = true) :
      Round recovers context endpoint (.trying (context.fail error))
        [.tried endpoint (.failed connection error), .asked (context.fail error) true,
          .preparedAgain endpoint connection (.ok ())]
  | notRecovered {connection : κ} {error : AttemptError} (hrecovers : recovers = true)
      (unprepared : error.isUnprepared = true) (reason : AttemptError) :
      Round recovers context endpoint (giveUp (context.fail error))
        [.tried endpoint (.failed connection error), .asked (context.fail error) true,
          .preparedAgain endpoint connection (.error reason)]

theorem round_afterFailure (service : Service σ κ α) (policy : RetryContext → StateM σ Bool)
    {attempt : Attempt κ α} {error : AttemptError} (failed : attempt.error? = some error)
    {connection : Option κ}
    (hconnection : ∀ known ∈ connection, attempt = .failed known error) (nodes : σ) :
    Round recovers context endpoint
      (afterFailure service policy recovers context endpoint error connection nodes).1.1
      (.tried endpoint attempt ::
        (afterFailure service policy recovers context endpoint error connection nodes).1.2) := by
  rcases hanswer : policy (context.fail error) nodes with ⟨isAllowed, later⟩
  simp only [afterFailure, bind, StateT.bind, hanswer]
  cases isAllowed with
  | false => exact .refused failed
  | true =>
      cases connection with
      | none => exact .movedOn failed
      | some known =>
          obtain rfl := hconnection known rfl
          by_cases hagain : (error.isUnprepared && recovers) = true
          · simp only [afterRetry, hagain, bind, StateT.bind, if_true]
            rw [Bool.and_eq_true] at hagain
            rcases service.prepareAgain known later with ⟨result | result, last⟩
            · exact .notRecovered hagain.2 hagain.1 result
            · exact .recovered hagain.2 hagain.1
          · simp only [afterRetry, if_neg hagain, if_true]
            exact .movedOn failed

theorem round_step (service : Service σ κ α) (policy : RetryContext → StateM σ Bool)
    (recovers : Bool) (hcurrent : context.current = some endpoint) (nodes : σ) :
    Round recovers context endpoint (step service policy recovers context nodes).1.1
      (step service policy recovers context nodes).1.2 := by
  rcases hattempt : service.attempt endpoint nodes with ⟨attempt, later⟩
  simp only [step, hcurrent, bind, StateT.bind, hattempt]
  cases attempt with
  | succeeded value => exact .succeeded value
  | notConnected error => exact round_afterFailure service policy rfl (by simp) later
  | failed connection error => exact round_afterFailure service policy rfl (by simp) later

@[simp]
theorem attempts_append (first second : List (ExecutionStep κ α)) :
    attempts (first ++ second) = attempts first ++ attempts second :=
  List.filterMap_append

@[simp]
theorem attempts_nil : attempts ([] : List (ExecutionStep κ α)) = [] := rfl

@[simp]
theorem attempts_tried (endpoint : IpAddress) (attempt : Attempt κ α)
    (rest : List (ExecutionStep κ α)) :
    attempts (.tried endpoint attempt :: rest) = attempt :: attempts rest := rfl

@[simp]
theorem attempts_asked (context : RetryContext) (isAllowed : Bool)
    (rest : List (ExecutionStep κ α)) :
    attempts (.asked context isAllowed :: rest) = attempts rest := rfl

@[simp]
theorem attempts_preparedAgain (endpoint : IpAddress) (connection : κ)
    (result : Except AttemptError Unit) (rest : List (ExecutionStep κ α)) :
    attempts (.preparedAgain endpoint connection result :: rest) = attempts rest := rfl

theorem LeftBehind.append {count more : Nat} (h : LeftBehind count history)
    (hsteps : LeftBehind more steps) : LeftBehind (count + more) (history ++ steps) := by
  rw [LeftBehind] at h hsteps ⊢
  rw [List.countP_append, attempts_append, List.length_append]
  omega

theorem eachFollows_nil : EachFollows candidates recovers ([] : List (ExecutionStep κ α)) := by
  intro before step after hsplit
  simp at hsplit

theorem EachFollows.concat (h : EachFollows candidates recovers history)
    {last : ExecutionStep κ α} (hlast : Follows candidates recovers history last) :
    EachFollows candidates recovers (history ++ [last]) := by
  intro before step after hsplit
  rcases List.eq_nil_or_concat after with rfl | ⟨rest, final, rfl⟩
  · obtain ⟨rfl, hsame⟩ := List.append_inj' hsplit rfl
    rw [List.singleton_inj] at hsame
    exact hsame ▸ hlast
  · rw [List.concat_eq_append, ← List.cons_append, ← List.append_assoc] at hsplit
    exact h before step rest (List.append_inj' hsplit rfl).1

theorem EachFollows.eq_nil_of_isEnd (h : EachFollows candidates recovers steps)
    {before after : List (ExecutionStep κ α)} {step : ExecutionStep κ α}
    (hsplit : steps = before ++ step :: after) (hend : step.isEnd = true) : after = [] := by
  cases after with
  | nil => rfl
  | cons next rest =>
      -- Whatever the next step is, it could not follow one that is an end.
      have hnext := h (before ++ [step]) next rest (by simpa using hsplit)
      cases next with
      | tried endpoint attempt =>
          exact absurd hend (by rw [isEnd_eq_false_of_goesOn (hnext.1 step (by simp))]; simp)
      | asked context isAllowed =>
          obtain ⟨earlier, endpoint, attempt, hlast, hfailed, -⟩ := hnext
          obtain ⟨-, hstep⟩ := List.append_inj' hlast rfl
          obtain rfl := List.singleton_inj.mp hstep
          simp_all [isEnd]
      | preparedAgain endpoint connection result =>
          obtain ⟨-, earlier, error, context, hlast, -⟩ := hnext
          rw [List.append_cons earlier] at hlast
          have hstep := List.singleton_inj.mp (List.append_inj' hlast rfl).2
          rw [hstep] at hend
          simp [isEnd] at hend

theorem StandsAt.fail {position : Nat} (h : StandsAt candidates position context)
    (error : AttemptError) : StandsAt candidates position (context.fail error) :=
  ⟨h.current, h.lookahead, h.remaining⟩

theorem StandsAt.next {position : Nat} (h : StandsAt candidates position context) :
    StandsAt candidates (position + 1) context.next := by
  have hlookahead := h.lookahead
  cases hnext : context.lookahead with
  | none =>
      rw [hnext, eq_comm, List.getElem?_eq_none_iff] at hlookahead
      refine ⟨?_, ?_, ?_⟩
      · rw [List.getElem?_eq_none_iff.mpr hlookahead, RetryContext.next, hnext]
      · rw [List.getElem?_eq_none_iff.mpr (by omega), RetryContext.next, hnext]
      · rw [RetryContext.next, hnext]
        change context.remaining = _
        rw [h.remaining, List.drop_of_length_le (by omega), List.drop_of_length_le (by omega)]
  | some endpoint =>
      rw [hnext] at hlookahead
      refine ⟨?_, ?_, ?_⟩
      · rw [← hlookahead, RetryContext.next, hnext]
      · rw [RetryContext.next, hnext]
        change context.remaining.head? = _
        rw [h.remaining, List.head?_drop]
      · rw [RetryContext.next, hnext]
        change context.remaining.tail = _
        rw [h.remaining, List.tail_drop]

theorem Underway.isEnd_eq_false (h : Underway candidates recovers history context)
    {step : ExecutionStep κ α} (hstep : step ∈ history) : step.isEnd = false := by
  obtain ⟨before, after, hsplit⟩ := List.append_of_mem hstep
  cases hend : step.isEnd with
  | false => rfl
  | true =>
      obtain rfl := h.follows.eq_nil_of_isEnd hsplit hend
      rw [isEnd_eq_false_of_goesOn (h.goesOn step (by simp [hsplit]))] at hend
      exact hend.symm

namespace Underway

variable {attempt : Attempt κ α} {error : AttemptError}

theorem follows_tried (h : Underway candidates recovers history context)
    (hcurrent : context.current = some endpoint) (attempt : Attempt κ α) :
    EachFollows candidates recovers (history ++ [.tried endpoint attempt]) := by
  obtain ⟨position, hbehind, -, hstands⟩ := h.standsAt
  exact h.follows.concat ⟨h.goesOn, position, hbehind, hstands.current.symm.trans hcurrent⟩

theorem follows_asked (h : Underway candidates recovers history context)
    (hcurrent : context.current = some endpoint) (failed : attempt.error? = some error)
    (isAllowed : Bool) : EachFollows candidates recovers
      (history ++ [.tried endpoint attempt, .asked (context.fail error) isAllowed]) := by
  rw [List.append_cons]
  refine (h.follows_tried hcurrent attempt).concat ⟨history, endpoint, attempt, rfl, ?_⟩
  exact ⟨by rw [failed, Option.isSome_some], hcurrent, failed.symm,
    by simp [RetryContext.fail, h.failures]⟩

theorem follows_preparedAgain (h : Underway candidates recovers history context)
    (hcurrent : context.current = some endpoint) (hrecovers : recovers = true)
    (unprepared : error.isUnprepared = true) (connection : κ)
    (result : Except AttemptError Unit) : EachFollows candidates recovers
      (history ++ [.tried endpoint (.failed connection error), .asked (context.fail error) true,
        .preparedAgain endpoint connection result]) := by
  have failed : (Attempt.failed connection error : Attempt κ α).error? = some error := rfl
  rw [List.append_cons, List.append_cons, List.append_assoc history]
  exact (h.follows_asked hcurrent failed true).concat
    ⟨hrecovers, history, error, _, rfl, unprepared⟩

end Underway

theorem concludes_giveUp {attempt : Attempt κ α} {error : AttemptError}
    (failed : attempt.error? = some error) (hlast : (attempts steps).getLast? = some attempt)
    (hreason : LeftBehind candidates.length steps ∨ ∃ last ∈ steps.getLast?, last.isEnd = true) :
    Concludes (α := α) candidates steps (.error (.lastAttempt error)) :=
  .inr ⟨attempt, error, hlast, failed, rfl, hreason⟩

theorem Underway.round (h : Underway candidates recovers history context)
    (hcurrent : context.current = some endpoint) {next : Execution α}
    (hround : Round recovers context endpoint next steps) :
    Accounts candidates recovers (history ++ steps) next := by
  obtain ⟨position, hbehind, hinside, hstands⟩ := h.standsAt
  cases hround with
  | succeeded value => exact ⟨h.follows_tried hcurrent _, history, endpoint, rfl⟩
  | refused failed =>
      refine ⟨h.follows_asked hcurrent failed false, concludes_giveUp failed ?_ (.inr ?_)⟩
      · simp
      · simp [isEnd]
  | @movedOn attempt error failed =>
      have hfollows := h.follows_asked hcurrent failed true
      have hnext := (hstands.fail error).next
      rw [moveOn]
      split
      · next hsome =>
          rw [hnext.current, Option.isSome_iff_ne_none, ne_eq, List.getElem?_eq_none_iff,
            Nat.not_le] at hsome
          refine ⟨hfollows, by simp [ExecutionStep.goesOn], ?_, position + 1, ?_, hsome, hnext⟩
          · simp [RetryContext.failures_next, RetryContext.fail, h.failures]
          · exact hbehind.append (show LeftBehind 1 _ from rfl)
      · next hnone =>
          rw [hnext.current, Option.not_isSome_iff_eq_none, List.getElem?_eq_none_iff] at hnone
          rw [giveUp, RetryContext.lastError_next]
          refine ⟨hfollows, concludes_giveUp failed (by simp) (.inl ?_)⟩
          rw [show candidates.length = position + 1 by omega]
          exact hbehind.append (show LeftBehind 1 _ from rfl)
  | recovered hrecovers unprepared =>
      refine ⟨h.follows_preparedAgain hcurrent hrecovers unprepared _ _, ?_, ?_, position, ?_,
        hinside, hstands.fail _⟩
      · simp [ExecutionStep.goesOn, Except.isOk, Except.toBool]
      · simp [RetryContext.fail, h.failures]
      · refine LeftBehind.append hbehind (?_ : LeftBehind 0 _)
        rfl
  | @notRecovered connection error hrecovers unprepared reason =>
      have failed : (Attempt.failed connection error : Attempt κ α).error? = some error := rfl
      refine ⟨h.follows_preparedAgain hcurrent hrecovers unprepared _ _,
        concludes_giveUp failed ?_ (.inr ?_)⟩
      · simp
      · simp [isEnd, Except.isOk, Except.toBool]

theorem Round.length_attempts {next : Execution α}
    (h : Round recovers context endpoint next steps) : (attempts steps).length = 1 := by
  cases h with
  | succeeded value => rfl
  | refused failed => rfl
  | movedOn failed => rfl
  | recovered hrecovers unprepared => rfl
  | notRecovered hrecovers unprepared reason => rfl

theorem Accounts.follows {execution : Execution α}
    (h : Accounts candidates recovers history execution) :
    EachFollows candidates recovers history := by
  cases execution with
  | trying context => exact Underway.follows h
  | finished result => exact h.1

theorem Accounts.succeeds {execution : Execution α}
    (h : Accounts candidates recovers steps execution) {value : α}
    (hmem : .tried endpoint (.succeeded value) ∈ steps) :
    execution = .finished (.ok value) := by
  obtain ⟨before, after, hsplit⟩ := List.append_of_mem hmem
  obtain rfl := h.follows.eq_nil_of_isEnd hsplit rfl
  match execution with
  | .trying context =>
      exact absurd (Underway.isEnd_eq_false h hmem) (by simp [isEnd, Attempt.error?])
  | .finished (.ok other) =>
      obtain ⟨earlier, last, hlast⟩ := h.2
      cases (List.append_inj' (hsplit.symm.trans hlast) rfl).2
      rfl
  | .finished (.error error) =>
      rcases h.2 with ⟨-, hnil, -⟩ | ⟨attempt, failure, hlast, failed, -⟩
      · rw [hnil] at hmem
        exact nomatch hmem
      · rw [hsplit, attempts_append, attempts_tried, attempts_nil, List.getLast?_concat] at hlast
        rw [← Option.some.inj hlast] at failed
        exact nomatch failed

theorem Underway.exists_current (h : Underway candidates recovers history context) :
    ∃ endpoint, context.current = some endpoint := by
  obtain ⟨position, -, hinside, hstands⟩ := h.standsAt
  exact ⟨candidates[position], hstands.current.trans (List.getElem?_eq_getElem hinside)⟩

theorem runFor_trying (service : Service σ κ α) (policy : RetryContext → StateM σ Bool)
    (fuel : Nat) (context : RetryContext) (nodes : σ) :
    (runFor service policy recovers (fuel + 1) (.trying context) nodes).1 =
      let first := step service policy recovers context nodes
      let others := runFor service policy recovers fuel first.1.1 first.2
      (others.1.1, first.1.2 ++ others.1.2) := rfl

/-- What a run preserves, and how many attempts it made if it goes on. -/
theorem accounts_runFor (service : Service σ κ α) (policy : RetryContext → StateM σ Bool)
    (fuel : Nat) {execution : Execution α} (h : Accounts candidates recovers history execution)
    (nodes : σ) :
    let run := (runFor service policy recovers fuel execution nodes).1
    Accounts candidates recovers (history ++ run.2) run.1 ∧
      ∀ context, run.1 = .trying context → (attempts run.2).length = fuel := by
  -- By induction on the attempts left. What was done before grows, so it is general.
  induction fuel generalizing history execution nodes with
  | zero =>
      refine ⟨?_, fun _ _ => rfl⟩
      change Accounts candidates recovers (history ++ []) execution
      rwa [List.append_nil]
  | succ fuel ih =>
      cases execution with
      | finished result =>
          refine ⟨?_, fun _ hrun => nomatch hrun⟩
          change Accounts candidates recovers (history ++ []) (.finished result)
          rwa [List.append_nil]
      | trying context =>
          obtain ⟨endpoint, hcurrent⟩ := h.exists_current
          have hround := round_step service policy recovers hcurrent nodes
          obtain ⟨haccounts, hcount⟩ := ih (h.round hcurrent hround)
            (step service policy recovers context nodes).2
          rw [runFor_trying]
          refine ⟨by rwa [List.append_assoc] at haccounts, fun last hrun => ?_⟩
          rw [attempts_append, List.length_append, hround.length_attempts, hcount last hrun,
            Nat.add_comm]

theorem accounts_ofCandidates (candidates : List IpAddress) (recovers : Bool) :
    Accounts candidates recovers ([] : List (ExecutionStep κ α)) (ofCandidates candidates) := by
  cases candidates with
  | nil => exact ⟨eachFollows_nil, .inl ⟨rfl, rfl, rfl⟩⟩
  | cons first rest =>
      refine ⟨eachFollows_nil, by simp, rfl, 0, rfl, by simp, rfl, ?_, ?_⟩
      · exact List.head?_eq_getElem?
      · exact List.drop_one.symm

/-- Whatever the nodes and the policy answer, the candidates are tried in order, and the same one is
tried again only after its statement was prepared again with the consent of the policy. The result
is that of the last attempt. The steps are what nodes and policy were asked, and what they said. -/
theorem orderly_runFor (service : Service σ κ α) (policy : RetryContext → StateM σ Bool)
    (recovers : Bool) (candidates : List IpAddress) (fuel : Nat) (nodes : σ) :
    let run := runFor service policy recovers fuel (ofCandidates candidates) nodes
    Orderly candidates recovers fuel run.1.1 run.1.2 ∧
      runFor (Call.ofService service) (Call.ofPolicy policy) recovers fuel
          (ofCandidates candidates) (nodes, []) =
        (run.1, (run.2, run.1.2.map ExecutionStep.call)) := by
  intro run
  obtain ⟨haccounts, hcount⟩ :=
    accounts_runFor service policy fuel (accounts_ofCandidates candidates recovers) nodes
  rw [List.nil_append] at haccounts
  change Accounts candidates recovers run.1.2 run.1.1 at haccounts
  have hfollows := haccounts.follows
  refine ⟨⟨hfollows, fun before step after => hfollows.eq_nil_of_isEnd, ?_,
    fun endpoint value => haccounts.succeeds, ?_⟩, ?_⟩
  · intro result hrun
    rw [hrun] at haccounts
    exact haccounts.2
  · intro context hrun
    rw [hrun] at haccounts
    have hfuel := hcount context hrun
    obtain ⟨position, hbehind, hinside, -⟩ := haccounts.standsAt
    rw [LeftBehind, hfuel] at hbehind
    exact ⟨hfuel, by omega, fun step => haccounts.isEnd_eq_false⟩
  · rw [runFor_recording]
    rfl

end Execution

end CqlClient
