import CqlClient.Proofs.Session.Termination

namespace CqlClient

variable {σ κ α : Type}

namespace RetryPolicy

/-- Ask a policy as long as the failures are within a limit, and refuse beyond it. -/
def askedWithin (limit : Nat) (inner : RetryContext → StateM σ Bool) (context : RetryContext) :
    StateM σ Bool :=
  if context.failures ≤ limit then inner context else return false

theorem asked_maxRetries (inner : RetryPolicy) (limit : Nat) :
    (maxRetries inner limit).asked = askedWithin (σ := σ) limit inner.asked := by
  funext context
  rw [asked, askedWithin, canRetry]
  split
  · next hle => simp [hle, asked]
  · next hgt => simp [hgt]

theorem failures_le_of_askedWithin {limit : Nat} {inner : RetryContext → StateM σ Bool}
    {context : RetryContext} {nodes : σ} (h : (askedWithin limit inner context nodes).1 = true) :
    context.failures ≤ limit := by
  by_contra hgt
  rw [askedWithin, if_neg hgt] at h
  exact nomatch h

end RetryPolicy

namespace ExecutionStep

/-- Whether a statement was to be prepared again. -/
def isPreparation : ExecutionStep κ α → Bool
  | .preparedAgain _ _ _ => true
  | _ => false

end ExecutionStep

namespace Execution

open ExecutionStep

variable {limit : Nat} {recovers again : Bool} {context : RetryContext} {endpoint : IpAddress}
  {service : Service σ κ α} {policy inner : RetryContext → StateM σ Bool}
  {execution last : Execution α} {steps rest : List (ExecutionStep κ α)}

/-- The attempts not made directly after a statement was prepared again, which may have happened
just before the first step. -/
def freshAttempts (again : Bool) : List (ExecutionStep κ α) → List (Attempt κ α)
  | [] => []
  | step :: rest =>
      (if again then [] else step.attempt?.toList) ++ freshAttempts step.isRecovery rest

@[simp]
theorem freshAttempts_nil : freshAttempts again ([] : List (ExecutionStep κ α)) = [] := rfl

theorem freshAttempts_append (again : Bool) (steps rest : List (ExecutionStep κ α)) :
    freshAttempts again (steps ++ rest) =
      freshAttempts again steps ++ freshAttempts (steps.getLast?.elim again isRecovery) rest := by
  induction steps generalizing again with
  | nil => rfl
  | cons step others ih =>
      rw [List.cons_append, freshAttempts, freshAttempts, ih, List.append_assoc]
      cases others with
      | nil => rfl
      | cons other others =>
          rw [List.getLast?_cons_cons, List.getLast?_eq_some_getLast (List.cons_ne_nil _ _)]
          rfl

theorem Round.length_freshAttempts (h : Round recovers context endpoint execution steps)
    (again : Bool) : (freshAttempts again steps).length = if again then 0 else 1 := by
  cases h with
  | succeeded value => cases again <;> rfl
  | refused failed => cases again <;> rfl
  | movedOn failed => cases again <;> rfl
  | recovered hrecovers unprepared => cases again <;> rfl
  | notRecovered hrecovers unprepared reason => cases again <;> rfl

theorem Round.countP_isPreparation_le (h : Round recovers context endpoint execution steps) :
    steps.countP isPreparation ≤ 1 := by
  cases h with
  | succeeded value => exact Nat.zero_le 1
  | refused failed => exact Nat.zero_le 1
  | movedOn failed => exact Nat.zero_le 1
  | recovered hrecovers unprepared => exact Nat.le_refl 1
  | notRecovered hrecovers unprepared reason => exact Nat.le_refl 1

theorem Round.add_countP_isPreparation_le (h : Round recovers context endpoint execution steps)
    (hallowed : ∀ failed, .asked failed true ∈ steps → failed.failures ≤ limit)
    (hcontext : context.failures ≤ limit) :
    context.failures + steps.countP isPreparation ≤ limit := by
  cases h with
  | succeeded value => exact hcontext
  | refused failed => exact hcontext
  | movedOn failed => exact hcontext
  | @recovered connection error hrecovers unprepared =>
      exact hallowed (context.fail error) (by simp)
  | @notRecovered connection error hrecovers unprepared reason =>
      exact hallowed (context.fail error) (by simp)

/-- An execution that goes on counts a failure. It comes to the next candidate, but where the
statement was prepared again. -/
theorem Round.left_le {next : RetryContext}
    (h : Round recovers context endpoint (.trying next : Execution α) steps) (again : Bool) :
    next.failures = context.failures + 1 ∧
      (next.left + if steps.getLast?.elim again isRecovery then 0 else 1) ≤ context.left := by
  generalize htrying : (.trying next : Execution α) = execution at h
  cases h with
  | succeeded value => exact nomatch htrying
  | refused failed => exact absurd htrying.symm (giveUp_ne_trying _ next)
  | @movedOn attempt error failed =>
      rw [moveOn] at htrying
      split at htrying
      · next hsome =>
          obtain ⟨⟩ := htrying
          exact ⟨RetryContext.failures_next _, (context.fail error).left_next_lt hsome⟩
      · exact absurd htrying.symm (giveUp_ne_trying _ next)
  | recovered hrecovers unprepared =>
      obtain ⟨⟩ := htrying
      exact ⟨rfl, Nat.le_refl context.left⟩
  | notRecovered hrecovers unprepared reason =>
      exact absurd htrying.symm (giveUp_ne_trying _ next)

/-- What an execution with a context has yet to do, under a limit of failures. -/
structure Bounded (limit : Nat) (again : Bool) (context : RetryContext) (last : Execution α)
    (steps : List (ExecutionStep κ α)) : Prop where
  attempts_le :
    context.failures + (attempts steps).length ≤ limit + if last.isFinished then 1 else 0
  preparations_le : context.failures + steps.countP isPreparation ≤ limit
  fresh_le :
    (freshAttempts again steps).length ≤ context.left + if again then 0 else 1

theorem bounded_nil (again : Bool) (hcontext : context.failures ≤ limit) (last : Execution α) :
    Bounded limit again context last ([] : List (ExecutionStep κ α)) where
  attempts_le := Nat.le_add_right_of_le hcontext
  preparations_le := hcontext
  fresh_le := Nat.zero_le _

theorem Round.bounded_last (h : Round recovers context endpoint last steps)
    (hlast : last.isFinished = true)
    (hallowed : ∀ failed, .asked failed true ∈ steps → failed.failures ≤ limit)
    (hcontext : context.failures ≤ limit) : Bounded limit again context last steps where
  attempts_le := by
    rw [h.length_attempts, if_pos hlast]
    exact Nat.add_le_add_right hcontext 1
  preparations_le := h.add_countP_isPreparation_le hallowed hcontext
  fresh_le := by
    rw [h.length_freshAttempts]
    exact Nat.le_add_left _ _

theorem Round.bounded_append {next : RetryContext}
    (h : Round recovers context endpoint (.trying next : Execution α) steps)
    (hrest : Bounded limit (steps.getLast?.elim again isRecovery) next last rest) :
    Bounded limit again context last (steps ++ rest) := by
  obtain ⟨hfailures, hleft⟩ := h.left_le again
  obtain ⟨hattempts, hpreparations, hfresh⟩ := hrest
  rw [hfailures] at hattempts hpreparations
  refine ⟨?_, ?_, ?_⟩
  · rw [attempts_append, List.length_append, h.length_attempts]
    omega
  · have hprepared := h.countP_isPreparation_le
    rw [List.countP_append]
    omega
  · rw [freshAttempts_append, List.length_append, h.length_freshAttempts]
    omega

theorem runFor_succ_of_none (fuel : Nat) (hcurrent : context.current = none) (nodes : σ) :
    (runFor service policy recovers (fuel + 1) (.trying context) nodes).1 =
      (giveUp context, []) := by
  have hstep : step service policy recovers context nodes = ((giveUp context, []), nodes) := by
    rw [step, hcurrent]
    rfl
  rw [runFor_succ, hstep]
  cases hend : (giveUp context : Execution α) with
  | trying next => exact absurd hend (giveUp_ne_trying context next)
  | finished result => simp only [runFor_finished, List.append_nil]

theorem bounded_runFor (fuel : Nat) (hcontext : context.failures ≤ limit) (again : Bool)
    (nodes : σ) :
    let run := (runFor service (RetryPolicy.askedWithin limit inner) recovers fuel
      (.trying context) nodes).1
    Bounded limit again context run.1 run.2 := by
  -- By induction on the attempts left, whatever came just before the next of them.
  induction fuel generalizing context again nodes with
  | zero => exact bounded_nil again hcontext _
  | succ fuel ih =>
      cases hcurrent : context.current with
      | none =>
          rw [runFor_succ_of_none fuel hcurrent]
          exact bounded_nil again hcontext _
      | some endpoint =>
          have hround := round_step service (RetryPolicy.askedWithin limit inner) recovers hcurrent
            nodes
          have hallowed : ∀ failed, .asked failed true ∈
              (step service (RetryPolicy.askedWithin limit inner) recovers context nodes).1.2 →
                failed.failures ≤ limit := by
            intro failed hasked
            obtain ⟨_, hanswer⟩ := exists_answer_of_asked_step hasked
            exact RetryPolicy.failures_le_of_askedWithin hanswer
          rw [runFor_succ]
          generalize step service (RetryPolicy.askedWithin limit inner) recovers context nodes =
            first at hround hallowed ⊢
          obtain ⟨⟨next | result, steps⟩, later⟩ := first
          · obtain ⟨error, hasked, -⟩ := hround.exists_of_trying
            refine hround.bounded_append (ih ?_ _ later)
            rw [(hround.left_le again).1]
            exact hallowed _ hasked
          · simp only [runFor_finished, List.append_nil]
            exact hround.bounded_last rfl hallowed hcontext

/-- Whether an execution over a number of candidates keeps to a limit of failures. -/
structure KeepsTo (limit count : Nat) (steps : List (ExecutionStep κ α)) : Prop where
  attempts_le : (attempts steps).length ≤ limit + 1
  preparations_le : steps.countP isPreparation ≤ limit
  /-- No candidate is tried a second time but where the statement was prepared again. -/
  fresh_le : (freshAttempts false steps).length ≤ count

theorem Bounded.keepsTo (h : Bounded limit false context last steps) :
    KeepsTo limit (context.left + 1) steps := by
  obtain ⟨hattempts, hpreparations, hfresh⟩ := h
  refine ⟨?_, by omega, hfresh⟩
  split at hattempts <;> omega

theorem start?_left {candidates : List IpAddress}
    (h : RetryContext.start? candidates = some context) :
    context.failures = 0 ∧ context.left + 1 = candidates.length := by
  cases candidates with
  | nil => exact nomatch h
  | cons first rest =>
      obtain rfl := Option.some.inj h
      refine ⟨rfl, ?_⟩
      cases rest <;> simp [RetryContext.left, Nat.add_comm]

theorem isFinished_of_bounded {candidates : List IpAddress} {fuel : Nat} {nodes : σ}
    (hfuel : limit < fuel)
    (h : let run := (runFor service policy recovers fuel (ofCandidates candidates) nodes).1
      Bounded limit again context run.1 run.2) :
    (runFor service policy recovers fuel (ofCandidates candidates) nodes).1.1.isFinished =
      true := by
  have hcount := (accounts_runFor service policy fuel
    (accounts_ofCandidates candidates recovers) nodes).2
  have hattempts := h.attempts_le
  cases hrun : (runFor service policy recovers fuel (ofCandidates candidates) nodes).1.1 with
  | finished result => rfl
  | trying next =>
      rw [hcount next hrun, hrun] at hattempts
      exact absurd (Nat.le_trans (Nat.le_add_left _ _) hattempts) (Nat.not_le.mpr hfuel)

/-- Under a policy that limits another one, an execution makes at most one attempt more than the
limit, prepares statements again at most as often as the limit says, and tries each candidate once
but where this happened. It is over after as many attempts as it may make. -/
theorem keepsTo_runFor (service : Service σ κ α) (inner : RetryContext → StateM σ Bool)
    (limit : Nat) (recovers : Bool) (candidates : List IpAddress) (nodes : σ) :
    let run (fuel : Nat) := (runFor service (RetryPolicy.askedWithin limit inner) recovers fuel
      (ofCandidates candidates) nodes).1
    (∀ fuel, KeepsTo limit candidates.length (run fuel).2) ∧
      (∀ more, (run (limit + 1 + more)).1.isFinished = true) ∧
      ∀ policy : RetryPolicy,
        (policy.maxRetries limit).asked = RetryPolicy.askedWithin (σ := σ) limit policy.asked := by
  intro run
  cases hstart : RetryContext.start? candidates with
  | none =>
      have hrun : ∀ fuel, run fuel = (.finished (.error .emptyPlan), []) := by
        intro fuel
        simp only [run, ofCandidates, hstart, runFor_finished]
      refine ⟨fun fuel => ?_, fun more => ?_, fun policy => RetryPolicy.asked_maxRetries _ _⟩
      · rw [hrun fuel]
        exact ⟨Nat.zero_le _, Nat.zero_le _, Nat.zero_le _⟩
      · rw [hrun (limit + 1 + more)]
        rfl
  | some context =>
      obtain ⟨hfailures, hleft⟩ := start?_left hstart
      have hbounded : ∀ fuel, Bounded limit false context (run fuel).1 (run fuel).2 := by
        intro fuel
        simp only [run, ofCandidates, hstart]
        exact bounded_runFor fuel (hfailures.symm ▸ Nat.zero_le limit) false nodes
      refine ⟨fun fuel => ?_, fun more => ?_, fun policy => RetryPolicy.asked_maxRetries _ _⟩
      · rw [← hleft]
        exact (hbounded fuel).keepsTo
      · exact isFinished_of_bounded (Nat.lt_add_right more (Nat.lt_succ_self limit)) (hbounded _)

end Execution

end CqlClient
