import CqlClient.Proofs.Session.Execution
import CqlClient.Session
import Mathlib.Tactic.ByContra

namespace CqlClient

variable {σ κ α : Type}

namespace RetryPolicy

/-- The number of failures beyond which a policy never agrees; `none` if there is none. -/
def limit? : RetryPolicy → Option Nat
  | .never => some 0
  | .errorCodeAware => none
  | .maxRetries inner limit => some (inner.limit?.elim limit (min limit))
  | .logging inner _ => inner.limit?

theorem failures_le_of_canRetry {policy : RetryPolicy} {limit : Nat}
    (hlimit : policy.limit? = some limit) {context : RetryContext}
    (hallowed : policy.canRetry context = true) : context.failures ≤ limit := by
  induction policy generalizing limit with
  | never => exact nomatch hallowed
  | errorCodeAware => exact nomatch hlimit
  | maxRetries inner most ih =>
      rw [canRetry, Bool.and_eq_true, decide_eq_true_eq] at hallowed
      obtain ⟨hmost, hinner⟩ := hallowed
      obtain rfl := Option.some.inj hlimit
      cases hget : inner.limit? with
      | none => exact hmost
      | some least => exact Nat.le_min.mpr ⟨hmost, ih hget hinner⟩
  | logging inner level ih => exact ih hlimit hallowed

end RetryPolicy

namespace RetryContext

/-- Number of candidates after the current one. -/
def left (context : RetryContext) : Nat :=
  context.lookahead.toList.length + context.remaining.length

theorem left_next_lt (context : RetryContext) (h : context.next.current.isSome = true) :
    context.next.left < context.left := by
  rw [next] at h ⊢
  cases hlookahead : context.lookahead with
  | none => exact absurd h (by simp [hlookahead])
  | some endpoint => cases hremaining : context.remaining <;> simp [left, hlookahead, hremaining]

end RetryContext

namespace Execution

open ExecutionStep

variable {recovers : Bool} {context : RetryContext} {endpoint : IpAddress}
  {service : Service σ κ α} {policy : RetryContext → StateM σ Bool} {execution : Execution α}
  {nodes : σ} {steps : List (ExecutionStep κ α)}

theorem isFinished_giveUp (context : RetryContext) :
    (giveUp context : Execution α).isFinished = true := by
  rw [giveUp]
  cases context.lastError <;> rfl

theorem giveUp_ne_trying (context next : RetryContext) :
    (giveUp context : Execution α) ≠ .trying next := by
  intro h
  have hfinished := isFinished_giveUp (α := α) context
  rw [h] at hfinished
  exact nomatch hfinished

theorem runFor_finished (fuel : Nat) (result : Except ExecutionError α) (nodes : σ) :
    runFor service policy recovers fuel (.finished result) nodes =
      ((.finished result, []), nodes) := by
  cases fuel <;> rfl

theorem runFor_succ (fuel : Nat) (context : RetryContext) (nodes : σ) :
    runFor service policy recovers (fuel + 1) (.trying context) nodes =
      let first := step service policy recovers context nodes
      let others := runFor service policy recovers fuel first.1.1 first.2
      ((others.1.1, first.1.2 ++ others.1.2), others.2) := rfl

theorem runFor_add (first others : Nat) (execution : Execution α) (nodes : σ) :
    runFor service policy recovers (first + others) execution nodes =
      let before := runFor service policy recovers first execution nodes
      let after := runFor service policy recovers others before.1.1 before.2
      ((after.1.1, before.1.2 ++ after.1.2), after.2) := by
  induction first generalizing execution nodes with
  | zero => rw [Nat.zero_add]; rfl
  | succ first ih =>
      cases execution with
      | finished result => simp only [runFor_finished, List.append_nil]
      | trying context =>
          rw [Nat.succ_add, runFor_succ, runFor_succ]
          dsimp only
          rw [ih, List.append_assoc]

theorem runFor_concat {count : Nat} {next : RetryContext}
    (h : (runFor service policy recovers count execution nodes).1.1 = .trying next) :
    runFor service policy recovers (count + 1) execution nodes =
      let before := runFor service policy recovers count execution nodes
      let last := step service policy recovers next before.2
      ((last.1.1, before.1.2 ++ last.1.2), last.2) := by
  rw [runFor_add]
  dsimp only
  rw [h, runFor_succ]
  exact congrArg (fun steps => ((_, _ ++ steps), _)) (List.append_nil _)

theorem Round.exists_of_trying {next : RetryContext}
    (h : Round recovers context endpoint (.trying next : Execution α) steps) :
    ∃ error, .asked (context.fail error) true ∈ steps ∧
      (recovers = true ∧ next = context.fail error ∨
        next = (context.fail error).next ∧ next.current.isSome = true) := by
  generalize htrying : (.trying next : Execution α) = execution at h
  cases h with
  | succeeded value => exact nomatch htrying
  | refused failed => exact absurd htrying.symm (giveUp_ne_trying _ next)
  | @movedOn attempt error failed =>
      rw [moveOn] at htrying
      split at htrying
      · next hsome =>
          obtain ⟨⟩ := htrying
          exact ⟨error, by simp, .inr ⟨rfl, hsome⟩⟩
      · exact absurd htrying.symm (giveUp_ne_trying _ next)
  | @recovered connection error hrecovers unprepared =>
      obtain ⟨⟩ := htrying
      exact ⟨error, by simp, .inl ⟨hrecovers, rfl⟩⟩
  | notRecovered hrecovers unprepared reason =>
      exact absurd htrying.symm (giveUp_ne_trying _ next)

/-- An execution goes on only after a failure with the consent of the policy. It stays at the
candidate only to try it again with a statement that was prepared again. -/
theorem exists_of_step_trying {next : RetryContext}
    (h : (step service policy recovers context nodes).1.1 = .trying next) :
    ∃ error, .asked (context.fail error) true ∈
        (step service policy recovers context nodes).1.2 ∧
      (recovers = true ∧ next = context.fail error ∨
        next = (context.fail error).next ∧ next.current.isSome = true) := by
  cases hcurrent : context.current with
  | none =>
      have hstep : step service policy recovers context nodes = ((giveUp context, []), nodes) := by
        rw [step, hcurrent]
        rfl
      rw [hstep] at h
      exact absurd h (giveUp_ne_trying context next)
  | some endpoint => exact (h ▸ round_step service policy recovers hcurrent nodes).exists_of_trying

theorem length_attempts_step_le (service : Service σ κ α) (policy : RetryContext → StateM σ Bool)
    (recovers : Bool) (context : RetryContext) (nodes : σ) :
    (attempts (step service policy recovers context nodes).1.2).length ≤ 1 := by
  cases hcurrent : context.current with
  | none =>
      rw [step, hcurrent]
      exact Nat.zero_le 1
  | some endpoint =>
      exact Nat.le_of_eq (round_step service policy recovers hcurrent nodes).length_attempts

/-- What falls with every attempt after which an execution goes on bounds the attempts. -/
theorem length_attempts_runFor_le (Holds : RetryContext → Prop) (measure : RetryContext → Nat)
    (hstep : ∀ context nodes next, Holds context →
      (step service policy recovers context nodes).1.1 = .trying next →
        Holds next ∧ measure next < measure context)
    (fuel : Nat) (hcontext : Holds context) (nodes : σ) :
    (attempts (runFor service policy recovers fuel (.trying context) nodes).1.2).length ≤
      measure context + 1 := by
  induction fuel generalizing context nodes with
  | zero => exact Nat.zero_le _
  | succ fuel ih =>
      rw [runFor_succ, attempts_append, List.length_append]
      have hfirst := length_attempts_step_le service policy recovers context nodes
      cases hnext : (step service policy recovers context nodes).1.1 with
      | finished result =>
          simp only [runFor_finished, attempts_nil, List.length_nil]
          omega
      | trying next =>
          obtain ⟨hholds, hlt⟩ := hstep context nodes next hcontext hnext
          have hothers := ih hholds (step service policy recovers context nodes).2
          omega

theorem not_asked_mem_afterRetry {asked : RetryContext} {isAllowed : Bool} {error : AttemptError}
    {connection : Option κ} : .asked asked isAllowed ∉
      (afterRetry service recovers context endpoint error connection nodes).1.2 := by
  intro hmem
  cases connection with
  | none => exact List.not_mem_nil hmem
  | some connection =>
      rw [afterRetry] at hmem
      split at hmem
      · cases List.mem_singleton.mp hmem
      · exact List.not_mem_nil hmem

theorem exists_answer_of_asked_afterFailure {asked : RetryContext} {isAllowed : Bool}
    {error : AttemptError} {connection : Option κ}
    (h : .asked asked isAllowed ∈
      (afterFailure service policy recovers context endpoint error connection nodes).1.2) :
    ∃ before, (policy asked before).1 = isAllowed := by
  rcases hanswer : policy (context.fail error) nodes with ⟨answer, later⟩
  simp only [afterFailure, bind, StateT.bind, hanswer] at h
  cases answer with
  | true =>
      obtain heq | hmem := List.mem_cons.mp h
      · obtain ⟨⟩ := heq
        exact ⟨nodes, congrArg Prod.fst hanswer⟩
      · exact absurd hmem not_asked_mem_afterRetry
  | false =>
      obtain ⟨⟩ := List.mem_singleton.mp h
      exact ⟨nodes, congrArg Prod.fst hanswer⟩

theorem exists_answer_of_asked_step {asked : RetryContext} {isAllowed : Bool}
    (h : .asked asked isAllowed ∈ (step service policy recovers context nodes).1.2) :
    ∃ before, (policy asked before).1 = isAllowed := by
  cases hcurrent : context.current with
  | none =>
      rw [step, hcurrent] at h
      exact absurd h List.not_mem_nil
  | some endpoint =>
      rcases hattempt : service.attempt endpoint nodes with ⟨attempt, later⟩
      simp only [step, hcurrent, bind, StateT.bind, hattempt] at h
      obtain htried | hlater := List.mem_cons.mp h
      · cases htried
      · cases attempt with
        | succeeded value => exact absurd hlater List.not_mem_nil
        | notConnected error => exact exists_answer_of_asked_afterFailure hlater
        | failed connection error => exact exists_answer_of_asked_afterFailure hlater

section Forgetting

variable {policy : RetryPolicy}

theorem length_attempts_of_limit? {limit : Nat} (hlimit : policy.limit? = some limit) (fuel : Nat)
    (hfailures : context.failures ≤ limit) (nodes : σ) :
    (attempts (runFor service policy.asked recovers fuel (.trying context) nodes).1.2).length ≤
      limit - context.failures + 1 := by
  refine length_attempts_runFor_le (·.failures ≤ limit) (limit - ·.failures) ?_ fuel hfailures nodes
  intro context nodes next hholds hnext
  obtain ⟨error, hasked, hplace⟩ := exists_of_step_trying hnext
  obtain ⟨_, hallowed⟩ := exists_answer_of_asked_step hasked
  have hfailed : context.failures + 1 ≤ limit :=
    RetryPolicy.failures_le_of_canRetry hlimit hallowed
  have hfailures : next.failures = context.failures + 1 := by
    obtain ⟨-, rfl⟩ | ⟨rfl, -⟩ := hplace
    · rfl
    · exact RetryContext.failures_next _
  omega

end Forgetting

theorem length_attempts_of_not_recovers (fuel : Nat) (context : RetryContext) (nodes : σ) :
    (attempts (runFor service policy false fuel (.trying context) nodes).1.2).length ≤
      context.left + 1 := by
  refine length_attempts_runFor_le (fun _ => True) RetryContext.left ?_ fuel trivial nodes
  intro context nodes next _ hnext
  obtain ⟨error, -, ⟨hrecovers, -⟩ | ⟨rfl, hcurrent⟩⟩ := exists_of_step_trying hnext
  · exact nomatch hrecovers
  · exact ⟨trivial, (context.fail error).left_next_lt hcurrent⟩

/-- Whether a request is repeated a number of times at one endpoint, each time because the statement
was not known and was then prepared again, with the consent of the policy. -/
inductive Repeats (endpoint : IpAddress) : Nat → List (ExecutionStep κ α) → Prop
  | none : Repeats endpoint 0 []
  | again {connection : κ} {error : AttemptError} {context : RetryContext} {count : Nat}
      {steps : List (ExecutionStep κ α)} (unprepared : error.isUnprepared = true)
      (others : Repeats endpoint count steps) :
      Repeats endpoint (count + 1) (.tried endpoint (.failed connection error) ::
        .asked context true :: .preparedAgain endpoint connection (.ok ()) :: steps)

theorem Repeats.append {count more : Nat} {others : List (ExecutionStep κ α)}
    (h : Repeats endpoint count steps) (hothers : Repeats endpoint more others) :
    Repeats endpoint (more + count) (steps ++ others) := by
  induction h with
  | none => exact hothers
  | again unprepared _ ih => exact .again unprepared ih

theorem Repeats.length_attempts {count : Nat} (h : Repeats endpoint count steps) :
    (attempts steps).length = count := by
  induction h with
  | none => rfl
  | again unprepared _ ih => exact congrArg (· + 1) ih

theorem Round.progress (h : Round recovers context endpoint execution steps) :
    execution.isFinished = true ∨ ∃ next, execution = .trying next ∧
      (next.left < context.left ∨
        next.current = context.current ∧ next.left = context.left ∧ Repeats endpoint 1 steps) := by
  cases h with
  | succeeded value => exact .inl rfl
  | refused failed => exact .inl (isFinished_giveUp _)
  | @movedOn attempt error failed =>
      rw [moveOn]
      split
      · next hsome => exact .inr ⟨_, rfl, .inl ((context.fail error).left_next_lt hsome)⟩
      · exact .inl (isFinished_giveUp _)
  | @recovered connection error hrecovers unprepared =>
      exact .inr ⟨_, rfl, .inr ⟨rfl, rfl, .again unprepared .none⟩⟩
  | notRecovered hrecovers unprepared reason => exact .inl (isFinished_giveUp _)

/-- Whether an execution ends. -/
def Ends (service : Service σ κ α) (policy : RetryContext → StateM σ Bool) (recovers : Bool)
    (execution : Execution α) (nodes : σ) : Prop :=
  ∃ fuel, (runFor service policy recovers fuel execution nodes).1.1.isFinished = true

/-- Whether an execution only repeats its request at one endpoint from some attempt on. -/
def Stalls (service : Service σ κ α) (policy : RetryContext → StateM σ Bool) (recovers : Bool)
    (execution : Execution α) (nodes : σ) : Prop :=
  let run (fuel : Nat) := (runFor service policy recovers fuel execution nodes).1
  ∃ endpoint count, ∀ more, ∃ steps,
    (run (count + more)).2 = (run count).2 ++ steps ∧ Repeats endpoint more steps

theorem ends_of_runFor (first : Nat)
    (h : let before := runFor service policy recovers first execution nodes
      Ends service policy recovers before.1.1 before.2) :
    Ends service policy recovers execution nodes := by
  obtain ⟨fuel, hfinished⟩ := h
  refine ⟨first + fuel, ?_⟩
  rw [runFor_add]
  exact hfinished

theorem stalls_of_runFor (first : Nat)
    (h : let before := runFor service policy recovers first execution nodes
      Stalls service policy recovers before.1.1 before.2) :
    Stalls service policy recovers execution nodes := by
  obtain ⟨endpoint, count, hrepeats⟩ := h
  refine ⟨endpoint, first + count, fun more => ?_⟩
  obtain ⟨steps, hsteps, hmore⟩ := hrepeats more
  refine ⟨steps, ?_, hmore⟩
  dsimp only at hsteps ⊢
  rw [Nat.add_assoc, runFor_add, runFor_add first count, List.append_assoc]
  exact congrArg (_ ++ ·) hsteps

theorem ends_or_stalls (service : Service σ κ α) (policy : RetryContext → StateM σ Bool)
    (recovers : Bool) (context : RetryContext) (nodes : σ) :
    Ends service policy recovers (.trying context) nodes ∨
      Stalls service policy recovers (.trying context) nodes := by
  induction hleft : context.left using Nat.strongRecOn generalizing context nodes with
  | ind left ih =>
      by_contra hneither
      obtain ⟨hends, hstalls⟩ := not_or.mp hneither
      cases hcurrent : context.current with
      | none =>
          refine hends ⟨1, ?_⟩
          rw [runFor_succ, step, hcurrent]
          exact isFinished_giveUp context
      | some endpoint =>
          -- As it neither ends nor comes to another candidate, every attempt is repeated.
          have hrepeats : ∀ count, ∃ next,
              (runFor service policy recovers count (.trying context) nodes).1.1 = .trying next ∧
                next.current = some endpoint ∧ next.left = left ∧
                Repeats endpoint count
                  (runFor service policy recovers count (.trying context) nodes).1.2 := by
            intro count
            induction count with
            | zero => exact ⟨context, rfl, hcurrent, hleft, .none⟩
            | succ count ihcount =>
                obtain ⟨next, hnext, hsame, hsameLeft, hcount⟩ := ihcount
                have hlast := runFor_concat hnext
                have hround := round_step service policy recovers hsame
                  (runFor service policy recovers count (.trying context) nodes).2
                obtain hfinished | ⟨last, htrying, hless | ⟨hcurrent, hequal, honce⟩⟩ :=
                  hround.progress
                · exact absurd ⟨count + 1, hlast ▸ hfinished⟩ hends
                · have hrest := ih last.left (hsameLeft ▸ hless) last
                    (runFor service policy recovers (count + 1) (.trying context) nodes).2 rfl
                  rw [← htrying, ← congrArg (·.1.1) hlast] at hrest
                  exact (hrest.elim (hends ∘ ends_of_runFor (count + 1))
                    (hstalls ∘ stalls_of_runFor (count + 1))).elim
                · refine ⟨last, (congrArg (·.1.1) hlast).trans htrying, hcurrent.trans hsame,
                    hequal.trans hsameLeft, ?_⟩
                  rw [hlast, Nat.add_comm]
                  exact hcount.append honce
          refine hstalls ⟨endpoint, 0, fun more => ?_⟩
          obtain ⟨next, -, -, -, hmore⟩ := hrepeats more
          exact ⟨_, by rw [Nat.zero_add]; rfl, hmore⟩

theorem length_attempts_runFor_le_fuel (service : Service σ κ α)
    (policy : RetryContext → StateM σ Bool) (recovers : Bool) (fuel : Nat)
    (execution : Execution α) (nodes : σ) :
    (attempts (runFor service policy recovers fuel execution nodes).1.2).length ≤ fuel := by
  induction fuel generalizing execution nodes with
  | zero => exact Nat.le_refl 0
  | succ fuel ih =>
      cases execution with
      | finished result => exact Nat.zero_le _
      | trying context =>
          rw [runFor_succ, attempts_append, List.length_append, Nat.add_comm]
          have hfirst := length_attempts_step_le service policy recovers context nodes
          exact Nat.add_le_add (ih _ _) hfirst

theorem Ends.exists_bound (h : Ends service policy recovers execution nodes) : ∃ bound, ∀ fuel,
    (attempts (runFor service policy recovers fuel execution nodes).1.2).length ≤ bound := by
  obtain ⟨last, hfinished⟩ := h
  refine ⟨last, fun fuel => ?_⟩
  obtain hle | hlt := Nat.le_total fuel last
  · have hmade := length_attempts_runFor_le_fuel service policy recovers fuel execution nodes
    exact Nat.le_trans hmade hle
  · obtain ⟨more, rfl⟩ := Nat.exists_eq_add_of_le hlt
    rw [runFor_add]
    have hmade := length_attempts_runFor_le_fuel service policy recovers last execution nodes
    cases hlast : (runFor service policy recovers last execution nodes).1.1 with
    | trying context =>
        rw [hlast] at hfinished
        exact nomatch hfinished
    | finished result =>
        dsimp only
        rwa [hlast, runFor_finished, List.append_nil]

theorem Stalls.not_bounded (h : Stalls service policy recovers execution nodes) (bound : Nat) :
    ∃ fuel, bound <
      (attempts (runFor service policy recovers fuel execution nodes).1.2).length := by
  obtain ⟨endpoint, count, hrepeats⟩ := h
  obtain ⟨steps, hsteps, hmore⟩ := hrepeats (bound + 1)
  refine ⟨count + (bound + 1), ?_⟩
  dsimp only at hsteps
  rw [hsteps, attempts_append, List.length_append, hmore.length_attempts]
  omega

theorem ends_ofCandidates_or_stalls (service : Service σ κ α)
    (policy : RetryContext → StateM σ Bool) (recovers : Bool) (candidates : List IpAddress)
    (nodes : σ) : Ends service policy recovers (ofCandidates candidates) nodes ∨
      Stalls service policy recovers (ofCandidates candidates) nodes := by
  cases candidates with
  | nil => exact .inl ⟨0, rfl⟩
  | cons first rest => exact ends_or_stalls service policy recovers _ nodes

/-- An execution makes only finitely many attempts: as many as its policy has a limit and one, as
many as there are candidates if there is no statement to prepare again, and else a finite number
unless it only repeats its request at one node that forgets the statement time and again. -/
theorem bounded_attempts_iff (service : Service σ κ α) (policy : RetryPolicy) (recovers : Bool)
    (candidates : List IpAddress) (nodes : σ) :
    let made (fuel : Nat) := (attempts (runFor service policy.asked recovers fuel
      (ofCandidates candidates) nodes).1.2).length
    (∀ limit, policy.limit? = some limit → ∀ fuel, made fuel ≤ limit + 1) ∧
      (recovers = false → ∀ fuel, made fuel ≤ candidates.length) ∧
      ((∃ bound, ∀ fuel, made fuel ≤ bound) ↔
        ¬ Stalls service policy.asked recovers (ofCandidates candidates) nodes) := by
  intro made
  refine ⟨fun limit hlimit fuel => ?_, fun hrecovers fuel => ?_, fun hbounded hstalls => ?_,
    fun hstalls => ?_⟩
  · cases candidates with
    | nil => simp [made, ofCandidates, RetryContext.start?, runFor_finished]
    | cons first rest => exact length_attempts_of_limit? hlimit fuel (Nat.zero_le limit) nodes
  · subst hrecovers
    cases candidates with
    | nil => simp [made, ofCandidates, RetryContext.start?, runFor_finished]
    | cons first rest =>
        refine Nat.le_trans (length_attempts_of_not_recovers fuel _ nodes) ?_
        cases rest <;> simp [RetryContext.left, Nat.add_comm]
  · obtain ⟨bound, hbound⟩ := hbounded
    obtain ⟨fuel, hmore⟩ := hstalls.not_bounded bound
    exact absurd (hbound fuel) (Nat.not_le.mpr hmore)
  · exact ((ends_ofCandidates_or_stalls service policy.asked recovers candidates
      nodes).resolve_right hstalls).exists_bound

section Forgetful

/-- Nodes that let every statement be prepared and know none. -/
def forgetful : SessionAccess Unit Unit where
  connect _ := return .ok ()
  execute _ _ := return .error (.database (.unprepared [1]) "")
  prepare _ contents := return .ok (.ofAnswer [1] contents {})

def insertion : PreparedStatement := .ofAnswer [1] "INSERT INTO t (k) VALUES (?)" {}

/-- What forgetful nodes do with a prepared statement. -/
def forgetfulService : Service Unit Unit QueryResult :=
  Session.service forgetful (some insertion.contents) (forgetful.execute · (.prepared insertion))

/-- With the usual limit it is tried six times. -/
theorem bounded_attempts_standard : RetryPolicy.standard.limit? = some 5 ∧ ∀ fuel,
    (attempts (runFor forgetfulService RetryPolicy.standard.asked true fuel
      (ofCandidates [.ofOctets 10 0 0 1]) ()).1.2).length ≤ 6 := by
  have hlimit : RetryPolicy.standard.limit? = some 5 := rfl
  exact ⟨hlimit, (bounded_attempts_iff forgetfulService .standard true [.ofOctets 10 0 0 1] ()).1 5
    hlimit⟩

theorem length_attempts_forgetful (fuel : Nat) (context : RetryContext) {endpoint : IpAddress}
    (hcurrent : context.current = some endpoint) :
    (attempts (runFor forgetfulService RetryPolicy.errorCodeAware.asked true fuel
      (.trying context) ()).1.2).length = fuel := by
  induction fuel generalizing context with
  | zero => rfl
  | succ fuel ih =>
      have hstep : step forgetfulService RetryPolicy.errorCodeAware.asked true context () =
          let failed := context.fail (.database (.unprepared [1]) "")
          ((.trying failed, [.tried endpoint (.failed () (.database (.unprepared [1]) "")),
            .asked failed true, .preparedAgain endpoint () (.ok ())]), ()) := by
        rw [step, hcurrent]
        rfl
      rw [runFor_succ, hstep]
      exact congrArg (· + 1) (ih _ hcurrent)

theorem not_bounded_attempts : ¬ ∀ (access : SessionAccess Unit Unit) (policy : RetryPolicy)
    (statement : Statement) (candidates : List IpAddress), ∃ bound, ∀ fuel,
      (attempts (runFor (Session.service access (Session.recovery? statement)
        (access.execute · statement)) policy.asked (Session.recovery? statement).isSome fuel
          (ofCandidates candidates) ()).1.2).length ≤ bound := by
  intro h
  obtain ⟨bound, hbound⟩ := h forgetful .errorCodeAware (.prepared insertion) [.ofOctets 10 0 0 1]
  have hmade := length_attempts_forgetful (bound + 1)
    ⟨some (.ofOctets 10 0 0 1), none, [], 0, none⟩ rfl
  have hle := Nat.le_trans (Nat.le_of_eq hmade.symm) (hbound (bound + 1))
  exact absurd hle (Nat.not_succ_le_self bound)

end Forgetful

end Execution

end CqlClient
