import CqlClient.Proofs.Connection.Conformance
import CqlClient.Proofs.Connection.Lifecycle
import Mathlib.Logic.Function.Iterate

namespace CqlClient

namespace Handshake

variable {config : ConnectionConfig} {phase : ConnectionPhase}

/-- Whether an answer can be awaited in a phase. -/
def Awaited.Within : Awaited → ConnectionPhase → Prop
  | .supported, phase => phase = .connecting
  | .ready, phase => phase = .startupSent
  | .authentication _, phase => phase = .authenticating
  | .keyspace _, phase => phase = .startupSent ∨ phase = .authenticating

/-- Whether a step enters no phase but the one that follows, and comes to an answer that can be
awaited then. -/
def Step.FollowsPhase : Step → ConnectionPhase → Prop
  | .enter phase next, current => current.rank + 1 = phase.rank ∧ next.FollowsPhase phase
  | .send _ awaited, current => awaited.Within current
  | .finish, current => current ≠ .closed
  | .fail _, _ => True

theorem followsPhase_accepted (h : phase = .startupSent ∨ phase = .authenticating) :
    (accepted config).FollowsPhase phase := by
  unfold accepted
  split
  · exact h
  · rcases h with rfl | rfl
    · exact nofun
    · exact nofun

theorem followsPhase_ofAuthentication (answer : Except String (Option Bytes × AuthSession)) :
    (ofAuthentication answer).FollowsPhase .authenticating := by
  cases answer with
  | error text => exact trivial
  | ok next => exact rfl

theorem followsPhase_authenticate (announced : String) :
    (authenticate config announced).FollowsPhase .authenticating := by
  unfold authenticate
  split
  · exact followsPhase_ofAuthentication _
  · exact trivial

theorem followsPhase_received {awaited : Awaited} (h : awaited.Within phase)
    (answer : Except AttemptError Response) :
    (received config awaited answer).FollowsPhase phase := by
  unfold received
  split
  · exact trivial
  · obtain rfl := h
    dsimp only
    split
    · split
      · exact ⟨rfl, rfl⟩
      · exact trivial
    · exact ⟨rfl, rfl⟩
  · exact followsPhase_accepted (.inl h)
  · obtain rfl := h
    exact ⟨rfl, followsPhase_authenticate _⟩
  · obtain rfl := h
    exact followsPhase_ofAuthentication _
  · split
    · exact followsPhase_accepted (.inr h)
    · exact trivial
  · split
    · rcases h with rfl | rfl
      · exact nofun
      · exact nofun
    · exact trivial
  · exact trivial

theorem length_phases_received_le (config : ConnectionConfig) (awaited : Awaited)
    (answer : Except AttemptError Response) :
    (received config awaited answer).phases.length ≤ 1 := by
  unfold received
  split
  · exact Nat.zero_le 1
  · dsimp only
    split
    · split
      · exact Nat.le_refl 1
      · exact Nat.zero_le 1
    · exact Nat.le_refl 1
  · simp [phases_accepted]
  · simp [Step.phases, phases_authenticate]
  · simp [phases_ofAuthentication]
  · split
    · simp [phases_accepted]
    · exact Nat.zero_le 1
  · split
    · exact Nat.zero_le 1
    · exact Nat.zero_le 1
  · exact Nat.zero_le 1

end Handshake

namespace Lifecycle

open Handshake (Outcome Step Sent)

/-- Whether the opening call stands where a handshake came to. -/
def State.Reflects (s : State) : Outcome → Prop
  | .waiting awaited =>
      s.opener = .waiting awaited ∧ s.hasRouter = true ∧ s.routerRuns = true ∧
        awaited.Within s.phase
  | .opened => s.opener = .ended (.ok ()) ∧ s.phase = .opened
  | .failed error => s.opener = .ended (.error error) ∧ s.phase = .closed

/-- Whether a state comes from another one by requests of the handshake. -/
structure State.Continues (t s : State) (sent : List Sent) : Prop where
  config : t.config = s.config
  requests : t.handshakeRequests = s.handshakeRequests ++ sent.map Sent.request

variable {s : State}

theorem State.Continues.trans {t u : State} {sent more : List Sent} (h : t.Continues s sent)
    (hmore : u.Continues t more) : u.Continues s (sent ++ more) :=
  ⟨hmore.config.trans h.config, by
    rw [hmore.requests, h.requests, List.map_append, List.append_assoc]⟩

theorem advance_eq_self_of_reflects {outcome : Outcome} (h : s.Reflects outcome) :
    s.advance = s := by
  unfold State.advance
  cases outcome with
  | waiting awaited => rw [h.1]
  | opened => rw [h.1]
  | failed error => rw [h.1]

theorem opened_iff_of_reflects {outcome : Outcome} (h : s.Reflects outcome) :
    outcome = .opened ↔ s.phase = .opened ∧ s.opener = .ended (.ok ()) := by
  cases outcome with
  | waiting awaited => simp [h.1]
  | opened => simp [h.1, h.2]
  | failed error => simp [h.1]

theorem failed_iff_of_reflects {outcome : Outcome} (h : s.Reflects outcome)
    (error : ConnectionError) :
    outcome = .failed error ↔ s.phase = .closed ∧ s.opener = .ended (.error error) := by
  cases outcome with
  | waiting awaited => simp [h.1]
  | opened => simp [h.1]
  | failed other => simp [h.1, h.2, eq_comm]

theorem advance_giveUp (s : State) (error : ConnectionError) :
    State.advance^[6] (s.giveUp error) =
      { s with
        phase := .closed
        hasRouter := false
        announced := some (.error error)
        opener := .ended (.error error) } :=
  rfl

theorem reflects_of_giveUp {error : ConnectionError} (h : s.advance = s.giveUp error) :
    (State.advance^[7] s).Reflects (.failed error) ∧ (State.advance^[7] s).Continues s [] := by
  rw [Function.iterate_succ_apply, h, advance_giveUp]
  exact ⟨⟨rfl, rfl⟩, rfl, (List.append_nil _).symm⟩

theorem advance_send {request : Request} {awaited : Handshake.Awaited}
    (stands : s.opener = .doing (.send request awaited)) (there : s.hasRouter = true) :
    s.advance =
      match Frame.ofRequest request (Handshake.compressionOf s.config awaited) false 0 with
      | .ok _ => { s with opener := .sending request awaited }
      | .error e => s.giveUp (.ofAttempt (.ofFrameError e)) := by
  rw [State.advance, stands]
  exact if_pos there

/-- After some steps the opening call waits for an answer or returns, as the handshake says. -/
theorem exists_iterate_advance {step : Step} (stands : s.opener = .doing step)
    (there : s.hasRouter = true) (runs : s.routerRuns = true)
    (follows : step.FollowsPhase s.phase) :
    ∃ count ≤ step.phases.length + 7,
      (State.advance^[count] s).Reflects (Handshake.perform s.config step).2 ∧
        (State.advance^[count] s).Continues s (Handshake.perform s.config step).1.toList := by
  induction step generalizing s with
  | enter phase next ih =>
      obtain ⟨hrank, hnext⟩ := follows
      have hadvance : s.advance = { s with phase, opener := .doing next } := by
        rw [State.advance, stands]
        exact if_pos hrank
      obtain ⟨count, hcount, hreflects, hcontinues⟩ :=
        @ih { s with phase, opener := .doing next } rfl there runs hnext
      refine ⟨count + 1, by simp [Step.phases]; omega, ?_⟩
      rw [Function.iterate_succ_apply, hadvance]
      exact ⟨hreflects, hcontinues.config, hcontinues.requests⟩
  | send request awaited =>
      have hadvance := advance_send stands there
      unfold Handshake.perform
      dsimp only
      cases hframe : Frame.ofRequest request (Handshake.compressionOf s.config awaited) false 0 with
      | ok frame =>
          rw [hframe] at hadvance
          have hsent : State.advance^[2] s = { s with
              opener := .waiting awaited
              wire := s.wire ++ [(.handshake, request)] } := by
            rw [Function.iterate_succ_apply, hadvance]
            exact if_pos runs
          refine ⟨2, by omega, ?_⟩
          rw [hsent]
          exact ⟨⟨rfl, there, runs, follows⟩, rfl, by simp [State.handshakeRequests]⟩
      | error e =>
          rw [hframe] at hadvance
          exact ⟨7, by omega, reflects_of_giveUp hadvance⟩
  | finish =>
      have hopened : State.advance^[2] s = { s with
          phase := .opened
          announced := some (.ok ())
          opener := .ended (.ok ()) } := by
        rw [Function.iterate_succ_apply, State.advance, stands]
        exact congrArg State.advance (if_neg follows)
      refine ⟨2, by omega, ?_⟩
      rw [hopened]
      exact ⟨⟨rfl, rfl⟩, rfl, (List.append_nil _).symm⟩
  | fail error =>
      have hadvance : s.advance = s.giveUp error := by
        rw [State.advance, stands]
        rfl
      exact ⟨7, by omega, reflects_of_giveUp hadvance⟩

/-- The steps of an opening call between two answers: it never has more to do. -/
def settle : List Event := List.replicate 8 .advance

/-- A call of open that gets a socket and then answers, and is not disturbed. -/
def opening (answers : List (Except AttemptError Response)) : List Event :=
  .openCall 0 :: .socket (.ok ()) :: settle ++
    answers.flatMap fun answer => .answer answer :: settle

theorem after_replicate (s : State) (count : Nat) :
    s.after (List.replicate count .advance) = State.advance^[count] s := by
  induction count generalizing s with
  | zero => rfl
  | succ count ih =>
      rw [Function.iterate_succ_apply]
      exact ih s.advance

theorem reflects_after_settle {step : Step} (stands : s.opener = .doing step)
    (there : s.hasRouter = true) (runs : s.routerRuns = true)
    (follows : step.FollowsPhase s.phase) (hlength : step.phases.length ≤ 1) :
    (s.after settle).Reflects (Handshake.perform s.config step).2 ∧
      (s.after settle).Continues s (Handshake.perform s.config step).1.toList := by
  obtain ⟨count, hcount, hreflects, hcontinues⟩ :=
    exists_iterate_advance stands there runs follows
  have hsettled : s.after settle = State.advance^[count] s := by
    obtain ⟨more, hmore⟩ : ∃ more, 8 = more + count := ⟨8 - count, by omega⟩
    rw [settle, after_replicate, hmore, Function.iterate_add_apply]
    exact Function.iterate_fixed (advance_eq_self_of_reflects hreflects) more
  rw [hsettled]
  exact ⟨hreflects, hcontinues⟩

theorem opening_concat (answers : List (Except AttemptError Response))
    (answer : Except AttemptError Response) :
    opening (answers ++ [answer]) = opening answers ++ .answer answer :: settle := by
  simp [opening]

theorem after_settle_eq_self {outcome : Outcome} (h : s.Reflects outcome) :
    s.after settle = s := by
  rw [settle, after_replicate]
  exact Function.iterate_fixed (advance_eq_self_of_reflects h) 8

theorem State.Reflects.not_isWaiting {outcome : Outcome} (h : s.Reflects outcome)
    (hends : ∀ awaited, outcome ≠ .waiting awaited) : ¬ s.opener.IsWaiting := by
  cases outcome with
  | waiting awaited => exact absurd rfl (hends awaited)
  | opened => rw [h.1]; exact id
  | failed error => rw [h.1]; exact id

theorem reflects_after_answer {awaited : Handshake.Awaited} (h : s.Reflects (.waiting awaited))
    (answer : Except AttemptError Response) :
    let next := Handshake.perform s.config (Handshake.received s.config awaited answer)
    (s.after (.answer answer :: settle)).Reflects next.2 ∧
      (s.after (.answer answer :: settle)).Continues s next.1.toList := by
  obtain ⟨stands, there, runs, within⟩ := h
  have hhear : s.hear answer = { s with
      opener := .doing (Handshake.received s.config awaited answer)
      heard := s.heard ++ [answer] } := by
    rw [State.hear, stands]
  change ((s.hear answer).after settle).Reflects _ ∧ ((s.hear answer).after settle).Continues s _
  rw [hhear]
  obtain ⟨hreflects, hconfig, hrequests⟩ := reflects_after_settle
    (s := { s with
      opener := .doing (Handshake.received s.config awaited answer)
      heard := s.heard ++ [answer] })
    rfl there runs (Handshake.followsPhase_received within answer)
    (Handshake.length_phases_received_le s.config awaited answer)
  exact ⟨hreflects, hconfig, hrequests⟩

theorem reflects_opening (config : ConnectionConfig)
    (answers : List (Except AttemptError Response)) :
    (State.run config (opening answers)).Reflects (Handshake.run config answers).2 ∧
      (State.run config (opening answers)).Continues { config }
        (Handshake.run config answers).1 := by
  induction answers using List.reverseRecOn with
  | nil =>
      rw [Handshake.run_nil]
      obtain ⟨hreflects, hconfig, hrequests⟩ := reflects_after_settle
        (s := { config, phase := .connecting, hasRouter := true, routerRuns := true,
                opener := .doing Handshake.start })
        rfl rfl rfl rfl (Nat.zero_le 1)
      exact ⟨hreflects, hconfig, hrequests⟩
  | append_singleton answers answer ih =>
      obtain ⟨hreflects, hcontinues⟩ := ih
      rw [opening_concat, run_append]
      by_cases hends : ∀ awaited, (Handshake.run config answers).2 ≠ .waiting awaited
      · -- The call has returned: the answer comes too late for it, and nothing is left to do.
        have hidle := hear_eq_self (hreflects.not_isWaiting hends) answer
        have hafter : (State.run config (opening answers)).after (.answer answer :: settle) =
            ((State.run config (opening answers)).hear answer).after settle := rfl
        rw [hafter, hidle, after_settle_eq_self hreflects, Handshake.run_concat_of_ended hends]
        exact ⟨hreflects, hcontinues⟩
      · push Not at hends
        obtain ⟨awaited, hwaiting⟩ := hends
        rw [hwaiting] at hreflects
        obtain ⟨hnext, hmore⟩ := reflects_after_answer hreflects answer
        have hconfig : (State.run config (opening answers)).config = config := hcontinues.config
        rw [hconfig] at hnext hmore
        rw [Handshake.run_concat (Prod.ext rfl hwaiting)]
        exact ⟨hnext, hcontinues.trans hmore⟩

end Lifecycle

end CqlClient
