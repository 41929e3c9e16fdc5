import CqlClient.Proofs.Connection.Outcomes
import Mathlib.Data.Nat.Pairing

/-!
One connection whose processes all go on. Once it is closed its outcome is announced, and every call
of open that waits returns.
-/

namespace CqlClient.Lifecycle

variable {s s' : State}

/-- The state after the first events of a schedule. -/
def State.during (config : ConnectionConfig) (schedule : Nat → Event) (n : Nat) : State :=
  State.run config ((List.range n).map schedule)

/-- Whether an event is a step that a process can do by itself. -/
def Event.IsTurn : Event → Prop
  | .advance | .advanceClosing _ | .look _ => True
  | _ => False

/-- Whether every process gets its turn again and again. -/
def Fair (schedule : Nat → Event) : Prop :=
  ∀ event : Event, event.IsTurn → ∀ n, ∃ m, n ≤ m ∧ schedule m = event

variable {config : ConnectionConfig} {schedule : Nat → Event} {n : Nat}

theorem during_succ (config : ConnectionConfig) (schedule : Nat → Event) (n : Nat) :
    State.during config schedule (n + 1) =
      (State.during config schedule n).apply (schedule n) := by
  simp [State.during, State.run, List.range_succ]

theorem tended_during (config : ConnectionConfig) (schedule : Nat → Event) (n : Nat) :
    Tended (State.during config schedule n) :=
  tended_run config _

theorem exists_during (config : ConnectionConfig) (schedule : Nat → Event) {m : Nat} (h : n ≤ m) :
    ∃ events, State.during config schedule m = (State.during config schedule n).after events := by
  obtain ⟨d, rfl⟩ := Nat.exists_eq_add_of_le h
  refine ⟨((List.range d).map (n + ·)).map schedule, ?_⟩
  rw [State.during, List.range_add, List.map_append, run_append]
  rfl

/-- What every change keeps and the turns of one process bring nearer comes about. -/
theorem eventually_of_rank {event : Event} (hturn : ∀ n, ∃ m, n ≤ m ∧ schedule m = event)
    {P Q : State → Prop} (rank : State → Nat)
    (hkeep : ∀ s s', Change s s' → Tended s → P s → Q s' ∨ (P s' ∧ rank s' ≤ rank s))
    (hnear : ∀ s, Tended s → P s →
      Q (s.apply event) ∨ (P (s.apply event) ∧ rank (s.apply event) < rank s))
    (hn : P (State.during config schedule n)) :
    ∃ m, n ≤ m ∧ Q (State.during config schedule m) := by
  -- By induction on the rank: it stays as low until the next turn, and the turn lowers it.
  induction hrank : rank (State.during config schedule n) using Nat.strongRecOn
    generalizing n with
  | ind r ih =>
      have hwait : ∀ d, (∃ m, n ≤ m ∧ Q (State.during config schedule m)) ∨
          (P (State.during config schedule (n + d)) ∧
            rank (State.during config schedule (n + d)) ≤ r) := by
        intro d
        induction d with
        | zero => exact .inr ⟨hn, Nat.le_of_eq hrank⟩
        | succ d ihd =>
            rcases ihd with hdone | ⟨hd, hless⟩
            · exact .inl hdone
            · have hchange := change_apply (State.during config schedule (n + d)) (schedule (n + d))
              rw [← during_succ] at hchange
              have htended := tended_during config schedule (n + d)
              rcases hkeep _ _ hchange htended hd with hq | ⟨hp, hle⟩
              · exact .inl ⟨n + d + 1, by omega, hq⟩
              · exact .inr ⟨hp, Nat.le_trans hle hless⟩
      obtain ⟨m, hm, hevent⟩ := hturn n
      obtain ⟨d, rfl⟩ := Nat.exists_eq_add_of_le hm
      rcases hwait d with hdone | ⟨hd, hless⟩
      · exact hdone
      · have hturned := hnear _ (tended_during config schedule (n + d)) hd
        rw [← hevent, ← during_succ] at hturned
        rcases hturned with hq | ⟨hp, hlt⟩
        · exact ⟨n + d + 1, by omega, hq⟩
        · obtain ⟨m, hm, hq⟩ := ih _ (Nat.lt_of_lt_of_le hlt hless) hp rfl
          exact ⟨m, by omega, hq⟩

/-- How many steps are left in a process that closes the connection. -/
def State.stepsLeft (s : State) (index : Nat) : Nat :=
  (s.closings[index]?.map fun closing => closing.rest.length).getD 0

variable {index : Nat} {closing : Closing} {target : ClosingStep}

theorem pending_turn (hget : s.closings[index]? = some closing) (htarget : target ∈ closing.rest) :
    (∃ later, (s.apply (.advanceClosing index)).closings[index]? = some later ∧
      target ∈ later.rest ∧ later.rest.length < closing.rest.length) ∨
    ∃ rest, s.apply (.advanceClosing index) = { s.close closing.error target with
      closings := s.closings.set index ⟨closing.error, rest⟩ } := by
  have hinside := (List.getElem?_eq_some_iff.mp hget).1
  obtain ⟨error, steps⟩ := closing
  cases steps with
  | nil => exact nomatch htarget
  | cons step rest =>
      have happly : s.apply (.advanceClosing index) = { s.close error step with
          closings := s.closings.set index ⟨error, rest⟩ } := by
        simp only [State.apply, hget]
      rw [happly]
      rcases List.mem_cons.mp htarget with rfl | hlater
      · exact .inr ⟨rest, rfl⟩
      · exact .inl ⟨_, List.getElem?_set_self hinside, hlater, Nat.lt_succ_self _⟩

def State.Pending (s : State) (index : Nat) (target : ClosingStep) : Prop :=
  ∃ closing, s.closings[index]? = some closing ∧ target ∈ closing.rest

/-- If what holds until then cannot outlast a step of closing that is left to do, it ends. -/
theorem eventually_of_pending {P Q : State → Prop} (hfair : Fair schedule)
    (hpending : (State.during config schedule n).Pending index target)
    (h : P (State.during config schedule n))
    (hkeep : ∀ s s', Change s s' → Tended s → P s → Q s' ∨ P s')
    (hdone : ∀ (s : State) error closings, ¬ P { s.close error target with closings }) :
    ∃ m, n ≤ m ∧ Q (State.during config schedule m) := by
  refine eventually_of_rank (P := fun s => P s ∧ s.Pending index target)
    (hfair (.advanceClosing index) trivial) (State.stepsLeft · index)
    (fun s s' hchange hs hwait => ?_) (fun s hs hwait => ?_) ⟨h, hpending⟩
  · obtain ⟨hbefore, closing, hget, htarget⟩ := hwait
    refine (hkeep s s' hchange hs hbefore).imp_right fun hstill => ?_
    rcases hchange.pending hget htarget with ⟨later, hlater, hleft, hle⟩ | ⟨rest, rfl⟩
    · exact ⟨⟨hstill, later, hlater, hleft⟩, by simpa [State.stepsLeft, hget, hlater] using hle⟩
    · exact absurd hstill (hdone _ _ _)
  · obtain ⟨hbefore, closing, hget, htarget⟩ := hwait
    refine (hkeep s _ (change_apply s _) hs hbefore).imp_right fun hstill => ?_
    rcases pending_turn hget htarget with ⟨later, hlater, hleft, hlt⟩ | ⟨rest, hturn⟩
    · exact ⟨⟨hstill, later, hlater, hleft⟩, by simpa [State.stepsLeft, hget, hlater] using hlt⟩
    · rw [hturn] at hstill
      exact absurd hstill (hdone _ _ _)

theorem eventually_announced_of_pending (hfair : Fair schedule)
    (hpending : (State.during config schedule n).Pending index .announce) :
    ∃ m, n ≤ m ∧ (State.during config schedule m).announced.isSome = true := by
  by_cases h : (State.during config schedule n).announced = none
  · refine eventually_of_pending (P := fun s => s.announced = none)
      (Q := fun s => s.announced.isSome = true) hfair hpending h (fun s s' _ _ _ => ?_)
      fun s error closings => Option.some_ne_none _
    rw [← Option.not_isSome_iff_eq_none]
    exact Classical.em _
  · exact ⟨n, Nat.le_refl n, Option.isSome_iff_ne_none.mpr h⟩

/-- How many steps are at most left for the opening call on a closed connection, unless it waits for
an answer. -/
def Opener.stepsLeft : Opener → Nat
  | .doing _ => 8
  | .sending _ _ => 7
  | .closing _ rest => rest.length + 2
  | .abandoning rest => rest.length + 1
  | .announcing _ => 1
  | _ => 0

/-- Whether the opening call gets to its end by itself. -/
def State.Ending (s : State) : Prop :=
  2 ≤ s.opener.stage ∧ ¬ s.opener.IsWaiting ∧
    (s.opener.stage = 2 → s.phase = .closed ∧ s.routerRuns = false)

theorem ending_of_stage (h : s.opener.stage = 3) : s.Ending :=
  ⟨by omega, fun hwaiting => by simp [stage_of_isWaiting hwaiting] at h, by omega⟩

theorem stepsLeft_of_isActing (h : s.Ending) (hacting : s.opener.IsActing ∨ s.opener.IsWaiting) :
    7 ≤ s.opener.stepsLeft := by
  obtain ⟨hstage, hwaiting, -⟩ := h
  have hacting := hacting.resolve_right hwaiting
  revert hstage hacting
  cases s.opener <;> simp [Opener.IsActing, Opener.stage, Opener.stepsLeft]

theorem Change.ending (h : Change s s') (hnew : s.phase = .created → s.opener = .absent)
    (hs : s.Ending) : s'.Ending ∧ s'.opener.stepsLeft ≤ s.opener.stepsLeft := by
  obtain ⟨hstage, hwaiting, hclosed⟩ := hs
  cases h with
  | opens new => rw [hnew new] at hstage; exact nomatch hstage
  | connects stands => rw [stands] at hstage; exact absurd hstage (by decide)
  | enters stands follows =>
      -- No phase comes after the last one.
      rw [(hclosed (by rw [stands]; rfl)).1] at follows
      exact absurd (rank_le_closed _) (by rw [← follows]; decide)
  | findsRouter stands there fits =>
      refine ⟨⟨Nat.le_refl 2, id, fun _ => hclosed (by rw [stands]; rfl)⟩, ?_⟩
      rw [stands]
      exact Nat.le_succ 7
  | sends stands runs => exact nomatch runs.symm.trans (hclosed (by rw [stands]; rfl)).2
  | hears stands result => exact absurd (by rw [stands]; exact trivial) hwaiting
  | finishes stands live => exact absurd (hclosed (by rw [stands]; rfl)).1 live
  | givesUp stands error =>
      have hleft := stepsLeft_of_isActing ⟨hstage, hwaiting, hclosed⟩ (.inl stands)
      exact ⟨ending_of_stage rfl, Nat.le_trans (Nat.le_succ 6) hleft⟩
  | abandons stands =>
      have hleft := stepsLeft_of_isActing ⟨hstage, hwaiting, hclosed⟩ stands
      exact ⟨ending_of_stage rfl, Nat.le_trans (Nat.le_add_right 5 2) hleft⟩
  | closes stands => exact ⟨ending_of_stage rfl, by rw [stands]; exact Nat.le_succ _⟩
  | closed stands => exact ⟨ending_of_stage rfl, by rw [stands]; exact Nat.le_succ 1⟩
  | leaves stands => exact ⟨ending_of_stage rfl, by rw [stands]; exact Nat.le_succ _⟩
  | left | announces => exact ⟨ending_of_stage rfl, Nat.zero_le _⟩
  | @continuesClosing index error step rest stands =>
      have hsame := opener_close hwaiting error step
      have hrank := rank_le_close s error step
      refine ⟨⟨?_, ?_, fun htwo => ?_⟩, Nat.le_of_eq (congrArg _ hsame)⟩
      · change 2 ≤ (s.close error step).opener.stage
        rwa [hsame]
      · change ¬ (s.close error step).opener.IsWaiting
        rwa [hsame]
      · obtain ⟨hphase, hruns⟩ := hclosed ((congrArg _ hsame).symm.trans htwo)
        exact ⟨eq_closed_of_rank_le (hphase ▸ hrank), (routerRuns_close s _ _).trans hruns⟩
  | routerEnds | routerStops =>
      exact ⟨⟨hstage, hwaiting, fun htwo => ⟨(hclosed htwo).1, rfl⟩⟩, Nat.le_refl _⟩
  | _ => exact ⟨⟨hstage, hwaiting, hclosed⟩, Nat.le_refl _⟩

theorem stepsLeft_perform (h : s.phase = .closed) (step : Handshake.Step) :
    (s.perform step).opener.stepsLeft ≤ 7 := by
  have hlast : shutdownSteps.length + 2 ≤ 7 := by decide
  cases step with
  | enter phase next =>
      rw [State.perform, h, if_neg]
      · exact hlast
      · intro hrank
        exact absurd (rank_le_closed phase) (by rw [← hrank]; decide)
  | send request awaited =>
      rw [State.perform]
      split
      · split
        · exact Nat.le_refl 7
        · exact hlast
      · exact hlast
  | finish =>
      rw [State.perform, if_pos h]
      exact hlast
  | fail error => exact hlast

theorem ending_turn (hs : Tended s) (h : s.Ending) :
    (s.apply .advance).announced.isSome = true ∨
      (s.apply .advance).opener.stepsLeft < s.opener.stepsLeft := by
  obtain ⟨hstage, hwaiting, hclosed⟩ := h
  change s.advance.announced.isSome = true ∨ s.advance.opener.stepsLeft < _
  cases hopener : s.opener with
  | absent => rw [hopener] at hstage; exact nomatch hstage
  | connecting => rw [hopener] at hstage; exact absurd hstage (by decide)
  | waiting awaited => rw [hopener] at hwaiting; exact absurd trivial hwaiting
  | doing step =>
      rw [hopener] at hclosed
      have hleft := stepsLeft_perform (hclosed rfl).1 step
      rw [State.advance, hopener]
      exact .inr (Nat.lt_succ_of_le hleft)
  | sending request awaited =>
      rw [hopener] at hclosed
      rw [State.advance, hopener]
      simp only [(hclosed rfl).2]
      exact .inr (Nat.lt_succ_self 6)
  | closing error rest =>
      rw [State.advance, hopener]
      cases rest with
      | nil => exact .inr (Nat.lt_succ_self 1)
      | cons step rest => exact .inr (Nat.lt_succ_self _)
  | abandoning rest =>
      have htold := hs.candid.abandoning rest hopener
      rw [State.advance, hopener]
      cases rest with
      | nil => exact .inl (htold.resolve_left List.not_mem_nil)
      | cons step rest => exact .inr (Nat.lt_succ_self _)
  | announcing result =>
      rw [State.advance, hopener]
      exact .inl rfl
  | ended result =>
      have htold := hs.candid.ended result hopener
      rw [State.advance, hopener]
      exact .inl (by rw [htold]; rfl)
  | abandoned =>
      have htold := hs.candid.abandoned hopener
      rw [State.advance, hopener]
      exact .inl htold

theorem eventually_announced_of_ending (hfair : Fair schedule)
    (h : (State.during config schedule n).Ending) :
    ∃ m, n ≤ m ∧ (State.during config schedule m).announced.isSome = true := by
  refine eventually_of_rank (P := State.Ending) (Q := fun s => s.announced.isSome = true)
    (hfair .advance trivial) (·.opener.stepsLeft) (fun s s' hchange hs hending => ?_)
    (fun s hs hending => ?_) h
  · exact .inr (hchange.ending hs.absent hending)
  · have hstill := ((change_apply s .advance).ending hs.absent hending).1
    exact (ending_turn hs hending).imp_right fun hlt => ⟨hstill, hlt⟩

/-- A closed connection without a router, whose opening call waits for an answer. -/
structure State.Stuck (s : State) : Prop where
  waiting : s.opener.IsWaiting
  closed : s.phase = .closed
  stopped : s.routerRuns = false

theorem Change.stuck (h : Change s s') (hnew : s.phase = .created → s.opener = .absent)
    (hs : s.Stuck) : s'.Ending ∨ s'.Stuck := by
  have hstage := Nat.le_of_eq (stage_of_isWaiting hs.waiting).symm
  have hclosed := h.closed_of_closed hs.closed
  have hstopped := h.routerRuns_eq_false hstage hs.stopped
  by_cases hwaiting : s'.opener.IsWaiting
  · exact .inr ⟨hwaiting, hclosed, hstopped⟩
  · exact .inl ⟨Nat.le_trans hstage (h.stage_le hnew), hwaiting, fun _ => ⟨hclosed, hstopped⟩⟩

theorem eventually_ending_of_stuck (hfair : Fair schedule)
    (h : (State.during config schedule n).Stuck)
    (hpending : (State.during config schedule n).Pending index .failWaiting) :
    ∃ m, n ≤ m ∧ (State.during config schedule m).Ending :=
  eventually_of_pending hfair hpending h (fun _ _ hchange hs => hchange.stuck hs.absent)
    fun s _ _ hstuck => not_isWaiting_hear s _ hstuck.waiting

theorem eventually_announced_of_announces (hfair : Fair schedule)
    (h : (State.during config schedule n).Announces) :
    ∃ m, n ≤ m ∧ (State.during config schedule m).announced.isSome = true := by
  rcases h with hdone | ⟨closing, hmem, hannounce⟩
  · exact ⟨n, Nat.le_refl n, hdone⟩
  · obtain ⟨index, hget⟩ := List.mem_iff_getElem?.mp hmem
    exact eventually_announced_of_pending hfair ⟨closing, hget, hannounce⟩

theorem eventually_announced (hfair : Fair schedule)
    (h : (State.during config schedule n).phase = .closed) :
    ∃ m, n ≤ m ∧ (State.during config schedule m).announced.isSome = true := by
  have htended := tended_during config schedule n
  rcases htended.closed h with hannounces | hlast | ⟨hstopped, hstage⟩
  · exact eventually_announced_of_announces hfair hannounces
  · exact eventually_announced_of_ending hfair (ending_of_stage hlast)
  · by_cases hwaiting : (State.during config schedule n).opener.IsWaiting
    · rcases htended.silent hwaiting hstopped with hannounces | ⟨closing, hmem, hfail⟩
      · exact eventually_announced_of_announces hfair hannounces
      · obtain ⟨index, hget⟩ := List.mem_iff_getElem?.mp hmem
        obtain ⟨m, hm, hending⟩ := eventually_ending_of_stuck hfair ⟨hwaiting, h, hstopped⟩
          ⟨closing, hget, hfail⟩
        obtain ⟨l, hl, hannounced⟩ := eventually_announced_of_ending hfair hending
        exact ⟨l, Nat.le_trans hm hl, hannounced⟩
    · exact eventually_announced_of_ending hfair ⟨hstage, hwaiting, fun _ => ⟨h, hstopped⟩⟩

theorem eventually_returns (hfair : Fair schedule)
    (h : (State.during config schedule n).phase = .closed) {caller : Nat}
    (hcaller : caller ∈ (State.during config schedule n).waiting) :
    ∃ m new error, (State.during config schedule m).returned =
      (State.during config schedule n).returned ++ new ∧ (caller, .error error) ∈ new := by
  obtain ⟨m, hm, hannounced⟩ := eventually_announced hfair h
  obtain ⟨l, hl, hlook⟩ := hfair (.look caller) trivial m
  obtain ⟨more, hmore⟩ := exists_during config schedule (Nat.le_trans hm hl)
  obtain ⟨later, hlater⟩ := exists_during config schedule hl
  have hknown : (State.during config schedule l).announced.isSome = true :=
    hlater ▸ isSome_announced_after hannounced later
  obtain ⟨new, hnew, -, hcallers⟩ : ReturnErrors (State.during config schedule n)
      (State.during config schedule l) := hmore ▸ returnErrors_after h more
  rcases hcallers caller hcaller with hwaits | ⟨error, herror⟩
  · obtain ⟨outcome, houtcome⟩ := Option.isSome_iff_exists.mp hknown
    obtain ⟨error, herror⟩ := resultOf_of_closed (hmore ▸ closed_after h more) outcome
    have hreturned := returned_look houtcome hwaits
    rw [← hlook, ← during_succ, hnew, herror, List.append_assoc] at hreturned
    exact ⟨l + 1, _, error, hreturned, by simp⟩
  · exact ⟨l, new, error, hnew, herror⟩

/-- What holds of a connection whatever happened to it. -/
structure Dependable (config : ConnectionConfig) (s : State) : Prop where
  /-- The connection never goes back, and once closed it stays closed. -/
  forward : ∀ events, s.phase.rank ≤ (s.after events).phase.rank
  stays_closed : s.phase = .closed → ∀ events, (s.after events).phase = .closed
  /-- After a call of open has begun every other one waits. -/
  one_opens : ∀ caller events, ((s.apply (.openCall caller)).after events).phase ≠ .created
  others_wait : s.phase ≠ .created → ∀ caller,
    s.apply (.openCall caller) = { s with waiting := s.waiting ++ [caller] }
  one_options : Handshake.countKind .options (s.wire.map Prod.snd) ≤ 1
  one_startup : Handshake.countKind .startup (s.wire.map Prod.snd) ≤ 1
  /-- Whoever is told of success is so after a handshake that came to its end: all its requests were
  sent and answered. -/
  success : (s.opener = .ended (.ok ()) ∨ ∃ caller, (caller, .ok ()) ∈ s.returned) →
    ∃ sent, Handshake.run config s.heard = (sent, .opened) ∧
      s.handshakeRequests = sent.map Handshake.Sent.request
  /-- Whoever returns after the connection was closed is told of an error. -/
  closed_fails : s.phase = .closed → ∀ events, ∃ new,
    (s.after events).returned = s.returned ++ new ∧
      ∀ answer ∈ new, ∃ error, answer.2 = .error error
  /-- When the opening call has ended or was given up, everyone who waits is told. -/
  told : (∃ result, s.opener = .ended result) ∨ s.opener = .abandoned →
    ∃ outcome, s.announced = some outcome ∧
      (∀ result, s.opener = .ended result → outcome = result) ∧
      ∀ caller ∈ s.waiting, (s.apply (.look caller)).returned =
        s.returned ++ [(caller, s.resultOf outcome)]
  /-- What callers put on the wire they asked for while the connection was open. -/
  gated : ∀ sent ∈ s.wire, sent.1 ≠ .handshake →
    ∃ demand : Demand, sent = (.caller .opened, demand.request)

theorem one_le_rank {phase : ConnectionPhase} (h : phase ≠ .created) : 1 ≤ phase.rank := by
  revert h
  cases phase <;> decide

theorem apply_openCall (h : s.phase ≠ .created) (caller : Nat) :
    s.apply (.openCall caller) = { s with waiting := s.waiting ++ [caller] } := by
  rw [State.apply, if_neg h]

theorem phase_openCall_ne_created (s : State) (caller : Nat) (events : List Event) :
    ((s.apply (.openCall caller)).after events).phase ≠ .created := by
  have hopened : (s.apply (.openCall caller)).phase ≠ .created := by
    rw [State.apply]
    split
    · intro hcreated
      cases hcreated
    · next known => exact known
  intro hnew
  have hrank := Nat.le_trans (one_le_rank hopened) (rank_le_after _ events)
  rw [hnew] at hrank
  exact Nat.not_succ_le_zero 0 hrank

theorem handshake_of_isSuccess (hs : s.OnScript) (h : s.opener.isSuccess = true) :
    ∃ sent, Handshake.run s.config s.heard = (sent, .opened) ∧
      s.handshakeRequests = sent.map Handshake.Sent.request := by
  have hsent : s.HasSent [] .opened := by
    cases hopener : s.opener with
    | announcing result =>
        rw [hopener] at h
        match result with
        | .ok () => exact onScript_of_stands hs hopener
    | ended result =>
        rw [hopener] at h
        match result with
        | .ok () => exact onScript_of_stands hs hopener
    | _ => rw [hopener] at h; exact nomatch h
  obtain ⟨sent, hsent, hrun⟩ := hsent
  rw [List.append_nil] at hrun
  exact ⟨sent, hrun, hsent.symm⟩

theorem handshake_of_ended (hs : s.OnScript) (h : s.opener = .ended (.ok ())) :
    ∃ sent, Handshake.run s.config s.heard = (sent, .opened) ∧
      s.handshakeRequests = sent.map Handshake.Sent.request :=
  handshake_of_isSuccess hs (by rw [h]; rfl)

theorem told_of_announced {outcome : Except ConnectionError Unit} (hs : Tended s)
    (h : s.announced = some outcome) : (∀ result, s.opener = .ended result → outcome = result) ∧
      ∀ caller ∈ s.waiting, (s.apply (.look caller)).returned =
        s.returned ++ [(caller, s.resultOf outcome)] :=
  ⟨fun result hended => Option.some.inj (h.symm.trans (hs.candid.ended result hended)),
    fun _ => returned_look h⟩

/-- However its processes are interleaved, a connection is opened by one handshake at most, never
goes back, and deceives nobody; and if every process goes on, nobody waits forever on a closed
connection. -/
theorem dependable_run (config : ConnectionConfig) :
    (∀ events, Dependable config (State.run config events)) ∧
    ∀ schedule n caller, Fair schedule → (State.during config schedule n).phase = .closed →
      caller ∈ (State.during config schedule n).waiting →
        ∃ m new error, (State.during config schedule m).returned =
          (State.during config schedule n).returned ++ new ∧ (caller, .error error) ∈ new := by
  refine ⟨fun events => ?_, fun schedule n caller hfair hclosed hcaller =>
    eventually_returns hfair hclosed hcaller⟩
  have htended := tended_run config events
  have hsuccess := handshake_of_ended (onScript_run config events)
  rw [config_run] at hsuccess
  obtain ⟨hoptions, hstartup⟩ := countKind_wire_le_one config events
  refine ⟨rank_le_after _, closed_after, phase_openCall_ne_created _, apply_openCall, hoptions,
    hstartup, ?_, fun hclosed more => ?_, ?_, (gated_run config events).wire⟩
  · rintro (hended | ⟨caller, hcaller⟩)
    · exact hsuccess hended
    · exact hsuccess (htended.candid.returned_ok caller hcaller)
  · obtain ⟨new, hnew, herrors, -⟩ := returnErrors_after hclosed more
    exact ⟨new, hnew, herrors⟩
  · rintro (⟨result, hended⟩ | habandoned)
    · have htold := htended.candid.ended result hended
      exact ⟨result, htold, told_of_announced htended htold⟩
    · obtain ⟨outcome, htold⟩ := Option.isSome_iff_exists.mp (htended.candid.abandoned habandoned)
      exact ⟨outcome, htold, told_of_announced htended htold⟩

/-- A turn for every number. -/
def turn (code : Nat) : Event :=
  match code % 3 with
  | 0 => .advance
  | 1 => .advanceClosing (code / 3)
  | _ => .look (code / 3)

/-- Some events, and then all turns over and over. -/
def roundRobin (first : List Event) (n : Nat) : Event := first.getD n (turn (Nat.unpair n).2)

theorem exists_turn {event : Event} (h : event.IsTurn) : ∃ code, turn code = event := by
  cases event with
  | advance => exact ⟨0, rfl⟩
  | advanceClosing index =>
      refine ⟨3 * index + 1, ?_⟩
      rw [turn, show (3 * index + 1) % 3 = 1 by omega, show (3 * index + 1) / 3 = index by omega]
      rfl
  | look caller =>
      refine ⟨3 * caller + 2, ?_⟩
      rw [turn, show (3 * caller + 2) % 3 = 2 by omega, show (3 * caller + 2) / 3 = caller by omega]
      rfl
  | _ => exact h.elim

theorem fair_roundRobin (first : List Event) : Fair (roundRobin first) := by
  intro event hturn n
  obtain ⟨code, rfl⟩ := exists_turn hturn
  have hlate := Nat.left_le_pair (first.length + n) code
  refine ⟨Nat.pair (first.length + n) code, by omega, ?_⟩
  rw [roundRobin, List.getD_eq_getElem?_getD, List.getElem?_eq_none (by omega), Nat.unpair_pair]
  rfl

/-- A call of open that waits while the connection is closed before its socket is there. -/
theorem dependable_run_closed_early :
    ∃ m new error, (State.during {} (roundRobin [.openCall 0, .openCall 1, .closeCall,
        .advanceClosing 0]) m).returned = [] ++ new ∧ (1, .error error) ∈ new :=
  (dependable_run {}).2 _ 4 1 (fair_roundRobin _) rfl (by decide)

end CqlClient.Lifecycle
