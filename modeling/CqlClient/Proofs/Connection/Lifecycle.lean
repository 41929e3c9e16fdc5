import CqlClient.Connection.Lifecycle
import CqlClient.Proofs.Connection.Handshake

/-!
One connection under any interleaving of its processes. What an event can do is said once; what
holds of every run follows from it.
-/

namespace CqlClient.Lifecycle

namespace Opener

/-- Whether the opening call performs the handshake and waits for no answer. -/
def IsActing : Opener → Prop
  | .connecting | .doing _ | .sending _ _ => True
  | _ => False

def IsWaiting : Opener → Prop
  | .waiting _ => True
  | _ => False

end Opener

/-- What an event can do to a connection. -/
inductive Change (s : State) : State → Prop
  | idle : Change s s
  | opens (new : s.phase = .created) :
      Change s { s with phase := .connecting, opener := .connecting }
  | joins (known : s.phase ≠ .created) (caller : Nat) :
      Change s { s with waiting := s.waiting ++ [caller] }
  | returns {outcome : Except ConnectionError Unit} (known : s.announced = some outcome)
      {caller : Nat} (waits : caller ∈ s.waiting) :
      Change s { s with
        waiting := s.waiting.erase caller
        returned := s.returned ++ [(caller, s.resultOf outcome)] }
  | connects (stands : s.opener = .connecting) :
      Change s { s with hasRouter := true, routerRuns := true, opener := .doing Handshake.start }
  | enters {phase : ConnectionPhase} {next : Handshake.Step}
      (stands : s.opener = .doing (.enter phase next)) (follows : s.phase.rank + 1 = phase.rank) :
      Change s { s with phase, opener := .doing next }
  | findsRouter {request : Request} {awaited : Handshake.Awaited}
      (stands : s.opener = .doing (.send request awaited)) (there : s.hasRouter = true)
      {frame : Bytes} (fits : Frame.ofRequest request (Handshake.compressionOf s.config awaited)
        false 0 = .ok frame) :
      Change s { s with opener := .sending request awaited }
  | sends {request : Request} {awaited : Handshake.Awaited}
      (stands : s.opener = .sending request awaited) (runs : s.routerRuns = true) :
      Change s { s with
        opener := .waiting awaited
        wire := s.wire ++ [(.handshake, request)] }
  | hears {awaited : Handshake.Awaited} (stands : s.opener = .waiting awaited)
      (result : Except AttemptError Response) :
      Change s { s with
        opener := .doing (Handshake.received s.config awaited result)
        heard := s.heard ++ [result] }
  | finishes (stands : s.opener = .doing .finish) (live : s.phase ≠ .closed) :
      Change s { s with phase := .opened, opener := .announcing (.ok ()) }
  | givesUp (stands : s.opener.IsActing) (error : ConnectionError) : Change s (s.giveUp error)
  | abandons (stands : s.opener.IsActing ∨ s.opener.IsWaiting) :
      Change s { s with opener := .abandoning shutdownSteps }
  | closes {error : ConnectionError} {step : ClosingStep} {rest : List ClosingStep}
      (stands : s.opener = .closing error (step :: rest)) :
      Change s { s.close error step with opener := .closing error rest }
  | closed {error : ConnectionError} (stands : s.opener = .closing error []) :
      Change s { s with opener := .announcing (.error error) }
  | leaves {step : ClosingStep} {rest : List ClosingStep}
      (stands : s.opener = .abandoning (step :: rest)) :
      Change s { s.close .closed step with opener := .abandoning rest }
  | left (stands : s.opener = .abandoning []) : Change s { s with opener := .abandoned }
  | announces {result : Except ConnectionError Unit} (stands : s.opener = .announcing result) :
      Change s { s with announced := some result, opener := .ended result }
  | beginsClosing : Change s { s with closings := s.closings ++ [.ofCall] }
  | continuesClosing {index : Nat} {error : ConnectionError} {step : ClosingStep}
      {rest : List ClosingStep} (stands : s.closings[index]? = some ⟨error, step :: rest⟩) :
      Change s { s.close error step with closings := s.closings.set index ⟨error, rest⟩ }
  | routerEnds (runs : s.routerRuns = true) (error : ConnectionError) :
      Change s { s with routerRuns := false, closings := s.closings ++ [.ofRouter error] }
  | routerStops (stopped : s.hasRouter = false) : Change s { s with routerRuns := false }
  | admits (opened : s.phase = .opened) (demand : Demand) :
      Change s { s with admitted := s.admitted ++ [⟨s.phase, demand⟩] }
  | passesOn {index : Nat} {asked : Asked} (stands : s.admitted[index]? = some asked) :
      Change s { s with
        admitted := s.admitted.eraseIdx index
        sending := s.sending ++ [asked] }
  | refuses (index : Nat) : Change s { s with admitted := s.admitted.eraseIdx index }
  | submits {index : Nat} {asked : Asked} (stands : s.sending[index]? = some asked) :
      Change s { s with
        sending := s.sending.eraseIdx index
        wire := s.wire ++ [(.caller asked.phase, asked.demand.request)] }
  | drops (index : Nat) : Change s { s with sending := s.sending.eraseIdx index }

variable {s s' : State}

theorem change_hear (s : State) (result : Except AttemptError Response) :
    Change s (s.hear result) := by
  unfold State.hear
  split
  · next awaited stands => exact .hears stands result
  · exact .idle

theorem change_perform {step : Handshake.Step} (stands : s.opener = .doing step) :
    Change s (s.perform step) := by
  have acting : s.opener.IsActing := by rw [stands]; exact trivial
  cases step with
  | enter phase next =>
      rw [State.perform]
      split
      · next follows => exact .enters stands follows
      · exact .givesUp acting _
  | send request awaited =>
      rw [State.perform]
      split
      · next there =>
          split
          · next fits => exact .findsRouter stands there fits
          · exact .givesUp acting _
      · exact .givesUp acting _
  | finish =>
      rw [State.perform]
      split
      · exact .givesUp acting _
      · next live => exact .finishes stands live
  | fail error => exact .givesUp acting error

theorem change_advance (s : State) : Change s s.advance := by
  unfold State.advance
  split
  · next stands => exact change_perform stands
  · next stands =>
      split
      · next runs => exact .sends stands runs
      · exact .givesUp (by rw [stands]; exact trivial) _
  · next stands => exact .closes stands
  · next stands => exact .closed stands
  · next stands => exact .leaves stands
  · next stands => exact .left stands
  · next stands => exact .announces stands
  · exact .idle

theorem change_apply (s : State) (event : Event) : Change s (s.apply event) := by
  cases event with
  | openCall caller =>
      rw [State.apply]
      split
      · next new => exact .opens new
      · next known => exact .joins known caller
  | look caller =>
      rw [State.apply]
      split
      · next known =>
          split
          · next waits => exact .returns known waits
          · exact .idle
      · exact .idle
  | socket result =>
      unfold State.apply
      dsimp only
      split
      · next stands => exact .connects stands
      · next error stands => exact .givesUp (by rw [stands]; exact trivial) error
      · exact .idle
  | advance => exact change_advance s
  | noStream =>
      rw [State.apply]
      split
      · next stands => exact .givesUp (by rw [stands]; exact trivial) _
      · exact .idle
  | answer result => exact change_hear s result
  | abandon =>
      rw [State.apply]
      split
      · next stands => exact .abandons (.inl (by rw [stands]; exact trivial))
      · next stands => exact .abandons (.inl (by rw [stands]; exact trivial))
      · next stands => exact .abandons (.inl (by rw [stands]; exact trivial))
      · next stands => exact .abandons (.inr (by rw [stands]; exact trivial))
      · exact .idle
  | closeCall => exact .beginsClosing
  | advanceClosing index =>
      rw [State.apply]
      split
      · next stands => exact .continuesClosing stands
      · exact .idle
  | routerEnds error =>
      rw [State.apply]
      split
      · next runs => exact .routerEnds runs error
      · exact .idle
  | routerStops =>
      rw [State.apply]
      split
      · exact .idle
      · next stopped => exact .routerStops (Bool.not_eq_true _ ▸ stopped)
  | ask demand =>
      rw [State.apply, State.ask]
      split
      · next opened => exact .admits opened demand
      · exact .idle
  | findRouter index =>
      rw [State.apply]
      split
      · next stands =>
          rw [State.findRouter]
          split
          · exact .passesOn stands
          · exact .refuses index
      · exact .idle
  | submit index =>
      rw [State.apply]
      split
      · next stands =>
          rw [State.submit]
          split
          · exact .submits stands
          · exact .drops index
      · exact .idle

theorem hear_eq_self (h : ¬ s.opener.IsWaiting) (result : Except AttemptError Response) :
    s.hear result = s := by
  unfold State.hear
  split
  · next stands => exact absurd (by rw [stands]; exact trivial) h
  · rfl

theorem opener_close (h : ¬ s.opener.IsWaiting) (error : ConnectionError) (step : ClosingStep) :
    (s.close error step).opener = s.opener := by
  cases step with
  | failWaiting => exact congrArg _ (hear_eq_self h _)
  | _ => rfl

section Frame

variable (s : State) (result : Except AttemptError Response) (error : ConnectionError)
  (step : ClosingStep)

@[simp]
theorem config_hear : (s.hear result).config = s.config := by
  unfold State.hear
  split <;> rfl

@[simp]
theorem phase_hear : (s.hear result).phase = s.phase := by
  unfold State.hear
  split <;> rfl

@[simp]
theorem hasRouter_hear : (s.hear result).hasRouter = s.hasRouter := by
  unfold State.hear
  split <;> rfl

@[simp]
theorem routerRuns_hear : (s.hear result).routerRuns = s.routerRuns := by
  unfold State.hear
  split <;> rfl

@[simp]
theorem announced_hear : (s.hear result).announced = s.announced := by
  unfold State.hear
  split <;> rfl

@[simp]
theorem waiting_hear : (s.hear result).waiting = s.waiting := by
  unfold State.hear
  split <;> rfl

@[simp]
theorem returned_hear : (s.hear result).returned = s.returned := by
  unfold State.hear
  split <;> rfl

@[simp]
theorem closings_hear : (s.hear result).closings = s.closings := by
  unfold State.hear
  split <;> rfl

@[simp]
theorem config_close : (s.close error step).config = s.config := by
  cases step <;> simp [State.close]

@[simp]
theorem routerRuns_close : (s.close error step).routerRuns = s.routerRuns := by
  cases step <;> simp [State.close]

@[simp]
theorem waiting_close : (s.close error step).waiting = s.waiting := by
  cases step <;> simp [State.close]

@[simp]
theorem returned_close : (s.close error step).returned = s.returned := by
  cases step <;> simp [State.close]

@[simp]
theorem closings_close : (s.close error step).closings = s.closings := by
  cases step <;> simp [State.close]

end Frame

/-- What holds of a new connection, and is kept by every event, holds of every run. -/
theorem run_induction {P : State → Prop} {config : ConnectionConfig} (new : P { config })
    (step : ∀ s event, P s → P (s.apply event)) (events : List Event) :
    P (State.run config events) := by
  unfold State.run
  generalize ({ config } : State) = s at new
  induction events generalizing s with
  | nil => exact new
  | cons event rest ih => exact ih _ (step s event new)

def State.after (s : State) (events : List Event) : State := events.foldl State.apply s

theorem run_append (config : ConnectionConfig) (events more : List Event) :
    State.run config (events ++ more) = (State.run config events).after more :=
  List.foldl_append

section Forward

theorem rank_le_closed (phase : ConnectionPhase) : phase.rank ≤ ConnectionPhase.closed.rank := by
  cases phase <;> decide

theorem rank_le_opened {phase : ConnectionPhase} (h : phase ≠ .closed) :
    phase.rank ≤ ConnectionPhase.opened.rank := by
  revert h
  cases phase <;> decide

theorem rank_le_close (s : State) (error : ConnectionError) (step : ClosingStep) :
    s.phase.rank ≤ (s.close error step).phase.rank := by
  cases step with
  | markClosed => exact rank_le_closed s.phase
  | stopRouter => exact Nat.le_refl _
  | failWaiting => exact Nat.le_of_eq (congrArg _ (phase_hear s _).symm)
  | announce => exact Nat.le_refl _

theorem Change.rank_le (h : Change s s') : s.phase.rank ≤ s'.phase.rank := by
  cases h with
  | opens new => exact new ▸ Nat.zero_le 1
  | enters stands follows => exact follows ▸ Nat.le_succ _
  | finishes stands live => exact rank_le_opened live
  | closes stands => exact rank_le_close s _ _
  | leaves stands => exact rank_le_close s _ _
  | continuesClosing stands => exact rank_le_close s _ _
  | _ => exact Nat.le_refl _

theorem rank_le_after (s : State) (events : List Event) :
    s.phase.rank ≤ (s.after events).phase.rank := by
  induction events generalizing s with
  | nil => exact Nat.le_refl _
  | cons event rest ih => exact Nat.le_trans (change_apply s event).rank_le (ih _)

end Forward

section Script

/-- The requests of the handshake that the router took. -/
def State.handshakeRequests (s : State) : List Request :=
  (s.wire.filter fun sent => sent.1 = .handshake).map Prod.snd

/-- Whether the handshake sent the requests that it should for what it heard, but for some that are
left, and comes to an outcome with these. -/
def State.HasSent (s : State) (rest : List Handshake.Sent) (outcome : Handshake.Outcome) : Prop :=
  ∃ before, before.map Handshake.Sent.request = s.handshakeRequests ∧
    Handshake.run s.config s.heard = (before ++ rest, outcome)

/-- Whether the opening call does what a handshake should. -/
def State.OnScript (s : State) : Prop :=
  match s.opener with
  | .absent | .connecting => s.heard = [] ∧ s.handshakeRequests = []
  | .doing step => s.HasSent (Handshake.perform s.config step).1.toList
      (Handshake.perform s.config step).2
  | .sending request awaited =>
      s.HasSent [⟨request, Handshake.compressionOf s.config awaited⟩] (.waiting awaited)
  | .waiting awaited => s.HasSent [] (.waiting awaited)
  | .announcing (.ok ()) | .ended (.ok ()) => s.HasSent [] .opened
  | _ => ∃ rest outcome, s.HasSent rest outcome

theorem hasSent_of_eq_nil (h : s.heard = [] ∧ s.handshakeRequests = []) :
    s.HasSent (Handshake.perform s.config Handshake.start).1.toList
      (Handshake.perform s.config Handshake.start).2 :=
  ⟨[], h.2.symm, by rw [h.1, Handshake.run_nil]; rfl⟩

theorem State.OnScript.hasSent (h : s.OnScript) : ∃ rest outcome, s.HasSent rest outcome := by
  unfold State.OnScript at h
  split at h
  · exact ⟨_, _, hasSent_of_eq_nil h⟩
  · exact ⟨_, _, hasSent_of_eq_nil h⟩
  · exact ⟨_, _, h⟩
  · exact ⟨_, _, h⟩
  · exact ⟨_, _, h⟩
  · exact ⟨_, _, h⟩
  · exact ⟨_, _, h⟩
  · exact h

theorem onScript_of_stands {opener : Opener} (hs : s.OnScript) (stands : s.opener = opener) :
    { s with opener }.OnScript := by
  subst stands
  exact hs

theorem onScript_hear (hs : s.OnScript) (result : Except AttemptError Response) :
    (s.hear result).OnScript := by
  unfold State.hear
  split
  · next awaited stands =>
      obtain ⟨before, hbefore, hrun⟩ := onScript_of_stands hs stands
      rw [List.append_nil] at hrun
      exact ⟨before, hbefore, Handshake.run_concat hrun result⟩
  · exact hs

theorem onScript_close (hs : s.OnScript) (error : ConnectionError) (step : ClosingStep) :
    (s.close error step).OnScript := by
  cases step with
  | markClosed => exact hs
  | stopRouter => exact hs
  | failWaiting => exact onScript_hear hs _
  | announce => exact hs

theorem Change.opener_absent (h : Change s s') (hs : s.phase = .created → s.opener = .absent)
    (hnew : s'.phase = .created) : s'.opener = .absent := by
  have hphase : s.phase = .created := by
    have hrank := h.rank_le
    rw [hnew] at hrank
    revert hrank
    cases s.phase <;> simp [ConnectionPhase.rank]
  have habsent := hs hphase
  cases h with
  | opens new => exact nomatch hnew
  | finishes stands live => exact nomatch hnew
  | givesUp stands error => exact absurd stands (by rw [habsent]; exact id)
  | abandons stands => exact absurd stands (by rw [habsent]; exact or_self_iff.mp)
  | continuesClosing stands =>
      exact (opener_close (by rw [habsent]; exact id) _ _).trans habsent
  | connects stands | enters stands _ | findsRouter stands _ _ | sends stands _ | hears stands _
  | closes stands | closed stands | leaves stands | left stands | announces stands =>
      exact nomatch habsent.symm.trans stands
  | _ => exact habsent

theorem Change.onScript (h : Change s s') (hnew : s.phase = .created → s.opener = .absent)
    (hs : s.OnScript) : s'.OnScript := by
  cases h with
  | opens new => exact onScript_of_stands hs (hnew new)
  | connects stands => exact hasSent_of_eq_nil (onScript_of_stands hs stands)
  | enters stands follows =>
      exact onScript_of_stands hs stands
  | findsRouter stands there fits =>
      have hdoing := onScript_of_stands hs stands
      simp only [State.OnScript, Handshake.perform, fits] at hdoing
      exact hdoing
  | sends stands runs =>
      obtain ⟨before, hbefore, hrun⟩ := onScript_of_stands hs stands
      refine ⟨before ++ [_], ?_, by rw [List.append_nil]; exact hrun⟩
      rw [List.map_append, hbefore]
      simp [State.handshakeRequests]
  | @hears awaited stands result =>
      have hheard := onScript_hear hs result
      rwa [State.hear, stands] at hheard
  | finishes stands live => exact onScript_of_stands hs stands
  | givesUp stands error => exact hs.hasSent
  | abandons stands => exact hs.hasSent
  | closes stands => exact (onScript_close hs _ _).hasSent
  | closed stands => exact hs.hasSent
  | leaves stands => exact (onScript_close hs _ _).hasSent
  | left stands => exact hs.hasSent
  | @announces result stands =>
      match result with
      | .ok () => exact onScript_of_stands hs stands
      | .error error => exact hs.hasSent
  | continuesClosing stands => exact onScript_close hs _ _
  | submits stands =>
      -- What a caller puts on the wire is none of the handshake.
      simpa [State.OnScript, State.HasSent, State.handshakeRequests] using hs
  | _ => exact hs

theorem Change.config_eq (h : Change s s') : s'.config = s.config := by
  cases h with
  | closes stands | leaves stands | continuesClosing stands => exact config_close s _ _
  | _ => rfl

theorem config_run (config : ConnectionConfig) (events : List Event) :
    (State.run config events).config = config :=
  run_induction (P := fun s => s.config = config) rfl
    (fun s event hs => (change_apply s event).config_eq.trans hs) events

theorem onScript_run (config : ConnectionConfig) (events : List Event) :
    (State.run config events).OnScript := by
  refine (run_induction (P := fun s => (s.phase = .created → s.opener = .absent) ∧ s.OnScript)
    ⟨fun _ => rfl, rfl, rfl⟩ (fun s event hs => ?_) events).2
  have hchange := change_apply s event
  exact ⟨hchange.opener_absent hs.1, hchange.onScript hs.1 hs.2⟩

end Script

section Gate

/-- Whether callers asked only on an open connection. -/
structure Gated (admitted sending : List Asked) (wire : List (Sender × Request)) : Prop where
  admitted : ∀ asked ∈ admitted, asked.phase = .opened
  sending : ∀ asked ∈ sending, asked.phase = .opened
  wire : ∀ sent ∈ wire, sent.1 ≠ .handshake →
    ∃ demand : Demand, sent = (.caller .opened, demand.request)

theorem gated_close (h : Gated s.admitted s.sending s.wire) (error : ConnectionError)
    (step : ClosingStep) : Gated (s.close error step).admitted (s.close error step).sending
      (s.close error step).wire := by
  cases step with
  | failWaiting =>
      rw [State.close, State.hear]
      split
      · exact h
      · exact h
  | _ => exact h

theorem Change.gated (h : Change s s') (hs : Gated s.admitted s.sending s.wire) :
    Gated s'.admitted s'.sending s'.wire := by
  cases h with
  | sends stands runs =>
      refine ⟨hs.admitted, hs.sending, fun sent hsent hcaller => ?_⟩
      rcases List.mem_append.mp hsent with hold | hlast
      · exact hs.wire sent hold hcaller
      · exact absurd (congrArg Prod.fst (List.mem_singleton.mp hlast)) hcaller
  | closes stands | leaves stands | continuesClosing stands => exact gated_close hs _ _
  | admits opened demand =>
      refine ⟨fun asked hasked => ?_, hs.sending, hs.wire⟩
      rcases List.mem_append.mp hasked with hold | hlast
      · exact hs.admitted asked hold
      · exact List.mem_singleton.mp hlast ▸ opened
  | passesOn stands =>
      refine ⟨fun asked hasked => hs.admitted asked (List.mem_of_mem_eraseIdx hasked),
        fun asked hasked => ?_, hs.wire⟩
      rcases List.mem_append.mp hasked with hold | hlast
      · exact hs.sending asked hold
      · exact List.mem_singleton.mp hlast ▸ hs.admitted _ (List.mem_of_getElem? stands)
  | refuses index =>
      exact ⟨fun asked hasked => hs.admitted asked (List.mem_of_mem_eraseIdx hasked), hs.sending,
        hs.wire⟩
  | @submits index asked stands =>
      refine ⟨hs.admitted, fun asked hasked => hs.sending asked (List.mem_of_mem_eraseIdx hasked),
        fun sent hsent hcaller => ?_⟩
      rcases List.mem_append.mp hsent with hold | hlast
      · exact hs.wire sent hold hcaller
      · refine ⟨asked.demand, (List.mem_singleton.mp hlast).trans ?_⟩
        rw [hs.sending asked (List.mem_of_getElem? stands)]
  | drops index =>
      exact ⟨hs.admitted, fun asked hasked => hs.sending asked (List.mem_of_mem_eraseIdx hasked),
        hs.wire⟩
  | _ => exact hs

theorem gated_run (config : ConnectionConfig) (events : List Event) :
    Gated (State.run config events).admitted (State.run config events).sending
      (State.run config events).wire :=
  run_induction ⟨by simp, by simp, by simp⟩ (fun s event => (change_apply s event).gated) events

end Gate

section Requests

theorem Demand.opcode_request (demand : Demand) :
    demand.request.opcode ≠ .options ∧ demand.request.opcode ≠ .startup := by
  cases demand with
  | execute statement =>
      cases statement with
      | query query => exact ⟨nofun, nofun⟩
      | prepared statement => exact ⟨nofun, nofun⟩
  | _ => exact ⟨nofun, nofun⟩

theorem handshakeRequests_prefix (h : s.OnScript) : s.handshakeRequests <+:
    (Handshake.run s.config s.heard).1.map Handshake.Sent.request := by
  obtain ⟨rest, outcome, before, hbefore, hrun⟩ := h.hasSent
  rw [← hbefore, hrun, List.map_append]
  exact List.prefix_append _ _

theorem countKind_wire {opcode : RequestOpcode} {wire : List (Sender × Request)}
    (h : ∀ sent ∈ wire, sent.1 ≠ .handshake → sent.2.opcode ≠ opcode) :
    Handshake.countKind opcode (wire.map Prod.snd) = Handshake.countKind opcode
      ((wire.filter fun sent => sent.1 = .handshake).map Prod.snd) := by
  simp only [Handshake.countKind, List.countP_map, List.countP_filter]
  refine List.countP_congr fun sent hsent => ?_
  by_cases hsender : sent.1 = .handshake
  · simp [hsender]
  · simpa [hsender] using h sent hsent hsender

theorem countKind_wire_le (config : ConnectionConfig) (events : List Event)
    {opcode : RequestOpcode} (h : ∀ demand : Demand, demand.request.opcode ≠ opcode) :
    let s := State.run config events
    Handshake.countKind opcode (s.wire.map Prod.snd) ≤ Handshake.countKind opcode
      ((Handshake.run s.config s.heard).1.map Handshake.Sent.request) := by
  intro s
  have hprefix := handshakeRequests_prefix (onScript_run config events)
  rw [countKind_wire]
  · exact hprefix.sublist.countP_le
  · intro sent hsent hcaller
    obtain ⟨demand, rfl⟩ := (gated_run config events).wire sent hsent hcaller
    exact h demand

theorem countKind_wire_le_one (config : ConnectionConfig) (events : List Event) :
    Handshake.countKind .options ((State.run config events).wire.map Prod.snd) ≤ 1 ∧
      Handshake.countKind .startup ((State.run config events).wire.map Prod.snd) ≤ 1 := by
  obtain ⟨hoptions, hstartup⟩ := Handshake.countKind_run_le_one
    (State.run config events).config (State.run config events).heard
  exact ⟨Nat.le_trans (countKind_wire_le config events fun demand => demand.opcode_request.1)
      hoptions,
    Nat.le_trans (countKind_wire_le config events fun demand => demand.opcode_request.2) hstartup⟩

end Requests

end CqlClient.Lifecycle
