import CqlClient.Proofs.Connection.Fairness

namespace CqlClient.Lifecycle

variable {s s' : State} {index : Nat} {closing : Closing} {target : ClosingStep}

section Success

theorem isSuccess_hear (s : State) (result : Except AttemptError Response) :
    (s.hear result).opener.isSuccess = s.opener.isSuccess := by
  unfold State.hear
  split
  · next stands => rw [stands]; rfl
  · rfl

theorem isSuccess_close (s : State) (error : ConnectionError) (step : ClosingStep) :
    (s.close error step).opener.isSuccess = s.opener.isSuccess := by
  cases step with
  | failWaiting => exact isSuccess_hear s _
  | _ => rfl

theorem not_isSuccess (h : s.opener.IsActing ∨ s.opener.IsWaiting) :
    s.opener.isSuccess = false := by
  cases hopener : s.opener with
  | announcing result => rw [hopener] at h; exact h.elim False.elim False.elim
  | ended result => rw [hopener] at h; exact h.elim False.elim False.elim
  | _ => rfl

theorem Change.isSuccess (h : Change s s') (hnew : s.phase = .created → s.opener = .absent)
    (hs : s.opener.isSuccess = true) : s'.opener.isSuccess = true := by
  cases h with
  | opens new => rw [hnew new] at hs; exact nomatch hs
  | finishes stands live => rfl
  | givesUp stands error => rw [not_isSuccess (.inl stands)] at hs; exact nomatch hs
  | abandons stands => rw [not_isSuccess stands] at hs; exact nomatch hs
  | @announces result stands =>
      rw [stands] at hs
      match result with
      | .ok () => rfl
  | continuesClosing stands => exact (isSuccess_close s _ _).trans hs
  | connects stands | enters stands _ | findsRouter stands _ _ | sends stands _ | hears stands _
  | closes stands | closed stands | leaves stands | left stands =>
      rw [stands] at hs
      exact nomatch hs
  | _ => exact hs

/-- What makes sure that a connection is open only after its handshake. -/
structure Earned (s : State) : Prop where
  absent : s.phase = .created → s.opener = .absent
  steps : ∀ step, s.opener = .doing step → .opened ∉ step.phases
  opened : s.phase = .opened → s.opener.isSuccess = true

theorem phase_close_eq_opened {error : ConnectionError} {step : ClosingStep}
    (h : (s.close error step).phase = .opened) : s.phase = .opened := by
  cases step with
  | markClosed => exact nomatch h
  | failWaiting => exact (phase_hear s _).symm.trans h
  | _ => exact h

theorem Change.earned (h : Change s s') (hs : Earned s) : Earned s' where
  absent := h.opener_absent hs.absent
  steps := h.steps ⟨nofun, nofun⟩ hs.steps
  opened hopened := by
    have hkeep := fun hbefore => h.isSuccess hs.absent (hs.opened hbefore)
    cases h with
    | opens new => exact nomatch hopened
    | enters stands follows =>
        refine absurd ?_ (hs.steps _ stands)
        rw [← hopened]
        exact List.mem_cons_self
    | finishes stands live => rfl
    | closes | leaves | continuesClosing => exact hkeep (phase_close_eq_opened hopened)
    | _ => exact hkeep hopened

theorem earned_run (config : ConnectionConfig) (events : List Event) :
    Earned (State.run config events) :=
  run_induction ⟨fun _ => rfl, nofun, nofun⟩ (fun s event => (change_apply s event).earned) events

end Success

section AtOnce

theorem after_induction {P : State → Prop} (hkeep : ∀ s s', Change s s' → P s → P s')
    (hs : P s) (events : List Event) : P (s.after events) := by
  induction events generalizing s with
  | nil => exact hs
  | cons event rest ih => exact ih (hkeep s _ (change_apply s event) hs)

/-- Turns of a process that closes the connection do a step that is left, if they are enough. -/
theorem done_of_turns {P : State → Prop} (hkeep : ∀ s s', Change s s' → P s → P s')
    (hdone : ∀ (s : State) error closings, P { s.close error target with closings }) (turns : Nat)
    (hget : s.closings[index]? = some closing) (htarget : target ∈ closing.rest)
    (hturns : closing.rest.length ≤ turns) :
    P (s.after (List.replicate turns (.advanceClosing index))) := by
  induction turns generalizing s closing with
  | zero =>
      rw [List.eq_nil_of_length_eq_zero (Nat.le_zero.mp hturns)] at htarget
      exact absurd htarget List.not_mem_nil
  | succ turns ih =>
      rcases pending_turn hget htarget with ⟨later, hlater, hleft, hlt⟩ | ⟨rest, hturn⟩
      · exact ih hlater hleft (by omega)
      · have hturned : P (s.apply (.advanceClosing index)) := hturn ▸ hdone _ _ _
        exact after_induction hkeep hturned (List.replicate turns _)

theorem done_closeAtOnce {P : State → Prop} (hkeep : ∀ s s', Change s s' → P s → P s')
    (hdone : ∀ (s : State) error closings, P { s.close error target with closings })
    (htarget : target ∈ Closing.ofCall.rest) (s : State) : P s.closeAtOnce :=
  done_of_turns (s := s.apply .closeCall) hkeep hdone _ List.getElem?_concat_length htarget
    (Nat.le_refl _)

theorem phase_closeAtOnce (s : State) : s.closeAtOnce.phase = .closed := by
  have hmark : ClosingStep.markClosed ∈ Closing.ofCall.rest := by decide
  exact done_closeAtOnce (P := fun s => s.phase = .closed)
    (fun _ _ hchange => hchange.closed_of_closed) (fun _ _ _ => rfl) hmark s

theorem isSome_announced_closeAtOnce (s : State) : s.closeAtOnce.announced.isSome = true := by
  have hannounce : ClosingStep.announce ∈ Closing.ofCall.rest := by decide
  exact done_closeAtOnce (P := fun s => s.announced.isSome = true)
    (fun _ _ hchange => hchange.isSome_announced) (fun _ _ _ => rfl) hannounce s

end AtOnce

section Reached

/-- Whether some events lead from a new connection to a state. -/
def State.IsReached (s : State) : Prop := ∃ config events, s = State.run config events

theorem State.IsReached.after (h : s.IsReached) (events : List Event) :
    (s.after events).IsReached := by
  obtain ⟨config, before, rfl⟩ := h
  exact ⟨config, before ++ events, (run_append config before events).symm⟩

theorem State.IsReached.tended (h : s.IsReached) : Tended s := by
  obtain ⟨config, events, rfl⟩ := h
  exact tended_run config events

theorem State.IsReached.earned (h : s.IsReached) : Earned s := by
  obtain ⟨config, events, rfl⟩ := h
  exact earned_run config events

theorem State.IsReached.isSuccess_after (h : s.IsReached) (hs : s.opener.isSuccess = true)
    (events : List Event) : (s.after events).opener.isSuccess = true := by
  refine (after_induction (P := fun s => Earned s ∧ s.opener.isSuccess = true)
    (fun s s' hchange hs => ?_) ⟨h.earned, hs⟩ events).2
  exact ⟨hchange.earned hs.1, hchange.isSuccess hs.1.absent hs.2⟩

theorem State.IsReached.handshake (h : s.IsReached) (hs : s.opener.isSuccess = true) :
    ∃ sent, Handshake.run s.config s.heard = (sent, .opened) ∧
      s.handshakeRequests = sent.map Handshake.Sent.request := by
  obtain ⟨config, events, rfl⟩ := h
  exact handshake_of_isSuccess (onScript_run config events) hs

end Reached

end CqlClient.Lifecycle
