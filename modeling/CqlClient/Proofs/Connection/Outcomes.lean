import CqlClient.Proofs.Connection.Lifecycle

namespace CqlClient.Lifecycle

variable {s s' : State}

section Candor

namespace Opener

def HasEnded : Opener → Prop
  | .ended _ => True
  | _ => False

/-- Whether the opening call returned or was given up. -/
def IsOver : Opener → Prop
  | .ended _ | .abandoning _ | .abandoned => True
  | _ => False

end Opener

/-- Whether everyone is told what the opening call came to. -/
structure Candid (opener : Opener) (announced : Option (Except ConnectionError Unit))
    (returned : List (Nat × Except ConnectionError Unit)) : Prop where
  ended : ∀ result, opener = .ended result → announced = some result
  abandoning : ∀ rest, opener = .abandoning rest → .announce ∈ rest ∨ announced.isSome = true
  abandoned : opener = .abandoned → announced.isSome = true
  announced_ok : announced = some (.ok ()) → opener = .ended (.ok ())
  returned_ok : ∀ caller, (caller, .ok ()) ∈ returned → opener = .ended (.ok ())

variable {opener opener' : Opener} {announced : Option (Except ConnectionError Unit)}
  {returned : List (Nat × Except ConnectionError Unit)}

theorem Candid.move (h : Candid opener announced returned) (hold : ¬ opener.HasEnded)
    (hnew : ¬ opener'.IsOver) : Candid opener' announced returned := by
  have hold : ∀ result, opener ≠ .ended result := by
    rintro result rfl
    exact hold trivial
  refine ⟨?_, ?_, ?_, fun hok => absurd (h.announced_ok hok) (hold _),
    fun caller hcaller => absurd (h.returned_ok caller hcaller) (hold _)⟩
  · rintro result rfl
    exact absurd trivial hnew
  · rintro rest rfl
    exact absurd trivial hnew
  · rintro rfl
    exact absurd trivial hnew

theorem Candid.abandon (h : Candid opener announced returned) (hold : ¬ opener.HasEnded)
    {rest : List ClosingStep} (htold : .announce ∈ rest ∨ announced.isSome = true) :
    Candid (.abandoning rest) announced returned where
  ended result hended := by cases hended
  abandoning other hother := by cases hother; exact htold
  abandoned hother := by cases hother
  announced_ok hok := by
    rw [h.announced_ok hok] at hold
    exact absurd trivial hold
  returned_ok caller hcaller := by
    rw [h.returned_ok caller hcaller] at hold
    exact absurd trivial hold

theorem candid_hear (hs : Candid s.opener s.announced s.returned)
    (result : Except AttemptError Response) :
    Candid (s.hear result).opener (s.hear result).announced (s.hear result).returned := by
  unfold State.hear
  split
  · next awaited stands => exact hs.move (by rw [stands]; exact id) id
  · exact hs

theorem candid_close (hs : Candid s.opener s.announced s.returned) (error : ConnectionError)
    (step : ClosingStep) : Candid (s.close error step).opener (s.close error step).announced
      (s.close error step).returned := by
  cases step with
  | markClosed => exact hs
  | stopRouter => exact hs
  | failWaiting => exact candid_hear hs _
  | announce =>
      refine ⟨fun result hresult => ?_, fun rest _ => .inr rfl, fun _ => rfl, fun hok => ?_,
        hs.returned_ok⟩
      · have hknown := hs.ended result hresult
        simp [State.close, hknown]
      · cases hannounced : s.announced with
        | none => simp [State.close, hannounced] at hok
        | some outcome =>
            simp only [State.close, hannounced, Option.getD_some] at hok
            exact hs.announced_ok (hannounced.trans hok)

theorem announced_close (s : State) (error : ConnectionError) (step : ClosingStep)
    (h : step = .announce ∨ s.announced.isSome = true) :
    (s.close error step).announced.isSome = true := by
  cases step with
  | announce => rfl
  | failWaiting => exact (announced_hear s _).symm ▸ h.resolve_left nofun
  | _ => exact h.resolve_left nofun

theorem not_hasEnded (h : s.opener.IsActing ∨ s.opener.IsWaiting) : ¬ s.opener.HasEnded := by
  cases hopener : s.opener with
  | ended result => rw [hopener] at h; exact h.elim False.elim False.elim
  | _ => exact id

theorem Change.candid (h : Change s s') (hnew : s.phase = .created → s.opener = .absent)
    (hs : Candid s.opener s.announced s.returned) :
    Candid s'.opener s'.announced s'.returned := by
  cases h with
  | opens new => exact hs.move (by rw [hnew new]; exact id) id
  | @returns outcome known caller waits =>
      refine ⟨hs.ended, hs.abandoning, hs.abandoned, hs.announced_ok, fun other hother => ?_⟩
      rcases List.mem_append.mp hother with hold | hlast
      · exact hs.returned_ok other hold
      · have hresult := (Prod.mk.inj (List.mem_singleton.mp hlast)).2
        cases outcome with
        | error error => exact nomatch hresult
        | ok => exact hs.announced_ok known
  | connects stands => exact hs.move (by rw [stands]; exact id) id
  | enters stands follows => exact hs.move (by rw [stands]; exact id) id
  | findsRouter stands there fits => exact hs.move (by rw [stands]; exact id) id
  | sends stands runs => exact hs.move (by rw [stands]; exact id) id
  | hears stands result => exact hs.move (by rw [stands]; exact id) id
  | finishes stands live => exact hs.move (by rw [stands]; exact id) id
  | givesUp stands error => exact hs.move (not_hasEnded (.inl stands)) id
  | abandons stands => exact hs.abandon (not_hasEnded stands) (.inl (by decide))
  | @closes error step rest stands =>
      have hsame := opener_close (s := s) (by rw [stands]; exact id) error step
      exact (candid_close hs error step).move (by rw [hsame, stands]; exact id) id
  | closed stands => exact hs.move (by rw [stands]; exact id) id
  | @leaves step rest stands =>
      have hsame := opener_close (s := s) (by rw [stands]; exact id) .closed step
      refine (candid_close hs .closed step).abandon (by rw [hsame, stands]; exact id) ?_
      -- The outcome is announced by this step, by a later one, or was before.
      rcases hs.abandoning _ stands with hpending | hdone
      · rcases List.mem_cons.mp hpending with hnow | hlater
        · exact .inr (announced_close s _ _ (.inl hnow.symm))
        · exact .inl hlater
      · exact .inr (announced_close s _ _ (.inr hdone))
  | left stands =>
      have htold := (hs.abandoning _ stands).resolve_left List.not_mem_nil
      refine ⟨?_, ?_, fun _ => htold, fun hok => ?_, fun caller hcaller => ?_⟩
      · exact nofun
      · exact nofun
      · exact nomatch stands.symm.trans (hs.announced_ok hok)
      · exact nomatch stands.symm.trans (hs.returned_ok caller hcaller)
  | @announces result stands =>
      refine ⟨fun other hother => ?_, nofun, nofun, fun hok => ?_, fun caller hcaller => ?_⟩
      · rw [Opener.ended.inj hother]
      · rw [Option.some.inj hok]
      · exact nomatch stands.symm.trans (hs.returned_ok caller hcaller)
  | continuesClosing stands => exact candid_close hs _ _
  | _ => exact hs

end Candor

section Progress

/-- How far the opening call is. -/
def Opener.stage : Opener → Nat
  | .absent => 0
  | .connecting => 1
  | .doing _ | .sending _ _ | .waiting _ => 2
  | _ => 3

/-- Whether calls that wait are told, or some process is about to tell them. -/
def State.Announces (s : State) : Prop :=
  s.announced.isSome = true ∨ ∃ closing ∈ s.closings, .announce ∈ closing.rest

/-- Whether the opening call cannot succeed any more, or nothing depends on it. -/
def State.Doomed (s : State) : Prop :=
  s.Announces ∨ s.opener.stage = 3 ∨ (s.routerRuns = false ∧ 2 ≤ s.opener.stage)

theorem stage_le_three (opener : Opener) : opener.stage ≤ 3 := by
  unfold Opener.stage
  split <;> decide

theorem stage_hear (s : State) (result : Except AttemptError Response) :
    (s.hear result).opener.stage = s.opener.stage := by
  unfold State.hear
  split
  · next stands => rw [stands]; rfl
  · rfl

theorem stage_close (s : State) (error : ConnectionError) (step : ClosingStep) :
    (s.close error step).opener.stage = s.opener.stage := by
  cases step with
  | failWaiting => exact stage_hear s _
  | _ => rfl

theorem Change.stage_le (h : Change s s') (hnew : s.phase = .created → s.opener = .absent) :
    s.opener.stage ≤ s'.opener.stage := by
  cases h with
  | opens new => rw [hnew new]; exact Nat.zero_le 1
  | connects stands => rw [stands]; exact Nat.le_succ 1
  | enters stands _ | findsRouter stands _ _ | sends stands _ | hears stands _ =>
      rw [stands]; exact Nat.le_refl 2
  | continuesClosing stands => exact Nat.le_of_eq (stage_close s _ _).symm
  | finishes | givesUp | abandons | closes | closed | leaves | left | announces =>
      exact stage_le_three _
  | _ => exact Nat.le_refl _

theorem Change.routerRuns_eq_false (h : Change s s') (hstage : 2 ≤ s.opener.stage)
    (hs : s.routerRuns = false) : s'.routerRuns = false := by
  cases h with
  | connects stands => rw [stands] at hstage; exact absurd hstage (by decide)
  | closes | leaves | continuesClosing => exact (routerRuns_close s _ _).trans hs
  | routerEnds | routerStops => rfl
  | _ => exact hs

variable {index : Nat} {closing : Closing} {target : ClosingStep}

theorem Change.closing_cases (h : Change s s') (hget : s.closings[index]? = some closing) :
    s'.closings[index]? = some closing ∨ ∃ step rest, closing.rest = step :: rest ∧
      s' = { s.close closing.error step with
        closings := s.closings.set index ⟨closing.error, rest⟩ } := by
  have hinside := (List.getElem?_eq_some_iff.mp hget).1
  cases h with
  | closes | leaves => exact .inl (by simpa using hget)
  | beginsClosing | routerEnds => exact .inl ((List.getElem?_append_left hinside).trans hget)
  | @continuesClosing other error step rest stands =>
      by_cases hsame : other = index
      · subst hsame
        obtain rfl := Option.some.inj (hget.symm.trans stands)
        exact .inr ⟨step, rest, rfl, rfl⟩
      · exact .inl ((List.getElem?_set_ne hsame).trans hget)
  | _ => exact .inl hget

theorem Change.pending (h : Change s s') (hget : s.closings[index]? = some closing)
    (htarget : target ∈ closing.rest) :
    (∃ later, s'.closings[index]? = some later ∧ target ∈ later.rest ∧
      later.rest.length ≤ closing.rest.length) ∨
    ∃ rest, s' = { s.close closing.error target with
      closings := s.closings.set index ⟨closing.error, rest⟩ } := by
  rcases h.closing_cases hget with hsame | ⟨step, rest, hrest, hdone⟩
  · exact .inl ⟨closing, hsame, htarget, Nat.le_refl _⟩
  · rw [hrest] at htarget
    rcases List.mem_cons.mp htarget with rfl | hlater
    · exact .inr ⟨rest, hdone⟩
    · refine .inl ⟨⟨closing.error, rest⟩, ?_, hlater, by rw [hrest]; exact Nat.le_succ _⟩
      rw [hdone]
      exact List.getElem?_set_self (List.getElem?_eq_some_iff.mp hget).1

theorem Change.isSome_announced (h : Change s s') (hs : s.announced.isSome = true) :
    s'.announced.isSome = true := by
  cases h with
  | closes | leaves | continuesClosing => exact announced_close s _ _ (.inr hs)
  | announces => rfl
  | _ => exact hs

theorem Change.announces_of (h : Change s s') (hs : s.Announces) : s'.Announces := by
  rcases hs with hdone | ⟨closing, hmem, hannounce⟩
  · exact .inl (h.isSome_announced hdone)
  · obtain ⟨index, hget⟩ := List.mem_iff_getElem?.mp hmem
    rcases h.pending hget hannounce with ⟨later, hlater, hleft, -⟩ | ⟨rest, rfl⟩
    · exact .inr ⟨later, List.mem_of_getElem? hlater, hleft⟩
    · exact .inl rfl

theorem Change.doomed (h : Change s s') (hnew : s.phase = .created → s.opener = .absent)
    (hs : s.Doomed) : s'.Doomed := by
  rcases hs with hannounces | hlast | ⟨hruns, hstage⟩
  · exact .inl (h.announces_of hannounces)
  · exact .inr (.inl (Nat.le_antisymm (stage_le_three _) (hlast ▸ h.stage_le hnew)))
  · exact .inr (.inr ⟨h.routerRuns_eq_false hstage hruns, Nat.le_trans hstage (h.stage_le hnew)⟩)

/-- What is left to do in a process that closes the connection was left before, or the process is
new. -/
theorem Change.mem_closings (h : Change s s') (hmem : closing ∈ s'.closings) :
    (∃ earlier ∈ s.closings, ∀ step ∈ closing.rest, step ∈ earlier.rest) ∨ closing = .ofCall ∨
      ∃ error, closing = .ofRouter error ∧ s.routerRuns = true ∧ s'.routerRuns = false := by
  cases h with
  | closes | leaves =>
      rw [closings_close s] at hmem
      exact .inl ⟨closing, hmem, fun _ => id⟩
  | beginsClosing =>
      rcases List.mem_append.mp hmem with hold | hlast
      · exact .inl ⟨closing, hold, fun _ => id⟩
      · exact .inr (.inl (List.mem_singleton.mp hlast))
  | routerEnds runs error =>
      rcases List.mem_append.mp hmem with hold | hlast
      · exact .inl ⟨closing, hold, fun _ => id⟩
      · exact .inr (.inr ⟨error, List.mem_singleton.mp hlast, runs, rfl⟩)
  | continuesClosing stands =>
      rcases List.mem_or_eq_of_mem_set hmem with hold | rfl
      · exact .inl ⟨closing, hold, fun _ => id⟩
      · exact .inl ⟨_, List.mem_of_getElem? stands, fun _ => List.mem_cons_of_mem _⟩
  | _ => exact .inl ⟨closing, hmem, fun _ => id⟩

/-- What makes sure that waiting calls are told. -/
structure Tended (s : State) : Prop where
  absent : s.phase = .created → s.opener = .absent
  candid : Candid s.opener s.announced s.returned
  steps : ∀ step, s.opener = .doing step → .closed ∉ step.phases
  starting : s.opener.stage < 2 → s.routerRuns = false
  closed : s.phase = .closed → s.Doomed
  closing : ∀ closing ∈ s.closings, .markClosed ∈ closing.rest → s.Doomed
  stopping : ∀ closing ∈ s.closings, .stopRouter ∈ closing.rest → s.Announces
  unreachable : s.opener.stage = 2 → s.hasRouter = false → s.Announces
  silent : s.opener.IsWaiting → s.routerRuns = false →
    s.Announces ∨ ∃ closing ∈ s.closings, .failWaiting ∈ closing.rest

theorem phase_close_eq_closed {error : ConnectionError} {step : ClosingStep}
    (h : (s.close error step).phase = .closed) : s.phase = .closed ∨ step = .markClosed := by
  cases step with
  | markClosed => exact .inr rfl
  | failWaiting => exact .inl ((phase_hear s _).symm.trans h)
  | _ => exact .inl h

theorem hasRouter_close_eq_false {error : ConnectionError} {step : ClosingStep}
    (h : (s.close error step).hasRouter = false) : s.hasRouter = false ∨ step = .stopRouter := by
  cases step with
  | stopRouter => exact .inr rfl
  | failWaiting => exact .inl ((hasRouter_hear s _).symm.trans h)
  | _ => exact .inl h

theorem not_isWaiting_hear (s : State) (result : Except AttemptError Response) :
    ¬ (s.hear result).opener.IsWaiting := by
  intro hwaiting
  rw [State.hear] at hwaiting
  split at hwaiting
  · exact hwaiting
  · next hother =>
      cases hopener : s.opener with
      | waiting awaited => exact hother awaited hopener
      | _ => simp [hopener, Opener.IsWaiting] at hwaiting

theorem isWaiting_of_close {error : ConnectionError} {step : ClosingStep}
    (h : (s.close error step).opener.IsWaiting) : s.opener.IsWaiting := by
  cases step with
  | failWaiting => exact absurd h (not_isWaiting_hear s _)
  | _ => exact h

theorem stage_of_isWaiting {opener : Opener} (h : opener.IsWaiting) : opener.stage = 2 := by
  cases opener with
  | waiting awaited => rfl
  | _ => exact h.elim

theorem steps_close {phase : ConnectionPhase}
    (hphase : phase ≠ .startupSent ∧ phase ≠ .authenticating)
    (hs : ∀ step, s.opener = .doing step → phase ∉ step.phases) (error : ConnectionError)
    (closing : ClosingStep) : ∀ step,
      (s.close error closing).opener = .doing step → phase ∉ step.phases := by
  cases closing with
  | failWaiting =>
      rw [State.close, State.hear]
      split
      · rintro step ⟨⟩
        exact Handshake.not_mem_phases_received hphase _ _ _
      · exact hs
  | _ => exact hs

theorem Change.steps (h : Change s s') {phase : ConnectionPhase}
    (hphase : phase ≠ .startupSent ∧ phase ≠ .authenticating)
    (hs : ∀ step, s.opener = .doing step → phase ∉ step.phases) :
    ∀ step, s'.opener = .doing step → phase ∉ step.phases := by
  cases h with
  | connects stands =>
      rintro step ⟨⟩
      exact List.not_mem_nil
  | enters stands follows =>
      rintro step ⟨⟩
      exact fun hmem => hs _ stands (List.mem_cons_of_mem _ hmem)
  | hears stands result =>
      rintro step ⟨⟩
      exact Handshake.not_mem_phases_received hphase _ _ _
  | continuesClosing stands => exact steps_close hphase hs _ _
  | opens | findsRouter | sends | finishes | givesUp | abandons | closes | closed | leaves | left
  | announces => exact nofun
  | _ => exact hs

theorem Change.starting (h : Change s s') (hnew : s.phase = .created → s.opener = .absent)
    (hs : s.opener.stage < 2 → s.routerRuns = false) (hstage : s'.opener.stage < 2) :
    s'.routerRuns = false := by
  have hruns := hs (Nat.lt_of_le_of_lt (h.stage_le hnew) hstage)
  cases h with
  | connects stands => exact absurd hstage (Nat.lt_irrefl 2)
  | closes | leaves | continuesClosing => exact (routerRuns_close s _ _).trans hruns
  | routerEnds | routerStops => rfl
  | _ => exact hruns

theorem Change.doomed_of_closed (h : Change s s') (hs : Tended s) (hclosed : s'.phase = .closed) :
    s'.Doomed := by
  have hkeep := h.doomed hs.absent
  cases h with
  | opens | finishes => exact nomatch hclosed
  | enters stands follows =>
      refine absurd ?_ (hs.steps _ stands)
      rw [← hclosed]
      exact List.mem_cons_self
  | closes | leaves => exact .inr (.inl rfl)
  | continuesClosing stands =>
      rcases phase_close_eq_closed hclosed with hbefore | rfl
      · exact hkeep (hs.closed hbefore)
      · exact hkeep (hs.closing _ (List.mem_of_getElem? stands) List.mem_cons_self)
  | _ => exact hkeep (hs.closed hclosed)

theorem Change.doomed_of_closing (h : Change s s') (hs : Tended s) (hmem : closing ∈ s'.closings)
    (hmark : .markClosed ∈ closing.rest) : s'.Doomed := by
  rcases h.mem_closings hmem with ⟨earlier, hearlier, hrest⟩ | rfl | ⟨error, rfl, hruns, hended⟩
  · exact h.doomed hs.absent (hs.closing earlier hearlier (hrest _ hmark))
  · exact .inl (.inr ⟨_, hmem, by decide⟩)
  · have hstage : 2 ≤ s.opener.stage :=
      Nat.le_of_not_lt fun hlow => nomatch (hs.starting hlow).symm.trans hruns
    exact .inr (.inr ⟨hended, Nat.le_trans hstage (h.stage_le hs.absent)⟩)

theorem Change.announces_of_stopping (h : Change s s') (hs : Tended s)
    (hmem : closing ∈ s'.closings) (hstop : .stopRouter ∈ closing.rest) : s'.Announces := by
  rcases h.mem_closings hmem with ⟨earlier, hearlier, hrest⟩ | rfl | ⟨error, rfl, -, -⟩
  · exact h.announces_of (hs.stopping earlier hearlier (hrest _ hstop))
  · exact .inr ⟨_, hmem, by decide⟩
  · exact absurd hstop (by simp [Closing.ofRouter])

theorem Change.announces_of_unreachable (h : Change s s') (hs : Tended s)
    (hstage : s'.opener.stage = 2) (hrouter : s'.hasRouter = false) : s'.Announces := by
  have hkeep := h.announces_of
  cases h with
  | connects => exact nomatch hrouter
  | enters stands _ | findsRouter stands _ _ | sends stands _ | hears stands _ =>
      exact hkeep (hs.unreachable (by rw [stands]; rfl) hrouter)
  | continuesClosing stands =>
      rcases hasRouter_close_eq_false hrouter with hbefore | rfl
      · exact hkeep (hs.unreachable ((stage_close s _ _).symm.trans hstage) hbefore)
      · exact hkeep (hs.stopping _ (List.mem_of_getElem? stands) List.mem_cons_self)
  | opens | finishes | givesUp | abandons | closes | closed | leaves | left | announces =>
      exact nomatch hstage
  | _ => exact hkeep (hs.unreachable hstage hrouter)

theorem Change.silent (h : Change s s') (hs : Tended s) (hwaiting : s'.opener.IsWaiting)
    (hruns : s'.routerRuns = false) :
    s'.Announces ∨ ∃ closing ∈ s'.closings, .failWaiting ∈ closing.rest := by
  have hkeep : (s.Announces ∨ ∃ closing ∈ s.closings, .failWaiting ∈ closing.rest) →
      s'.Announces ∨ ∃ closing ∈ s'.closings, .failWaiting ∈ closing.rest := by
    rintro (hannounces | ⟨closing, hmem, hfail⟩)
    · exact .inl (h.announces_of hannounces)
    · obtain ⟨index, hget⟩ := List.mem_iff_getElem?.mp hmem
      rcases h.pending hget hfail with ⟨later, hlater, hleft, -⟩ | ⟨rest, rfl⟩
      · exact .inr ⟨later, List.mem_of_getElem? hlater, hleft⟩
      · exact absurd hwaiting (not_isWaiting_hear s _)
  cases h with
  | sends stands runs => exact nomatch hruns.symm.trans runs
  | continuesClosing stands =>
      exact hkeep (hs.silent (isWaiting_of_close hwaiting)
        ((routerRuns_close s _ _).symm.trans hruns))
  | routerEnds runs error => exact .inr ⟨.ofRouter error, by simp, by simp [Closing.ofRouter]⟩
  -- The router stops only when it was taken away, and whoever did that goes on to announce.
  | routerStops stopped => exact hkeep (.inl (hs.unreachable (stage_of_isWaiting hwaiting) stopped))
  | opens | connects | enters | findsRouter | hears | finishes | givesUp | abandons | closes
  | closed | leaves | left | announces => exact hwaiting.elim
  | _ => exact hkeep (hs.silent hwaiting hruns)

theorem Change.tended (h : Change s s') (hs : Tended s) : Tended s' where
  absent := h.opener_absent hs.absent
  candid := h.candid hs.absent hs.candid
  steps := h.steps ⟨nofun, nofun⟩ hs.steps
  starting := h.starting hs.absent hs.starting
  closed := h.doomed_of_closed hs
  closing _ hmem := h.doomed_of_closing hs hmem
  stopping _ hmem := h.announces_of_stopping hs hmem
  unreachable := h.announces_of_unreachable hs
  silent := h.silent hs

theorem tended_run (config : ConnectionConfig) (events : List Event) :
    Tended (State.run config events) := by
  refine run_induction ?_ (fun s event => (change_apply s event).tended) events
  exact ⟨fun _ => rfl, ⟨nofun, nofun, nofun, nofun, by simp⟩, nofun, fun _ => rfl, nofun, by simp,
    by simp, nofun, nofun⟩

end Progress

section Returns

theorem eq_closed_of_rank_le {phase : ConnectionPhase}
    (h : ConnectionPhase.closed.rank ≤ phase.rank) : phase = .closed := by
  revert h
  cases phase <;> simp [ConnectionPhase.rank]

theorem Change.closed_of_closed (h : Change s s') (hs : s.phase = .closed) : s'.phase = .closed :=
  eq_closed_of_rank_le (hs ▸ h.rank_le)

theorem resultOf_of_closed (h : s.phase = .closed) (outcome : Except ConnectionError Unit) :
    ∃ error, s.resultOf outcome = .error error := by
  cases outcome with
  | ok => exact ⟨.closed, by rw [State.resultOf, if_pos h]⟩
  | error error => exact ⟨error, rfl⟩

/-- Whether those who return between two states are told of an error, and nobody else stops
waiting. -/
def ReturnErrors (s s' : State) : Prop :=
  ∃ new, s'.returned = s.returned ++ new ∧
    (∀ answer ∈ new, ∃ error, answer.2 = .error error) ∧
    ∀ caller ∈ s.waiting, caller ∈ s'.waiting ∨ ∃ error, (caller, .error error) ∈ new

theorem returnErrors_of_eq (hreturned : s'.returned = s.returned)
    (hwaiting : ∀ caller ∈ s.waiting, caller ∈ s'.waiting) : ReturnErrors s s' :=
  ⟨[], by rw [hreturned, List.append_nil], by simp, fun caller hcaller =>
    .inl (hwaiting caller hcaller)⟩

theorem ReturnErrors.trans {s'' : State} (h : ReturnErrors s s') (h' : ReturnErrors s' s'') :
    ReturnErrors s s'' := by
  obtain ⟨new, hnew, herrors, hcallers⟩ := h
  obtain ⟨more, hmore, herrors', hcallers'⟩ := h'
  refine ⟨new ++ more, by rw [hmore, hnew, List.append_assoc], fun answer hanswer => ?_,
    fun caller hcaller => ?_⟩
  · exact (List.mem_append.mp hanswer).elim (herrors answer) (herrors' answer)
  · rcases hcallers caller hcaller with hwaits | ⟨error, herror⟩
    · exact (hcallers' caller hwaits).imp_right fun ⟨error, herror⟩ =>
        ⟨error, List.mem_append_right _ herror⟩
    · exact .inr ⟨error, List.mem_append_left _ herror⟩

theorem Change.returnErrors (h : Change s s') (hclosed : s.phase = .closed) :
    ReturnErrors s s' := by
  cases h with
  | joins known caller =>
      exact returnErrors_of_eq rfl fun other hother => List.mem_append_left _ hother
  | @returns outcome known caller waits =>
      obtain ⟨error, herror⟩ := resultOf_of_closed hclosed outcome
      rw [herror]
      refine ⟨_, rfl, fun answer hanswer => ?_, fun other hother => ?_⟩
      · exact ⟨error, congrArg Prod.snd (List.mem_singleton.mp hanswer)⟩
      · by_cases hsame : other = caller
        · exact .inr ⟨error, by rw [hsame]; exact List.mem_singleton_self _⟩
        · exact .inl ((List.mem_erase_of_ne hsame).mpr hother)
  | closes | leaves | continuesClosing =>
      exact returnErrors_of_eq (returned_close s _ _) fun caller hcaller =>
        (waiting_close s _ _).symm ▸ hcaller
  | _ => exact returnErrors_of_eq rfl fun _ => id

theorem returnErrors_after (h : s.phase = .closed) (events : List Event) :
    ReturnErrors s (s.after events) := by
  induction events generalizing s with
  | nil => exact returnErrors_of_eq rfl fun _ => id
  | cons event rest ih =>
      have hchange := change_apply s event
      exact (hchange.returnErrors h).trans (ih (hchange.closed_of_closed h))

theorem closed_after (h : s.phase = .closed) (events : List Event) :
    (s.after events).phase = .closed :=
  eq_closed_of_rank_le (h ▸ rank_le_after s events)

theorem returned_look {outcome : Except ConnectionError Unit} (known : s.announced = some outcome)
    {caller : Nat} (waits : caller ∈ s.waiting) :
    (s.apply (.look caller)).returned = s.returned ++ [(caller, s.resultOf outcome)] := by
  simp only [State.apply, known, if_pos waits]

theorem isSome_announced_after (h : s.announced.isSome = true) (events : List Event) :
    (s.after events).announced.isSome = true := by
  induction events generalizing s with
  | nil => exact h
  | cons event rest ih => exact ih ((change_apply s event).isSome_announced h)

end Returns

end CqlClient.Lifecycle
