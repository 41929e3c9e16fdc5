import CqlClient.Connection.Handshake

namespace CqlClient.Handshake

variable {config : ConnectionConfig}

/-- What a step sends and which answer it waits for then. -/
def Step.request? : Step → Option (Request × Awaited)
  | .enter _ next => next.request?
  | .send request awaited => some (request, awaited)
  | .finish => none
  | .fail _ => none

/-- How many STARTUP requests may follow the answer that is awaited. -/
def Awaited.startups : Awaited → Nat
  | .supported => 1
  | _ => 0

def Outcome.startups : Outcome → Nat
  | .waiting awaited => awaited.startups
  | _ => 0

def countKind (opcode : RequestOpcode) (requests : List Request) : Nat :=
  requests.countP fun request => request.opcode = opcode

/-- Whether a step sends neither OPTIONS nor STARTUP, and no step after it does. -/
def Step.IsLate (step : Step) : Prop :=
  ∀ request awaited, step.request? = some (request, awaited) →
    request.opcode ≠ .options ∧ request.opcode ≠ .startup ∧ awaited.startups = 0

theorem isLate_of_request?_eq_none {step : Step} (h : step.request? = none) : step.IsLate :=
  fun _ _ hsome => nomatch h.symm.trans hsome

theorem isLate_accepted (config : ConnectionConfig) : (accepted config).IsLate := by
  unfold accepted
  split
  · rintro request awaited ⟨⟩
    exact ⟨nofun, nofun, rfl⟩
  · exact isLate_of_request?_eq_none rfl

theorem isLate_ofAuthentication (answer : Except String (Option Bytes × AuthSession)) :
    (ofAuthentication answer).IsLate := by
  cases answer with
  | error text => exact isLate_of_request?_eq_none rfl
  | ok next =>
      rintro request awaited ⟨⟩
      exact ⟨nofun, nofun, rfl⟩

theorem isLate_authenticate (config : ConnectionConfig) (announced : String) :
    (authenticate config announced).IsLate := by
  unfold authenticate
  split
  · exact isLate_ofAuthentication _
  · exact isLate_of_request?_eq_none rfl

theorem received_cases (config : ConnectionConfig) (awaited : Awaited)
    (answer : Except AttemptError Response) :
    (awaited = .supported ∧ (received config awaited answer).request? =
      some (.startup (startupSettings config), .ready)) ∨
    (received config awaited answer).IsLate := by
  unfold received
  split
  · exact .inr (isLate_of_request?_eq_none rfl)
  · dsimp only
    split
    · split
      · exact .inl ⟨rfl, rfl⟩
      · exact .inr (isLate_of_request?_eq_none rfl)
    · exact .inl ⟨rfl, rfl⟩
  · exact .inr (isLate_accepted config)
  · exact .inr (isLate_authenticate config _)
  · exact .inr (isLate_ofAuthentication _)
  · split
    · exact .inr (isLate_accepted config)
    · exact .inr (isLate_of_request?_eq_none rfl)
  · split
    · exact .inr (isLate_of_request?_eq_none rfl)
    · exact .inr (isLate_of_request?_eq_none rfl)
  · exact .inr (isLate_of_request?_eq_none rfl)

theorem perform_cases (config : ConnectionConfig) (step : Step) :
    (∃ request awaited, step.request? = some (request, awaited) ∧
      perform config step =
        (some ⟨request, compressionOf config awaited⟩, .waiting awaited)) ∨
    ((perform config step).1 = none ∧ ∀ awaited, (perform config step).2 ≠ .waiting awaited) := by
  induction step with
  | enter phase next ih => exact ih
  | send request awaited =>
      unfold perform
      dsimp only
      split
      · exact .inl ⟨request, awaited, rfl, rfl⟩
      · exact .inr ⟨rfl, nofun⟩
  | finish => exact .inr ⟨rfl, nofun⟩
  | fail error => exact .inr ⟨rfl, nofun⟩

def Step.phases : Step → List ConnectionPhase
  | .enter phase next => phase :: next.phases
  | _ => []

theorem phases_accepted (config : ConnectionConfig) : (accepted config).phases = [] := by
  unfold accepted
  split
  · rfl
  · rfl

theorem phases_ofAuthentication (answer : Except String (Option Bytes × AuthSession)) :
    (ofAuthentication answer).phases = [] := by
  cases answer with
  | error text => rfl
  | ok next => rfl

theorem phases_authenticate (config : ConnectionConfig) (announced : String) :
    (authenticate config announced).phases = [] := by
  unfold authenticate
  split
  · exact phases_ofAuthentication _
  · rfl

theorem not_mem_phases_received {phase : ConnectionPhase}
    (hphase : phase ≠ .startupSent ∧ phase ≠ .authenticating) (config : ConnectionConfig)
    (awaited : Awaited) (answer : Except AttemptError Response) :
    phase ∉ (received config awaited answer).phases := by
  unfold received
  split
  · exact List.not_mem_nil
  · dsimp only
    split
    · split
      · simp [Step.phases, hphase.1]
      · exact List.not_mem_nil
    · simp [Step.phases, hphase.1]
  · simp [phases_accepted]
  · simp [Step.phases, phases_authenticate, hphase.2]
  · simp [phases_ofAuthentication]
  · split
    · simp [phases_accepted]
    · exact List.not_mem_nil
  · split
    · exact List.not_mem_nil
    · exact List.not_mem_nil
  · exact List.not_mem_nil

@[simp]
theorem resume_nil (config : ConnectionConfig) (outcome : Outcome) :
    resume config outcome [] = ([], outcome) := by
  cases outcome <;> rfl

theorem resume_concat {outcome : Outcome} {answers : List (Except AttemptError Response)}
    {sent : List Sent} {awaited : Awaited}
    (h : resume config outcome answers = (sent, .waiting awaited))
    (answer : Except AttemptError Response) :
    resume config outcome (answers ++ [answer]) =
      (sent ++ (perform config (received config awaited answer)).1.toList,
        (perform config (received config awaited answer)).2) := by
  induction answers generalizing outcome sent with
  | nil =>
      rw [resume_nil, Prod.mk.injEq] at h
      obtain ⟨rfl, rfl⟩ := h
      simp [resume]
  | cons first rest ih =>
      cases outcome with
      | waiting earlier =>
          simp only [resume, Prod.mk.injEq] at h
          obtain ⟨rfl, hlast⟩ := h
          simp [resume, ih (Prod.ext rfl hlast)]
      | opened => exact nomatch h
      | failed error => exact nomatch h

theorem run_nil (config : ConnectionConfig) :
    run config [] = ((perform config start).1.toList, (perform config start).2) := by
  simp [run]

theorem run_concat {answers : List (Except AttemptError Response)} {sent : List Sent}
    {awaited : Awaited} (h : run config answers = (sent, .waiting awaited))
    (answer : Except AttemptError Response) :
    run config (answers ++ [answer]) =
      (sent ++ (perform config (received config awaited answer)).1.toList,
        (perform config (received config awaited answer)).2) := by
  simp only [run, Prod.mk.injEq] at h
  obtain ⟨rfl, hlast⟩ := h
  simp [run, resume_concat (Prod.ext rfl hlast) answer]

theorem countKind_append (opcode : RequestOpcode) (first second : List Request) :
    countKind opcode (first ++ second) = countKind opcode first + countKind opcode second :=
  List.countP_append

theorem Outcome.startups_eq_zero {outcome : Outcome} (h : ∀ awaited, outcome ≠ .waiting awaited) :
    outcome.startups = 0 := by
  cases outcome with
  | waiting awaited => exact absurd rfl (h awaited)
  | opened => rfl
  | failed error => rfl

theorem countKind_perform_received (config : ConnectionConfig) (awaited : Awaited)
    (answer : Except AttemptError Response) :
    let next := perform config (received config awaited answer)
    countKind .options (next.1.toList.map Sent.request) = 0 ∧
      countKind .startup (next.1.toList.map Sent.request) + next.2.startups ≤
        awaited.startups := by
  intro next
  rcases perform_cases config (received config awaited answer) with
    ⟨request, later, hrequest, hnext⟩ | ⟨hnone, hends⟩
  · simp only [next, hnext]
    rcases received_cases config awaited answer with ⟨rfl, hstartup⟩ | hlate
    · obtain ⟨rfl, rfl⟩ := Prod.mk.inj (Option.some.inj (hrequest.symm.trans hstartup))
      exact ⟨rfl, Nat.le_refl 1⟩
    · obtain ⟨hoptions, hstartup, hlater⟩ := hlate request later hrequest
      simp [countKind, hoptions, hstartup, Outcome.startups, hlater]
  · simp only [next, hnone, Outcome.startups_eq_zero hends]
    exact ⟨rfl, Nat.zero_le _⟩

theorem countKind_resume (config : ConnectionConfig) (outcome : Outcome)
    (answers : List (Except AttemptError Response)) :
    countKind .options ((resume config outcome answers).1.map Sent.request) = 0 ∧
      countKind .startup ((resume config outcome answers).1.map Sent.request) ≤
        outcome.startups := by
  induction answers generalizing outcome with
  | nil => simp [countKind]
  | cons answer rest ih =>
      cases outcome with
      | opened => exact ⟨rfl, Nat.zero_le _⟩
      | failed error => exact ⟨rfl, Nat.zero_le _⟩
      | waiting awaited =>
          have hfirst := countKind_perform_received config awaited answer
          have hrest := ih (perform config (received config awaited answer)).2
          simp only [resume, List.map_append, countKind_append, Outcome.startups]
          omega

/-- A handshake sends OPTIONS and STARTUP at most once, whatever the node answers. -/
theorem countKind_run_le_one (config : ConnectionConfig)
    (answers : List (Except AttemptError Response)) :
    countKind .options ((run config answers).1.map Sent.request) ≤ 1 ∧
      countKind .startup ((run config answers).1.map Sent.request) ≤ 1 := by
  have hrest := countKind_resume config (perform config start).2 answers
  rcases perform_cases config start with ⟨request, awaited, hrequest, hstart⟩ | ⟨hnone, hends⟩
  · obtain ⟨rfl, rfl⟩ := Prod.mk.inj (Option.some.inj hrequest)
    rw [hstart] at hrest
    simp only [run, hstart, List.map_append, countKind_append, hrest.1]
    exact ⟨Nat.le_refl 1, (Nat.zero_add _).symm ▸ hrest.2⟩
  · rw [Outcome.startups_eq_zero hends] at hrest
    simp only [run, hnone, List.map_append, countKind_append, hrest.1, Nat.le_zero.mp hrest.2]
    exact ⟨Nat.zero_le 1, Nat.zero_le 1⟩

end CqlClient.Handshake
