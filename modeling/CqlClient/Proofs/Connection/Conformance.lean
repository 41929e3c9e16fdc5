import CqlClient.Proofs.Connection.Dialogue

namespace CqlClient.Handshake

variable {config : ConnectionConfig} {said : List Response} {requests : List Request}
  {next : Option Awaited}

section Run

/-- Compression of the request after a number of others: OPTIONS and STARTUP have none. -/
def compressionAt (config : ConnectionConfig) (count : Nat) : Option Compression :=
  if count < 2 then none else config.compression

theorem compressionAt_of_le {count : Nat} (h : 2 ≤ count) :
    compressionAt config count = config.compression :=
  if_neg (Nat.not_lt.mpr h)

/-- The requests of a dialogue, each with its compression. -/
def sentAs (config : ConnectionConfig) (requests : List Request) : List Sent :=
  requests.mapIdx fun index request => ⟨request, compressionAt config index⟩

theorem sentAs_concat (requests : List Request) (request : Request) :
    sentAs config (requests ++ [request]) =
      sentAs config requests ++ [⟨request, compressionAt config requests.length⟩] :=
  List.mapIdx_concat

theorem Answers.length_tokens {authenticator : Authenticator} {announced : String}
    {challenges tokens : List (Option Bytes)}
    (h : Answers authenticator announced challenges tokens) :
    tokens.length = challenges.length + 1 := by
  induction h with
  | first starts => rfl
  | next earlier answers ih => simp [ih]

theorem Admits.length_said {tokens : List (Option Bytes)} (h : Admits config said tokens) :
    said.length = tokens.length + 1 := by
  cases h with
  | ready => rfl
  | authenticated configured answers accepts => simp [answers.length_tokens]

theorem Dialogue.length_requests (h : Dialogue config said requests next) :
    requests.length = said.length + next.toList.length := by
  cases h with
  | begun => rfl
  | startup offered => rfl
  | authenticating offered configured answers => simp [answers.length_tokens]
  | admitted offered admits =>
      cases config.keyspace <;> simp [admits.length_said]
  | switched offered admits configured named => simp [admits.length_said]

theorem Dialogue.compressionOf_eq {awaited : Awaited}
    (h : Dialogue config said requests (some awaited)) :
    compressionOf config awaited = compressionAt config said.length := by
  generalize hnext : some awaited = next at h
  cases h with
  | begun =>
      obtain rfl := Option.some.inj hnext
      rfl
  | startup offered =>
      obtain rfl := Option.some.inj hnext
      rfl
  | authenticating offered configured answers =>
      obtain rfl := Option.some.inj hnext
      exact (compressionAt_of_le (by simp)).symm
  | admitted offered admits =>
      obtain ⟨name, configured, rfl⟩ := Option.map_eq_some_iff.mp hnext.symm
      exact (compressionAt_of_le (by simp [admits.length_said])).symm
  | switched offered admits configured named => exact nomatch hnext

/-- How a handshake can stand with given answers: what it sent, and how far it came. -/
inductive Stands (config : ConnectionConfig) :
    List (Except AttemptError Response) → List Sent × Outcome → Prop
  | waiting {said : List Response} {requests : List Request} {awaited : Awaited}
      (dialogue : Dialogue config said requests (some awaited)) :
      Stands config (said.map .ok) (sentAs config requests, .waiting awaited)
  | opened {said : List Response} {requests : List Request}
      (dialogue : Dialogue config said requests none)
      (rest : List (Except AttemptError Response)) :
      Stands config (said.map .ok ++ rest) (sentAs config requests, .opened)
  | misfit {said : List Response} {requests : List Request} {awaited : Awaited}
      {answer : Except AttemptError Response}
      (dialogue : Dialogue config said requests (some awaited))
      (misfits : ∀ response onward, answer = .ok response →
        ¬ Follows config awaited response onward)
      (error : ConnectionError) (rest : List (Except AttemptError Response)) :
      Stands config (said.map .ok ++ answer :: rest) (sentAs config requests, .failed error)
  | unwritable {said : List Response} {requests : List Request} {request : Request}
      {awaited : Awaited} {error : FrameError}
      (dialogue : Dialogue config said (requests ++ [request]) (some awaited))
      (unfit : Frame.ofRequest request (compressionOf config awaited) false 0 = .error error)
      (rest : List (Except AttemptError Response)) :
      Stands config (said.map .ok ++ rest)
        (sentAs config requests, .failed (.ofAttempt (.ofFrameError error)))

theorem perform_of_onward? {step : Step} {request : Request} {awaited : Awaited}
    (h : step.onward? = some (some (request, awaited))) :
    perform config step = perform config (.send request awaited) := by
  induction step with
  | enter phase next ih => exact ih h
  | send other later =>
      obtain ⟨rfl, rfl⟩ := Prod.mk.inj (Option.some.inj (Option.some.inj h))
      rfl
  | finish => exact nomatch Option.some.inj h
  | fail error => exact nomatch h

theorem perform_of_onward?_none {step : Step} (h : step.onward? = some none) :
    perform config step = (none, .opened) := by
  induction step with
  | enter phase next ih => exact ih h
  | send request awaited => exact nomatch Option.some.inj h
  | finish => rfl
  | fail error => exact nomatch h

theorem perform_of_fails {step : Step} (h : step.onward? = none) :
    ∃ error, perform config step = (none, .failed error) := by
  induction step with
  | enter phase next ih => exact ih h
  | send request awaited => exact nomatch h
  | finish => exact nomatch h
  | fail error => exact ⟨error, rfl⟩

theorem stands_send {request : Request} {awaited : Awaited}
    (h : Dialogue config said (requests ++ [request]) (some awaited)) :
    Stands config (said.map .ok)
      (sentAs config requests ++ (perform config (.send request awaited)).1.toList,
        (perform config (.send request awaited)).2) := by
  have hcompression : compressionOf config awaited = compressionAt config requests.length := by
    have hlength := h.length_requests
    rw [h.compressionOf_eq]
    congr 1
    simpa using hlength.symm
  unfold perform
  dsimp only
  split
  · have hwaiting := Stands.waiting h
    rwa [sentAs_concat, ← hcompression] at hwaiting
  · next error unfit =>
      simpa using Stands.unwritable h unfit []

theorem stands_received {awaited : Awaited}
    (h : Dialogue config said requests (some awaited)) (answer : Except AttemptError Response) :
    Stands config (said.map .ok ++ [answer])
      (sentAs config requests ++ (perform config (received config awaited answer)).1.toList,
        (perform config (received config awaited answer)).2) := by
  cases honward : (received config awaited answer).onward? with
  | none =>
      obtain ⟨error, hperform⟩ := perform_of_fails honward
      rw [hperform, Option.toList_none, List.append_nil]
      refine .misfit h ?_ error []
      rintro response onward rfl hfollows
      exact nomatch honward.symm.trans (onward?_eq_of_follows hfollows)
  | some onward =>
      cases answer with
      | error e => exact nomatch honward
      | ok response =>
          have hnext := h.follow (follows_of_onward?_eq honward)
          cases onward with
          | none =>
              rw [perform_of_onward?_none honward, Option.toList_none, List.append_nil]
              simpa using Stands.opened hnext []
          | some next =>
              rw [perform_of_onward? honward]
              simpa using stands_send hnext

theorem resume_concat_of_ended {outcome : Outcome} {answers : List (Except AttemptError Response)}
    (h : ∀ awaited, (resume config outcome answers).2 ≠ .waiting awaited)
    (answer : Except AttemptError Response) :
    resume config outcome (answers ++ [answer]) = resume config outcome answers := by
  induction answers generalizing outcome with
  | nil =>
      cases outcome with
      | waiting awaited => exact absurd rfl (h awaited)
      | opened => rfl
      | failed error => rfl
  | cons first rest ih =>
      cases outcome with
      | waiting awaited => simp only [List.cons_append, resume, ih h]
      | opened => rfl
      | failed error => rfl

theorem run_concat_of_ended {answers : List (Except AttemptError Response)}
    (h : ∀ awaited, (run config answers).2 ≠ .waiting awaited)
    (answer : Except AttemptError Response) :
    run config (answers ++ [answer]) = run config answers := by
  have hresume := @resume_concat_of_ended config (perform config start).2 answers h answer
  simp only [run, hresume]

theorem stands_run (config : ConnectionConfig) (answers : List (Except AttemptError Response)) :
    Stands config answers (run config answers) := by
  -- One more answer at the end either meets a handshake that waits for it or changes nothing.
  induction answers using List.reverseRecOn with
  | nil =>
      rw [run_nil]
      exact @stands_send config [] [] _ _ .begun
  | append_singleton answers answer ih =>
      generalize hrun : run config answers = result at ih
      cases ih with
      | waiting dialogue =>
          rw [run_concat hrun]
          exact stands_received dialogue answer
      | opened dialogue rest =>
          rw [run_concat_of_ended (by rw [hrun]; exact nofun), hrun, List.append_assoc]
          exact .opened dialogue _
      | misfit dialogue misfits error rest =>
          rw [run_concat_of_ended (by rw [hrun]; exact nofun), hrun, List.append_assoc]
          exact .misfit dialogue misfits error _
      | unwritable dialogue unfit rest =>
          rw [run_concat_of_ended (by rw [hrun]; exact nofun), hrun, List.append_assoc]
          exact .unwritable dialogue unfit _

end Run

section Conformance

/-- All requests that a handshake can send, with given tokens. -/
def script (config : ConnectionConfig) (tokens : List (Option Bytes)) : List Request :=
  .options :: .startup (startupSettings config) ::
    (tokens.map .authResponse ++ (config.keyspace.map useRequest).toList)

/-- Which answers call for which requests. -/
inductive Prompts (config : ConnectionConfig) : Response → Request → Prop
  | supported {offers : Assoc String (List String)} (offered : Offered config offers) :
      Prompts config (.supported offers) (.startup (startupSettings config))
  | authenticate {announced : String} {token : Option Bytes}
      (configured : config.authenticator.isSome) :
      Prompts config (.authenticate announced) (.authResponse token)
  | challenge {challenge token : Option Bytes} (configured : config.authenticator.isSome) :
      Prompts config (.authChallenge challenge) (.authResponse token)
  | ready {name : KeyspaceName} (configured : config.keyspace = some name) :
      Prompts config .ready (useRequest name)
  | success {token : Option Bytes} {name : KeyspaceName}
      (configured : config.keyspace = some name) :
      Prompts config (.authSuccess token) (useRequest name)

theorem Admits.isSome_authenticator {tokens : List (Option Bytes)}
    (h : Admits config said tokens) (htokens : tokens ≠ []) : config.authenticator.isSome := by
  cases h with
  | ready => exact absurd rfl htokens
  | authenticated configured answers accepts => rw [configured]; rfl

theorem Dialogue.exists_prefix_script (h : Dialogue config said requests next) :
    ∃ tokens, (tokens ≠ [] → config.authenticator.isSome) ∧ requests <+: script config tokens := by
  cases h with
  | begun => exact ⟨[], nofun, by simp [script]⟩
  | startup offered => exact ⟨[], nofun, by simp [script]⟩
  | @authenticating _ _ _ _ tokens offered configured answers =>
      exact ⟨tokens, fun _ => by rw [configured]; rfl, by simp [script]⟩
  | admitted offered admits => exact ⟨_, admits.isSome_authenticator, List.prefix_rfl⟩
  | @switched _ _ tokens _ _ offered admits configured named =>
      exact ⟨tokens, admits.isSome_authenticator, by simp [script, configured]⟩

theorem Dialogue.authenticator_eq {session : AuthSession}
    (h : Dialogue config said requests (some (.authentication session))) :
    config.authenticator = some session.authenticator := by
  generalize hnext : some (Awaited.authentication session) = next at h
  cases h with
  | begun => exact nomatch hnext
  | startup offered => exact nomatch hnext
  | authenticating offered configured answers =>
      obtain rfl := Awaited.authentication.inj (Option.some.inj hnext)
      exact configured
  | admitted offered admits =>
      obtain ⟨name, -, hname⟩ := Option.map_eq_some_iff.mp hnext.symm
      exact nomatch hname
  | switched offered admits configured named => exact nomatch hnext

theorem Dialogue.prompts {awaited later : Awaited} {response : Response} {request : Request}
    (h : Dialogue config said requests (some awaited))
    (hfollows : Follows config awaited response (some (request, later))) :
    Prompts config response request := by
  generalize honward : some (request, later) = onward at hfollows
  cases hfollows with
  | supported offered =>
      obtain ⟨rfl, -⟩ := Prod.mk.inj (Option.some.inj honward)
      exact .supported offered
  | ready =>
      obtain ⟨name, configured, heq⟩ := Option.map_eq_some_iff.mp honward.symm
      obtain ⟨rfl, -⟩ := Prod.mk.inj heq
      exact .ready configured
  | authenticate configured starts =>
      obtain ⟨rfl, -⟩ := Prod.mk.inj (Option.some.inj honward)
      exact .authenticate (by rw [configured]; rfl)
  | challenge answers =>
      obtain ⟨rfl, -⟩ := Prod.mk.inj (Option.some.inj honward)
      exact .challenge (by rw [h.authenticator_eq]; rfl)
  | success accepts =>
      obtain ⟨name, configured, heq⟩ := Option.map_eq_some_iff.mp honward.symm
      obtain ⟨rfl, -⟩ := Prod.mk.inj heq
      exact .success configured
  | switched named => exact nomatch honward

theorem Dialogue.exists_prompts (h : Dialogue config said requests next) {index : Nat}
    {request : Request} (hrequest : requests[index + 1]? = some request) :
    ∃ response, said[index]? = some response ∧ Prompts config response request := by
  induction said using List.reverseRecOn generalizing requests next with
  | nil =>
      obtain ⟨rfl, -⟩ := h.of_nil
      exact nomatch hrequest
  | append_singleton earlier response ih =>
      obtain ⟨sent, awaited, onward, hearlier, hfollows, rfl, -⟩ := h.of_concat
      have hlength : sent.length = earlier.length + 1 := hearlier.length_requests
      rcases Nat.lt_or_ge (index + 1) sent.length with hlt | hge
      · rw [List.getElem?_append_left hlt] at hrequest
        obtain ⟨prompting, hprompting, hprompts⟩ := ih hearlier hrequest
        exact ⟨prompting, (List.getElem?_append_left (by omega)).trans hprompting, hprompts⟩
      · rw [List.getElem?_append_right hge] at hrequest
        cases onward with
        | none => exact nomatch hrequest
        | some next =>
            obtain ⟨hindex, rfl⟩ : index + 1 - sent.length = 0 ∧ next.1 = request := by
              simpa [List.getElem?_singleton] using hrequest
            obtain rfl : index = earlier.length := by omega
            exact ⟨response, List.getElem?_concat_length, hearlier.prompts hfollows⟩

/-- What a node says to USE when it switches to the keyspace of a connection, if it has one. -/
def Switches (config : ConnectionConfig) (said : List Response) : Prop :=
  match config.keyspace with
  | none => said = []
  | some name => ∃ answer, said = [.result (.setKeyspace answer)] ∧ name.isNamedBy answer = true

/-- Whether answers are the expected ones, as far as they go. -/
def Fits (config : ConnectionConfig) (answers : List (Except AttemptError Response)) : Prop :=
  ∃ said requests next, answers = said.map .ok ∧ Dialogue config said requests next

/-- Whether answers are the expected ones up to the end of a handshake. -/
def Completes (config : ConnectionConfig) (answers : List (Except AttemptError Response)) : Prop :=
  ∃ offers login tokens switch, Offered config offers ∧ Admits config login tokens ∧
    Switches config switch ∧ answers = (.supported offers :: (login ++ switch)).map .ok

/-- Whether the answers are the expected ones so far, but the request that should come next does not
fit the wire format. -/
def IsBlocked (config : ConnectionConfig) (answers : List (Except AttemptError Response)) : Prop :=
  ∃ said requests request next error, answers = said.map .ok ∧
    Dialogue config said (requests ++ [request]) next ∧
    Frame.ofRequest request (compressionAt config requests.length) false 0 = .error error

theorem Completes.exists_dialogue {answers : List (Except AttemptError Response)}
    (h : Completes config answers) :
    ∃ said requests, answers = said.map .ok ∧ Dialogue config said requests none := by
  obtain ⟨offers, login, tokens, switch, offered, admits, switches, rfl⟩ := h
  rw [Switches] at switches
  cases hkeyspace : config.keyspace with
  | none =>
      rw [hkeyspace] at switches
      obtain rfl := switches
      have hadmitted := Dialogue.admitted offered admits
      rw [hkeyspace] at hadmitted
      exact ⟨_, _, by rw [List.append_nil], hadmitted⟩
  | some name =>
      rw [hkeyspace] at switches
      obtain ⟨answer, rfl, named⟩ := switches
      exact ⟨_, _, rfl, .switched offered admits hkeyspace named⟩

theorem Dialogue.completes (h : Dialogue config said requests none) :
    Completes config (said.map .ok) := by
  generalize hnext : none = next at h
  cases h with
  | begun => exact nomatch hnext
  | startup offered => exact nomatch hnext
  | authenticating offered configured answers => exact nomatch hnext
  | @admitted _ login _ offered admits =>
      have hkeyspace : config.keyspace = none := Option.map_eq_none_iff.mp hnext.symm
      refine ⟨_, login, _, [], offered, admits, ?_, by rw [List.append_nil]⟩
      rw [Switches, hkeyspace]
  | switched offered admits configured named =>
      refine ⟨_, _, _, _, offered, admits, ?_, rfl⟩
      rw [Switches, configured]
      exact ⟨_, rfl, named⟩

/-- Whether a handshake came to the outcome that it should with the answers that it got. -/
structure Ends (config : ConnectionConfig) (heard : List (Except AttemptError Response))
    (outcome : Outcome) : Prop where
  opened_iff : outcome = .opened ↔ Completes config heard
  failed_of_misfit : ¬ Fits config heard → ∃ error, outcome = .failed error
  misfit_of_failed : ∀ error, outcome = .failed error → ¬ Fits config heard ∨ IsBlocked config heard

/-- Whether a handshake that gets answers sent what it should and came to the outcome that it
should. An answer counts if its request was sent; one that waits for more got them all. -/
structure Conforms (config : ConnectionConfig) (answers : List (Except AttemptError Response))
    (sent : List Sent) (outcome : Outcome) : Prop where
  requests : ∃ tokens, (tokens ≠ [] → config.authenticator.isSome) ∧
    sent.map Sent.request <+: script config tokens
  prompted : ∀ index later, sent[index + 1]? = some later →
    ∃ response, answers[index]? = some (.ok response) ∧ Prompts config response later.request
  compression : ∀ index request, sent[index]? = some request →
    request.compression = compressionAt config index
  ends : Ends config (answers.take sent.length) outcome
  waits : ∀ awaited, outcome = .waiting awaited → answers.length < sent.length

theorem length_sentAs (config : ConnectionConfig) (requests : List Request) :
    (sentAs config requests).length = requests.length :=
  List.length_mapIdx

theorem getElem?_sentAs (config : ConnectionConfig) (requests : List Request) (index : Nat) :
    (sentAs config requests)[index]? =
      requests[index]?.map fun request => ⟨request, compressionAt config index⟩ :=
  List.getElem?_mapIdx

theorem map_request_sentAs (config : ConnectionConfig) (requests : List Request) :
    (sentAs config requests).map Sent.request = requests := by
  refine List.ext_getElem? fun index => ?_
  rw [List.getElem?_map, getElem?_sentAs, Option.map_map]
  exact congrFun Option.map_id _

theorem Stands.exists_dialogue {answers : List (Except AttemptError Response)} {sent : List Sent}
    {outcome : Outcome} (h : Stands config answers (sent, outcome)) :
    ∃ said requests unsent rest next, Dialogue config said (requests ++ unsent) next ∧
      answers = said.map .ok ++ rest ∧ sent = sentAs config requests := by
  cases h with
  | waiting dialogue => exact ⟨_, _, [], [], _, by rwa [List.append_nil], by simp, rfl⟩
  | opened dialogue rest => exact ⟨_, _, [], rest, _, by rwa [List.append_nil], rfl, rfl⟩
  | misfit dialogue misfits error rest =>
      exact ⟨_, _, [], _, _, by rwa [List.append_nil], rfl, rfl⟩
  | unwritable dialogue unfit rest => exact ⟨_, _, [_], rest, _, dialogue, rfl, rfl⟩

variable {answers : List (Except AttemptError Response)} {sent : List Sent} {outcome : Outcome}

theorem eq_of_map_ok_eq {first second : List Response}
    (h : first.map (Except.ok : Response → Except AttemptError Response) = second.map .ok) :
    first = second :=
  (List.map_inj_right fun _ _ => Except.ok.inj).mp h

theorem Dialogue.fits (h : Dialogue config said requests next) : Fits config (said.map .ok) :=
  ⟨said, requests, next, rfl, h⟩

theorem Completes.fits (h : Completes config answers) : Fits config answers := by
  obtain ⟨said, requests, rfl, dialogue⟩ := h.exists_dialogue
  exact dialogue.fits

theorem Dialogue.not_completes {awaited : Awaited}
    (h : Dialogue config said requests (some awaited)) : ¬ Completes config (said.map .ok) := by
  intro hcompletes
  obtain ⟨other, others, heq, dialogue⟩ := hcompletes.exists_dialogue
  obtain rfl := eq_of_map_ok_eq heq
  exact nomatch (h.unique dialogue).2

theorem Dialogue.not_fits {awaited : Awaited} {answer : Except AttemptError Response}
    (h : Dialogue config said requests (some awaited))
    (misfits : ∀ response onward, answer = .ok response →
      ¬ Follows config awaited response onward) :
    ¬ Fits config (said.map .ok ++ [answer]) := by
  rintro ⟨other, others, next, heq, dialogue⟩
  obtain ⟨earlier, last, rfl, hearlier, hlast⟩ := List.map_eq_append_iff.mp heq.symm
  obtain ⟨response, rfl, rfl⟩ := List.map_eq_singleton_iff.mp hlast
  obtain rfl := eq_of_map_ok_eq hearlier
  obtain ⟨sent, awaited', onward, hsent, hfollows, -, -⟩ := dialogue.of_concat
  obtain rfl := Option.some.inj (h.unique hsent).2
  exact misfits response onward rfl hfollows

theorem Stands.exists_script (h : Stands config answers (sent, outcome)) :
    ∃ tokens, (tokens ≠ [] → config.authenticator.isSome) ∧
      sent.map Sent.request <+: script config tokens := by
  obtain ⟨said, requests, unsent, rest, next, dialogue, rfl, rfl⟩ := h.exists_dialogue
  obtain ⟨tokens, htokens, hprefix⟩ := dialogue.exists_prefix_script
  rw [map_request_sentAs]
  exact ⟨tokens, htokens, (List.prefix_append requests unsent).trans hprefix⟩

theorem Stands.prompted (h : Stands config answers (sent, outcome)) {index : Nat} {later : Sent}
    (hlater : sent[index + 1]? = some later) :
    ∃ response, answers[index]? = some (.ok response) ∧ Prompts config response later.request := by
  obtain ⟨said, requests, unsent, rest, next, dialogue, rfl, rfl⟩ := h.exists_dialogue
  obtain ⟨request, hrequest, rfl⟩ :=
    Option.map_eq_some_iff.mp ((getElem?_sentAs config requests (index + 1)).symm.trans hlater)
  have hsent : (requests ++ unsent)[index + 1]? = some request :=
    (List.getElem?_append_left (List.getElem?_eq_some_iff.mp hrequest).1).trans hrequest
  obtain ⟨response, hresponse, hprompts⟩ := dialogue.exists_prompts hsent
  refine ⟨response, ?_, hprompts⟩
  rw [List.getElem?_append_left, List.getElem?_map, hresponse, Option.map_some]
  simpa using (List.getElem?_eq_some_iff.mp hresponse).1

theorem Stands.compression (h : Stands config answers (sent, outcome)) {index : Nat}
    {request : Sent} (hrequest : sent[index]? = some request) :
    request.compression = compressionAt config index := by
  obtain ⟨said, requests, unsent, rest, next, -, -, rfl⟩ := h.exists_dialogue
  obtain ⟨request, -, rfl⟩ :=
    Option.map_eq_some_iff.mp ((getElem?_sentAs config requests index).symm.trans hrequest)
  rfl

theorem Dialogue.ends_waiting {awaited : Awaited}
    (h : Dialogue config said requests (some awaited)) :
    Ends config (said.map .ok) (.waiting awaited) where
  opened_iff := ⟨nofun, fun hcompletes => absurd hcompletes h.not_completes⟩
  failed_of_misfit hmisfit := absurd h.fits hmisfit
  misfit_of_failed _ heq := nomatch heq

theorem Dialogue.ends_opened (h : Dialogue config said requests none) :
    Ends config (said.map .ok) .opened where
  opened_iff := ⟨fun _ => h.completes, fun _ => rfl⟩
  failed_of_misfit hmisfit := absurd h.fits hmisfit
  misfit_of_failed _ heq := nomatch heq

theorem ends_misfit {heard : List (Except AttemptError Response)} (h : ¬ Fits config heard)
    (error : ConnectionError) : Ends config heard (.failed error) where
  opened_iff := ⟨nofun, fun hcompletes => absurd hcompletes.fits h⟩
  failed_of_misfit _ := ⟨error, rfl⟩
  misfit_of_failed _ _ := .inl h

theorem Dialogue.ends_unwritable {request : Request} {awaited : Awaited} {error : FrameError}
    (h : Dialogue config said (requests ++ [request]) (some awaited))
    (unfit : Frame.ofRequest request (compressionAt config requests.length) false 0 = .error error)
    (failure : ConnectionError) : Ends config (said.map .ok) (.failed failure) where
  opened_iff := ⟨nofun, fun hcompletes => absurd hcompletes h.not_completes⟩
  failed_of_misfit _ := ⟨failure, rfl⟩
  misfit_of_failed _ _ := .inr ⟨said, requests, request, _, error, rfl, h, unfit⟩

/-- A handshake comes to the outcome that the answers to its requests demand. -/
theorem Stands.ends (h : Stands config answers (sent, outcome)) :
    Ends config (answers.take sent.length) outcome := by
  cases h with
  | waiting dialogue =>
      rw [length_sentAs, dialogue.length_requests, List.take_of_length_le (by simp)]
      exact dialogue.ends_waiting
  | opened dialogue rest =>
      rw [length_sentAs, dialogue.length_requests, List.take_left' (by simp)]
      exact dialogue.ends_opened
  | @misfit said _ _ answer dialogue misfits error rest =>
      rw [length_sentAs, dialogue.length_requests, List.append_cons, List.take_left' (by simp)]
      exact ends_misfit (dialogue.not_fits misfits) error
  | @unwritable said requests _ _ _ dialogue unfit rest =>
      have hlength : requests.length = said.length := by
        simpa using dialogue.length_requests
      rw [length_sentAs, List.take_left' (by simp [hlength])]
      rw [dialogue.compressionOf_eq, ← hlength] at unfit
      exact dialogue.ends_unwritable unfit _

theorem Stands.waits {awaited : Awaited} (h : Stands config answers (sent, .waiting awaited)) :
    answers.length < sent.length := by
  cases h with
  | waiting dialogue => simp [length_sentAs, dialogue.length_requests]

theorem conforms_run (config : ConnectionConfig) (answers : List (Except AttemptError Response)) :
    Conforms config answers (run config answers).1 (run config answers).2 := by
  have hstands : Stands config answers ((run config answers).1, (run config answers).2) :=
    stands_run config answers
  exact
    { requests := hstands.exists_script
      prompted := fun _ _ => hstands.prompted
      compression := fun _ _ => hstands.compression
      ends := hstands.ends
      waits := fun _ hwaiting => Stands.waits (hwaiting ▸ hstands) }

end Conformance

end CqlClient.Handshake
