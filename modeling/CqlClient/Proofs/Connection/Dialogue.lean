import CqlClient.Proofs.Connection.Handshake
import Mathlib.Data.List.Induction

namespace CqlClient.Handshake

variable {config : ConnectionConfig}

/-- Whether a node offers the compression of a connection, if it has one. -/
def Offered (config : ConnectionConfig) (offers : Assoc String (List String)) : Prop :=
  ∀ algorithm, config.compression = some algorithm →
    Response.listsCompression offers algorithm.name = true

/-- Challenges after an announcement that an authenticator has answers to, with all its tokens. -/
inductive Answers (authenticator : Authenticator) (announced : String) :
    List (Option Bytes) → List (Option Bytes) → Prop
  | first {token : Option Bytes} (starts : authenticator.start announced = .ok token) :
      Answers authenticator announced [] [token]
  | next {challenges tokens : List (Option Bytes)} {challenge token : Option Bytes}
      (earlier : Answers authenticator announced challenges tokens)
      (answers : authenticator.answer announced (challenges ++ [challenge]) = .ok token) :
      Answers authenticator announced (challenges ++ [challenge]) (tokens ++ [token])

/-- What a node says to STARTUP when it lets a client in, with the tokens that it gets meanwhile. -/
inductive Admits (config : ConnectionConfig) : List Response → List (Option Bytes) → Prop
  | ready : Admits config [.ready] []
  | authenticated {authenticator : Authenticator} {announced : String}
      {challenges tokens : List (Option Bytes)} {token : Option Bytes}
      (configured : config.authenticator = some authenticator)
      (answers : Answers authenticator announced challenges tokens)
      (accepts : authenticator.finish announced challenges token = .ok ()) :
      Admits config (.authenticate announced ::
        (challenges.map .authChallenge ++ [.authSuccess token])) tokens

/-- A dialogue in which a node said what it should so far: its answers, all requests of the client,
and which answer is awaited if the connection is not open yet. -/
inductive Dialogue (config : ConnectionConfig) :
    List Response → List Request → Option Awaited → Prop
  | begun : Dialogue config [] [.options] (some .supported)
  | startup {offers : Assoc String (List String)} (offered : Offered config offers) :
      Dialogue config [.supported offers] [.options, .startup (startupSettings config)]
        (some .ready)
  | authenticating {offers : Assoc String (List String)} {authenticator : Authenticator}
      {announced : String} {challenges tokens : List (Option Bytes)}
      (offered : Offered config offers) (configured : config.authenticator = some authenticator)
      (answers : Answers authenticator announced challenges tokens) :
      Dialogue config
        (.supported offers :: .authenticate announced :: challenges.map .authChallenge)
        (.options :: .startup (startupSettings config) :: tokens.map .authResponse)
        (some (.authentication ⟨authenticator, announced, challenges⟩))
  | admitted {offers : Assoc String (List String)} {said : List Response}
      {tokens : List (Option Bytes)} (offered : Offered config offers)
      (admits : Admits config said tokens) :
      Dialogue config (.supported offers :: said)
        (.options :: .startup (startupSettings config) ::
          (tokens.map .authResponse ++ (config.keyspace.map useRequest).toList))
        (config.keyspace.map .keyspace)
  | switched {offers : Assoc String (List String)} {said : List Response}
      {tokens : List (Option Bytes)} {name : KeyspaceName} {answer : String}
      (offered : Offered config offers) (admits : Admits config said tokens)
      (configured : config.keyspace = some name) (named : name.isNamedBy answer = true) :
      Dialogue config (.supported offers :: (said ++ [.result (.setKeyspace answer)]))
        (.options :: .startup (startupSettings config) ::
          (tokens.map .authResponse ++ [useRequest name]))
        none

/-- What follows an answer that was the expected one: the next request with the answer that is
awaited then, or nothing as the connection is open. -/
inductive Follows (config : ConnectionConfig) :
    Awaited → Response → Option (Request × Awaited) → Prop
  | supported {offers : Assoc String (List String)} (offered : Offered config offers) :
      Follows config .supported (.supported offers)
        (some (.startup (startupSettings config), .ready))
  | ready :
      Follows config .ready .ready
        (config.keyspace.map fun name => (useRequest name, .keyspace name))
  | authenticate {authenticator : Authenticator} {announced : String} {token : Option Bytes}
      {session : AuthSession} (configured : config.authenticator = some authenticator)
      (starts : AuthSession.start authenticator announced = .ok (token, session)) :
      Follows config .ready (.authenticate announced)
        (some (.authResponse token, .authentication session))
  | challenge {session later : AuthSession} {challenge token : Option Bytes}
      (answers : session.answer challenge = .ok (token, later)) :
      Follows config (.authentication session) (.authChallenge challenge)
        (some (.authResponse token, .authentication later))
  | success {session : AuthSession} {token : Option Bytes}
      (accepts : session.finish token = .ok ()) :
      Follows config (.authentication session) (.authSuccess token)
        (config.keyspace.map fun name => (useRequest name, .keyspace name))
  | switched {name : KeyspaceName} {answer : String} (named : name.isNamedBy answer = true) :
      Follows config (.keyspace name) (.result (.setKeyspace answer)) none

/-- What a step comes to once its phases are entered; nothing if it fails. -/
def Step.onward? : Step → Option (Option (Request × Awaited))
  | .enter _ next => next.onward?
  | .send request awaited => some (some (request, awaited))
  | .finish => some none
  | .fail _ => none

theorem onward?_accepted (config : ConnectionConfig) : (accepted config).onward? =
    some (config.keyspace.map fun name => (useRequest name, .keyspace name)) := by
  rw [accepted]
  cases config.keyspace <;> rfl

theorem eq_ok_of_onward?_ofAuthentication {answer : Except String (Option Bytes × AuthSession)}
    {onward : Option (Request × Awaited)} (h : (ofAuthentication answer).onward? = some onward) :
    ∃ token session, answer = .ok (token, session) ∧
      onward = some (.authResponse token, .authentication session) := by
  cases answer with
  | error text => exact nomatch h
  | ok next => exact ⟨next.1, next.2, rfl, (Option.some.inj h).symm⟩

theorem onward?_eq_of_follows {awaited : Awaited} {response : Response}
    {onward : Option (Request × Awaited)} (h : Follows config awaited response onward) :
    (received config awaited (.ok response)).onward? = some onward := by
  cases h with
  | supported offered =>
      rw [received]
      cases hcompression : config.compression with
      | none => rfl
      | some algorithm => simp only [offered algorithm hcompression, if_true, Step.onward?]
  | ready => exact onward?_accepted config
  | authenticate configured starts =>
      simp only [received, authenticate, configured, starts]
      rfl
  | challenge answers =>
      simp only [received, answers]
      rfl
  | success accepts =>
      simp only [received, accepts]
      exact onward?_accepted config
  | switched named =>
      simp only [received, switched, named, if_true]
      rfl

theorem follows_of_onward?_eq {awaited : Awaited} {response : Response}
    {onward : Option (Request × Awaited)}
    (h : (received config awaited (.ok response)).onward? = some onward) :
    Follows config awaited response onward := by
  unfold received at h
  split at h
  · exact nomatch h
  · next offers heq =>
      obtain rfl := Except.ok.inj heq
      cases hcompression : config.compression with
      | none =>
          rw [hcompression] at h
          obtain rfl := Option.some.inj h
          exact .supported fun algorithm hsome => nomatch hcompression.symm.trans hsome
      | some algorithm =>
          rw [hcompression] at h
          dsimp only at h
          split at h
          · next hlisted =>
              obtain rfl := Option.some.inj h
              refine .supported fun other hsome => ?_
              obtain rfl := Option.some.inj (hcompression.symm.trans hsome)
              exact hlisted
          · exact nomatch h
  · next heq =>
      obtain rfl := Except.ok.inj heq
      obtain rfl := Option.some.inj ((onward?_accepted config).symm.trans h)
      exact .ready
  · next announced heq =>
      obtain rfl := Except.ok.inj heq
      rw [Step.onward?, authenticate] at h
      split at h
      · next authenticator configured =>
          obtain ⟨token, session, starts, rfl⟩ := eq_ok_of_onward?_ofAuthentication h
          exact .authenticate configured starts
      · exact nomatch h
  · next session challenge heq =>
      obtain rfl := Except.ok.inj heq
      obtain ⟨token, later, answers, rfl⟩ := eq_ok_of_onward?_ofAuthentication h
      exact .challenge answers
  · next session token heq =>
      obtain rfl := Except.ok.inj heq
      split at h
      · next accepts =>
          obtain rfl := Option.some.inj ((onward?_accepted config).symm.trans h)
          exact .success accepts
      · exact nomatch h
  · next name answer heq =>
      obtain rfl := Except.ok.inj heq
      rw [switched] at h
      by_cases named : name.isNamedBy answer = true
      · rw [if_pos named] at h
        obtain rfl := Option.some.inj h
        exact .switched named
      · rw [if_neg named] at h
        exact nomatch h
  · exact nomatch h

theorem start_eq_ok_iff {authenticator : Authenticator} {announced : String}
    {token : Option Bytes} {session : AuthSession} :
    AuthSession.start authenticator announced = .ok (token, session) ↔
      authenticator.start announced = .ok token ∧ session = ⟨authenticator, announced, []⟩ := by
  rw [AuthSession.start]
  cases authenticator.start announced with
  | error text => simp [Except.map]
  | ok first => simp [Except.map, eq_comm]

theorem answer_eq_ok_iff {session later : AuthSession} {challenge token : Option Bytes} :
    session.answer challenge = .ok (token, later) ↔
      session.authenticator.answer session.announced (session.challenges ++ [challenge]) =
          .ok token ∧
        later = { session with challenges := session.challenges ++ [challenge] } := by
  rw [AuthSession.answer]
  cases session.authenticator.answer session.announced (session.challenges ++ [challenge]) with
  | error text => simp [Except.map]
  | ok next => simp [Except.map, eq_comm]

variable {said : List Response} {requests : List Request} {next : Option Awaited}

theorem Dialogue.follow {awaited : Awaited} {response : Response}
    {onward : Option (Request × Awaited)} (h : Dialogue config said requests (some awaited))
    (hfollows : Follows config awaited response onward) :
    Dialogue config (said ++ [response]) (requests ++ (onward.map Prod.fst).toList)
      (onward.map Prod.snd) := by
  generalize hnext : some awaited = next at h
  cases h with
  | begun =>
      obtain rfl := Option.some.inj hnext
      cases hfollows with
      | supported offered => exact .startup offered
  | startup offered =>
      obtain rfl := Option.some.inj hnext
      cases hfollows with
      | ready => simpa [Function.comp_def] using Dialogue.admitted offered .ready
      | authenticate configured starts =>
          obtain ⟨first, rfl⟩ := start_eq_ok_iff.mp starts
          exact .authenticating offered configured (.first first)
  | authenticating offered configured answers =>
      obtain rfl := Option.some.inj hnext
      cases hfollows with
      | challenge answer =>
          obtain ⟨another, rfl⟩ := answer_eq_ok_iff.mp answer
          simpa using Dialogue.authenticating offered configured (answers.next another)
      | success accepts =>
          simpa [Function.comp_def] using
            Dialogue.admitted offered (.authenticated configured answers accepts)
  | admitted offered admits =>
      obtain ⟨name, configured, rfl⟩ := Option.map_eq_some_iff.mp hnext.symm
      cases hfollows with
      | switched named =>
          simpa [configured] using Dialogue.switched offered admits configured named
  | switched offered admits configured named => exact nomatch hnext

theorem Dialogue.cases_concat (h : Dialogue config said requests next) :
    (said = [] ∧ requests = [.options] ∧ next = some .supported) ∨
      ∃ earlier response sent awaited onward, said = earlier ++ [response] ∧
        Dialogue config earlier sent (some awaited) ∧ Follows config awaited response onward ∧
        requests = sent ++ (onward.map Prod.fst).toList ∧ next = onward.map Prod.snd := by
  cases h with
  | begun => exact .inl ⟨rfl, rfl, rfl⟩
  | startup offered => exact .inr ⟨[], _, _, _, _, rfl, .begun, .supported offered, rfl, rfl⟩
  | @authenticating offers _ announced _ _ offered configured answers =>
      cases answers with
      | first starts =>
          exact .inr ⟨[.supported offers], _, _, _, _, rfl, .startup offered,
            .authenticate configured (start_eq_ok_iff.mpr ⟨starts, rfl⟩), rfl, rfl⟩
      | next earlier answer =>
          exact .inr ⟨_, _, _, _, _, by simp, .authenticating offered configured earlier,
            .challenge (answer_eq_ok_iff.mpr ⟨answer, rfl⟩), by simp, rfl⟩
  | @admitted offers _ _ offered admits =>
      cases admits with
      | ready =>
          exact .inr ⟨[.supported offers], _, _, _, _, rfl, .startup offered, .ready,
            by simp [Function.comp_def], by simp [Function.comp_def]⟩
      | authenticated configured answers accepts =>
          exact .inr ⟨_, _, _, _, _, by simp, .authenticating offered configured answers,
            .success accepts, by simp [Function.comp_def], by simp [Function.comp_def]⟩
  | switched offered admits configured named =>
      have hadmitted := Dialogue.admitted offered admits
      rw [configured] at hadmitted
      exact .inr ⟨_, _, _, _, _, by simp, hadmitted, .switched named, by simp, rfl⟩

theorem Follows.unique {awaited : Awaited} {response : Response}
    {first second : Option (Request × Awaited)} (hfirst : Follows config awaited response first)
    (hsecond : Follows config awaited response second) : first = second :=
  Option.some.inj ((onward?_eq_of_follows hfirst).symm.trans (onward?_eq_of_follows hsecond))

theorem Dialogue.of_nil (h : Dialogue config [] requests next) :
    requests = [.options] ∧ next = some .supported := by
  cases h
  exact ⟨rfl, rfl⟩

theorem Dialogue.of_concat {response : Response}
    (h : Dialogue config (said ++ [response]) requests next) :
    ∃ sent awaited onward, Dialogue config said sent (some awaited) ∧
      Follows config awaited response onward ∧
      requests = sent ++ (onward.map Prod.fst).toList ∧ next = onward.map Prod.snd := by
  rcases h.cases_concat with ⟨hnil, -⟩ |
    ⟨earlier, last, sent, awaited, onward, hsaid, hearlier, hfollows, hrequests, hnext⟩
  · exact absurd hnil (by simp)
  · obtain ⟨rfl, hlast⟩ := List.append_inj' hsaid rfl
    obtain rfl := List.singleton_inj.mp hlast
    exact ⟨sent, awaited, onward, hearlier, hfollows, hrequests, hnext⟩

/-- What a node said determines the whole dialogue. -/
theorem Dialogue.unique {others : List Request} {other : Option Awaited}
    (h : Dialogue config said requests next) (hother : Dialogue config said others other) :
    requests = others ∧ next = other := by
  -- Both dialogues up to the last answer are the same one, in which it can be followed in one way.
  induction said using List.reverseRecOn generalizing requests next others other with
  | nil =>
      obtain ⟨rfl, rfl⟩ := h.of_nil
      obtain ⟨rfl, rfl⟩ := hother.of_nil
      exact ⟨rfl, rfl⟩
  | append_singleton earlier response ih =>
      obtain ⟨sent, awaited, onward, hearlier, hfollows, rfl, rfl⟩ := h.of_concat
      obtain ⟨sent', awaited', onward', hearlier', hfollows', rfl, rfl⟩ := hother.of_concat
      obtain ⟨rfl, hawaited⟩ := ih hearlier hearlier'
      obtain rfl := Option.some.inj hawaited
      obtain rfl := hfollows.unique hfollows'
      exact ⟨rfl, rfl⟩

end CqlClient.Handshake
