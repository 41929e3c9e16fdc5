import CqlClient.Proofs.Client.Quiet
import CqlClient.Proofs.Connection.Opening

namespace CqlClient

namespace Handshake

variable {config : ConnectionConfig}

/-- What a handshake sends from a step on, and how far it comes. -/
def runFrom (config : ConnectionConfig) (step : Step)
    (answers : List (Except AttemptError Response)) : List Sent × Outcome :=
  let (sent, outcome) := perform config step
  let (more, outcome) := resume config outcome answers
  (sent.toList ++ more, outcome)

theorem received_error (awaited : Awaited) (error : AttemptError) :
    received config awaited (.error error) = .fail (.ofAttempt error) := by
  cases awaited <;> rfl

theorem runFrom_send {request : Request} {awaited : Awaited} {first : Bytes}
    (writable : Frame.ofRequest request (compressionOf config awaited) false 0 = .ok first)
    (answer : Except AttemptError Response) (answers : List (Except AttemptError Response)) :
    runFrom config (.send request awaited) (answer :: answers) =
      let next := runFrom config (received config awaited answer) answers
      (⟨request, compressionOf config awaited⟩ :: next.1, next.2) := by
  simp only [runFrom, perform, writable, resume]
  rfl

theorem runFrom_error (config : ConnectionConfig) (request : Request) (awaited : Awaited)
    (error : AttemptError) :
    runFrom config (.send request awaited) [.error error] =
      match Frame.ofRequest request (compressionOf config awaited) false 0 with
      | .ok _ => ([⟨request, compressionOf config awaited⟩], .failed (.ofAttempt error))
      | .error e => ([], .failed (.ofAttempt (.ofFrameError e))) := by
  unfold runFrom perform
  dsimp only
  cases Frame.ofRequest request (compressionOf config awaited) false 0 with
  | ok first =>
      dsimp only
      rw [resume, received_error]
      rfl
  | error e => rfl

theorem onward?_of_request? {step : Step} {onward : Request × Awaited}
    (h : step.request? = some onward) : step.onward? = some (some onward) := by
  induction step with
  | enter phase next ih => exact ih h
  | send request awaited => exact congrArg some h
  | finish => exact nomatch h
  | fail error => exact nomatch h

/-- Compression of the request that follows an answer: none before STARTUP was answered. -/
def compressionAfter (config : ConnectionConfig) : Awaited → Option Compression
  | .supported => none
  | _ => config.compression

theorem compressionAfter_eq {awaited : Awaited} (h : awaited ≠ .ready) :
    compressionAfter config awaited = compressionOf config awaited := by
  cases awaited with
  | ready => exact absurd rfl h
  | _ => rfl

theorem Follows.compressionOf_eq {awaited later : Awaited} {response : Response}
    {request : Request} (h : Follows config awaited response (some (request, later))) :
    compressionOf config later = compressionAfter config awaited := by
  generalize honward : some (request, later) = onward at h
  cases h with
  | supported offered =>
      obtain ⟨-, rfl⟩ := Prod.mk.inj (Option.some.inj honward)
      rfl
  | ready =>
      obtain ⟨name, -, heq⟩ := Option.map_eq_some_iff.mp honward.symm
      obtain ⟨-, rfl⟩ := Prod.mk.inj heq
      rfl
  | authenticate configured starts =>
      obtain ⟨-, rfl⟩ := Prod.mk.inj (Option.some.inj honward)
      rfl
  | challenge answers =>
      obtain ⟨-, rfl⟩ := Prod.mk.inj (Option.some.inj honward)
      rfl
  | success accepts =>
      obtain ⟨name, -, heq⟩ := Option.map_eq_some_iff.mp honward.symm
      obtain ⟨-, rfl⟩ := Prod.mk.inj heq
      rfl
  | switched named => exact nomatch honward

theorem compressionOf_next {awaited later : Awaited} {response : Response} {request : Request}
    (h : (received config awaited (.ok response)).request? = some (request, later)) :
    compressionOf config later = compressionAfter config awaited :=
  (follows_of_onward?_eq (onward?_of_request? h)).compressionOf_eq

end Handshake

namespace Connection

theorem compression_eq_of_eq {connection new : Connection}
    (hconfig : new.config = connection.config)
    (hcompresses : new.compresses = connection.compresses) :
    new.compression = connection.compression := by
  rw [compression, hconfig, hcompresses]
  rfl

end Connection

namespace Client

open Handshake (Awaited Outcome Sent Step)

variable {σ α β : Type} {id : ConnectionId} {config : ConnectionConfig}

section Requests

theorem run_bind {first : StateM (Client σ) β} {next : β → StateM (Client σ) α}
    (c : Client σ) :
    (first >>= next).run c = (next (first.run c).1).run (first.run c).2 :=
  rfl

/-- How it can go to write a request on a connection. -/
inductive Submitted (id : ConnectionId) (request : Request) (connection : Connection)
    (c : Client (σ × FrameLog)) : Except AttemptError Ticket × Client (σ × FrameLog) → Prop
  | refused (error : AttemptError) {after : Client (σ × FrameLog)} (quiet : IsQuiet id c after)
      (unwritable : ∀ e, Frame.ofRequest request connection.compression false 0 = .error e →
        error = .ofFrameError e ∨ connection.phase = .closed) :
      Submitted id request connection c (.error error, after)
  | written (ticket : Ticket) {after : Client (σ × FrameLog)} {first frame : Bytes} {stream : Int8}
      (writable : Frame.ofRequest request connection.compression false 0 = .ok first)
      (carries : Frame.ofRequest request connection.compression false stream = .ok frame)
      (log : after.network.2 = c.network.2 ++ [(id, frame)])
      (connections : after.connections = c.connections) :
      Submitted id request connection c (.ok ticket, after)

theorem submitted_submit (net : Network σ) (request : Request) {c : Client (σ × FrameLog)}
    {connection : Connection} (hconnection : c.connections.get? id = some connection) :
    Submitted id request connection c ((submit net.recorded id request).run c) := by
  have hrun : (connection? id).run c = (some connection, c) := by
    rw [← hconnection]
    rfl
  rw [submit, run_bind, hrun]
  dsimp only
  split
  · next hclosed => exact .refused _ (.refl c) fun _ _ => .inr hclosed
  · split
    · next e hunwritable =>
        exact .refused _ (.refl c) fun other hother =>
          .inl (congrArg _ (Except.error.inj (hunwritable.symm.trans hother)))
    · next first writable =>
        have hwritable : ∀ e, Frame.ofRequest request connection.compression false 0 ≠ .error e :=
          fun e hunwritable => nomatch writable.symm.trans hunwritable
        rw [run_bind, run_bind]
        split
        · exact .refused _ (.of_eq rfl rfl) fun e hunwritable => absurd hunwritable (hwritable e)
        · split
          · exact .refused _ (.of_eq rfl rfl) fun e hunwritable => absurd hunwritable (hwritable e)
          · next frame carries =>
              exact .written _ writable carries rfl rfl

/-- How it can go to send a request on a connection and wait for its outcome. -/
inductive Asked (id : ConnectionId) (request : Request) (connection : Connection)
    (c : Client (σ × FrameLog)) : Except AttemptError Answer × Client (σ × FrameLog) → Prop
  | refused (error : AttemptError) {after : Client (σ × FrameLog)} (quiet : IsQuiet id c after)
      (unwritable : ∀ e, Frame.ofRequest request connection.compression false 0 = .error e →
        error = .ofFrameError e ∨ connection.phase = .closed) :
      Asked id request connection c (.error error, after)
  | written (answer : Except AttemptError Answer) {after : Client (σ × FrameLog)}
      {first frame : Bytes} {stream : Int8} {new : Connection}
      (writable : Frame.ofRequest request connection.compression false 0 = .ok first)
      (carries : Frame.ofRequest request connection.compression false stream = .ok frame)
      (log : after.network.2 = c.network.2 ++ [(id, frame)])
      (kept : after.connections.get? id = some new) (config : new.config = connection.config)
      (compresses : new.compresses = connection.compresses)
      (phase : new.phase = connection.phase ∨ new.phase = .closed) :
      Asked id request connection c (answer, after)

theorem asked_ask (net : Network σ) (request : Request) {c : Client (σ × FrameLog)}
    {connection : Connection} (hconnection : c.connections.get? id = some connection) :
    Asked id request connection c ((ask net.recorded id request).run c) := by
  rw [ask, run_bind]
  have hsubmitted := submitted_submit net request hconnection
  generalize (submit net.recorded id request).run c = submitted at hsubmitted
  cases hsubmitted with
  | refused error quiet unwritable => exact .refused error quiet unwritable
  | @written ticket after first frame stream writable carries log connections =>
      have hquiet : IsQuiet id after ((receive net.recorded id ticket.reaction >>= fun _ =>
          collect ticket).run after).2 :=
        (quiet_receive net ticket.reaction).bind (fun _ => quiet_collect net ticket) after
      obtain ⟨new, hnew, hconfig, hcompresses, hphase⟩ :=
        hquiet.connection connection (connections ▸ hconnection)
      exact .written _ writable carries (hquiet.written.trans log) hnew hconfig hcompresses hphase

end Requests

section Handshakes

/-- Whether a frame carries a request. -/
def Carries (frame : Bytes) (sent : Sent) : Prop :=
  ∃ stream, Frame.ofRequest sent.request sent.compression false stream = .ok frame

/-- How a client can come to answers to its requests on a connection, one after another. In between
it only notes what it learns about the connection, and does not close it. -/
inductive Hears (net : Network σ) (id : ConnectionId) :
    Client σ → List (Request × Except AttemptError Response) → Client σ → Prop
  | nothing (c : Client σ) : Hears net id c [] c
  | noted {c after : Client σ} {exchanged : List (Request × Except AttemptError Response)}
      (change : Connection → Connection)
      (stays : ∀ connection, (change connection).phase = .closed → connection.phase = .closed)
      (later : Hears net id ((update id change).run c).2 exchanged after) :
      Hears net id c exchanged after
  | asked {c middle after : Client σ} {request : Request} {answer : Except AttemptError Answer}
      {exchanged : List (Request × Except AttemptError Response)}
      (asks : (ask net id request).run c = (answer, middle))
      (later : Hears net id middle exchanged after) :
      Hears net id c ((request, answer.map Answer.response) :: exchanged) after

/-- How an opening can end if the handshake comes to an outcome: with this outcome, or with some
failure if it was cut short. -/
inductive EndsAs (cutShort : Prop) : Outcome → Except ConnectionError Unit → Prop
  | opened : EndsAs cutShort .opened (.ok ())
  | failed (error : ConnectionError) : EndsAs cutShort (.failed error) (.error error)
  | cutShort (h : cutShort) (outcome : Outcome) (error : ConnectionError) :
      EndsAs cutShort outcome (.error error)

theorem EndsAs.imp {cutShort other : Prop} {outcome : Outcome}
    {result : Except ConnectionError Unit} (h : EndsAs cutShort outcome result)
    (himp : cutShort → other) : EndsAs other outcome result := by
  cases h with
  | opened => exact .opened
  | failed error => exact .failed error
  | cutShort hcut outcome error => exact .cutShort (himp hcut) outcome error

/-- Whether a connection is closed. -/
def IsClosed (id : ConnectionId) (c : Client σ) : Prop :=
  (c.connections.get? id).map Connection.phase = some .closed

/-- Whether a client that exchanged requests and answers did what a handshake with these answers
says: it made its requests, wrote those that could be written, and ended as the handshake does. It
may have been cut short if the connection was closed, or there was no end of challenges. -/
structure Accounts (id : ConnectionId) (limit : Nat) (before : Client (σ × FrameLog))
    (exchanged : List (Request × Except AttemptError Response)) (handshake : List Sent × Outcome)
    (ended : Except ConnectionError Unit × Client (σ × FrameLog)) : Prop where
  requests : exchanged.map Prod.fst <+: handshake.1.map Sent.request ∨
    handshake.1.map Sent.request <+: exchanged.map Prod.fst
  frames : ∃ frames sent, ended.2.network.2 = before.network.2 ++ frames.map (id, ·) ∧
    List.Forall₂ Carries frames sent ∧ sent <+: handshake.1
  ends : EndsAs (IsClosed id ended.2 ∨ limit ≤ 2 * exchanged.length) handshake.2 ended.1
  connection : ∃ connection, ended.2.connections.get? id = some connection ∧
    (ended.1 = .ok () → connection.phase = .opened)

/-- Whether a connection is in the phase of a step of its handshake, if it was not closed meanwhile,
and compresses the request of this step as it should. -/
structure Prepared (id : ConnectionId) (config : ConnectionConfig) (step : Step)
    (c : Client σ) (connection : Connection) : Prop where
  there : c.connections.get? id = some connection
  configured : connection.config = config
  follows : step.FollowsPhase connection.phase ∨ connection.phase = .closed
  stays : .closed ∉ step.phases
  compression : ∀ request awaited, step.request? = some (request, awaited) →
    connection.compression = Handshake.compressionOf config awaited

variable {limit : Nat} {exchanged : List (Request × Except AttemptError Response)}

theorem Accounts.of_written {before middle : Client (σ × FrameLog)}
    {handshake : List Sent × Outcome} {ended : Except ConnectionError Unit × Client (σ × FrameLog)}
    (h : Accounts id limit middle exchanged handshake ended)
    (hwritten : middle.network.2 = before.network.2) :
    Accounts id limit before exchanged handshake ended :=
  ⟨h.requests, hwritten ▸ h.frames, h.ends, h.connection⟩

theorem isClosed_of_phase {c : Client σ} {connection : Connection}
    (hconnection : c.connections.get? id = some connection)
    (hclosed : connection.phase = .closed) : IsClosed id c := by
  rw [IsClosed, hconnection, Option.map_some, hclosed]

theorem IsQuiet.isClosed {c after : Client (σ × FrameLog)} {connection : Connection}
    (h : IsQuiet id c after) (hconnection : c.connections.get? id = some connection)
    (hclosed : connection.phase = .closed) : IsClosed id after := by
  obtain ⟨new, hnew, -, -, hphase⟩ := h.connection connection hconnection
  refine isClosed_of_phase hnew ?_
  rcases hphase with hkept | hnow
  · exact hkept.trans hclosed
  · exact hnow

theorem accounts_error {c after : Client (σ × FrameLog)} {connection : Connection}
    (hconnection : c.connections.get? id = some connection) (quiet : IsQuiet id c after)
    {handshake : List Sent × Outcome} {error : ConnectionError}
    (requests : exchanged.map Prod.fst <+: handshake.1.map Sent.request ∨
      handshake.1.map Sent.request <+: exchanged.map Prod.fst)
    (ends : EndsAs (IsClosed id after ∨ limit ≤ 2 * exchanged.length) handshake.2 (.error error)) :
    Accounts id limit c exchanged handshake (.error error, after) where
  requests := requests
  frames := ⟨[], [], by simpa using quiet.written, .nil, List.nil_prefix⟩
  ends := ends
  connection := by
    obtain ⟨new, hnew, -⟩ := quiet.connection connection hconnection
    exact ⟨new, hnew, fun hok => nomatch hok⟩

theorem accounts_cutShort {c : Client (σ × FrameLog)} {connection : Connection}
    (hconnection : c.connections.get? id = some connection) (handshake : List Sent × Outcome)
    (hcut : IsClosed id c ∨ limit ≤ 0) (error : ConnectionError) :
    Accounts id limit c [] handshake (.error error, c) :=
  accounts_error hconnection (.refl c) (.inl List.nil_prefix) (.cutShort hcut _ error)

theorem run_phase {c : Client σ} {connection : Connection}
    (hconnection : c.connections.get? id = some connection) :
    (phase id).run c = (connection.phase, c) := by
  change ((Option.map Connection.phase (c.connections.get? id)).getD .closed, c) = _
  rw [hconnection]
  rfl

theorem get?_run_update {c : Client σ} {connection : Connection}
    (hconnection : c.connections.get? id = some connection) (change : Connection → Connection) :
    ((update id change).run c).2.connections.get? id = some (change connection) := by
  change (c.connections.modify id change).get? id = _
  rw [Assoc.get?_modify, if_pos rfl, hconnection, Option.map_some]

theorem accounts_fail (net : Network σ) (rounds : Nat) {c : Client (σ × FrameLog)}
    {connection : Connection} (hconnection : c.connections.get? id = some connection)
    (error : ConnectionError) :
    Hears net.recorded id c []
        ((handshake net.recorded id config rounds (.fail error)).run c).2 ∧
      Accounts id limit c [] (Handshake.runFrom config (.fail error) [])
        ((handshake net.recorded id config rounds (.fail error)).run c) := by
  rw [handshake]
  exact ⟨.nothing c, accounts_error hconnection (.refl c) (.inl List.nil_prefix) (.failed error)⟩

theorem accounts_finish (net : Network σ) (rounds : Nat) {c : Client (σ × FrameLog)}
    {connection : Connection} (hconnection : c.connections.get? id = some connection) :
    Hears net.recorded id c []
        ((handshake net.recorded id config rounds .finish).run c).2 ∧
      Accounts id limit c [] (Handshake.runFrom config .finish [])
        ((handshake net.recorded id config rounds .finish).run c) := by
  rw [handshake, run_bind, run_phase hconnection]
  dsimp only
  split
  · next hclosed =>
      exact ⟨.nothing c, accounts_cutShort hconnection _
        (.inl (isClosed_of_phase hconnection hclosed)) _⟩
  · refine ⟨.noted (fun connection => { connection with phase := .opened })
      (fun _ hclosed => nomatch hclosed) (.nothing _), ?_⟩
    refine ⟨.inl List.nil_prefix, ⟨[], [], (List.append_nil _).symm, .nil, List.nil_prefix⟩,
      .opened, ?_⟩
    exact ⟨_, get?_run_update hconnection fun connection => { connection with phase := .opened },
      fun _ => rfl⟩

theorem accounts_send {request : Request} {awaited : Awaited} {first frame : Bytes} {stream : Int8}
    {before middle : Client (σ × FrameLog)} {answer : Except AttemptError Response} {less : Nat}
    {ended : Except ConnectionError Unit × Client (σ × FrameLog)}
    (writable : Frame.ofRequest request (Handshake.compressionOf config awaited) false 0 =
      .ok first)
    (carries : Frame.ofRequest request (Handshake.compressionOf config awaited) false stream =
      .ok frame)
    (h : Accounts id less middle exchanged
      (Handshake.runFrom config (Handshake.received config awaited answer)
        (exchanged.map Prod.snd)) ended)
    (log : middle.network.2 = before.network.2 ++ [(id, frame)]) (hless : limit ≤ less + 2) :
    Accounts id limit before ((request, answer) :: exchanged)
      (Handshake.runFrom config (.send request awaited)
        (((request, answer) :: exchanged).map Prod.snd)) ended := by
  rw [List.map_cons, Handshake.runFrom_send writable]
  obtain ⟨frames, sent, hlog, hcarries, hprefix⟩ := h.frames
  refine ⟨?_, ⟨frame :: frames, _ :: sent, ?_, .cons ⟨stream, carries⟩ hcarries,
    List.cons_prefix_cons.mpr ⟨rfl, hprefix⟩⟩, h.ends.imp ?_, h.connection⟩
  · exact h.requests.imp (fun hfirst => List.cons_prefix_cons.mpr ⟨rfl, hfirst⟩)
      fun hfirst => List.cons_prefix_cons.mpr ⟨rfl, hfirst⟩
  · rw [hlog, log]
    simp
  · refine Or.imp_right fun hlimit => ?_
    rw [List.length_cons]
    omega

theorem accounts_refused {request : Request} {awaited : Awaited} {error : AttemptError}
    {c after : Client (σ × FrameLog)} {connection : Connection}
    (hconnection : c.connections.get? id = some connection) (quiet : IsQuiet id c after)
    (unwritable : ∀ e,
      Frame.ofRequest request (Handshake.compressionOf config awaited) false 0 = .error e →
        error = .ofFrameError e ∨ connection.phase = .closed) :
    Accounts id limit c [(request, .error error)]
      (Handshake.runFrom config (.send request awaited) [.error error])
      (.error (.ofAttempt error), after) := by
  rw [Handshake.runFrom_error]
  split
  · exact accounts_error hconnection quiet (.inl List.prefix_rfl) (.failed _)
  · next e hunwritable =>
      refine accounts_error hconnection quiet (.inr List.nil_prefix) ?_
      rcases unwritable e hunwritable with rfl | hclosed
      · exact .failed _
      · exact .cutShort (.inl (quiet.isClosed hconnection hclosed)) _ _

/-- What a client notes of an answer: from the one to STARTUP on, requests are compressed. -/
def noting (id : ConnectionId) (awaited : Awaited) (answer : Except AttemptError Answer)
    (c : Client σ) : Client σ :=
  match awaited, answer with
  | .ready, .ok _ =>
      ((update id fun connection => { connection with compresses := true }).run c).2
  | _, _ => c

theorem run_handshake_send (net : Network σ) (rounds : Nat) (request : Request)
    (awaited : Awaited) (c : Client σ) :
    (handshake net id config (rounds + 1) (.send request awaited)).run c =
      let asked := (ask net id request).run c
      (handshake net id config rounds
        (Handshake.received config awaited (asked.1.map Answer.response))).run
          (noting id awaited asked.1 asked.2) := by
  rw [handshake, run_bind]
  generalize (ask net id request).run c = asked
  obtain ⟨answer, after⟩ := asked
  cases answer with
  | error e => cases awaited <;> rfl
  | ok a => cases awaited <;> rfl

theorem network_noting (awaited : Awaited) (answer : Except AttemptError Answer)
    (c : Client σ) : (noting id awaited answer c).network = c.network := by
  unfold noting
  split
  · rfl
  · rfl

theorem noting_error (awaited : Awaited) (error : AttemptError) (c : Client σ) :
    noting id awaited (.error error) c = c := by
  cases awaited <;> rfl

theorem Hears.of_noting {net : Network σ} {awaited : Awaited}
    {answer : Except AttemptError Answer} {c after : Client σ}
    (h : Hears net id (noting id awaited answer c) exchanged after) :
    Hears net id c exchanged after := by
  unfold noting at h
  split at h
  · exact .noted (fun connection => { connection with compresses := true })
      (fun _ hclosed => hclosed) h
  · exact h

theorem exists_prepared_noting {awaited : Awaited} {c : Client σ} {connection : Connection}
    (hconnection : c.connections.get? id = some connection) (hconfig : connection.config = config)
    (hcompression : connection.compression = Handshake.compressionOf config awaited)
    (hwithin : awaited.Within connection.phase ∨ connection.phase = .closed)
    (answer : Except AttemptError Answer) :
    ∃ new, Prepared id config
      (Handshake.received config awaited (answer.map Answer.response))
      (noting id awaited answer c) new := by
  have hfollows : (Handshake.received config awaited
      (answer.map Answer.response)).FollowsPhase connection.phase ∨ connection.phase = .closed :=
    hwithin.imp_left fun hwithin => Handshake.followsPhase_received hwithin _
  have hstays : ConnectionPhase.closed ∉
      (Handshake.received config awaited (answer.map Answer.response)).phases :=
    Handshake.not_mem_phases_received (by decide) config awaited _
  cases answer with
  | error e =>
      refine ⟨connection, (noting_error awaited e c).symm ▸ hconnection, hconfig, hfollows, hstays,
        ?_⟩
      rw [Except.map, Handshake.received_error]
      exact fun request later hrequest => nomatch hrequest
  | ok a =>
      unfold noting
      split
      · next heq =>
          refine ⟨_, get?_run_update hconnection _, hconfig, hfollows, hstays,
            fun request later hrequest => ?_⟩
          rw [Handshake.compressionOf_next hrequest]
          exact congrArg ConnectionConfig.compression hconfig
      · next hother =>
          refine ⟨connection, hconnection, hconfig, hfollows, hstays,
            fun request later hrequest => ?_⟩
          rw [Handshake.compressionOf_next hrequest, hcompression,
            Handshake.compressionAfter_eq fun hready => hother a hready rfl]

theorem Prepared.follows_enter {phase : ConnectionPhase} {next : Step} {c : Client σ}
    {connection : Connection} (h : Prepared id config (.enter phase next) c connection)
    (hrank : connection.phase.rank + 1 = phase.rank) :
    next.FollowsPhase phase ∨ phase = .closed := by
  rcases h.follows with hfollows | hclosed
  · exact .inl hfollows.2
  · have hle := Lifecycle.rank_le_closed phase
    rw [hclosed] at hrank
    omega

theorem Prepared.phase_of_not_enter {phase : ConnectionPhase} {next : Step} {c : Client σ}
    {connection : Connection} (h : Prepared id config (.enter phase next) c connection)
    (hrank : ¬ connection.phase.rank + 1 = phase.rank) : connection.phase = .closed :=
  h.follows.resolve_left fun hfollows => hrank hfollows.1

theorem Prepared.phase_ne_closed {phase : ConnectionPhase} {next : Step} {c : Client σ}
    {connection : Connection} (h : Prepared id config (.enter phase next) c connection) :
    phase ≠ .closed :=
  fun hclosed => h.stays (hclosed ▸ List.mem_cons_self)

theorem Prepared.within {request : Request} {awaited : Awaited} {c : Client σ}
    {connection new : Connection} (h : Prepared id config (.send request awaited) c connection)
    (hphase : new.phase = connection.phase ∨ new.phase = .closed) :
    awaited.Within new.phase ∨ new.phase = .closed := by
  rcases hphase with hkept | hclosed
  · rw [hkept]
    exact h.follows
  · exact .inr hclosed

/-- From a step of a handshake on, a client does what the handshake says with the answers that it
gets. -/
theorem exists_accounts_handshake (net : Network σ) (rounds : Nat) (step : Step)
    {c : Client (σ × FrameLog)} {connection : Connection}
    (h : Prepared id config step c connection) :
    let ended := (handshake net.recorded id config rounds step).run c
    ∃ exchanged, Hears net.recorded id c exchanged ended.2 ∧
      Accounts id (rounds - step.phases.length) c exchanged
        (Handshake.runFrom config step (exchanged.map Prod.snd)) ended := by
  induction rounds generalizing step c connection with
  | zero =>
      have hlimit : 0 - step.phases.length ≤ 0 := Nat.sub_le 0 _
      cases step with
      | fail error => exact ⟨[], accounts_fail net 0 h.there error⟩
      | finish => exact ⟨[], accounts_finish net 0 h.there⟩
      | enter phase next =>
          rw [handshake]
          · exact ⟨[], .nothing c, accounts_cutShort h.there _ (.inr hlimit) _⟩
          · exact fun _ heq => nomatch heq
          · exact fun heq => nomatch heq
      | send request awaited =>
          rw [handshake]
          · exact ⟨[], .nothing c, accounts_cutShort h.there _ (.inr hlimit) _⟩
          · exact fun _ heq => nomatch heq
          · exact fun heq => nomatch heq
  | succ rounds ih =>
      cases step with
      | fail error => exact ⟨[], accounts_fail net (rounds + 1) h.there error⟩
      | finish => exact ⟨[], accounts_finish net (rounds + 1) h.there⟩
      | enter phase next =>
          rw [handshake, run_bind, run_phase h.there]
          dsimp only
          split
          · next hrank =>
              rw [run_bind]
              obtain ⟨exchanged, hhears, haccounts⟩ := ih next
                ⟨get?_run_update h.there fun connection => { connection with phase }, h.configured,
                  h.follows_enter hrank, fun hmem => h.stays (List.mem_cons_of_mem _ hmem),
                  h.compression⟩
              have hopen := h.phase_ne_closed
              refine ⟨exchanged, .noted _ (fun _ hclosed => absurd hclosed hopen) hhears, ?_⟩
              rw [Step.phases, List.length_cons, Nat.add_sub_add_right]
              exact haccounts.of_written rfl
          · next hrank =>
              exact ⟨[], .nothing c, accounts_cutShort h.there _
                (.inl (isClosed_of_phase h.there (h.phase_of_not_enter hrank))) _⟩
      | send request awaited =>
          rw [run_handshake_send]
          have hcompression := h.compression request awaited rfl
          have hasked := asked_ask net request h.there
          generalize hask : (ask net.recorded id request).run c = asked at hasked
          cases hasked with
          | refused error quiet unwritable =>
              rw [hcompression] at unwritable
              refine ⟨[(request, .error error)], .asked hask ?_, ?_⟩
              · dsimp only
                rw [Except.map, Handshake.received_error, noting_error, handshake]
                exact .nothing _
              · dsimp only
                rw [Except.map, Handshake.received_error, noting_error, handshake]
                exact accounts_refused h.there quiet unwritable
          | written answer writable carries log kept hconfig hcompresses hphase =>
              have hkept := Connection.compression_eq_of_eq hconfig hcompresses
              obtain ⟨new, hprepared⟩ := exists_prepared_noting kept
                (hconfig.trans h.configured) (hkept.trans hcompression) (h.within hphase) answer
              obtain ⟨exchanged, hhears, haccounts⟩ := ih _ hprepared
              rw [hcompression] at writable carries
              refine ⟨(request, answer.map Answer.response) :: exchanged,
                .asked hask hhears.of_noting, accounts_send writable carries haccounts
                  ((congrArg Prod.snd (network_noting awaited answer _)).trans log) ?_⟩
              have hphases := Handshake.length_phases_received_le config awaited
                (answer.map Answer.response)
              have hnone : (Step.send request awaited).phases.length = 0 := rfl
              omega

end Handshakes

section Opening

/-- Get a socket for a new connection. -/
def dialing (net : Network σ) (id : ConnectionId) (connection : Connection) :
    StateM (Client σ) (Except ConnectionError Unit) := do
  update id fun connection => { connection with phase := .connecting }
  dial net id connection

/-- What a client does once a connection is open, or could not be opened. -/
def conclude (net : Network σ) (id : ConnectionId) :
    Except ConnectionError Unit → StateM (Client σ) (Except ConnectionError Unit)
  | .ok () => return .ok ()
  | .error e => do
      shutDown net id e
      return .error e

theorem run_openConnection (net : Network σ) {c : Client σ} {connection : Connection}
    (hconnection : c.connections.get? id = some connection)
    (hcreated : connection.phase = .created) :
    (openConnection net id).run c =
      match (dialing net id connection).run c with
      | (.error e, middle) => (conclude net id (.error e)).run middle
      | (.ok (), middle) =>
          let ended :=
            (handshake net id connection.config maxRounds Handshake.start).run middle
          (conclude net id ended.1).run ended.2 := by
  have hrun : (connection? id).run c = (some connection, c) := by
    rw [← hconnection]
    rfl
  rw [openConnection, run_bind, hrun, dialing, run_bind]
  dsimp only
  rw [if_neg (by rw [hcreated]; exact absurd rfl), run_bind, run_bind]
  generalize (dial net id connection).run _ = dialed
  obtain ⟨result, middle⟩ := dialed
  cases result with
  | error e => rfl
  | ok connected => rfl

theorem quiet_conclude (net : Network σ) (result : Except ConnectionError Unit) :
    Quiet id (conclude net.recorded id result) := by
  cases result with
  | ok finished => exact quiet_pure _
  | error e => exact (quiet_shutDown net e).bind fun _ => quiet_pure _

theorem isClosed_conclude (net : Network σ) {c : Client σ} {connection : Connection}
    (hconnection : c.connections.get? id = some connection)
    (result : Except ConnectionError Unit) (error : ConnectionError)
    (h : ((conclude net id result).run c).1 = .error error) :
    IsClosed id ((conclude net id result).run c).2 := by
  cases result with
  | ok finished => exact nomatch h
  | error e =>
      exact congrArg (Option.map Connection.phase) (get?_run_update hconnection
        fun connection => { connection with phase := .closed, unread := [] })

/-- Whether a client opened a connection as it should: if it got a socket, it did what the handshake
says with the answers that it got, and the connection is closed if it could not be opened. -/
structure Opens (net : Network σ) (id : ConnectionId) (connection : Connection)
    (before : Client (σ × FrameLog))
    (ended : Except ConnectionError Unit × Client (σ × FrameLog)) : Prop where
  unreachable : ∀ error middle,
    (dialing net.recorded id connection).run before = (.error error, middle) →
      ended.1 = .error error ∧ ended.2.network.2 = before.network.2
  accepted : ∀ middle, (dialing net.recorded id connection).run before = (.ok (), middle) →
    ∃ exchanged result last, Hears net.recorded id middle exchanged last ∧
      Accounts id maxRounds before exchanged
        (Handshake.run connection.config (exchanged.map Prod.snd)) (result, last) ∧
      ended = (conclude net.recorded id result).run last
  closed : ∀ error, ended.1 = .error error → IsClosed id ended.2

theorem prepared_start {c : Client σ} {connection : Connection}
    (there : c.connections.get? id = some connection) (configured : connection.config = config)
    (hphase : connection.phase = .connecting ∨ connection.phase = .closed)
    (h : connection.compresses = false) : Prepared id config Handshake.start c connection := by
  refine ⟨there, configured, hphase, List.not_mem_nil, fun request awaited hstart => ?_⟩
  obtain ⟨-, rfl⟩ := Prod.mk.inj (Option.some.inj hstart)
  rw [Connection.compression, h]
  rfl

theorem exists_prepared_dialing (net : Network σ) {c : Client (σ × FrameLog)}
    {connection : Connection} (hconnection : c.connections.get? id = some connection)
    (hcompresses : connection.compresses = false) :
    let middle := ((dialing net.recorded id connection).run c).2
    middle.network.2 = c.network.2 ∧
      ∃ new, Prepared id connection.config Handshake.start middle new := by
  have hdial : Quiet id (dial net.recorded id connection) := quiet_dial net connection
  have hquiet := hdial ((update id fun connection =>
    { connection with phase := .connecting }).run c).2
  obtain ⟨new, hnew, hconfig, hkept, hphase⟩ :=
    hquiet.connection _ (get?_run_update hconnection _)
  exact ⟨hquiet.written, new, prepared_start hnew hconfig hphase (hkept.trans hcompresses)⟩

theorem opens_openConnection (net : Network σ) {c : Client (σ × FrameLog)}
    {connection : Connection} (hconnection : c.connections.get? id = some connection)
    (hcreated : connection.phase = .created) (hcompresses : connection.compresses = false) :
    Opens net id connection c ((openConnection net.recorded id).run c) := by
  obtain ⟨hwritten, new, hprepared⟩ := exists_prepared_dialing net hconnection hcompresses
  rw [run_openConnection net.recorded hconnection hcreated]
  generalize hdialed : (dialing net.recorded id connection).run c = dialed at hwritten hprepared
  obtain ⟨result, middle⟩ := dialed
  cases result with
  | error e =>
      refine ⟨fun error other hother => ?_, fun other hother => ?_, fun error herror => ?_⟩
      · obtain ⟨⟨rfl⟩, rfl⟩ := Prod.mk.inj (hdialed.symm.trans hother)
        exact ⟨rfl, (quiet_conclude net _ middle).written.trans hwritten⟩
      · exact nomatch (Prod.mk.inj (hdialed.symm.trans hother)).1
      · exact isClosed_conclude net.recorded hprepared.there (.error e) error herror
  | ok connected =>
      obtain ⟨exchanged, hhears, haccounts⟩ :=
        exists_accounts_handshake net maxRounds Handshake.start hprepared
      obtain ⟨last, hlast, -⟩ := haccounts.connection
      refine ⟨fun error other hother => ?_, fun other hother => ?_, fun error herror => ?_⟩
      · exact nomatch (Prod.mk.inj (hdialed.symm.trans hother)).1
      · obtain ⟨-, rfl⟩ := Prod.mk.inj (hdialed.symm.trans hother)
        exact ⟨exchanged, _, _, hhears, haccounts.of_written hwritten, rfl⟩
      · exact isClosed_conclude net.recorded hlast _ error herror

theorem get?_newConnection (address : IpAddress) (config : ConnectionConfig) (listens : Bool)
    (c : Client σ) :
    let created := (newConnection address config listens).run c
    created.2.connections.get? created.1 =
      some { address, config, listens, createdAt := c.clock } :=
  (c.connections.get?_insert _ _ _).trans (if_pos rfl)

/-- A handshake sends OPTIONS, STARTUP, answers to challenges and USE in this order, each when the
answer before it calls for it, and the first two without compression. The connection is open in the
end if all answers were the expected ones, and closed once one of them is not. So it goes for a call
of open that is not disturbed, and a client that opens a connection on its network does what the
handshake says with the answers that it gets. -/
theorem conforms_opening (config : ConnectionConfig) :
    (∀ answers : List (Except AttemptError Response),
      let handshake := Handshake.run config answers
      let s := Lifecycle.State.run config (Lifecycle.opening answers)
      Handshake.Conforms config answers handshake.1 handshake.2 ∧
        s.handshakeRequests = handshake.1.map Sent.request ∧
        (handshake.2 = .opened ↔ s.phase = .opened ∧ s.opener = .ended (.ok ())) ∧
        ∀ error, handshake.2 = .failed error ↔
          s.phase = .closed ∧ s.opener = .ended (.error error)) ∧
      ∀ {σ : Type} (net : Network σ) (c : Client (σ × FrameLog)) (address : IpAddress)
        (listens : Bool),
        let created := (newConnection address config listens).run c
        Opens net created.1 { address, config, listens, createdAt := c.clock } created.2
          ((openConnection net.recorded created.1).run created.2) := by
  refine ⟨fun answers => ?_, fun net c address listens =>
    opens_openConnection net (get?_newConnection address config listens c) rfl rfl⟩
  obtain ⟨hreflects, hcontinues⟩ := Lifecycle.reflects_opening config answers
  exact ⟨Handshake.conforms_run config answers, hcontinues.requests,
    Lifecycle.opened_iff_of_reflects hreflects, Lifecycle.failed_iff_of_reflects hreflects⟩

end Opening

end Client

end CqlClient
