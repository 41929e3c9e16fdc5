import CqlClient.Proofs.Assoc
import CqlClient.Proofs.Client.Waiting

/-!
What a client does while it waits on a connection, seen from its network: it writes nothing, and of
the connection only the phase can change, to closed.
-/

namespace CqlClient

/-- Frames that were written, each with its connection. -/
abbrev FrameLog := List (ConnectionId × Bytes)

/-- A network that keeps the frames that are written. -/
def Network.recorded {σ : Type} (net : Network σ) : Network (σ × FrameLog) where
  dial id address := fun (nodes, log) =>
    let (dial, nodes) := (net.dial id address).run nodes
    (dial, (nodes, log))
  write id bytes := fun (nodes, log) =>
    let (reaction, nodes) := (net.write id bytes).run nodes
    (reaction, (nodes, log ++ [(id, bytes)]))
  hangUp id := fun (nodes, log) => ((), (((net.hangUp id).run nodes).2, log))

namespace Client

variable {σ α β : Type} {id : ConnectionId}

/-- Whether a client wrote nothing since a moment, and a connection is as it was then, if it was
not closed. -/
structure IsQuiet (id : ConnectionId) (before after : Client (σ × FrameLog)) : Prop where
  written : after.network.2 = before.network.2
  connection : ∀ old, before.connections.get? id = some old → ∃ new,
    after.connections.get? id = some new ∧ new.config = old.config ∧
      new.compresses = old.compresses ∧ (new.phase = old.phase ∨ new.phase = .closed)

theorem IsQuiet.refl (c : Client (σ × FrameLog)) : IsQuiet id c c :=
  ⟨rfl, fun old hold => ⟨old, hold, rfl, rfl, .inl rfl⟩⟩

theorem IsQuiet.of_eq {before after : Client (σ × FrameLog)}
    (hwritten : after.network.2 = before.network.2)
    (hconnections : after.connections = before.connections) : IsQuiet id before after :=
  ⟨hwritten, fun old hold => ⟨old, hconnections ▸ hold, rfl, rfl, .inl rfl⟩⟩

theorem IsQuiet.trans {first second third : Client (σ × FrameLog)} (h : IsQuiet id first second)
    (hnext : IsQuiet id second third) : IsQuiet id first third := by
  refine ⟨hnext.written.trans h.written, fun old hold => ?_⟩
  obtain ⟨middle, hmiddle, hconfig, hcompresses, hphase⟩ := h.connection old hold
  obtain ⟨new, hnew, hconfig', hcompresses', hphase'⟩ := hnext.connection middle hmiddle
  refine ⟨new, hnew, hconfig'.trans hconfig, hcompresses'.trans hcompresses, ?_⟩
  rcases hphase' with hkept | hclosed
  · rw [hkept]
    exact hphase
  · exact .inr hclosed

instance : IsPreorder (Client (σ × FrameLog)) (IsQuiet id) where
  refl := .refl
  trans _ _ _ := .trans

/-- Whether an action is quiet, whatever the client did before. -/
def Quiet (id : ConnectionId) (action : StateM (Client (σ × FrameLog)) α) : Prop :=
  ∀ c, IsQuiet id c (action.run c).2

theorem quiet_pure (a : α) : Quiet id (pure a : StateM (Client (σ × FrameLog)) α) := keeps_pure a

theorem Quiet.bind {first : StateM (Client (σ × FrameLog)) β}
    {next : β → StateM (Client (σ × FrameLog)) α} (h : Quiet id first)
    (hnext : ∀ b, Quiet id (next b)) : Quiet id (first >>= next) :=
  Keeps.bind h hnext

theorem quiet_get : Quiet id (get : StateM (Client (σ × FrameLog)) _) := keeps_get

theorem quiet_modify {change : Client (σ × FrameLog) → Client (σ × FrameLog)}
    (h : ∀ c, IsQuiet id c (change c)) : Quiet id (modify change) :=
  h

theorem quiet_update {change : Connection → Connection}
    (h : ∀ old, (change old).config = old.config ∧ (change old).compresses = old.compresses ∧
      ((change old).phase = old.phase ∨ (change old).phase = .closed)) :
    Quiet id (update id change : StateM (Client (σ × FrameLog)) Unit) := by
  refine fun c => ⟨rfl, fun old hold => ⟨change old, ?_, h old⟩⟩
  change (c.connections.modify id change).get? id = _
  rw [Assoc.get?_modify, if_pos rfl, hold, Option.map_some]

theorem quiet_shutDown (net : Network σ) (error : ConnectionError) :
    Quiet id (shutDown net.recorded id error) := by
  refine .bind ?_ fun _ => .bind ?_ fun _ => ?_
  · exact quiet_update fun old => ⟨rfl, rfl, .inr rfl⟩
  · exact quiet_modify fun c => .of_eq rfl rfl
  · exact fun c => .of_eq rfl rfl

theorem allowsWaiting_isQuiet (net : Network σ) : AllowsWaiting net.recorded id (IsQuiet id) where
  of_eq hnetwork hconnections := .of_eq (congrArg Prod.snd hnetwork) hconnections
  unread _ := quiet_update fun _ => ⟨rfl, rfl, .inl rfl⟩
  shutDown error := quiet_shutDown net error

theorem quiet_receive (net : Network σ) (reaction : Reaction) :
    Quiet id (receive net.recorded id reaction) :=
  (allowsWaiting_isQuiet net).receive reaction

theorem quiet_wait (span : Duration) :
    Quiet id (wait span : StateM (Client (σ × FrameLog)) Unit) :=
  fun _ => .of_eq rfl rfl

theorem quiet_collect (net : Network σ) (ticket : Ticket) :
    Quiet id (collect ticket : StateM (Client (σ × FrameLog)) _) :=
  (allowsWaiting_isQuiet net).collect ticket

theorem quiet_dial (net : Network σ) (connection : Connection) :
    Quiet id (dial net.recorded id connection) := by
  have hsocket : Quiet id (onNetwork (net.recorded.dial id connection.address)) :=
    fun c => .of_eq rfl rfl
  refine quiet_get.bind fun start => .bind ?_ fun result => quiet_get.bind fun now => ?_
  · refine hsocket.bind fun socket => ?_
    cases socket with
    | accepted => exact (quiet_wait _).bind fun _ => quiet_pure _
    | refused e => exact (quiet_wait _).bind fun _ => quiet_pure _
    | unreachable => exact quiet_pure _
    | silent => exact (quiet_wait _).bind fun _ => quiet_pure _
  · split
    · exact .bind (quiet_modify fun c => .of_eq rfl rfl) fun _ => quiet_pure _
    · exact quiet_pure _

end Client

end CqlClient
