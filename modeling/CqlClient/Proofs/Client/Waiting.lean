import CqlClient.Client
import Mathlib.Order.Defs.Unbundled

namespace CqlClient

namespace Client

variable {σ α β : Type} {R : Client σ → Client σ → Prop}

/-- Whether an action changes a client only as a relation allows. -/
def Keeps (R : Client σ → Client σ → Prop) (action : StateM (Client σ) α) : Prop :=
  ∀ c, R c (action.run c).2

section Actions

variable [IsPreorder (Client σ) R]

theorem keeps_pure (a : α) : Keeps R (pure a : StateM (Client σ) α) := fun c => refl_of R c

theorem Keeps.bind {first : StateM (Client σ) β} {next : β → StateM (Client σ) α}
    (h : Keeps R first) (hnext : ∀ b, Keeps R (next b)) : Keeps R (first >>= next) :=
  fun c => trans_of R (h c) (hnext (first.run c).1 (first.run c).2)

theorem keeps_get : Keeps R (get : StateM (Client σ) _) := fun c => refl_of R c

theorem keeps_connection? (id : ConnectionId) :
    Keeps R (connection? id : StateM (Client σ) _) := fun c => refl_of R c

theorem keeps_phase (id : ConnectionId) : Keeps R (phase id : StateM (Client σ) _) :=
  fun c => refl_of R c

theorem keeps_request {net : Network σ} {id : ConnectionId} {request : Request}
    (h : Keeps R (ask net id request)) : Keeps R (Client.request net id request) := by
  refine (keeps_phase id).bind fun phase => ?_
  split
  · exact keeps_pure _
  · exact h

theorem keeps_forM {action : β → StateM (Client σ) Unit} (h : ∀ b, Keeps R (action b))
    (items : List β) : Keeps R (items.forM action) := by
  induction items with
  | nil => exact keeps_pure ()
  | cons item rest ih => exact (h item).bind fun _ => ih

end Actions

/-- Whether a relation is kept by the little that it takes to wait on a connection. -/
structure AllowsWaiting (net : Network σ) (id : ConnectionId)
    (R : Client σ → Client σ → Prop) : Prop where
  of_eq : ∀ {before after : Client σ}, after.network = before.network →
    after.connections = before.connections → R before after
  unread : ∀ rest, Keeps R (update id fun connection => { connection with unread := rest })
  shutDown : ∀ error, Keeps R (shutDown net id error)

namespace AllowsWaiting

variable {net : Network σ} {id : ConnectionId}

theorem wait (h : AllowsWaiting net id R) (span : Duration) : Keeps R (wait span) :=
  fun _ => h.of_eq rfl rfl

theorem take? (h : AllowsWaiting net id R) (request : Nat) : Keeps R (take? request) :=
  fun _ => h.of_eq rfl rfl

theorem giveUp (h : AllowsWaiting net id R) (since : Moment) : Keeps R (giveUp since) :=
  fun _ => h.of_eq rfl rfl

variable [IsPreorder (Client σ) R]

theorem accept (h : AllowsWaiting net id R) (frame : Incoming) :
    Keeps R (accept id frame) := by
  cases frame with
  | answer stream reply => exact fun _ => h.of_eq rfl rfl
  | event change => exact fun _ => h.of_eq rfl rfl
  | ignored => exact keeps_pure ()

theorem receive (h : AllowsWaiting net id R) (reaction : Reaction) :
    Keeps R (receive net id reaction) := by
  refine (keeps_connection? id).bind fun connection => ?_
  cases connection with
  | none => exact keeps_pure ()
  | some connection =>
      dsimp only
      split
      · exact keeps_pure ()
      · refine (keeps_forM h.accept _).bind fun _ => ?_
        split
        · exact h.shutDown _
        · refine (h.unread _).bind fun _ => ?_
          split
          · exact h.shutDown _
          · exact keeps_pure ()

theorem collect (h : AllowsWaiting net id R) (ticket : Ticket) : Keeps R (collect ticket) := by
  refine (keeps_connection? _).bind fun connection => (h.take? _).bind fun delivery => ?_
  cases delivery with
  | some delivery =>
      refine (h.wait _).bind fun _ => (keeps_pure _).bind fun ended => ?_
      dsimp only
      split <;> exact keeps_pure _
  | none =>
      refine (h.giveUp _).bind fun _ => (h.take? _).bind fun ended => ?_
      dsimp only
      split <;> exact keeps_pure _

end AllowsWaiting

end Client

end CqlClient
