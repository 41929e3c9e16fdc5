import CqlClient.Connection.Pending

/-!
The other end of the connections of a client. What nodes do is a state of its own, which every
action of the client may change.
-/

namespace CqlClient

/-- How it went to ask for a socket. -/
inductive Dial
  | accepted
  | refused (error : IoError)
  /-- It is known at once that no way leads to the address. -/
  | unreachable
  /-- Nobody answers. -/
  | silent
  deriving DecidableEq, Repr

/-- What comes back after a frame was written: bytes, and perhaps the end of the connection. -/
structure Reaction where
  bytes : Bytes := []
  hangsUp : Bool := false
  deriving DecidableEq

/-- Nodes with states `σ`. -/
structure Network (σ : Type) where
  /-- Ask for a socket to an address, for a new connection. -/
  dial : ConnectionId → IpAddress → StateM σ Dial
  /-- Write a frame on a connection. -/
  write : ConnectionId → Bytes → StateM σ Reaction
  /-- End a connection. -/
  hangUp : ConnectionId → StateM σ Unit

namespace IoError

/-- There is no way to an address. -/
def noRoute : IoError :=
  ⟨.networkUnreachable, some "Network is unreachable (os error 101)"⟩

/-- Nobody listens at an address. -/
def refused : IoError := ⟨.connectionRefused, some "Connection refused (os error 111)"⟩

end IoError

end CqlClient
