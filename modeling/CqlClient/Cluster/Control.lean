import CqlClient.Failure.Discovery
import CqlClient.Topology.Snapshot

/-!
The control connection, on which a node reports events: which nodes are tried for it, and in which
order.
-/

namespace CqlClient

namespace ControlConnection

/-- The nodes marked up, in the order of their addresses. -/
def upNodes (s : Snapshot) : List IpAddress :=
  IpAddress.sort ((s.peers.values.filter Peer.isUp).map Peer.address)

/-- The nodes to try after the connection was lost: the seeds, and then the nodes marked up, each
of them once. -/
def candidates (seeds : List IpAddress) (s : Snapshot) : List IpAddress :=
  (seeds ++ upNodes s).eraseDups

variable {σ α : Type}

/-- Open a connection to the first candidate that accepts it; candidates after it are left alone.
If none accepts, the failure is that of the last one, which is given if there is none. -/
def openFirst (dial : IpAddress → StateM σ (Except ConnectionError α)) (last : ConnectionError) :
    List IpAddress → StateM σ (Except ConnectionError (IpAddress × α))
  | [] => return .error last
  | candidate :: rest => do
      match ← dial candidate with
      | .ok connection => return .ok (candidate, connection)
      | .error e => openFirst dial e rest

/-- Open a connection to any of some candidates. -/
def openAny (dial : IpAddress → StateM σ (Except ConnectionError α)) :
    List IpAddress → StateM σ (Except ConnectionError (IpAddress × α)) :=
  openFirst dial .closed

end ControlConnection

end CqlClient
