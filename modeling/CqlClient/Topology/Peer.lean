import CqlClient.Address
import CqlClient.Ring.Token
import CqlClient.Uuid

namespace CqlClient

/-- What is known about a node of the cluster. -/
structure Peer where
  address : IpAddress
  datacenter : Option String := none
  rack : Option String := none
  hostId : Option Uuid := none
  schemaVersion : Option Uuid := none
  releaseVersion : Option String := none
  /-- Tokens that the node owns; a node that is still joining has none. -/
  tokens : List Token := []
  /-- Whether the node is thought to be reachable. -/
  isUp : Bool := true
  deriving DecidableEq

namespace Peer

/-- The record with another status. -/
def withStatus (peer : Peer) (isUp : Bool) : Peer := { peer with isUp }

/-- Name under which the rack of a node is listed; nodes without a rack share the empty name. -/
def rackName (peer : Peer) : String := peer.rack.getD ""

end Peer

end CqlClient
