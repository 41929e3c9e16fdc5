import CqlClient.Message.Event
import CqlClient.Routing.Policy
import CqlClient.Topology.Snapshot

/-!
What a client believes about its cluster, and the endpoints between which it chooses. Both change
together: with each change the directory is updated first, then the routing policy, and then the
listeners are told.
-/

namespace CqlClient

/-- What listeners are told. -/
inductive Notice
  | joined (address : IpAddress)
  | left (address : IpAddress)
  | moved (address : IpAddress)
  | wentUp (address : IpAddress)
  | wentDown (address : IpAddress)
  | keyspaceChanged (change : SchemaChange) (keyspace : String)
  | tableChanged (change : SchemaChange) (keyspace table : String)
  deriving DecidableEq

/-- A notice, with what is known about the cluster when it is given. -/
structure Announcement where
  notice : Notice
  snapshot : Snapshot
  deriving DecidableEq

/-- Everything that the system tables tell. -/
structure ClusterMetadata where
  clusterName : Option String
  partitioner : Partitioner
  /-- The node that was asked, and then its peers. -/
  peers : List Peer
  keyspaces : List Keyspace

/-- What a client believes about its cluster. -/
structure ClusterView where
  snapshot : Snapshot := .empty
  routing : RoutingPolicy
  /-- Where the rotation over a datacenter begins that is seen for the first time. -/
  firstCounter : String → Nat := fun _ => 0

namespace ClusterView

/-- Let a peer be chosen. -/
def enlist (v : ClusterView) (peer : Peer) : ClusterView :=
  { v with
    routing := v.routing.addEndpoint (v.firstCounter (peer.datacenter.getD "")) peer }

/-- Let a peer no longer be chosen. -/
def dismiss (v : ClusterView) (peer : Peer) : ClusterView :=
  { v with routing := v.routing.removeEndpoint peer }

/-- Let a peer be chosen if it is up. -/
def enlistIfUp (v : ClusterView) (peer : Peer) : ClusterView :=
  if peer.isUp then v.enlist peer else v

/-- Put a record into the directory. -/
def record (v : ClusterView) (peer : Peer) : ClusterView :=
  { v with snapshot := v.snapshot.addPeer peer }

/-- Tell listeners about a change that was made. -/
def announce (v : ClusterView) (notice : Notice) : Announcement := ⟨notice, v.snapshot⟩

/-- A node joins the cluster, in place of a former node with its address. -/
def join (v : ClusterView) (peer : Peer) : ClusterView :=
  let previous := v.snapshot.peer? peer.address
  let v := v.record peer
  let v := match previous with
    | some previous => v.dismiss previous
    | none => v
  v.enlistIfUp peer

/-- A node leaves the cluster, whether it was known or not. -/
def leave (v : ClusterView) (address : IpAddress) : ClusterView :=
  let peer := (v.snapshot.peer? address).getD { address }
  { v with snapshot := v.snapshot.removePeer address }.dismiss peer

/-- A node has other tokens now. A known node keeps its status. -/
def move (v : ClusterView) (peer : Peer) : ClusterView :=
  match v.snapshot.peer? peer.address with
  | some previous =>
      let peer := peer.withStatus previous.isUp
      ((v.dismiss previous).record peer).enlistIfUp peer
  | none => (v.record peer).enlistIfUp peer

/-- A node is up. The record is used only for a node that is not known. -/
def markUp (v : ClusterView) (peer : Peer) : ClusterView :=
  match v.snapshot.peer? peer.address with
  | some known =>
      { v with snapshot := v.snapshot.setStatus peer.address true }.enlist (known.withStatus true)
  | none => (v.record (peer.withStatus true)).enlist (peer.withStatus true)

/-- A node is down, whether it is known or not. -/
def markDown (v : ClusterView) (address : IpAddress) : ClusterView :=
  let peer := ((v.snapshot.peer? address).getD { address }).withStatus false
  { v with snapshot := v.snapshot.setStatus address false }.dismiss peer

/-- Take over what the system tables tell about a known peer, which keeps its status. -/
def refresh (v : ClusterView) (known peer : Peer) : ClusterView :=
  let peer := peer.withStatus known.isUp
  let v := v.record peer
  if peer.isUp then (v.dismiss known).enlist peer else v

/-- Take over a listed peer; one that is not known joins. -/
def takePeer (v : ClusterView) (peer : Peer) : ClusterView × List Announcement :=
  match v.snapshot.peer? peer.address with
  | some known => (v.refresh known peer, [])
  | none =>
      let v := v.join peer
      (v, [v.announce (.joined peer.address)])

/-- Do something for each of a list, and gather what listeners are told. -/
def forEach {α : Type} (change : ClusterView → α → ClusterView × List Announcement) :
    ClusterView → List α → ClusterView × List Announcement
  | v, [] => (v, [])
  | v, a :: rest =>
      let (v, first) := change v a
      let (v, others) := forEach change v rest
      (v, first ++ others)

/-- Take over all listed peers; those that are not listed leave. -/
def takePeers (v : ClusterView) (peers : List Peer) : ClusterView × List Announcement :=
  let (v, joined) := forEach takePeer v peers
  let listed := peers.map Peer.address
  let gone := v.snapshot.peers.keys.filter fun address => address ∉ listed
  let (v, left) := forEach (fun v address =>
    let v := v.leave address
    (v, [v.announce (.left address)])) v gone
  (v, joined ++ left)

/-- Take over all listed keyspaces; those that are not listed are gone. -/
def takeKeyspaces (v : ClusterView) (keyspaces : List Keyspace) : ClusterView :=
  let snapshot := keyspaces.foldl Snapshot.putKeyspace v.snapshot
  let listed := keyspaces.map Keyspace.name
  let gone := snapshot.keyspaces.keys.filter fun name => name ∉ listed
  { v with snapshot := gone.foldl Snapshot.removeKeyspace snapshot }

/-- Take over what the system tables tell. -/
def applyMetadata (v : ClusterView) (metadata : ClusterMetadata) :
    ClusterView × List Announcement :=
  let v := { v with
    snapshot := v.snapshot.setClusterInfo metadata.clusterName metadata.partitioner }
  let (v, announcements) := v.takePeers metadata.peers
  (v.takeKeyspaces metadata.keyspaces, announcements)

end ClusterView

/-- A change of what is believed about the cluster. -/
inductive ClusterChange
  | join (peer : Peer)
  | leave (address : IpAddress)
  | move (peer : Peer)
  | markUp (peer : Peer)
  | markDown (address : IpAddress)
  | applyMetadata (metadata : ClusterMetadata)

namespace ClusterView

/-- The view after a change, and what listeners are told. -/
def apply (v : ClusterView) : ClusterChange → ClusterView × List Announcement
  | .join peer => tell (v.join peer) (.joined peer.address)
  | .leave address => tell (v.leave address) (.left address)
  | .move peer => tell (v.move peer) (.moved peer.address)
  | .markUp peer => tell (v.markUp peer) (.wentUp peer.address)
  | .markDown address => tell (v.markDown address) (.wentDown address)
  | .applyMetadata metadata => v.applyMetadata metadata
where
  tell (v : ClusterView) (notice : Notice) : ClusterView × List Announcement :=
    (v, [v.announce notice])

/-- The view after changes, one after another. -/
def applyAll (v : ClusterView) (changes : List ClusterChange) : ClusterView :=
  changes.foldl (fun v change => (v.apply change).1) v

/-- The view after a plan was made. -/
def afterPlan (v : ClusterView) : ClusterView := { v with routing := v.routing.afterPlan }

/-- The endpoints to try for a request, best first. -/
def plan (v : ClusterView) (request : RoutingRequest) : List IpAddress :=
  v.routing.plan request v.snapshot

end ClusterView

end CqlClient
