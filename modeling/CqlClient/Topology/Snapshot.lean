import CqlClient.Ring.Partitioner
import CqlClient.Ring.TokenRing
import CqlClient.Topology.Keyspace
import CqlClient.Topology.Peer

namespace CqlClient

/-- Put an endpoint at the end of the list of a key. -/
def Assoc.push {κ α : Type} [DecidableEq κ] (lists : Assoc κ (List α)) (key : κ) (value : α) :
    Assoc κ (List α) :=
  lists.insert key ((lists.get? key).getD [] ++ [value])

/-- Take a value out of the list of a key; a list that becomes empty goes with its key. -/
def Assoc.pull {κ α : Type} [DecidableEq κ] [DecidableEq α] (lists : Assoc κ (List α)) (key : κ)
    (value : α) : Assoc κ (List α) :=
  match lists.get? key with
  | none => lists
  | some values =>
      let rest := values.filter (· ≠ value)
      if rest.isEmpty then lists.erase key else lists.insert key rest

/-- A consistent view of the cluster at one moment. -/
structure Snapshot where
  clusterName : Option String
  partitioner : Partitioner
  peers : Assoc IpAddress Peer
  /-- Endpoints of each datacenter that has any, in the order in which they came. -/
  datacenters : Assoc String (List IpAddress)
  /-- Endpoints of each rack that has any, by datacenter. -/
  racks : Assoc String (Assoc String (List IpAddress))
  ring : TokenRing IpAddress
  keyspaces : Assoc String Keyspace
  deriving DecidableEq

namespace Snapshot

/-- Nothing is known yet. -/
def empty : Snapshot :=
  { clusterName := none
    partitioner := .murmur3
    peers := .empty
    datacenters := .empty
    racks := .empty
    ring := .empty
    keyspaces := .empty }

instance : Inhabited Snapshot := ⟨empty⟩

/-- The record of a peer. -/
def peer? (s : Snapshot) (address : IpAddress) : Option Peer :=
  s.peers.get? address

/-- Endpoints of a datacenter. -/
def datacenterEndpoints (s : Snapshot) (datacenter : String) : List IpAddress :=
  (s.datacenters.get? datacenter).getD []

/-- Number of racks of a datacenter. -/
def rackCount (s : Snapshot) (datacenter : String) : Nat :=
  ((s.racks.get? datacenter).map Assoc.size).getD 0

/-- Endpoints of a rack. -/
def rackEndpoints (s : Snapshot) (datacenter rack : String) : List IpAddress :=
  ((s.racks.get? datacenter).bind (·.get? rack)).getD []

/-- The keyspace with a given name. -/
def keyspace? (s : Snapshot) (name : String) : Option Keyspace :=
  s.keyspaces.get? name

/-- Record which cluster this is. -/
def setClusterInfo (s : Snapshot) (name : Option String) (partitioner : Partitioner) : Snapshot :=
  { s with clusterName := name, partitioner }

/-- Racks without an endpoint of one of them; a rack or datacenter that becomes empty goes too. -/
def pullFromRack (racks : Assoc String (Assoc String (List IpAddress))) (datacenter rack : String)
    (address : IpAddress) : Assoc String (Assoc String (List IpAddress)) :=
  match racks.get? datacenter with
  | none => racks
  | some ofDatacenter =>
      let rest := ofDatacenter.pull rack address
      if rest.isEmpty then racks.erase datacenter else racks.insert datacenter rest

/-- The view without a peer, in every index. -/
def removePeer (s : Snapshot) (address : IpAddress) : Snapshot :=
  match s.peer? address with
  | none => s
  | some old =>
      let s := { s with
        peers := s.peers.erase address
        ring := if old.tokens.isEmpty then s.ring else s.ring.without address }
      match old.datacenter with
      | none => s
      | some datacenter =>
          { s with
            datacenters := s.datacenters.pull datacenter address
            racks := pullFromRack s.racks datacenter old.rackName address }

/-- The view with a peer, in place of a former record of the same address. -/
def addPeer (s : Snapshot) (peer : Peer) : Snapshot :=
  let s := s.removePeer peer.address
  let s := { s with
    peers := s.peers.insert peer.address peer
    ring :=
      if peer.tokens.isEmpty then s.ring
      else .ofEntries (s.ring.entries ++ peer.tokens.map fun token => (token, peer.address)) }
  match peer.datacenter with
  | none => s
  | some datacenter =>
      { s with
        datacenters := s.datacenters.push datacenter peer.address
        racks := s.racks.insert datacenter
          (((s.racks.get? datacenter).getD .empty).push peer.rackName peer.address) }

/-- The view with another status of a peer. Placement does not depend on the status, so the indices
stay as they are. -/
def setStatus (s : Snapshot) (address : IpAddress) (isUp : Bool) : Snapshot :=
  match s.peer? address with
  | none => s
  | some peer =>
      if peer.isUp = isUp then s
      else { s with peers := s.peers.insert address (peer.withStatus isUp) }

/-- The view with a keyspace, which keeps the tables that it had. -/
def putKeyspace (s : Snapshot) (keyspace : Keyspace) : Snapshot :=
  let keyspace := match s.keyspace? keyspace.name with
    | some old => keyspace.keepTables old
    | none => keyspace
  { s with keyspaces := s.keyspaces.insert keyspace.name keyspace }

/-- The view without a keyspace. -/
def removeKeyspace (s : Snapshot) (name : String) : Snapshot :=
  { s with keyspaces := s.keyspaces.erase name }

/-- Change a keyspace, if it is known. -/
def updateKeyspace (s : Snapshot) (name : String) (change : Keyspace → Keyspace) : Snapshot :=
  match s.keyspace? name with
  | none => s
  | some keyspace =>
      let keyspace := change keyspace
      { s with keyspaces := s.keyspaces.insert keyspace.name keyspace }

/-- The view with a table more, if the keyspace is known. -/
def addTable (s : Snapshot) (keyspace table : String) : Snapshot :=
  s.updateKeyspace keyspace (·.addTable table)

/-- The view without a table. -/
def removeTable (s : Snapshot) (keyspace table : String) : Snapshot :=
  s.updateKeyspace keyspace (·.removeTable table)

end Snapshot

/-- A change of what is known about the cluster. -/
inductive SnapshotChange
  | setClusterInfo (name : Option String) (partitioner : Partitioner)
  | addPeer (peer : Peer)
  | setStatus (address : IpAddress) (isUp : Bool)
  | removePeer (address : IpAddress)
  | putKeyspace (keyspace : Keyspace)
  | removeKeyspace (name : String)
  | addTable (keyspace table : String)
  | removeTable (keyspace table : String)
  | clear

namespace Snapshot

/-- The view after a change. -/
def apply (s : Snapshot) : SnapshotChange → Snapshot
  | .setClusterInfo name partitioner => s.setClusterInfo name partitioner
  | .addPeer peer => s.addPeer peer
  | .setStatus address isUp => s.setStatus address isUp
  | .removePeer address => s.removePeer address
  | .putKeyspace keyspace => s.putKeyspace keyspace
  | .removeKeyspace name => s.removeKeyspace name
  | .addTable keyspace table => s.addTable keyspace table
  | .removeTable keyspace table => s.removeTable keyspace table
  | .clear => empty

/-- The view after changes, one after another. -/
def applyAll (s : Snapshot) (changes : List SnapshotChange) : Snapshot :=
  changes.foldl apply s

end Snapshot

end CqlClient
