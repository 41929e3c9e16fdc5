import CqlClient.Cluster.SystemTables

/-!
How the events of nodes change what is believed about the cluster. Some of them make the client read
system tables first; a client without a control connection cannot read.
-/

namespace CqlClient

/-- Reads system tables when an event needs them. -/
structure TableReads (σ : Type) where
  peers : Partitioner → StateM σ (Except MetadataError (List Peer))
  keyspace : String → StateM σ (Except MetadataError (List Keyspace))

namespace ClusterView

variable {σ : Type}

/-- The record of a node in the table of peers. Of a node that cannot be read only the address is
known. -/
def readPeer (v : ClusterView) (reads : Option (TableReads σ)) (address : IpAddress) :
    StateM σ Peer := do
  match reads with
  | none => return { address }
  | some reads =>
      match ← reads.peers v.snapshot.partitioner with
      | .ok peers => return (peers.find? fun peer => peer.address = address).getD { address }
      | .error _ => return { address }

/-- Take over a keyspace from the system tables. If it cannot be read nothing changes. -/
def refreshKeyspace (v : ClusterView) (reads : Option (TableReads σ)) (name : String) :
    StateM σ ClusterView := do
  match reads with
  | none => return v
  | some reads =>
      match ← reads.keyspace name with
      | .ok keyspaces =>
          return { v with snapshot := keyspaces.foldl Snapshot.putKeyspace v.snapshot }
      | .error _ => return v

/-- The view after a change of a keyspace. -/
def handleKeyspaceChange (v : ClusterView) (reads : Option (TableReads σ)) (name : String) :
    SchemaChange → StateM σ ClusterView
  | .created | .updated => v.refreshKeyspace reads name
  | .dropped => return { v with snapshot := v.snapshot.removeKeyspace name }
  | .invalid => return v

/-- The view after a change of a table. -/
def handleTableChange (v : ClusterView) (keyspace table : String) : SchemaChange → ClusterView
  | .created | .updated => { v with snapshot := v.snapshot.addTable keyspace table }
  | .dropped => { v with snapshot := v.snapshot.removeTable keyspace table }
  | .invalid => v

/-- What listeners are told about a change of the schema; nothing about an invalid one. -/
def announceSchema (v : ClusterView) (change : SchemaChange) (notice : Notice) :
    List Announcement :=
  if change = .invalid then [] else [v.announce notice]

/-- The view after an event, and what listeners are told. -/
def handle (v : ClusterView) (reads : Option (TableReads σ)) :
    Event → StateM σ (ClusterView × List Announcement)
  | .topology .newNode node => do
      return v.apply (.join (← v.readPeer reads node.ip))
  | .topology .removedNode node => return v.apply (.leave node.ip)
  | .topology .movedNode node => do
      return v.apply (.move (← v.readPeer reads node.ip))
  | .status .up node => do
      let peer ← match v.snapshot.peer? node.ip with
        | some known => pure known
        | none => v.readPeer reads node.ip
      return v.apply (.markUp peer)
  | .status .down node => return v.apply (.markDown node.ip)
  | .schema change keyspace none => do
      let v ← v.handleKeyspaceChange reads keyspace change
      return (v, v.announceSchema change (.keyspaceChanged change keyspace))
  | .schema change keyspace (some table) =>
      let v := v.handleTableChange keyspace table change
      return (v, v.announceSchema change (.tableChanged change keyspace table))

end ClusterView

/-- A call of a listener. -/
structure ListenerCall where
  listener : String
  announcement : Announcement
  deriving DecidableEq

/-- Every listener is told everything; for each announcement they are called in the order in which
they were added. -/
def ListenerCall.all (listeners : List String) (announcements : List Announcement) :
    List ListenerCall :=
  announcements.flatMap fun announcement => listeners.map (⟨·, announcement⟩)

end CqlClient
