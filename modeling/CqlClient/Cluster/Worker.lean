import CqlClient.Cluster.Control
import CqlClient.Cluster.EventHandling
import CqlClient.Config

/-!
Finding a cluster through its seeds, and following it afterwards: events change what is believed
about it, and a lost control connection is replaced. If no node accepts a new one, the cluster is
unavailable for good.
-/

namespace CqlClient

/-- What a client can do to the nodes of a cluster, whose state is `σ`. A control connection is
known by a `κ`. -/
structure ClusterAccess (σ κ : Type) where
  /-- Open a connection to a node and register for events. -/
  openControl : IpAddress → StateM σ (Except ConnectionError κ)
  closeControl : κ → StateM σ Unit
  /-- Read all system tables. -/
  readAll : κ → IpAddress → StateM σ (Except MetadataError ClusterMetadata)
  /-- Read system tables for an event. -/
  reads : κ → TableReads σ
  /-- Find out which of some nodes cannot be reached. -/
  unreachable : List IpAddress → StateM σ (List IpAddress)

/-- Follows a cluster. -/
structure Worker (κ : Type) where
  view : ClusterView
  /-- The node that reports events, and the connection to it. -/
  control : Option (IpAddress × κ)
  /-- No node accepted a control connection after the last one was lost. -/
  isUnavailable : Bool := false

/-- What a worker reacts to. -/
inductive WorkerInput
  | event (change : Event)
  | controlLost
  deriving DecidableEq

namespace Worker

variable {σ κ : Type}

/-- The node that holds the control connection. -/
def controlAddress? (w : Worker κ) : Option IpAddress := w.control.map Prod.fst

/-- Mark nodes down. -/
def markAllDown (v : ClusterView) (addresses : List IpAddress) :
    ClusterView × List Announcement :=
  ClusterView.forEach (fun v address => v.apply (.markDown address)) v addresses

/-- Find a cluster: register with the first seed that accepts, read its tables, and mark down the
peers that cannot be reached. Gives the worker, and what listeners are told meanwhile. -/
def discover (access : ClusterAccess σ κ) (config : ClusterConfig)
    (firstCounter : String → Nat) :
    StateM σ (Except DiscoveryError (Worker κ × List Announcement)) := do
  if config.seeds.isEmpty then return .error (.config .noSeeds)
  match ← ControlConnection.openAny access.openControl config.seeds with
  | .error e => return .error (.noAvailablePeers e)
  | .ok (address, control) =>
      match ← access.readAll control address with
      | .error e =>
          access.closeControl control
          return .error (.metadata e)
      | .ok metadata =>
          let start : ClusterView := { routing := config.routing, firstCounter }
          let (view, joined) := start.applyMetadata metadata
          let others := view.snapshot.peers.keys.filter (· ≠ address)
          let down ← access.unreachable others
          let (view, fallen) := markAllDown view down
          return .ok ({ view, control := some (address, control) }, joined ++ fallen)

/-- Replace a lost control connection. Events may have been missed, so everything is read again;
if that fails the view stays as it is. -/
def register (access : ClusterAccess σ κ) (seeds : List IpAddress) (w : Worker κ) :
    StateM σ (Worker κ × List Announcement) := do
  let candidates := ControlConnection.candidates seeds w.view.snapshot
  match ← ControlConnection.openAny access.openControl candidates with
  | .error _ => return ({ w with control := none, isUnavailable := true }, [])
  | .ok (address, control) =>
      let w := { w with control := some (address, control) }
      match ← access.readAll control address with
      | .ok metadata =>
          let (view, announcements) := w.view.applyMetadata metadata
          return ({ w with view }, announcements)
      | .error _ => return (w, [])

/-- React to an input. A connection that there is not cannot be lost. -/
def step (access : ClusterAccess σ κ) (seeds : List IpAddress) (w : Worker κ) :
    WorkerInput → StateM σ (Worker κ × List Announcement)
  | .event change => do
      let reads := w.control.map fun control => access.reads control.2
      let (view, announcements) ← w.view.handle reads change
      return ({ w with view }, announcements)
  | .controlLost =>
      match w.control with
      | some _ => w.register access seeds
      | none => return (w, [])

/-- React to inputs one after another. -/
def run (access : ClusterAccess σ κ) (seeds : List IpAddress) :
    Worker κ → List WorkerInput → StateM σ (Worker κ × List Announcement)
  | w, [] => return (w, [])
  | w, input :: inputs => do
      let (w, first) ← w.step access seeds input
      let (w, others) ← run access seeds w inputs
      return (w, first ++ others)

end Worker

end CqlClient
