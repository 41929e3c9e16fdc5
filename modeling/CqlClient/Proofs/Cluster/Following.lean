import CqlClient.Proofs.Cluster.Agreement
import CqlClient.Proofs.Cluster.Registration

namespace CqlClient

theorem RoutingPolicy.isKept_true : IsKept fun _ _ => True :=
  ⟨fun _ _ => trivial, fun _ _ _ _ => trivial⟩

namespace ClusterView

open RoutingPolicy (IsKept isKept_true)

variable {R : RoutingPolicy → (IpAddress → Option Peer) → Prop} {σ : Type} {v : ClusterView}

theorem address_readPeer (v : ClusterView) (reads : Option (TableReads σ)) (address : IpAddress)
    (nodes : σ) : ((v.readPeer reads address).run nodes).1.address = address := by
  cases reads with
  | none => rfl
  | some tables =>
      simp only [readPeer, StateT.run_bind]
      rcases (tables.peers v.snapshot.partitioner).run nodes with ⟨peers | peers, later⟩
      · rfl
      · change ((peers.find? fun peer => peer.address = address).getD { address }).address = address
        cases hfind : peers.find? (fun peer => peer.address = address) with
        | none => rfl
        | some peer => simpa using List.find?_some hfind

theorem exists_markUp_of_handle (h : v.snapshot.Indexed) (reads : Option (TableReads σ))
    (node : Endpoint) (nodes : σ) :
    ∃ peer : Peer, peer.address = node.ip ∧
      ((v.handle reads (.status .up node)).run nodes).1 = v.apply (.markUp peer) := by
  cases hget : v.snapshot.peer? node.ip with
  | none =>
      refine ⟨_, address_readPeer v reads node.ip nodes, ?_⟩
      simp only [handle, hget]
      rfl
  | some known =>
      refine ⟨known, h.peer_address node.ip known hget, ?_⟩
      simp only [handle, hget]
      rfl

theorem Relates.markAllDown (hR : IsKept R) (h : v.Relates R) (addresses : List IpAddress) :
    (Worker.markAllDown v addresses).1.Relates R :=
  forEach_induction (P := Relates R) (fun _ address hv => hv.apply hR (.markDown address)) h _

theorem Relates.handleKeyspaceChange (h : v.Relates R) (reads : Option (TableReads σ))
    (name : String) (change : SchemaChange) (nodes : σ) :
    ((v.handleKeyspaceChange reads name change).run nodes).1.Relates R := by
  have hrefresh : ((v.refreshKeyspace reads name).run nodes).1.Relates R := by
    cases reads with
    | none => exact h
    | some tables =>
        simp only [refreshKeyspace, StateT.run_bind]
        rcases (tables.keyspace name).run nodes with ⟨keyspaces | keyspaces, later⟩
        · exact h
        · obtain ⟨hindexed, hpeers⟩ := foldl_keeps_peers
            (fun _ keyspace hs => Snapshot.Indexed.putKeyspace hs keyspace) (fun _ _ => rfl)
            h.indexed keyspaces
          exact h.setSnapshot hindexed hpeers
  cases change with
  | created => exact hrefresh
  | updated => exact hrefresh
  | dropped => exact h.setSnapshot (h.indexed.removeKeyspace name) rfl
  | invalid => exact h

theorem Relates.updateKeyspace (h : v.Relates R) (name : String) (change : Keyspace → Keyspace) :
    { v with snapshot := v.snapshot.updateKeyspace name change }.Relates R := by
  refine h.setSnapshot (h.indexed.updateKeyspace name change) ?_
  rw [Snapshot.updateKeyspace]
  split <;> rfl

theorem Relates.handleTableChange (h : v.Relates R) (keyspace table : String)
    (change : SchemaChange) : (v.handleTableChange keyspace table change).Relates R := by
  cases change with
  | created => exact h.updateKeyspace keyspace _
  | updated => exact h.updateKeyspace keyspace _
  | dropped => exact h.updateKeyspace keyspace _
  | invalid => exact h

theorem Relates.handle (hR : IsKept R) (h : v.Relates R) (reads : Option (TableReads σ))
    (event : Event) (nodes : σ) : ((v.handle reads event).run nodes).1.1.Relates R := by
  cases event with
  | topology change node =>
      cases change with
      | newNode => exact h.apply hR (.join _)
      | removedNode => exact h.apply hR (.leave node.ip)
      | movedNode => exact h.apply hR (.move _)
  | status change node =>
      cases change with
      | up =>
          obtain ⟨peer, -, hhandled⟩ := exists_markUp_of_handle h.indexed reads node nodes
          rw [hhandled]
          exact h.apply hR (.markUp peer)
      | down => exact h.apply hR (.markDown node.ip)
  | schema change keyspace table =>
      cases table with
      | none => exact h.handleKeyspaceChange reads keyspace change nodes
      | some table => exact h.handleTableChange keyspace table change

theorem indexed_handle (h : v.snapshot.Indexed) (reads : Option (TableReads σ)) (event : Event)
    (nodes : σ) : ((v.handle reads event).run nodes).1.1.snapshot.Indexed :=
  (Relates.handle isKept_true ⟨h, trivial⟩ reads event nodes).indexed

end ClusterView

namespace Worker

open RoutingPolicy (IsKept isKept_true)

variable {R : RoutingPolicy → (IpAddress → Option Peer) → Prop} {σ κ : Type}
  {access : ClusterAccess σ κ} {config : ClusterConfig} {w : Worker κ}

theorem relates_discover (hR : IsKept R) (hnone : R config.routing fun _ => none)
    {firstCounter : String → Nat} {met : List Announcement} {nodes later : σ}
    (hfound : (discover access config firstCounter).run nodes = (.ok (w, met), later)) :
    w.view.Relates R := by
  obtain ⟨address, control, metadata, read, -, rfl⟩ := exists_of_discover hfound
  have hempty := ClusterView.relates_empty hnone firstCounter
  exact (hempty.applyMetadata hR metadata).markAllDown hR _

theorem relates_step (hR : IsKept R) (h : w.view.Relates R) (access : ClusterAccess σ κ)
    (seeds : List IpAddress) (input : WorkerInput) (nodes : σ) :
    ((w.step access seeds input).run nodes).1.1.view.Relates R := by
  cases input with
  | event change => exact h.handle hR _ change nodes
  | controlLost =>
      rw [step]
      cases w.control with
      | none => exact h
      | some lost =>
          exact view_register (P := ClusterView.Relates R) h (h.applyMetadata hR) access seeds nodes

theorem relates_run (hR : IsKept R) (h : w.view.Relates R) (access : ClusterAccess σ κ)
    (seeds : List IpAddress) (inputs : List WorkerInput) (nodes : σ) :
    ((w.run access seeds inputs).run nodes).1.1.view.Relates R := by
  induction inputs generalizing w nodes with
  | nil => exact h
  | cons input inputs ih => exact ih (relates_step hR h access seeds input nodes) _

theorem indexed_discover {firstCounter : String → Nat} {met : List Announcement} {nodes later : σ}
    (hfound : (discover access config firstCounter).run nodes = (.ok (w, met), later)) :
    w.view.snapshot.Indexed :=
  (relates_discover isKept_true trivial hfound).indexed

theorem indexed_run (h : w.view.snapshot.Indexed) (access : ClusterAccess σ κ)
    (seeds : List IpAddress) (inputs : List WorkerInput) (nodes : σ) :
    ((w.run access seeds inputs).run nodes).1.1.view.snapshot.Indexed :=
  (relates_run isKept_true ⟨h, trivial⟩ access seeds inputs nodes).indexed

end Worker

end CqlClient
