import CqlClient.Cluster.EventHandling
import CqlClient.Proofs.Cluster.Refresh

namespace CqlClient

namespace Snapshot

/-- Whether a peer that was known is still in the datacenter and the rack and owns the tokens that
it had. -/
def KeepsPlace (s before : Snapshot) (address : IpAddress) : Prop :=
  ∀ known, before.peer? address = some known → ∃ kept, s.peer? address = some kept ∧
    kept.datacenter = known.datacenter ∧ kept.rack = known.rack ∧ kept.tokens = known.tokens

theorem Indexed.not_mem_of_bare {s : Snapshot} (h : s.Indexed) {address : IpAddress} {isUp : Bool}
    (hget : s.peer? address = some { address, isUp }) :
    (∀ datacenter, address ∉ s.datacenterEndpoints datacenter) ∧
      (∀ datacenter rack, address ∉ s.rackEndpoints datacenter rack) ∧
        ∀ token, (token, address) ∉ s.ring.entries := by
  have hplace : ∀ peer, s.peer? address = some peer →
      peer.datacenter = none ∧ peer.tokens = [] := by
    rintro peer hpeer
    obtain rfl := Option.some.inj (hget.symm.trans hpeer)
    exact ⟨rfl, rfl⟩
  refine ⟨fun datacenter hmem => ?_, fun datacenter rack hmem => ?_, fun token hmem => ?_⟩
  · obtain ⟨peer, hpeer, hin⟩ := (h.consistent.mem_datacenter_iff datacenter address).mp hmem
    exact nomatch (hplace peer hpeer).1.symm.trans hin
  · obtain ⟨peer, hpeer, hin, -⟩ := (h.consistent.mem_rack_iff datacenter rack address).mp hmem
    exact nomatch (hplace peer hpeer).1.symm.trans hin
  · obtain ⟨peer, hpeer, howned⟩ := List.mem_flatMap.mp (h.ring_perm.mem_iff.mp hmem)
    obtain ⟨owned, howned, heq⟩ := List.mem_map.mp howned
    obtain ⟨key, hkey⟩ := Assoc.mem_values_iff.mp hpeer
    obtain rfl : key = address :=
      (h.peer_address key peer hkey).symm.trans (congrArg Prod.snd heq)
    rw [(hplace peer hkey).2] at howned
    exact nomatch howned

end Snapshot

namespace ClusterView

variable {σ : Type} {v : ClusterView} {reads : Option (TableReads σ)} {nodes : σ}

/-- Whether the table of peers, when it can be read at all, has no row of an address. -/
def IsUnlisted (v : ClusterView) (reads : Option (TableReads σ)) (nodes : σ)
    (address : IpAddress) : Prop :=
  ∀ tables, reads = some tables → ∀ peers,
    ((tables.peers v.snapshot.partitioner).run nodes).1 = .ok peers →
      ∀ peer ∈ peers, peer.address ≠ address

theorem run_readPeer {address : IpAddress} (h : v.IsUnlisted reads nodes address) :
    ((v.readPeer reads address).run nodes).1 = { address } := by
  cases reads with
  | none => rfl
  | some tables =>
      simp only [readPeer, StateT.run_bind]
      cases hpeers : (tables.peers v.snapshot.partitioner).run nodes with
      | mk peers nodes' =>
          cases peers with
          | error e => rfl
          | ok peers =>
              have hnone : peers.find? (fun peer => peer.address = address) = none :=
                List.find?_eq_none.mpr fun peer hpeer heq =>
                  h tables rfl peers (congrArg Prod.fst hpeers) peer hpeer (of_decide_eq_true heq)
              exact congrArg (Option.getD · _) hnone

theorem snapshot_move (v : ClusterView) (peer : Peer) :
    (v.move peer).snapshot =
      v.snapshot.addPeer (Snapshot.keepStatus (v.snapshot.peer? peer.address) peer) := by
  rw [move]
  cases v.snapshot.peer? peer.address with
  | none => exact snapshot_enlistIfUp _ _
  | some previous => exact snapshot_enlistIfUp _ _

theorem snapshot_handle_unlisted {node : Endpoint} {known : Peer}
    (hknown : v.snapshot.peer? node.ip = some known) (h : v.IsUnlisted reads nodes node.ip)
    {change : TopologyChange} (hchange : change ≠ .removedNode) :
    ((v.handle reads (.topology change node)).run nodes).1.1.snapshot =
      v.snapshot.addPeer { address := node.ip, isUp := change = .newNode || known.isUp } := by
  have hread := run_readPeer h
  cases change with
  | removedNode => exact absurd rfl hchange
  | newNode =>
      refine Eq.trans ?_ (v.snapshot_join { address := node.ip })
      rw [← hread]
      rfl
  | movedNode =>
      refine Eq.trans ?_ ((v.snapshot_move { address := node.ip }).trans ?_)
      · rw [← hread]
        rfl
      · rw [hknown]
        rfl

/-- After the event of a known node that joined or moved and is not listed, nothing is known of it
but its address and whether it is up; it is in no index. So it keeps its place only if it had
none. -/
theorem keepsPlace_handle_iff {node : Endpoint} {known : Peer}
    (hknown : v.snapshot.peer? node.ip = some known) (hunlisted : v.IsUnlisted reads nodes node.ip)
    {change : TopologyChange} (hchange : change ≠ .removedNode) :
    let after := ((v.handle reads (.topology change node)).run nodes).1.1.snapshot
    after.peer? node.ip = some { address := node.ip, isUp := change = .newNode || known.isUp } ∧
      (∀ address, address ≠ node.ip → after.peer? address = v.snapshot.peer? address) ∧
      (v.snapshot.Indexed →
        (∀ datacenter, node.ip ∉ after.datacenterEndpoints datacenter) ∧
          (∀ datacenter rack, node.ip ∉ after.rackEndpoints datacenter rack) ∧
            ∀ token, (token, node.ip) ∉ after.ring.entries) ∧
      (after.KeepsPlace v.snapshot node.ip ↔
        known.datacenter = none ∧ known.rack = none ∧ known.tokens = []) := by
  intro after
  have hafter : after =
      v.snapshot.addPeer { address := node.ip, isUp := change = .newNode || known.isUp } :=
    snapshot_handle_unlisted hknown hunlisted hchange
  have hbare : after.peer? node.ip =
      some { address := node.ip, isUp := change = .newNode || known.isUp } := by
    rw [hafter, Snapshot.peer?_addPeer, if_pos rfl]
  have hothers : ∀ address, address ≠ node.ip →
      after.peer? address = v.snapshot.peer? address := fun address hne => by
    rw [hafter, Snapshot.peer?_addPeer, if_neg hne]
  refine ⟨hbare, hothers, fun hindexed => ?_, fun hkeeps => ?_, ?_⟩
  · have hnew : after.Indexed := hafter ▸ hindexed.addPeer _
    exact hnew.not_mem_of_bare hbare
  · obtain ⟨kept, hkept, hdatacenter, hrack, htokens⟩ := hkeeps known hknown
    obtain rfl := Option.some.inj (hbare.symm.trans hkept)
    exact ⟨hdatacenter.symm, hrack.symm, htokens.symm⟩
  · rintro ⟨hdatacenter, hrack, htokens⟩ old hold
    obtain rfl := Option.some.inj (hknown.symm.trans hold)
    exact ⟨_, hbare, hdatacenter.symm, hrack.symm, htokens.symm⟩

/-- The node that a client asks is not in its own table of peers. -/
def otherPeers : TableReads Unit where
  peers _ := return .ok [{ address := .ofOctets 10 0 0 2, datacenter := some "dc1" }]
  keyspace _ := return .ok []

/-- A client that knows the node that it asks, with a place in the ring. -/
def askingFirst : ClusterView :=
  { routing := .roundRobin 0 : ClusterView }.applyAll
    [.join { address := .ofOctets 10 0 0 1, datacenter := some "dc1", rack := some "r1",
             tokens := [.murmur3 0] }]

theorem isUnlisted_askingFirst :
    askingFirst.IsUnlisted (some otherPeers) () (.ofOctets 10 0 0 1) := by
  rintro tables ⟨⟩ peers ⟨⟩
  decide

theorem keepsPlace_handle_askingFirst :
    askingFirst.IsUnlisted (some otherPeers) () (.ofOctets 10 0 0 1) ∧
      ¬ ((askingFirst.handle (some otherPeers)
        (.topology .movedNode ⟨.ofOctets 10 0 0 1, 9042⟩)).run ()).1.1.snapshot.KeepsPlace
          askingFirst.snapshot (.ofOctets 10 0 0 1) := by
  refine ⟨isUnlisted_askingFirst, fun hkeeps => ?_⟩
  have hplace := (@keepsPlace_handle_iff Unit askingFirst (some otherPeers) ()
    ⟨.ofOctets 10 0 0 1, 9042⟩ _ rfl isUnlisted_askingFirst .movedNode nofun).2.2.2.mp hkeeps
  exact nomatch hplace.1

theorem not_keepsPlace_handle : ¬ ∀ (policy : RoutingPolicy) (firstCounter : String → Nat)
    (changes : List ClusterChange) (reads : Option (TableReads Unit)) (change : TopologyChange)
    (node : Endpoint), policy.HasNoEndpoints → change ≠ .removedNode →
      let before := ({ routing := policy, firstCounter } : ClusterView).applyAll changes
      before.IsUnlisted reads () node.ip →
        ((before.handle reads (.topology change node)).run ()).1.1.snapshot.KeepsPlace
          before.snapshot node.ip := by
  intro h
  have hkeeps := h (.roundRobin 0) (fun _ => 0)
    [.join { address := .ofOctets 10 0 0 1, datacenter := some "dc1", rack := some "r1",
             tokens := [.murmur3 0] }]
    (some otherPeers) .newNode ⟨.ofOctets 10 0 0 1, 9042⟩ rfl nofun isUnlisted_askingFirst
  obtain ⟨kept, hkept, hdatacenter, -⟩ := hkeeps _ rfl
  obtain rfl := Option.some.inj hkept
  exact nomatch hdatacenter

end ClusterView

end CqlClient
