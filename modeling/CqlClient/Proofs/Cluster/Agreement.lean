import CqlClient.Cluster.View
import CqlClient.Proofs.Topology.Consistency
import Mathlib.Logic.Function.Basic

/-!
The routing policy of a client agrees with its directory: whatever happens to a cluster, the policy
chooses between the peers that are up, each in the datacenter that its record names.
-/

namespace CqlClient

namespace Rotation

theorem mem_endpoints_add {rotation : Rotation} {endpoint other : IpAddress} :
    other ∈ (rotation.add endpoint).endpoints ↔ other = endpoint ∨ other ∈ rotation.endpoints := by
  rw [add]
  split
  · next hmem =>
      refine ⟨Or.inr, ?_⟩
      rintro (rfl | h)
      · exact hmem
      · exact h
  · simp [or_comm]

theorem nodup_endpoints_add {rotation : Rotation} (h : rotation.endpoints.Nodup)
    (endpoint : IpAddress) : (rotation.add endpoint).endpoints.Nodup := by
  rw [add]
  split
  · exact h
  · next hnew =>
      refine List.nodup_append.mpr ⟨h, by simp, ?_⟩
      rintro a ha b hb rfl
      obtain rfl : a = endpoint := by simpa using hb
      exact hnew ha

theorem mem_endpoints_remove {rotation : Rotation} {endpoint other : IpAddress} :
    other ∈ (rotation.remove endpoint).endpoints ↔
      other ∈ rotation.endpoints ∧ other ≠ endpoint := by
  simp [remove]

theorem nodup_endpoints_remove {rotation : Rotation} (h : rotation.endpoints.Nodup)
    (endpoint : IpAddress) : (rotation.remove endpoint).endpoints.Nodup :=
  h.filter _

end Rotation

namespace RoutingPolicy

/-- Endpoints of the rotation of a datacenter. -/
def endpointsIn (rotations : Assoc String Rotation) (datacenter : String) : List IpAddress :=
  ((rotations.get? datacenter).map Rotation.endpoints).getD []

/-- A policy under which no endpoint can be chosen. -/
def HasNoEndpoints : RoutingPolicy → Prop
  | .rotating rotation => rotation.endpoints = []
  | .datacenterAware _ rotations => ∀ datacenter, endpointsIn rotations datacenter = []
  | .tokenAware child => child.HasNoEndpoints

/-- Whether a policy chooses between the peers that are up and no others, each in the datacenter
that its record names. -/
def Agrees : RoutingPolicy → Snapshot → Prop
  | .rotating rotation, s =>
      rotation.endpoints.Nodup ∧
        ∀ address, address ∈ rotation.endpoints ↔
          ∃ peer ∈ s.peers.values, peer.isUp ∧ peer.address = address
  | .datacenterAware _ rotations, s =>
      (∀ datacenter, (endpointsIn rotations datacenter).Nodup ∧
        ∀ address, address ∈ endpointsIn rotations datacenter ↔
          ∃ peer ∈ s.peers.values,
            peer.isUp ∧ peer.datacenter = some datacenter ∧ peer.address = address) ∧
      ∀ peer ∈ s.peers.values, peer.datacenter = none →
        ∀ datacenter, peer.address ∉ endpointsIn rotations datacenter
  | .tokenAware child, s => child.Agrees s

/-- Whether a policy chooses between the endpoints that have a record, each in the datacenter that
the record names. -/
def Lists : RoutingPolicy → (IpAddress → Option Peer) → Prop
  | .rotating rotation, up =>
      rotation.endpoints.Nodup ∧
        ∀ address, address ∈ rotation.endpoints ↔ ∃ peer, up address = some peer
  | .datacenterAware _ rotations, up =>
      ∀ datacenter, (endpointsIn rotations datacenter).Nodup ∧
        ∀ address, address ∈ endpointsIn rotations datacenter ↔
          ∃ peer, up address = some peer ∧ peer.datacenter = some datacenter
  | .tokenAware child, up => child.Lists up

theorem lists_of_hasNoEndpoints {policy : RoutingPolicy} (h : policy.HasNoEndpoints) :
    policy.Lists fun _ => none := by
  induction policy with
  | rotating rotation =>
      rw [HasNoEndpoints] at h
      simp [Lists, h]
  | datacenterAware home rotations =>
      rw [HasNoEndpoints] at h
      simp [Lists, h]
  | tokenAware child ih => exact ih h

theorem hasNoEndpoints_preferring (home : String) (seed : Nat) :
    (preferring home seed).HasNoEndpoints := by
  intro datacenter
  rw [endpointsIn, Assoc.get?_insert]
  split <;> rfl

theorem get?_mapValues {κ α : Type} [DecidableEq κ] (change : α → α) (m : Assoc κ α) (key : κ) :
    (mapValues change m).get? key = (m.get? key).map change := by
  simp [Assoc.get?, mapValues, List.find?_map, Function.comp_def]

theorem endpointsIn_mapValues_remove (rotations : Assoc String Rotation) (endpoint : IpAddress)
    (datacenter : String) :
    endpointsIn (mapValues (·.remove endpoint) rotations) datacenter =
      (endpointsIn rotations datacenter).filter (· ≠ endpoint) := by
  rw [endpointsIn, get?_mapValues, endpointsIn]
  cases rotations.get? datacenter <;> rfl

theorem endpointsIn_addEndpoint (rotations : Assoc String Rotation) (seed : Nat)
    (datacenter other : String) (endpoint : IpAddress) :
    endpointsIn (rotations.insert datacenter
        (((rotations.get? datacenter).getD (.ofEndpoints [] seed)).add endpoint)) other =
      if other = datacenter then
        ((Rotation.ofEndpoints (endpointsIn rotations datacenter) seed).add endpoint).endpoints
      else endpointsIn rotations other := by
  rw [endpointsIn, Assoc.get?_insert]
  split
  · cases hget : rotations.get? datacenter with
    | none => simp [endpointsIn, hget]
    | some rotation =>
        simp only [endpointsIn, hget, Option.map_some, Option.getD_some, Rotation.add,
          Rotation.ofEndpoints]
        split <;> rfl
  · rfl

theorem Lists.removeEndpoint {policy : RoutingPolicy} {up : IpAddress → Option Peer}
    (h : policy.Lists up) (peer : Peer) :
    (policy.removeEndpoint peer).Lists (Function.update up peer.address none) := by
  induction policy with
  | rotating rotation =>
      obtain ⟨hnodup, hmem⟩ := h
      refine ⟨Rotation.nodup_endpoints_remove hnodup peer.address, fun address => ?_⟩
      rw [Rotation.mem_endpoints_remove, hmem, Function.update_apply]
      split
      · next heq => simp [heq]
      · next hne => simp [hne]
  | datacenterAware home rotations =>
      intro datacenter
      obtain ⟨hnodup, hmem⟩ := h datacenter
      rw [endpointsIn_mapValues_remove]
      refine ⟨hnodup.filter _, fun address => ?_⟩
      rw [List.mem_filter, hmem, Function.update_apply]
      split
      · next heq => simp [heq]
      · next hne => simp [hne]
  | tokenAware child ih => exact ih h

theorem exists_update_iff {up : IpAddress → Option Peer} {peer : Peer} {datacenter : String}
    (hplace : ∀ old, up peer.address = some old → old.datacenter = peer.datacenter)
    (hother : peer.datacenter ≠ some datacenter) (address : IpAddress) :
    (∃ found, Function.update up peer.address (some peer) address = some found ∧
        found.datacenter = some datacenter) ↔
      ∃ found, up address = some found ∧ found.datacenter = some datacenter := by
  rw [Function.update_apply]
  split
  · next heq =>
      rw [heq]
      constructor
      · rintro ⟨found, hfound, hin⟩
        obtain rfl := Option.some.inj hfound
        exact absurd hin hother
      · rintro ⟨found, hfound, hin⟩
        rw [hplace found hfound] at hin
        exact absurd hin hother
  · rfl

theorem Lists.addEndpoint {policy : RoutingPolicy} {up : IpAddress → Option Peer}
    (h : policy.Lists up) (seed : Nat) (peer : Peer)
    (hplace : ∀ old, up peer.address = some old → old.datacenter = peer.datacenter) :
    (policy.addEndpoint seed peer).Lists (Function.update up peer.address (some peer)) := by
  induction policy with
  | rotating rotation =>
      obtain ⟨hnodup, hmem⟩ := h
      refine ⟨Rotation.nodup_endpoints_add hnodup peer.address, fun address => ?_⟩
      rw [Rotation.mem_endpoints_add, hmem, Function.update_apply]
      split
      · next heq => simp [heq]
      · next hne => simp [hne]
  | datacenterAware home rotations =>
      cases hdatacenter : peer.datacenter with
      | none =>
          simp only [RoutingPolicy.addEndpoint, hdatacenter]
          intro datacenter
          refine ⟨(h datacenter).1, fun address => ?_⟩
          rw [exists_update_iff hplace (by simp [hdatacenter]), (h datacenter).2]
      | some place =>
          simp only [RoutingPolicy.addEndpoint, hdatacenter]
          intro datacenter
          rw [endpointsIn_addEndpoint]
          split
          · next heq =>
              subst heq
              refine ⟨Rotation.nodup_endpoints_add (h datacenter).1 peer.address, fun address => ?_⟩
              rw [Rotation.mem_endpoints_add, Function.update_apply]
              split
              · next heq => simp [heq, hdatacenter]
              · next hne => simpa [hne, Rotation.ofEndpoints] using (h datacenter).2 address
          · next hne =>
              refine ⟨(h datacenter).1, fun address => ?_⟩
              have hother : peer.datacenter ≠ some datacenter := by
                rw [hdatacenter]
                exact fun heq => hne (Option.some.inj heq).symm
              rw [exists_update_iff hplace hother, (h datacenter).2]
  | tokenAware child ih => exact ih h

/-- Whether a relation between a policy and the records of the peers that are up is kept when a peer
is dismissed, and when one is taken up that is not listed in another datacenter. -/
structure IsKept (R : RoutingPolicy → (IpAddress → Option Peer) → Prop) : Prop where
  removeEndpoint : ∀ {policy up}, R policy up → ∀ peer : Peer,
    R (policy.removeEndpoint peer) (Function.update up peer.address none)
  addEndpoint : ∀ {policy up}, R policy up → ∀ (seed : Nat) (peer : Peer),
    (∀ old, up peer.address = some old → old.datacenter = peer.datacenter) →
      R (policy.addEndpoint seed peer) (Function.update up peer.address (some peer))

theorem isKept_lists : IsKept Lists := ⟨Lists.removeEndpoint, Lists.addEndpoint⟩

end RoutingPolicy

namespace Snapshot

/-- The record of an address, if it is up. -/
def up? (s : Snapshot) (address : IpAddress) : Option Peer :=
  (s.peer? address).filter Peer.isUp

theorem up?_eq_some_iff {s : Snapshot} {address : IpAddress} {peer : Peer} :
    s.up? address = some peer ↔ s.peer? address = some peer ∧ peer.isUp := by
  rw [up?, Option.filter_eq_some_iff]

theorem up?_of_unknown {s : Snapshot} {address : IpAddress} (hget : s.peer? address = none) :
    s.up? address = none := by
  rw [up?, hget, Option.filter_none]

theorem up?_addPeer (s : Snapshot) (peer : Peer) :
    (s.addPeer peer).up? =
      Function.update s.up? peer.address (if peer.isUp then some peer else none) := by
  funext address
  rw [up?, peer?_addPeer, Function.update_apply]
  split
  · rw [Option.filter_some]
  · rfl

theorem up?_removePeer (s : Snapshot) (address : IpAddress) :
    (s.removePeer address).up? = Function.update s.up? address none := by
  funext other
  rw [up?, peer?_removePeer, Function.update_apply]
  split
  · rfl
  · rfl

theorem up?_setStatus (s : Snapshot) (address : IpAddress) (isUp : Bool) :
    (s.setStatus address isUp).up? =
      Function.update s.up? address
        (if isUp then (s.peer? address).map (·.withStatus true) else none) := by
  funext other
  rw [up?, peer?_setStatus, Function.update_apply]
  split
  · cases s.peer? address <;> cases isUp <;> simp [Peer.withStatus]
  · rfl

end Snapshot

namespace ClusterView

open RoutingPolicy (IsKept)

variable {R : RoutingPolicy → (IpAddress → Option Peer) → Prop} {v : ClusterView}

/-- A view whose policy is related to the records of the peers that are up. -/
structure Relates (R : RoutingPolicy → (IpAddress → Option Peer) → Prop) (v : ClusterView) :
    Prop where
  indexed : v.snapshot.Indexed
  related : R v.routing v.snapshot.up?

theorem relates_empty {routing : RoutingPolicy} (h : R routing fun _ => none)
    (firstCounter : String → Nat) : ({ routing, firstCounter } : ClusterView).Relates R :=
  ⟨Snapshot.indexed_empty, h⟩

theorem Relates.address_eq (h : v.Relates R) {address : IpAddress} {peer : Peer}
    (hget : v.snapshot.peer? address = some peer) : peer.address = address :=
  h.indexed.peer_address address peer hget

theorem Relates.update_none (h : v.Relates R) {address : IpAddress}
    (hget : v.snapshot.up? address = none) :
    R v.routing (Function.update v.snapshot.up? address none) := by
  rw [Function.update_eq_self_iff.mpr hget.symm]
  exact h.related

theorem Relates.dismiss (hR : IsKept R) (h : v.Relates R) {address : IpAddress} {peer : Peer}
    (hget : v.snapshot.peer? address = some peer) :
    R (v.routing.removeEndpoint peer) (Function.update v.snapshot.up? address none) := by
  rw [← h.address_eq hget]
  exact hR.removeEndpoint h.related peer

theorem related_enlist (hR : IsKept R) {routing : RoutingPolicy} {up : IpAddress → Option Peer}
    {peer : Peer} (h : R routing (Function.update up peer.address none)) (seed : Nat) :
    R (routing.addEndpoint seed peer) (Function.update up peer.address (some peer)) := by
  have hadd := hR.addEndpoint h seed peer (by simp)
  rwa [Function.update_idem] at hadd

theorem Relates.enlistIfUp (hR : IsKept R) {s : Snapshot} {peer : Peer} (hindexed : s.Indexed)
    (hsnapshot : v.snapshot = s.addPeer peer)
    (hrelated : R v.routing (Function.update s.up? peer.address none)) :
    (v.enlistIfUp peer).Relates R := by
  rw [ClusterView.enlistIfUp]
  split
  · next hup =>
      refine ⟨?_, ?_⟩
      · change v.snapshot.Indexed
        rw [hsnapshot]
        exact hindexed.addPeer peer
      · change R (v.routing.addEndpoint _ peer) v.snapshot.up?
        rw [hsnapshot, Snapshot.up?_addPeer, if_pos hup]
        exact related_enlist hR hrelated _
  · next hup =>
      refine ⟨?_, ?_⟩
      · rw [hsnapshot]
        exact hindexed.addPeer peer
      · rw [hsnapshot, Snapshot.up?_addPeer, if_neg hup]
        exact hrelated

theorem Relates.join (hR : IsKept R) (h : v.Relates R) (peer : Peer) :
    (v.join peer).Relates R := by
  rw [ClusterView.join]
  cases hget : v.snapshot.peer? peer.address with
  | none =>
      exact Relates.enlistIfUp hR h.indexed rfl (h.update_none (Snapshot.up?_of_unknown hget))
  | some previous => exact Relates.enlistIfUp hR h.indexed rfl (h.dismiss hR hget)

theorem Relates.leave (hR : IsKept R) (h : v.Relates R) (address : IpAddress) :
    (v.leave address).Relates R := by
  refine ⟨h.indexed.removePeer address, ?_⟩
  change R (v.routing.removeEndpoint ((v.snapshot.peer? address).getD { address }))
    (v.snapshot.removePeer address).up?
  rw [Snapshot.up?_removePeer]
  cases hget : v.snapshot.peer? address with
  | none => exact hR.removeEndpoint h.related _
  | some peer => exact h.dismiss hR hget

theorem Relates.move (hR : IsKept R) (h : v.Relates R) (peer : Peer) :
    (v.move peer).Relates R := by
  cases hget : v.snapshot.peer? peer.address with
  | none =>
      simp only [ClusterView.move, hget]
      exact Relates.enlistIfUp hR h.indexed rfl (h.update_none (Snapshot.up?_of_unknown hget))
  | some previous =>
      simp only [ClusterView.move, hget]
      exact Relates.enlistIfUp hR h.indexed rfl (h.dismiss hR hget)

theorem Relates.markUp (hR : IsKept R) (h : v.Relates R) (peer : Peer) :
    (v.markUp peer).Relates R := by
  cases hget : v.snapshot.peer? peer.address with
  | none =>
      simp only [ClusterView.markUp, hget]
      exact Relates.enlistIfUp (v := v.record (peer.withStatus true)) hR h.indexed rfl
        (h.update_none (Snapshot.up?_of_unknown hget))
  | some known =>
      simp only [ClusterView.markUp, hget]
      refine ⟨h.indexed.setStatus peer.address true, ?_⟩
      change R (v.routing.addEndpoint _ (known.withStatus true))
        (v.snapshot.setStatus peer.address true).up?
      rw [Snapshot.up?_setStatus, if_pos rfl, hget, Option.map_some, ← h.address_eq hget]
      -- The listed record is the known one, so the peer is not listed in a second datacenter.
      refine hR.addEndpoint h.related _ (known.withStatus true) fun old hold => ?_
      rw [Snapshot.up?_eq_some_iff] at hold
      change v.snapshot.peer? known.address = some old ∧ _ at hold
      rw [h.address_eq hget, hget] at hold
      rw [← Option.some.inj hold.1]
      rfl

theorem Relates.markDown (hR : IsKept R) (h : v.Relates R) (address : IpAddress) :
    (v.markDown address).Relates R := by
  refine ⟨h.indexed.setStatus address false, ?_⟩
  change R (v.routing.removeEndpoint
    (((v.snapshot.peer? address).getD { address }).withStatus false))
      (v.snapshot.setStatus address false).up?
  rw [Snapshot.up?_setStatus, if_neg (by simp)]
  cases hget : v.snapshot.peer? address with
  | none => exact hR.removeEndpoint h.related _
  | some peer =>
      rw [← h.address_eq hget]
      exact hR.removeEndpoint h.related _

theorem Relates.refresh (hR : IsKept R) (h : v.Relates R) {known peer : Peer}
    (hget : v.snapshot.peer? peer.address = some known) : (v.refresh known peer).Relates R := by
  simp only [ClusterView.refresh]
  split
  · next hup =>
      have hlisted := Relates.enlistIfUp
        (v := (v.record (peer.withStatus known.isUp)).dismiss known) hR h.indexed rfl
          (h.dismiss hR hget)
      rwa [ClusterView.enlistIfUp, if_pos hup] at hlisted
  · next hup =>
      have hdown : v.snapshot.up? peer.address = none := by
        rw [Snapshot.up?, hget, Option.filter_some, if_neg]
        exact hup
      have hkept := Relates.enlistIfUp
        (v := v.record (peer.withStatus known.isUp)) hR h.indexed rfl (h.update_none hdown)
      rwa [ClusterView.enlistIfUp, if_neg hup] at hkept

theorem Relates.takePeer (hR : IsKept R) (h : v.Relates R) (peer : Peer) :
    (v.takePeer peer).1.Relates R := by
  cases hget : v.snapshot.peer? peer.address with
  | none => simpa only [ClusterView.takePeer, hget] using h.join hR peer
  | some known => simpa only [ClusterView.takePeer, hget] using h.refresh hR hget

theorem forEach_induction {α : Type} {change : ClusterView → α → ClusterView × List Announcement}
    {P : ClusterView → Prop} (hstep : ∀ v a, P v → P (change v a).1) {v : ClusterView} (h : P v)
    (items : List α) : P (forEach change v items).1 := by
  induction items generalizing v with
  | nil => exact h
  | cons item rest ih => exact ih (hstep v item h)

theorem Relates.takePeers (hR : IsKept R) (h : v.Relates R) (peers : List Peer) :
    (v.takePeers peers).1.Relates R := by
  have hjoined : (forEach ClusterView.takePeer v peers).1.Relates R :=
    forEach_induction (P := Relates R) (fun _ peer hv => hv.takePeer hR peer) h peers
  exact forEach_induction (P := Relates R) (fun _ address hv => hv.leave hR address) hjoined _

theorem Relates.setSnapshot (h : v.Relates R) {s : Snapshot} (hindexed : s.Indexed)
    (hpeers : s.peers = v.snapshot.peers) : { v with snapshot := s }.Relates R := by
  refine ⟨hindexed, ?_⟩
  have hup : s.up? = v.snapshot.up? := by
    funext address
    rw [Snapshot.up?, Snapshot.up?, Snapshot.peer?, Snapshot.peer?, hpeers]
  change R v.routing s.up?
  rw [hup]
  exact h.related

theorem foldl_keeps_peers {α : Type} {change : Snapshot → α → Snapshot}
    (hindexed : ∀ s a, s.Indexed → (change s a).Indexed)
    (hpeers : ∀ s a, (change s a).peers = s.peers) {s : Snapshot} (h : s.Indexed) (items : List α) :
    (items.foldl change s).Indexed ∧ (items.foldl change s).peers = s.peers := by
  induction items generalizing s with
  | nil => exact ⟨h, rfl⟩
  | cons item rest ih =>
      have hrest := ih (hindexed s item h)
      exact ⟨hrest.1, hrest.2.trans (hpeers s item)⟩

theorem Relates.takeKeyspaces (h : v.Relates R) (keyspaces : List Keyspace) :
    (v.takeKeyspaces keyspaces).Relates R := by
  obtain ⟨hput, hputPeers⟩ := foldl_keeps_peers
    (fun _ keyspace hs => Snapshot.Indexed.putKeyspace hs keyspace) (fun _ _ => rfl)
    h.indexed keyspaces
  obtain ⟨hremoved, hremovedPeers⟩ := foldl_keeps_peers
    (fun _ name hs => Snapshot.Indexed.removeKeyspace hs name) (fun _ _ => rfl) hput
    ((keyspaces.foldl Snapshot.putKeyspace v.snapshot).keyspaces.keys.filter fun name =>
      name ∉ keyspaces.map Keyspace.name)
  exact h.setSnapshot hremoved (hremovedPeers.trans hputPeers)

theorem Relates.applyMetadata (hR : IsKept R) (h : v.Relates R) (metadata : ClusterMetadata) :
    (v.applyMetadata metadata).1.Relates R := by
  have hinfo := h.setSnapshot
    (h.indexed.setClusterInfo metadata.clusterName metadata.partitioner) rfl
  exact (hinfo.takePeers hR metadata.peers).takeKeyspaces metadata.keyspaces

/-- No change of a cluster makes a policy and the directory part. -/
theorem Relates.apply (hR : IsKept R) (h : v.Relates R) (change : ClusterChange) :
    (v.apply change).1.Relates R := by
  cases change with
  | join peer => exact h.join hR peer
  | leave address => exact h.leave hR address
  | move peer => exact h.move hR peer
  | markUp peer => exact h.markUp hR peer
  | markDown address => exact h.markDown hR address
  | applyMetadata metadata => exact h.applyMetadata hR metadata

/-- A view whose policy lists the peers that are up. -/
structure InStep (v : ClusterView) : Prop where
  indexed : v.snapshot.Indexed
  lists : v.routing.Lists v.snapshot.up?

theorem InStep.applyAll (h : v.InStep) (changes : List ClusterChange) :
    (v.applyAll changes).InStep := by
  induction changes generalizing v with
  | nil => exact h
  | cons change rest ih =>
      have happlied := Relates.apply RoutingPolicy.isKept_lists ⟨h.indexed, h.lists⟩ change
      exact ih ⟨happlied.indexed, happlied.related⟩

theorem inStep_of_hasNoEndpoints {policy : RoutingPolicy} (h : policy.HasNoEndpoints)
    (firstCounter : String → Nat) : { routing := policy, firstCounter : ClusterView }.InStep :=
  ⟨Snapshot.indexed_empty, RoutingPolicy.lists_of_hasNoEndpoints h⟩

end ClusterView

theorem Snapshot.Indexed.exists_up?_iff {s : Snapshot} (h : s.Indexed) (address : IpAddress)
    (condition : Peer → Prop) :
    (∃ peer, s.up? address = some peer ∧ condition peer) ↔
      ∃ peer ∈ s.peers.values, peer.isUp ∧ condition peer ∧ peer.address = address := by
  constructor
  · rintro ⟨peer, hup, hcondition⟩
    obtain ⟨hget, hup⟩ := Snapshot.up?_eq_some_iff.mp hup
    exact ⟨peer, Assoc.mem_values_iff.mpr ⟨address, hget⟩, hup, hcondition,
      h.peer_address address peer hget⟩
  · rintro ⟨peer, hmem, hup, hcondition, rfl⟩
    obtain ⟨key, hget⟩ := Assoc.mem_values_iff.mp hmem
    have hkey := h.peer_address key peer hget
    subst hkey
    exact ⟨peer, Snapshot.up?_eq_some_iff.mpr ⟨hget, hup⟩, hcondition⟩

theorem RoutingPolicy.Lists.agrees {policy : RoutingPolicy} {s : Snapshot} (h : policy.Lists s.up?)
    (hindexed : s.Indexed) : policy.Agrees s := by
  induction policy with
  | rotating rotation =>
      refine ⟨h.1, fun address => ?_⟩
      rw [h.2]
      simpa using hindexed.exists_up?_iff address fun _ => True
  | datacenterAware home rotations =>
      have hmem : ∀ datacenter address, address ∈ endpointsIn rotations datacenter ↔
          ∃ peer ∈ s.peers.values,
            peer.isUp ∧ peer.datacenter = some datacenter ∧ peer.address = address := by
        intro datacenter address
        rw [(h datacenter).2, hindexed.exists_up?_iff address (·.datacenter = some datacenter)]
      refine ⟨fun datacenter => ⟨(h datacenter).1, hmem datacenter⟩, ?_⟩
      intro peer hpeer hnone datacenter hlisted
      obtain ⟨listed, hlisted, -, hplace, haddress⟩ := (hmem datacenter peer.address).mp hlisted
      obtain ⟨key, hget⟩ := Assoc.mem_values_iff.mp hpeer
      obtain ⟨other, hother⟩ := Assoc.mem_values_iff.mp hlisted
      have hkey : key = other := by
        rw [← hindexed.peer_address key peer hget, ← haddress]
        exact hindexed.peer_address other listed hother
      rw [hkey, hother, Option.some.injEq] at hget
      rw [hget, hnone] at hplace
      exact absurd hplace (by simp)
  | tokenAware child ih => exact ih h

namespace ClusterView

/-- Whatever happens to a cluster, a policy that had no endpoints at first agrees with the
directory. -/
theorem agrees_applyAll {policy : RoutingPolicy} (h : policy.HasNoEndpoints)
    (firstCounter : String → Nat) (changes : List ClusterChange) :
    (({ routing := policy, firstCounter } : ClusterView).applyAll changes).routing.Agrees
      (({ routing := policy, firstCounter } : ClusterView).applyAll changes).snapshot := by
  have hstep := (inStep_of_hasNoEndpoints h firstCounter).applyAll changes
  exact hstep.lists.agrees hstep.indexed

/-- A peer goes down, moves to another datacenter, is listed with a third one and comes back. -/
def wanderings : List ClusterChange :=
  let peer : Peer := { address := .ofOctets 10 0 0 1, datacenter := some "dc1", rack := some "r1" }
  [.join peer, .markDown peer.address, .move { peer with datacenter := some "dc2" },
    .applyMetadata ⟨none, .murmur3, [{ peer with datacenter := some "dc3" }], []⟩, .markUp peer]

theorem agrees_applyAll_wanderings :
    (RoutingPolicy.tokenAware (.preferring "dc1" 0)).HasNoEndpoints ∧
      (({ routing := .tokenAware (.preferring "dc1" 0), firstCounter := fun _ => 0 } :
        ClusterView).applyAll wanderings).routing.Agrees
      (({ routing := .tokenAware (.preferring "dc1" 0), firstCounter := fun _ => 0 } :
        ClusterView).applyAll wanderings).snapshot :=
  ⟨RoutingPolicy.hasNoEndpoints_preferring "dc1" 0,
    @agrees_applyAll (.tokenAware (.preferring "dc1" 0))
      (RoutingPolicy.hasNoEndpoints_preferring "dc1" 0) (fun _ => 0) wanderings⟩

end ClusterView

end CqlClient
