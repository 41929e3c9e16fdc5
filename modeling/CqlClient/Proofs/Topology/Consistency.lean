import CqlClient.Proofs.Assoc
import CqlClient.Proofs.Ring.TokenOrder
import Mathlib.Data.Finset.Card

/-!
The indices of a view of the cluster agree with the records of its peers, whatever changes led to
the view.
-/

namespace CqlClient

section Filing

variable {κ : Type}

/-- Whether the record of an address is filed under a key. -/
def Filed (peers : Assoc IpAddress Peer) (keyOf : Peer → Option κ) (key : κ)
    (address : IpAddress) : Prop :=
  ∃ peer, peers.get? address = some peer ∧ keyOf peer = some key

theorem filed_erase_iff {peers : Assoc IpAddress Peer} {keyOf : Peer → Option κ} {key : κ}
    {address other : IpAddress} :
    Filed (peers.erase address) keyOf key other ↔
      Filed peers keyOf key other ∧ other ≠ address := by
  simp only [Filed, Assoc.get?_erase]
  by_cases h : other = address
  · simp [h]
  · simp [h]

theorem filed_insert_iff {peers : Assoc IpAddress Peer} {keyOf : Peer → Option κ} {key : κ}
    {address other : IpAddress} {peer : Peer} :
    Filed (peers.insert address peer) keyOf key other ↔
      if other = address then keyOf peer = some key else Filed peers keyOf key other := by
  simp only [Filed, Assoc.get?_insert]
  by_cases h : other = address
  · simp [h]
  · simp [h]

theorem not_filed {peers : Assoc IpAddress Peer} {address : IpAddress}
    (hget : peers.get? address = none) (keyOf : Peer → Option κ) (key : κ) :
    ¬ Filed peers keyOf key address := by
  rintro ⟨peer, hpeer, -⟩
  rw [hget] at hpeer
  exact absurd hpeer (by simp)

variable [DecidableEq κ] {lists : Assoc κ (List IpAddress)} {peers : Assoc IpAddress Peer}
  {keyOf : Peer → Option κ} {address : IpAddress}

theorem indexes_erase {old : Peer} (h : lists.Indexes (Filed peers keyOf))
    (hget : peers.get? address = some old) :
    ((keyOf old).elim lists fun key => lists.pull key address).Indexes
      (Filed (peers.erase address) keyOf) := by
  cases hold : keyOf old with
  | none =>
      refine h.congr fun key other => ?_
      rw [filed_erase_iff]
      refine ⟨fun hfiled => ⟨hfiled, ?_⟩, And.left⟩
      rintro rfl
      obtain ⟨peer, hpeer, hkey⟩ := hfiled
      rw [hget, Option.some.injEq] at hpeer
      rw [← hpeer, hold] at hkey
      exact absurd hkey (by simp)
  | some place =>
      refine (h.pull place address).congr fun key other => ?_
      rw [filed_erase_iff, and_congr_right_iff]
      rintro ⟨peer, hpeer, hkey⟩
      refine not_congr ⟨And.right, fun heq => ⟨?_, heq⟩⟩
      rw [heq, hget, Option.some.injEq] at hpeer
      rw [← hpeer, hold, Option.some.injEq] at hkey
      exact hkey.symm

theorem indexes_insert (h : lists.Indexes (Filed peers keyOf))
    (hget : peers.get? address = none) (peer : Peer) :
    ((keyOf peer).elim lists fun key => lists.push key address).Indexes
      (Filed (peers.insert address peer) keyOf) := by
  cases hnew : keyOf peer with
  | none =>
      refine h.congr fun key other => ?_
      rw [filed_insert_iff]
      split
      · next heq => simp [heq, not_filed hget, hnew]
      · rfl
  | some place =>
      refine (h.push (not_filed hget keyOf place)).congr fun key other => ?_
      rw [filed_insert_iff]
      split
      · next heq => simp [heq, not_filed hget, hnew, eq_comm]
      · next hne => simp [hne]

theorem indexes_replace {old new : Peer} (h : lists.Indexes (Filed peers keyOf))
    (hget : peers.get? address = some old) (hkey : keyOf new = keyOf old) :
    lists.Indexes (Filed (peers.insert address new) keyOf) := by
  refine h.congr fun key other => ?_
  rw [filed_insert_iff]
  split
  · next heq => simp [Filed, heq, hget, hkey]
  · rfl

end Filing

namespace Snapshot

/-- The racks of a datacenter, with their endpoints. -/
def racksOf (s : Snapshot) (datacenter : String) : Assoc String (List IpAddress) :=
  (s.racks.get? datacenter).getD .empty

/-- The rack of a peer, if the peer is in a given datacenter. -/
def rackIn (datacenter : String) (peer : Peer) : Option String :=
  if peer.datacenter = some datacenter then some peer.rackName else none

/-- The tokens of all peers, each with the address of its owner. -/
def ownedTokens (peers : Assoc IpAddress Peer) : List (Token × IpAddress) :=
  peers.values.flatMap fun peer => peer.tokens.map fun token => (token, peer.address)

/-- Every index of the view is that of the records of its peers. -/
structure Indexed (s : Snapshot) : Prop where
  peer_address : ∀ address peer, s.peer? address = some peer → peer.address = address
  datacenters : s.datacenters.Indexes (Filed s.peers Peer.datacenter)
  racks : ∀ datacenter, (s.racksOf datacenter).Indexes (Filed s.peers (rackIn datacenter))
  racks_ne_empty : ∀ datacenter racks, s.racks.get? datacenter = some racks → racks.isEmpty = false
  ring_sorted : s.ring.IsSorted
  ring_perm : s.ring.entries.Perm (ownedTokens s.peers)
  keyspace_name : ∀ name keyspace, s.keyspace? name = some keyspace → keyspace.name = name

theorem indexed_empty : empty.Indexed where
  peer_address := by simp [empty, peer?]
  datacenters := Assoc.Indexes.empty.congr fun key address => by simp [Filed, empty]
  racks datacenter := Assoc.Indexes.empty.congr fun key address => by simp [Filed, empty]
  racks_ne_empty := by simp [empty]
  ring_sorted := TokenRing.isSorted_empty
  ring_perm := List.Perm.refl _
  keyspace_name := by simp [empty, keyspace?]

theorem peers_removePeer (s : Snapshot) (address : IpAddress) :
    (s.removePeer address).peers = s.peers.erase address := by
  cases hget : s.peer? address with
  | none =>
      simp only [removePeer, hget]
      exact (Assoc.erase_eq_self hget).symm
  | some old =>
      simp only [removePeer, hget]
      split <;> rfl

theorem keyspaces_removePeer (s : Snapshot) (address : IpAddress) :
    (s.removePeer address).keyspaces = s.keyspaces := by
  cases hget : s.peer? address with
  | none => simp only [removePeer, hget]
  | some old =>
      simp only [removePeer, hget]
      split <;> rfl

theorem ring_removePeer {s : Snapshot} {address : IpAddress} {old : Peer}
    (hget : s.peer? address = some old) :
    (s.removePeer address).ring =
      if old.tokens.isEmpty then s.ring else s.ring.without address := by
  simp only [removePeer, hget]
  cases old.datacenter <;> rfl

theorem datacenters_removePeer {s : Snapshot} {address : IpAddress} {old : Peer}
    (hget : s.peer? address = some old) :
    (s.removePeer address).datacenters =
      old.datacenter.elim s.datacenters fun datacenter =>
        s.datacenters.pull datacenter address := by
  simp only [removePeer, hget]
  cases old.datacenter <;> rfl

theorem racks_removePeer {s : Snapshot} {address : IpAddress} {old : Peer}
    (hget : s.peer? address = some old) :
    (s.removePeer address).racks =
      old.datacenter.elim s.racks fun datacenter =>
        pullFromRack s.racks datacenter old.rackName address := by
  simp only [removePeer, hget]
  cases old.datacenter <;> rfl

theorem get?_pullFromRack_getD (racks : Assoc String (Assoc String (List IpAddress)))
    (datacenter rack other : String) (address : IpAddress) :
    ((pullFromRack racks datacenter rack address).get? other).getD .empty =
      if other = datacenter then ((racks.get? datacenter).getD .empty).pull rack address
      else (racks.get? other).getD .empty := by
  cases hget : racks.get? datacenter with
  | none =>
      simp only [pullFromRack, hget]
      split
      · next heq =>
          rw [heq, hget]
          rfl
      · rfl
  | some ofDatacenter =>
      simp only [pullFromRack, hget, Option.getD_some]
      split
      · next hempty =>
          rw [Assoc.get?_erase]
          split
          · exact (Assoc.eq_empty_of_isEmpty hempty).symm
          · rfl
      · rw [Assoc.get?_insert]
        split <;> rfl

theorem isEmpty_eq_false_of_get?_pullFromRack
    {racks : Assoc String (Assoc String (List IpAddress))} {datacenter rack : String}
    {address : IpAddress}
    (h : ∀ other found, racks.get? other = some found → found.isEmpty = false) (other : String)
    (found : Assoc String (List IpAddress))
    (hfound : (pullFromRack racks datacenter rack address).get? other = some found) :
    found.isEmpty = false := by
  cases hget : racks.get? datacenter with
  | none =>
      simp only [pullFromRack, hget] at hfound
      exact h other found hfound
  | some ofDatacenter =>
      simp only [pullFromRack, hget] at hfound
      split at hfound
      · rw [Assoc.get?_erase] at hfound
        split at hfound
        · exact absurd hfound (by simp)
        · exact h other found hfound
      · next hne =>
          rw [Assoc.get?_insert] at hfound
          split at hfound
          · obtain rfl := Option.some.inj hfound
            simpa using hne
          · exact h other found hfound

theorem racksOf_removePeer {s : Snapshot} {address : IpAddress} {old : Peer}
    (hget : s.peer? address = some old) (datacenter : String) :
    (s.removePeer address).racksOf datacenter =
      (rackIn datacenter old).elim (s.racksOf datacenter) fun rack =>
        (s.racksOf datacenter).pull rack address := by
  rw [racksOf, racks_removePeer hget, rackIn]
  cases hold : old.datacenter with
  | none => simp [racksOf]
  | some place =>
      rw [Option.elim_some, get?_pullFromRack_getD]
      by_cases heq : place = datacenter
      · simp [racksOf, heq]
      · simp [racksOf, heq, Ne.symm heq]

theorem ownedTokens_perm {peers : Assoc IpAddress Peer} {address : IpAddress} {old : Peer}
    (hget : peers.get? address = some old) :
    (ownedTokens peers).Perm
      (old.tokens.map (fun token => (token, old.address)) ++
        ownedTokens (peers.erase address)) := by
  rw [ownedTokens]
  exact ((Assoc.values_perm_cons_erase hget).flatMap_right _).trans (by simp [ownedTokens])

theorem ownedTokens_insert (peers : Assoc IpAddress Peer) (address : IpAddress) (peer : Peer) :
    ownedTokens (peers.insert address peer) =
      ownedTokens (peers.erase address) ++ peer.tokens.map fun token => (token, peer.address) := by
  simp [ownedTokens, Assoc.values_insert]

theorem peers_addPeer (s : Snapshot) (peer : Peer) :
    (s.addPeer peer).peers = (s.peers.erase peer.address).insert peer.address peer := by
  rw [addPeer, ← peers_removePeer]
  cases peer.datacenter <;> rfl

theorem keyspaces_addPeer (s : Snapshot) (peer : Peer) :
    (s.addPeer peer).keyspaces = s.keyspaces := by
  rw [addPeer, ← keyspaces_removePeer s peer.address]
  cases peer.datacenter <;> rfl

theorem ring_addPeer (s : Snapshot) (peer : Peer) :
    (s.addPeer peer).ring =
      if peer.tokens.isEmpty then (s.removePeer peer.address).ring
      else .ofEntries ((s.removePeer peer.address).ring.entries ++
        peer.tokens.map fun token => (token, peer.address)) := by
  rw [addPeer]
  cases peer.datacenter <;> rfl

theorem datacenters_addPeer (s : Snapshot) (peer : Peer) :
    (s.addPeer peer).datacenters =
      peer.datacenter.elim (s.removePeer peer.address).datacenters fun datacenter =>
        (s.removePeer peer.address).datacenters.push datacenter peer.address := by
  rw [addPeer]
  cases peer.datacenter <;> rfl

theorem racks_addPeer (s : Snapshot) (peer : Peer) :
    (s.addPeer peer).racks =
      peer.datacenter.elim (s.removePeer peer.address).racks fun datacenter =>
        (s.removePeer peer.address).racks.insert datacenter
          (((s.removePeer peer.address).racksOf datacenter).push peer.rackName peer.address) := by
  rw [addPeer]
  cases peer.datacenter <;> rfl

theorem racksOf_addPeer (s : Snapshot) (peer : Peer) (datacenter : String) :
    (s.addPeer peer).racksOf datacenter =
      (rackIn datacenter peer).elim ((s.removePeer peer.address).racksOf datacenter) fun rack =>
        ((s.removePeer peer.address).racksOf datacenter).push rack peer.address := by
  rw [racksOf, racks_addPeer, rackIn]
  cases peer.datacenter with
  | none => simp [racksOf]
  | some place =>
      rw [Option.elim_some, Assoc.get?_insert]
      by_cases heq : place = datacenter
      · simp [heq]
      · simp [racksOf, heq, Ne.symm heq]

theorem isEmpty_push {κ α : Type} [DecidableEq κ] (lists : Assoc κ (List α)) (key : κ)
    (value : α) : (lists.push key value).isEmpty = false := by
  simp [Assoc.push, Assoc.insert, Assoc.isEmpty]

theorem peer?_removePeer (s : Snapshot) (address other : IpAddress) :
    (s.removePeer address).peer? other = if other = address then none else s.peer? other := by
  rw [peer?, peers_removePeer, Assoc.get?_erase]
  rfl

theorem peer?_addPeer (s : Snapshot) (peer : Peer) (other : IpAddress) :
    (s.addPeer peer).peer? other = if other = peer.address then some peer else s.peer? other := by
  rw [peer?, peers_addPeer, Assoc.get?_insert, Assoc.get?_erase]
  split <;> rfl

theorem removePeer_of_unknown {s : Snapshot} {address : IpAddress}
    (hget : s.peer? address = none) : s.removePeer address = s := by
  simp only [removePeer, hget]

/-- The ring loses the entries of a removed peer and no others. -/
theorem Indexed.ring_removePeer_perm {s : Snapshot} (h : s.Indexed) {address : IpAddress}
    {old : Peer} (hget : s.peer? address = some old) :
    (s.removePeer address).ring.entries.Perm (ownedTokens (s.peers.erase address)) := by
  have hall := h.ring_perm.trans (ownedTokens_perm hget)
  rw [ring_removePeer hget]
  split
  · next hempty => simpa [List.isEmpty_iff.mp hempty] using hall
  · refine (hall.filter fun entry => entry.2 ≠ address).trans (.of_eq ?_)
    rw [List.filter_append, List.filter_eq_nil_iff.mpr, List.nil_append, List.filter_eq_self.mpr]
    · intro entry hentry
      obtain ⟨peer, hpeer, hentry⟩ := List.mem_flatMap.mp hentry
      obtain ⟨token, -, rfl⟩ := List.mem_map.mp hentry
      obtain ⟨other, hother⟩ := Assoc.mem_values_iff.mp hpeer
      rw [Assoc.get?_erase] at hother
      split at hother
      · exact absurd hother (by simp)
      · next hne => simpa [h.peer_address other peer hother] using hne
    · intro entry hentry
      obtain ⟨token, -, rfl⟩ := List.mem_map.mp hentry
      simp [h.peer_address address old hget]

theorem Indexed.removePeer {s : Snapshot} (h : s.Indexed) (address : IpAddress) :
    (s.removePeer address).Indexed := by
  cases hget : s.peer? address with
  | none => rwa [removePeer_of_unknown hget]
  | some old =>
      refine ⟨?_, ?_, ?_, ?_, ?_, ?_, ?_⟩
      · intro other peer hpeer
        rw [peer?_removePeer] at hpeer
        split at hpeer
        · exact absurd hpeer (by simp)
        · exact h.peer_address other peer hpeer
      · rw [datacenters_removePeer hget, peers_removePeer]
        exact indexes_erase h.datacenters hget
      · intro datacenter
        rw [racksOf_removePeer hget, peers_removePeer]
        exact indexes_erase (h.racks datacenter) hget
      · intro datacenter racks hracks
        rw [racks_removePeer hget] at hracks
        cases hold : old.datacenter with
        | none =>
            rw [hold] at hracks
            exact h.racks_ne_empty datacenter racks hracks
        | some place =>
            rw [hold] at hracks
            exact isEmpty_eq_false_of_get?_pullFromRack h.racks_ne_empty datacenter racks hracks
      · rw [ring_removePeer hget]
        split
        · exact h.ring_sorted
        · exact h.ring_sorted.without address
      · rw [peers_removePeer]
        exact h.ring_removePeer_perm hget
      · intro name keyspace hkeyspace
        rw [keyspace?, keyspaces_removePeer] at hkeyspace
        exact h.keyspace_name name keyspace hkeyspace

theorem Indexed.addPeer {s : Snapshot} (h : s.Indexed) (peer : Peer) :
    (s.addPeer peer).Indexed := by
  have hr := h.removePeer peer.address
  have hnew : (s.peers.erase peer.address).get? peer.address = none := by
    simp [Assoc.get?_erase]
  refine ⟨?_, ?_, ?_, ?_, ?_, ?_, ?_⟩
  · intro other found hfound
    rw [peer?_addPeer] at hfound
    split at hfound
    · next heq =>
        obtain rfl := Option.some.inj hfound
        exact heq.symm
    · exact h.peer_address other found hfound
  · have hindex := hr.datacenters
    rw [peers_removePeer] at hindex
    rw [datacenters_addPeer, peers_addPeer]
    exact indexes_insert hindex hnew peer
  · intro datacenter
    have hindex := hr.racks datacenter
    rw [peers_removePeer] at hindex
    rw [racksOf_addPeer, peers_addPeer]
    exact indexes_insert hindex hnew peer
  · intro datacenter racks hracks
    rw [racks_addPeer] at hracks
    cases hplace : peer.datacenter with
    | none =>
        rw [hplace] at hracks
        exact hr.racks_ne_empty datacenter racks hracks
    | some place =>
        rw [hplace, Option.elim_some, Assoc.get?_insert] at hracks
        split at hracks
        · obtain rfl := Option.some.inj hracks
          exact isEmpty_push _ _ _
        · exact hr.racks_ne_empty datacenter racks hracks
  · rw [ring_addPeer]
    split
    · exact hr.ring_sorted
    · exact TokenRing.isSorted_ofEntries _
  · have hperm := hr.ring_perm
    rw [peers_removePeer] at hperm
    rw [ring_addPeer, peers_addPeer, ownedTokens_insert, Assoc.erase_eq_self hnew]
    split
    · next hempty => simpa [List.isEmpty_iff.mp hempty] using hperm
    · exact (TokenRing.ofEntries_perm _).trans (hperm.append_right _)
  · intro name keyspace hkeyspace
    rw [keyspace?, keyspaces_addPeer] at hkeyspace
    exact h.keyspace_name name keyspace hkeyspace

theorem peer?_setStatus (s : Snapshot) (address other : IpAddress) (isUp : Bool) :
    (s.setStatus address isUp).peer? other =
      if other = address then (s.peer? address).map (·.withStatus isUp) else s.peer? other := by
  cases hget : s.peer? address with
  | none =>
      simp only [setStatus, hget]
      split
      · next heq => rw [heq, hget, Option.map_none]
      · rfl
  | some peer =>
      simp only [setStatus, hget]
      split
      · next hup =>
          split
          · next heq => rw [heq, hget, Option.map_some, ← hup, Peer.withStatus]
          · rfl
      · rw [peer?, Assoc.get?_insert]
        rfl

theorem setStatus_eq (s : Snapshot) (address : IpAddress) (isUp : Bool) :
    s.setStatus address isUp = { s with peers := (s.setStatus address isUp).peers } := by
  rw [setStatus]
  cases s.peer? address with
  | none => rfl
  | some peer => simp only; split <;> rfl

theorem Indexed.setStatus {s : Snapshot} (h : s.Indexed) (address : IpAddress)
    (isUp : Bool) : (s.setStatus address isUp).Indexed := by
  cases hget : s.peer? address with
  | none => simpa only [Snapshot.setStatus, hget] using h
  | some peer =>
      simp only [Snapshot.setStatus, hget]
      split
      · exact h
      · refine ⟨?_, indexes_replace h.datacenters hget rfl, ?_, h.racks_ne_empty, h.ring_sorted, ?_,
          h.keyspace_name⟩
        · intro other found hfound
          rw [peer?, Assoc.get?_insert] at hfound
          split at hfound
          · next heq =>
              obtain rfl := Option.some.inj hfound
              rw [heq]
              exact h.peer_address address peer hget
          · exact h.peer_address other found hfound
        · intro datacenter
          exact indexes_replace (h.racks datacenter) hget rfl
        · rw [ownedTokens_insert]
          exact (h.ring_perm.trans (ownedTokens_perm hget)).trans List.perm_append_comm

theorem Indexed.setKeyspaces {s : Snapshot} (h : s.Indexed) {keyspaces : Assoc String Keyspace}
    (hname : ∀ name keyspace, keyspaces.get? name = some keyspace → keyspace.name = name) :
    { s with keyspaces }.Indexed :=
  ⟨h.peer_address, h.datacenters, h.racks, h.racks_ne_empty, h.ring_sorted, h.ring_perm, hname⟩

theorem Indexed.insertKeyspace {s : Snapshot} (h : s.Indexed) (keyspace : Keyspace) :
    { s with keyspaces := s.keyspaces.insert keyspace.name keyspace }.Indexed := by
  refine h.setKeyspaces fun name found hfound => ?_
  rw [Assoc.get?_insert] at hfound
  split at hfound
  · next heq =>
      obtain rfl := Option.some.inj hfound
      exact heq.symm
  · exact h.keyspace_name name found hfound

theorem Indexed.putKeyspace {s : Snapshot} (h : s.Indexed) (keyspace : Keyspace) :
    (s.putKeyspace keyspace).Indexed :=
  h.insertKeyspace _

theorem Indexed.removeKeyspace {s : Snapshot} (h : s.Indexed) (name : String) :
    (s.removeKeyspace name).Indexed := by
  refine h.setKeyspaces fun other found hfound => ?_
  rw [Assoc.get?_erase] at hfound
  split at hfound
  · exact absurd hfound (by simp)
  · exact h.keyspace_name other found hfound

theorem Indexed.updateKeyspace {s : Snapshot} (h : s.Indexed) (name : String)
    (change : Keyspace → Keyspace) : (s.updateKeyspace name change).Indexed := by
  rw [Snapshot.updateKeyspace]
  split
  · exact h
  · exact h.insertKeyspace _

theorem Indexed.setClusterInfo {s : Snapshot} (h : s.Indexed) (name : Option String)
    (partitioner : Partitioner) : (s.setClusterInfo name partitioner).Indexed :=
  ⟨h.peer_address, h.datacenters, h.racks, h.racks_ne_empty, h.ring_sorted, h.ring_perm,
    h.keyspace_name⟩

theorem Indexed.apply {s : Snapshot} (h : s.Indexed) (change : SnapshotChange) :
    (s.apply change).Indexed := by
  cases change with
  | setClusterInfo name partitioner => exact h.setClusterInfo name partitioner
  | addPeer peer => exact h.addPeer peer
  | setStatus address isUp => exact h.setStatus address isUp
  | removePeer address => exact h.removePeer address
  | putKeyspace keyspace => exact h.putKeyspace keyspace
  | removeKeyspace name => exact h.removeKeyspace name
  | addTable keyspace table => exact h.updateKeyspace keyspace _
  | removeTable keyspace table => exact h.updateKeyspace keyspace _
  | clear => exact indexed_empty

theorem Indexed.applyAll {s : Snapshot} (h : s.Indexed) (changes : List SnapshotChange) :
    (s.applyAll changes).Indexed := by
  induction changes generalizing s with
  | nil => exact h
  | cons change rest ih => exact ih (h.apply change)

/-- The names of the racks in which a datacenter has peers. -/
def distinctRacks (s : Snapshot) (datacenter : String) : Finset String :=
  ((s.peers.values.filter fun peer => peer.datacenter = some datacenter).map
    Peer.rackName).toFinset

theorem mem_distinctRacks_iff {s : Snapshot} {datacenter rack : String} :
    rack ∈ s.distinctRacks datacenter ↔
      ∃ address peer, s.peer? address = some peer ∧ peer.datacenter = some datacenter ∧
        peer.rackName = rack := by
  simp only [distinctRacks, List.mem_toFinset, List.mem_map, List.mem_filter, decide_eq_true_eq,
    Assoc.mem_values_iff]
  constructor
  · rintro ⟨peer, ⟨⟨address, hpeer⟩, hplace⟩, hrack⟩
    exact ⟨address, peer, hpeer, hplace, hrack⟩
  · rintro ⟨address, peer, hpeer, hplace, hrack⟩
    exact ⟨peer, ⟨⟨address, hpeer⟩, hplace⟩, hrack⟩

theorem filed_rackIn_iff {s : Snapshot} {datacenter rack : String} {address : IpAddress} :
    Filed s.peers (rackIn datacenter) rack address ↔
      ∃ peer, s.peer? address = some peer ∧ peer.datacenter = some datacenter ∧
        peer.rackName = rack := by
  simp [Filed, rackIn, peer?]

theorem listAt_racksOf (s : Snapshot) (datacenter rack : String) :
    (s.racksOf datacenter).listAt rack = s.rackEndpoints datacenter rack := by
  rw [Assoc.listAt, racksOf, rackEndpoints]
  cases s.racks.get? datacenter <;> rfl

theorem Indexed.mem_keys_racksOf {s : Snapshot} (h : s.Indexed) (datacenter rack : String) :
    rack ∈ (s.racksOf datacenter).keys ↔ rack ∈ s.distinctRacks datacenter := by
  have hindex := h.racks datacenter
  rw [Assoc.mem_keys_iff, Option.isSome_iff_exists, mem_distinctRacks_iff]
  constructor
  · rintro ⟨endpoints, hget⟩
    obtain ⟨address, hmem⟩ : ∃ address, address ∈ endpoints := by
      refine List.exists_mem_of_ne_nil endpoints ?_
      rintro rfl
      exact hindex.ne_nil rack hget
    have hfiled := (hindex.mem_iff rack address).mp (by simpa [Assoc.listAt, hget] using hmem)
    exact ⟨address, filed_rackIn_iff.mp hfiled⟩
  · rintro ⟨address, hpeer⟩
    have hlisted := (hindex.mem_iff rack address).mpr (filed_rackIn_iff.mpr hpeer)
    cases hget : (s.racksOf datacenter).get? rack with
    | none => simp [Assoc.listAt, hget] at hlisted
    | some endpoints => exact ⟨endpoints, rfl⟩

theorem Indexed.rackCount_eq_card {s : Snapshot} (h : s.Indexed) (datacenter : String) :
    s.rackCount datacenter = (s.distinctRacks datacenter).card := by
  have hkeys : (s.racksOf datacenter).keys.toFinset = s.distinctRacks datacenter := by
    ext rack
    rw [List.mem_toFinset, h.mem_keys_racksOf]
  have hsize : s.rackCount datacenter = (s.racksOf datacenter).size := by
    rw [rackCount, racksOf]
    cases s.racks.get? datacenter <;> rfl
  rw [hsize, ← hkeys, Assoc.keys, List.toFinset_card_of_nodup (s.racksOf datacenter).nodup_keys,
    Assoc.size, List.length_map]

/-- The view tells the same of its peers, whichever index is asked. -/
structure Consistent (s : Snapshot) : Prop where
  peer_address : ∀ address peer, s.peer? address = some peer → peer.address = address
  datacenter_nodup : ∀ datacenter, (s.datacenterEndpoints datacenter).Nodup
  mem_datacenter_iff : ∀ datacenter address, address ∈ s.datacenterEndpoints datacenter ↔
    ∃ peer, s.peer? address = some peer ∧ peer.datacenter = some datacenter
  rack_nodup : ∀ datacenter rack, (s.rackEndpoints datacenter rack).Nodup
  mem_rack_iff : ∀ datacenter rack address, address ∈ s.rackEndpoints datacenter rack ↔
    ∃ peer, s.peer? address = some peer ∧ peer.datacenter = some datacenter ∧ peer.rackName = rack
  datacenters_ne_nil : ∀ datacenter, s.datacenters.get? datacenter ≠ some []
  racks_ne_nil : ∀ datacenter racks, s.racks.get? datacenter = some racks →
    racks.isEmpty = false ∧ ∀ rack, racks.get? rack ≠ some []
  rackCount_eq_card : ∀ datacenter, s.rackCount datacenter = (s.distinctRacks datacenter).card
  ring_sorted : s.ring.IsSorted
  ring_perm : s.ring.entries.Perm (ownedTokens s.peers)
  keyspace_name : ∀ name keyspace, s.keyspace? name = some keyspace → keyspace.name = name

theorem Indexed.consistent {s : Snapshot} (h : s.Indexed) : s.Consistent where
  peer_address := h.peer_address
  datacenter_nodup := h.datacenters.nodup
  mem_datacenter_iff := h.datacenters.mem_iff
  rack_nodup datacenter rack := by
    rw [← listAt_racksOf]
    exact (h.racks datacenter).nodup rack
  mem_rack_iff datacenter rack address := by
    rw [← listAt_racksOf, (h.racks datacenter).mem_iff, filed_rackIn_iff]
  datacenters_ne_nil := h.datacenters.ne_nil
  racks_ne_nil datacenter racks hracks := by
    refine ⟨h.racks_ne_empty datacenter racks hracks, fun rack => ?_⟩
    have hne := (h.racks datacenter).ne_nil rack
    rwa [racksOf, hracks] at hne
  rackCount_eq_card := h.rackCount_eq_card
  ring_sorted := h.ring_sorted
  ring_perm := h.ring_perm
  keyspace_name := h.keyspace_name

/-- Whatever happens to a directory, its indices agree with the records of its peers, and a change
of status leaves everything as it was but the status in one record. -/
theorem consistent_applyAll_empty :
    (∀ changes : List SnapshotChange, (empty.applyAll changes).Consistent) ∧
      ∀ (s : Snapshot) (address : IpAddress) (isUp : Bool),
        s.setStatus address isUp = { s with peers := (s.setStatus address isUp).peers } ∧
          ∀ other, (s.setStatus address isUp).peer? other =
            if other = address then (s.peer? address).map (·.withStatus isUp)
            else s.peer? other := by
  refine ⟨fun changes => ?_, fun s address isUp => ⟨?_, fun other => ?_⟩⟩
  · exact (indexed_empty.applyAll changes).consistent
  · exact setStatus_eq s address isUp
  · exact peer?_setStatus s address other isUp

end Snapshot

end CqlClient
