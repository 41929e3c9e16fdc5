import CqlClient.Placement.Replicas
import CqlClient.Proofs.Ring.Canonical
import CqlClient.Proofs.Topology.Consistency

namespace CqlClient

/-- Whether two strategies ask for the same, datacenters being listed in any order. -/
inductive Strategy.Agrees : Strategy → Strategy → Prop
  | refl (strategy : Strategy) : Agrees strategy strategy
  | perDatacenter {factors others : Assoc String Nat}
      (get?_eq : ∀ datacenter, factors.get? datacenter = others.get? datacenter) :
      Agrees (.perDatacenter factors) (.perDatacenter others)

namespace Snapshot

/-- Whether two directories have the same records of peers, up to the status. -/
def SamePeers (s t : Snapshot) : Prop :=
  ∀ address, (s.peer? address).map (·.withStatus true) = (t.peer? address).map (·.withStatus true)

/-- What the placement of replicas sees of a directory. -/
structure PlacesLike (s t : Snapshot) : Prop where
  peers : s.SamePeers t
  ring : s.ring = t.ring
  endpoints : ∀ datacenter,
    (s.datacenterEndpoints datacenter).length = (t.datacenterEndpoints datacenter).length
  racks : ∀ datacenter, s.rackCount datacenter = t.rackCount datacenter

variable {s t : Snapshot}

theorem SamePeers.symm (h : s.SamePeers t) : t.SamePeers s := fun address => (h address).symm

theorem samePeers_setStatus (s : Snapshot) (address : IpAddress) (isUp : Bool) :
    s.SamePeers (s.setStatus address isUp) := by
  intro other
  rw [peer?_setStatus]
  split
  · next heq => rw [heq, Option.map_map]; rfl
  · rfl

theorem SamePeers.exists_peer (h : s.SamePeers t) {address : IpAddress} {peer : Peer}
    (hpeer : s.peer? address = some peer) :
    ∃ isUp, t.peer? address = some (peer.withStatus isUp) := by
  have hmap := (h address).symm.trans (congrArg (Option.map _) hpeer)
  obtain ⟨found, hfound, heq⟩ := Option.map_eq_some_iff.mp hmap
  refine ⟨found.isUp, hfound.trans (congrArg some ?_)⟩
  exact congrArg (·.withStatus found.isUp) heq

theorem SamePeers.peer?_eq_none (h : s.SamePeers t) {address : IpAddress}
    (hpeer : s.peer? address = none) : t.peer? address = none :=
  Option.map_eq_none_iff.mp ((h address).symm.trans (congrArg (Option.map _) hpeer))

theorem SamePeers.filed_iff {κ : Type} (h : s.SamePeers t) {keyOf : Peer → Option κ}
    (hstatus : ∀ peer isUp, keyOf (peer.withStatus isUp) = keyOf peer) (key : κ)
    (address : IpAddress) : Filed s.peers keyOf key address ↔ Filed t.peers keyOf key address := by
  have himp : ∀ {s t : Snapshot}, s.SamePeers t → Filed s.peers keyOf key address →
      Filed t.peers keyOf key address := by
    rintro s t h ⟨peer, hpeer, hkey⟩
    obtain ⟨isUp, hfound⟩ := h.exists_peer hpeer
    exact ⟨peer.withStatus isUp, hfound, (hstatus peer isUp).trans hkey⟩
  exact ⟨himp h, himp h.symm⟩

theorem SamePeers.ownedTokens_perm (h : s.SamePeers t) :
    (ownedTokens s.peers).Perm (ownedTokens t.peers) := by
  have howned : ∀ peers : Assoc IpAddress Peer, ownedTokens peers =
      (peers.values.map (·.withStatus true)).flatMap fun peer =>
        peer.tokens.map fun token => (token, peer.address) := fun peers => by
    rw [List.flatMap_map]
    rfl
  rw [howned, howned]
  exact (Assoc.values_map_perm h).flatMap_right _

theorem Indexed.ring_eq (h : s.Indexed)
    (hsorted : (ownedTokens s.peers).Pairwise fun a b => a.1.atMost b.1)
    (hnodup : ((ownedTokens s.peers).map Prod.fst).Nodup) : s.ring = ⟨ownedTokens s.peers⟩ :=
  TokenRing.eq_of_perm h.ring_sorted hsorted ((h.ring_perm.map Prod.fst).nodup_iff.mpr hnodup)
    h.ring_perm

theorem SamePeers.rackCount_eq (h : s.SamePeers t) (hs : s.Indexed) (ht : t.Indexed)
    (datacenter : String) : s.rackCount datacenter = t.rackCount datacenter := by
  rw [hs.rackCount_eq_card, ht.rackCount_eq_card]
  congr 1
  ext rack
  simp only [mem_distinctRacks_iff, ← filed_rackIn_iff]
  exact exists_congr (h.filed_iff (fun _ _ => rfl) rack)

theorem SamePeers.length_datacenterEndpoints (h : s.SamePeers t) (hs : s.Indexed) (ht : t.Indexed)
    (datacenter : String) :
    (s.datacenterEndpoints datacenter).length = (t.datacenterEndpoints datacenter).length := by
  refine List.Perm.length_eq ((List.perm_ext_iff_of_nodup (hs.datacenters.nodup datacenter)
    (ht.datacenters.nodup datacenter)).mpr fun address => ?_)
  rw [hs.datacenters.mem_iff, ht.datacenters.mem_iff]
  exact h.filed_iff (fun _ _ => rfl) datacenter address

/-- Consistent directories with the same peers place replicas alike if no token stands twice in the
ring. -/
theorem SamePeers.placesLike (h : s.SamePeers t) (hs : s.Indexed) (ht : t.Indexed)
    (hring : (s.ring.entries.map Prod.fst).Nodup) : s.PlacesLike t where
  peers := h
  ring := TokenRing.eq_of_perm hs.ring_sorted ht.ring_sorted hring
    (hs.ring_perm.trans (h.ownedTokens_perm.trans ht.ring_perm.symm))
  endpoints := h.length_datacenterEndpoints hs ht
  racks := h.rackCount_eq hs ht

theorem SamePeers.placement_eq (h : s.SamePeers t) (address : IpAddress) :
    s.placement address = t.placement address := by
  rw [placement, placement]
  cases hs : s.peer? address with
  | some peer =>
      obtain ⟨isUp, ht⟩ := h.exists_peer hs
      rw [ht]
      rfl
  | none =>
      rw [h.peer?_eq_none hs]

end Snapshot

variable {s t : Snapshot}

theorem acrossReplicas_eq (h : s.SamePeers t) (count : Nat) (walk : List IpAddress) :
    acrossReplicas s count walk = acrossReplicas t count walk := by
  have hstep : ∀ home, Across.step s count home = Across.step t count home := by
    intro home
    funext across endpoint
    rw [Across.step, Across.step, h.placement_eq]
  unfold acrossReplicas
  split
  · rfl
  · cases walk with
    | nil => rfl
    | cons owner rest =>
        dsimp only
        rw [hstep, h.placement_eq]

namespace Spread

/-- Whether as much was taken in two walks: the same replicas, and of each datacenter as many, in
whatever order the datacenters are listed. -/
structure Agrees (spread other : Spread) : Prop where
  quotas : ∀ datacenter, spread.quotas.get? datacenter = other.quotas.get? datacenter
  unmet : spread.unmet = other.unmet
  replicas : spread.replicas = other.replicas

theorem ofDatacenter_eq (h : s.PlacesLike t) : Quota.ofDatacenter s = Quota.ofDatacenter t := by
  funext datacenter factor
  rw [Quota.ofDatacenter, Quota.ofDatacenter, h.endpoints, h.racks]

theorem agrees_start (h : s.PlacesLike t) {factors others : Assoc String Nat}
    (hfactors : ∀ datacenter, factors.get? datacenter = others.get? datacenter) :
    (start s factors).Agrees (start t others) where
  quotas datacenter := by
    rw [start, start, Assoc.get?_ofList_map, Assoc.get?_ofList_map, hfactors, ofDatacenter_eq h]
  unmet := by
    rw [start, start, ofDatacenter_eq h]
    exact (((Assoc.entries_perm hfactors).map _).filter _).length_eq
  replicas := rfl

theorem agrees_step {spread other : Spread} (hspread : spread.Agrees other) (h : s.SamePeers t)
    (endpoint : IpAddress) : (spread.step s endpoint).Agrees (other.step t endpoint) := by
  rw [step, step, hspread.unmet, hspread.replicas]
  split
  · exact hspread
  · cases hs : s.peer? endpoint with
    | none =>
        rw [h.peer?_eq_none hs]
        exact hspread
    | some peer =>
        obtain ⟨isUp, ht⟩ := h.exists_peer hs
        rw [ht]
        dsimp only [Peer.withStatus]
        cases peer.datacenter with
        | none => exact hspread
        | some datacenter =>
            dsimp only
            rw [hspread.quotas]
            cases other.quotas.get? datacenter with
            | none => exact hspread
            | some quota =>
                dsimp only
                split
                · exact hspread
                · refine ⟨fun place => ?_, rfl, rfl⟩
                  rw [Assoc.get?_insert, Assoc.get?_insert, hspread.quotas]
                  rfl

theorem agrees_walk {spread other : Spread} (hspread : spread.Agrees other) (h : s.SamePeers t)
    (endpoints : List IpAddress) :
    (endpoints.foldl (step s) spread).Agrees (endpoints.foldl (step t) other) := by
  induction endpoints generalizing spread other with
  | nil => exact hspread
  | cons endpoint rest ih => exact ih (agrees_step hspread h endpoint)

end Spread

theorem spreadReplicas_eq (h : s.PlacesLike t) {factors others : Assoc String Nat}
    (hfactors : ∀ datacenter, factors.get? datacenter = others.get? datacenter)
    (walk : List IpAddress) : spreadReplicas s factors walk = spreadReplicas t others walk :=
  (Spread.agrees_walk (Spread.agrees_start h hfactors) h.peers walk).replicas

theorem Strategy.replicas_eq (h : s.PlacesLike t) {strategy other : Strategy}
    (hagrees : strategy.Agrees other) (token : Token) :
    strategy.replicas s token = other.replicas t token := by
  unfold replicas
  rw [h.ring]
  cases hagrees with
  | refl =>
      cases strategy with
      | simple count => rfl
      | perDatacenter factors => exact spreadReplicas_eq h (fun _ => rfl) _
      | acrossDatacenters count => exact acrossReplicas_eq h.peers count _
      | single => rfl
      | other className options => rfl
  | perDatacenter hfactors => exact spreadReplicas_eq h hfactors _

namespace Snapshot

/-- Two histories of a directory that end with the same peers give the same ring and the same
replicas, if no token stands twice in the ring. -/
theorem placement_applyAll {changes others : List SnapshotChange}
    (hpeers : (empty.applyAll changes).SamePeers (empty.applyAll others))
    (hring : ((empty.applyAll changes).ring.entries.map Prod.fst).Nodup) :
    (empty.applyAll changes).ring = (empty.applyAll others).ring ∧
      ∀ strategy other : Strategy, strategy.Agrees other → ∀ token,
        strategy.replicas (empty.applyAll changes) token =
          other.replicas (empty.applyAll others) token := by
  have h := hpeers.placesLike (indexed_empty.applyAll changes) (indexed_empty.applyAll others) hring
  exact ⟨h.ring, fun strategy other hagrees token => Strategy.replicas_eq h hagrees token⟩

section TwoHistories

def nodeOfDc1 : Peer :=
  { address := .ofOctets 10 0 0 1, datacenter := some "dc1", tokens := [.murmur3 7, .murmur3 (-3)] }

def nodeOfDc2 : Peer :=
  { address := .ofOctets 10 0 0 2, datacenter := some "dc2", tokens := [.murmur3 0] }

def direct : List SnapshotChange := [.addPeer nodeOfDc1, .addPeer nodeOfDc2]

/-- The second node comes first, is moved, and goes down at last, and a third one is there for a
while. -/
def roundabout : List SnapshotChange :=
  [.addPeer { nodeOfDc2 with datacenter := some "dc1", tokens := [.murmur3 7] },
    .addPeer { nodeOfDc1 with address := .ofOctets 10 0 0 3 }, .addPeer nodeOfDc1,
    .removePeer (.ofOctets 10 0 0 3), .addPeer nodeOfDc2, .setStatus (.ofOctets 10 0 0 2) false]

theorem samePeers_roundabout :
    (empty.applyAll direct).SamePeers (empty.applyAll roundabout) := by
  have hpeers : (empty.applyAll direct).peers = (empty.applyAll roundabout.dropLast).peers := rfl
  intro address
  rw [peer?, hpeers]
  exact samePeers_setStatus (empty.applyAll roundabout.dropLast) (.ofOctets 10 0 0 2) false address

theorem nodup_tokens_direct : ((empty.applyAll direct).ring.entries.map Prod.fst).Nodup := by
  have hperm := (indexed_empty.applyAll direct).ring_perm.map Prod.fst
  exact hperm.nodup_iff.mpr (by decide)

theorem placement_applyAll_roundabout :
    (empty.applyAll direct).SamePeers (empty.applyAll roundabout) ∧
      ((empty.applyAll direct).ring.entries.map Prod.fst).Nodup ∧
      (empty.applyAll direct).ring = (empty.applyAll roundabout).ring ∧
      ∀ token, (Strategy.simple 2).replicas (empty.applyAll direct) token =
        (Strategy.simple 2).replicas (empty.applyAll roundabout) token := by
  obtain ⟨hring, hreplicas⟩ := placement_applyAll samePeers_roundabout nodup_tokens_direct
  exact ⟨samePeers_roundabout, nodup_tokens_direct, hring, hreplicas _ _ (.refl _)⟩

end TwoHistories

end Snapshot

end CqlClient
