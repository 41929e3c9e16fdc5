import CqlClient.Proofs.Placement.Across
import CqlClient.Proofs.Placement.Independence

namespace CqlClient

theorem fillUp_nil (count : Nat) (walk : List IpAddress) :
    fillUp count [] walk = firstDistinct count walk := by
  simp [fillUp_eq, firstDistinct]

theorem fillUp_cons {count : Nat} (hcount : count ≠ 0) (first : IpAddress)
    (rest : List IpAddress) : fillUp count [] (first :: rest) = fillUp count [first] rest := by
  simp [fillUp, hcount]

theorem length_eraseDups (walk : List IpAddress) : walk.eraseDups.length = walk.toFinset.card := by
  have heq : walk.eraseDups.toFinset = walk.toFinset := by
    ext address
    simp [List.mem_eraseDups]
  rw [← heq, List.toFinset_card_of_nodup (nodup_eraseDups walk)]

theorem firstDistinct_min {count limit : Nat} {walk : List IpAddress}
    (h : walk.toFinset.card ≤ limit) :
    firstDistinct (min count limit) walk = firstDistinct count walk := by
  rw [firstDistinct, firstDistinct, List.take_eq_take_iff, length_eraseDups]
  omega

section Nearby

variable {s : Snapshot} {count : Nat} {walk : List IpAddress}

theorem foldl_across_of_same {home : Option String × String} {across : Across}
    (h : ∀ address ∈ walk, s.placement address = home) :
    walk.foldl (Across.step s count home) across = across := by
  induction walk with
  | nil => rfl
  | cons endpoint rest ih =>
      have hsame : across.step s count home endpoint = across := by
        simp [Across.step, h endpoint List.mem_cons_self]
      rw [List.foldl_cons, hsame]
      exact ih fun address haddress => h address (List.mem_cons_of_mem _ haddress)

theorem acrossReplicas_of_same {home : Option String × String}
    (h : ∀ address ∈ walk, s.placement address = home) :
    acrossReplicas s count walk = firstDistinct count walk := by
  rw [← fillUp_nil]
  by_cases hcount : count = 0
  · simp [acrossReplicas, hcount, fillUp_eq]
  · cases walk with
    | nil => simp [acrossReplicas, fillUp]
    | cons owner rest =>
        have hrest : ∀ address ∈ rest, s.placement address = s.placement owner := by
          intro address haddress
          rw [h address (List.mem_cons_of_mem _ haddress), h owner List.mem_cons_self]
        rw [acrossReplicas, if_neg hcount, fillUp_cons hcount]
        dsimp only
        rw [foldl_across_of_same hrest, fillUp, List.foldl_cons, if_pos (.inr (by simp)), ← fillUp]

end Nearby

namespace Quota

variable {rackOf : IpAddress → String} {quota : Quota} {taken : List IpAddress}

theorem foldl_meet_of_allSeen (hall : quota.seenRacks.length = quota.rackCount)
    (hfound : quota.found = taken.length) (walk : List IpAddress) :
    (walk.foldl (meet rackOf) (quota, taken)).2 = fillUp quota.wanted taken walk := by
  induction walk generalizing quota taken with
  | nil => rfl
  | cons endpoint rest ih =>
      have hmet : quota.isMet = true ↔ quota.wanted ≤ taken.length := by
        rw [isMet, decide_eq_true_eq, hfound]
      rw [List.foldl_cons, fillUp, List.foldl_cons, ← fillUp]
      by_cases hidle : quota.wanted ≤ taken.length ∨ endpoint ∈ taken
      · have hsame : meet rackOf (quota, taken) endpoint = (quota, taken) :=
          if_pos (hidle.imp_left hmet.mpr)
        rw [hsame, if_pos hidle]
        exact ih hall hfound
      · have htaken : meet rackOf (quota, taken) endpoint =
            ({ quota with found := quota.found + 1 }, taken ++ [endpoint]) := by
          rw [meet, if_neg (mt (Or.imp_left hmet.mp) hidle), offer, if_pos hall]
        rw [htaken, if_neg hidle]
        exact ih hall (by simp [hfound])

theorem foldl_meet_of_oneRack (hrack : quota.rackCount = 1) (hseen : quota.seenRacks = [])
    (hskipped : quota.skipped = []) (hfound : quota.found = 0) (walk : List IpAddress) :
    (walk.foldl (meet rackOf) (quota, [])).2 = fillUp quota.wanted [] walk := by
  induction walk with
  | nil => rfl
  | cons first rest ih =>
      by_cases hwanted : quota.wanted = 0
      · have hmet : quota.isMet = true := by simp [isMet, hwanted]
        have hsame : meet rackOf (quota, []) first = (quota, []) := if_pos (.inl hmet)
        rw [List.foldl_cons, hsame, ih, hwanted, fillUp_nil, fillUp_nil]
        rfl
      · have hunmet : quota.isMet = false := isMet_eq_false_iff.mpr (by omega)
        have htaken : meet rackOf (quota, []) first =
            ({ quota with found := 1, seenRacks := [rackOf first] }, [first]) := by
          simp [meet, offer, hunmet, hrack, hseen, hskipped, hfound]
        rw [List.foldl_cons, htaken, fillUp_cons hwanted]
        refine foldl_meet_of_allSeen ?_ rfl rest
        exact hrack.symm

end Quota

namespace Snapshot

variable {s : Snapshot} {datacenter rack : String}

/-- Whether every peer is on one rack of one datacenter. -/
def IsOnOneRack (s : Snapshot) (datacenter rack : String) : Prop :=
  ∀ address peer, s.peer? address = some peer →
    peer.datacenter = some datacenter ∧ peer.rackName = rack

theorem IsOnOneRack.placement_eq (h : s.IsOnOneRack datacenter rack) (hs : s.Consistent)
    {token : Token} {address : IpAddress} (haddress : address ∈ s.ring.owners token) :
    s.placement address = (some datacenter, rack) := by
  obtain ⟨peer, hpeer, -⟩ := (hs.mem_walk_iff token address).mp haddress
  obtain ⟨hdatacenter, hrack⟩ := h address peer hpeer
  simp [placement, hpeer, hdatacenter, hrack]

theorem IsOnOneRack.rackCount_eq_one (h : s.IsOnOneRack datacenter rack) (hs : s.Consistent)
    {address : IpAddress} {peer : Peer} (hpeer : s.peer? address = some peer) :
    s.rackCount datacenter = 1 := by
  obtain ⟨hdatacenter, hrack⟩ := h address peer hpeer
  have hracks : s.distinctRacks datacenter = {rack} := by
    ext other
    rw [mem_distinctRacks_iff, Finset.mem_singleton]
    constructor
    · rintro ⟨found, record, hfound, -, rfl⟩
      exact (h found record hfound).2
    · rintro rfl
      exact ⟨address, peer, hpeer, hdatacenter, hrack⟩
  rw [hs.rackCount_eq_card, hracks, Finset.card_singleton]

theorem IsOnOneRack.card_walk_le (h : s.IsOnOneRack datacenter rack) (hs : s.Consistent)
    (token : Token) :
    (s.ring.owners token).toFinset.card ≤ (s.datacenterEndpoints datacenter).length := by
  refine (Finset.card_le_card fun address haddress => ?_).trans
    (List.toFinset_card_le (s.datacenterEndpoints datacenter))
  obtain ⟨peer, hpeer, -⟩ := (hs.mem_walk_iff token address).mp (List.mem_toFinset.mp haddress)
  exact List.mem_toFinset.mpr
    ((hs.mem_datacenter_iff datacenter address).mpr ⟨peer, hpeer, (h address peer hpeer).1⟩)

theorem IsOnOneRack.spreadReplicas_eq (h : s.IsOnOneRack datacenter rack) (hs : s.Consistent)
    (count : Nat) (token : Token) :
    spreadReplicas s (Assoc.empty.insert datacenter count) (s.ring.owners token) =
      firstDistinct count (s.ring.owners token) := by
  have hin : ∀ address ∈ s.ring.owners token, s.isIn datacenter address = true := by
    intro address haddress
    exact decide_eq_true (congrArg Prod.fst (h.placement_eq hs haddress))
  rw [spreadReplicas_single, List.filter_eq_self.mpr hin]
  have hcard := h.card_walk_le hs token
  cases hwalk : s.ring.owners token with
  | nil => simp [firstDistinct]
  | cons first rest =>
      have hfirst : first ∈ s.ring.owners token := by simp [hwalk]
      obtain ⟨peer, hpeer, -⟩ := (hs.mem_walk_iff token first).mp hfirst
      rw [hwalk] at hcard
      rw [Quota.foldl_meet_of_oneRack (h.rackCount_eq_one hs hpeer) rfl rfl rfl, fillUp_nil]
      exact firstDistinct_min hcard

/-- Of every view that changes lead to with all peers on one rack of one datacenter, the strategies
place the replicas of a token alike: on the nodes met first, each once, as many as are asked for or
as own tokens. -/
theorem coincide_replicas {changes : List SnapshotChange} {datacenter rack : String}
    (h : (empty.applyAll changes).IsOnOneRack datacenter rack) (count : Nat) (token : Token) :
    let s := empty.applyAll changes
    let nearest := (s.ring.owners token).eraseDups.take (min count s.ring.ownerSet.card)
    (Strategy.simple count).replicas s token = nearest ∧
      (Strategy.acrossDatacenters count).replicas s token = nearest ∧
      (Strategy.perDatacenter (Assoc.empty.insert datacenter count)).replicas s token = nearest ∧
      nearest.length = min count s.ring.ownerSet.card := by
  intro s nearest
  have hconsistent : s.Consistent := (indexed_empty.applyAll changes).consistent
  have hcard := congrArg Finset.card (s.ring.toFinset_owners token)
  have hnearest : firstDistinct count (s.ring.owners token) = nearest :=
    (firstDistinct_min hcard.le).symm
  refine ⟨hnearest, ?_, ?_, ?_⟩
  · rw [← hnearest]
    exact acrossReplicas_of_same fun _ => h.placement_eq hconsistent
  · rw [← hnearest]
    exact h.spreadReplicas_eq hconsistent count token
  · rw [List.length_take, length_eraseDups, hcard]
    omega

/-- Two nodes with two tokens each, and one that is still joining. -/
def oneRack : List SnapshotChange :=
  let peer : Peer := { address := .ofOctets 10 0 0 1, datacenter := some "dc1", rack := some "r1" }
  [.addPeer { peer with tokens := [.murmur3 10, .murmur3 20] },
    .addPeer { peer with address := .ofOctets 10 0 0 2, tokens := [.murmur3 30, .murmur3 40] },
    .addPeer { peer with address := .ofOctets 10 0 0 3 }]

theorem coincide_replicas_oneRack :
    let s := empty.applyAll oneRack
    let nearest : List IpAddress := [.ofOctets 10 0 0 2, .ofOctets 10 0 0 1]
    s.IsOnOneRack "dc1" "r1" ∧ (Strategy.simple 3).replicas s (.murmur3 35) = nearest ∧
      (Strategy.acrossDatacenters 3).replicas s (.murmur3 35) = nearest ∧
      (Strategy.perDatacenter (Assoc.empty.insert "dc1" 3)).replicas s (.murmur3 35) = nearest := by
  intro s nearest
  have hpeers : ∀ peer ∈ (empty.applyAll oneRack).peers.values,
      peer.datacenter = some "dc1" ∧ peer.rackName = "r1" := by
    decide
  have hrack : s.IsOnOneRack "dc1" "r1" := by
    intro address peer hpeer
    exact hpeers peer (Assoc.mem_values_iff.mpr ⟨address, hpeer⟩)
  have hring : (empty.applyAll oneRack).ring = ⟨ownedTokens (empty.applyAll oneRack).peers⟩ :=
    (indexed_empty.applyAll oneRack).ring_eq (by decide) (by decide)
  have hsimple : (Strategy.simple 3).replicas s (.murmur3 35) = nearest := by
    show firstDistinct 3 ((empty.applyAll oneRack).ring.owners (.murmur3 35)) = _
    rw [hring]
    rfl
  obtain ⟨hnearest, hacross, hper, -⟩ := coincide_replicas hrack 3 (.murmur3 35)
  exact ⟨hrack, hsimple, hacross.trans (hnearest.symm.trans hsimple),
    hper.trans (hnearest.symm.trans hsimple)⟩

end Snapshot

end CqlClient
