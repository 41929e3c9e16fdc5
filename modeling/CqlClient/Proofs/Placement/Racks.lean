import CqlClient.Proofs.Placement.Spread

namespace CqlClient

namespace Quota

variable {rackOf : IpAddress → String} {quota : Quota} {seen taken : List IpAddress}
  {endpoint : IpAddress} {racks : Finset String}

/-- Every rack that a quota has seen holds one of the nodes taken. -/
def Holds (rackOf : IpAddress → String) (quota : Quota) (taken : List IpAddress) : Prop :=
  ∀ rack ∈ quota.seenRacks, ∃ address ∈ taken, rackOf address = rack

theorem Holds.mono (h : quota.Holds rackOf seen) (hsub : seen ⊆ taken) :
    quota.Holds rackOf taken := by
  intro rack hrack
  obtain ⟨address, haddress, heq⟩ := h rack hrack
  exact ⟨address, hsub haddress, heq⟩

theorem mem_seenRacks_offer {rack other : String}
    (h : other ∈ (quota.offer rack endpoint).1.seenRacks) :
    other ∈ quota.seenRacks ∨ other = rack ∧ endpoint ∈ (quota.offer rack endpoint).2 := by
  simp only [offer] at h ⊢
  split_ifs at h ⊢
  · exact .inl h
  · exact .inl h
  · exact .inl h
  · exact (List.mem_append.mp h).imp_right fun hlast => ⟨List.mem_singleton.mp hlast, by simp⟩
  · exact (List.mem_append.mp h).imp_right fun hlast => ⟨List.mem_singleton.mp hlast, by simp⟩

theorem Filled.card_racks_taken_le (h : quota.Filled rackOf seen taken)
    (hracks : ∀ rack, rack ∈ racks ↔ ∃ address ∈ seen, rackOf address = rack) :
    (taken.map rackOf).toFinset.card ≤ min quota.wanted racks.card := by
  refine Nat.le_min.mpr ⟨?_, Finset.card_le_card fun rack hrack => ?_⟩
  · calc (taken.map rackOf).toFinset.card
      _ ≤ (taken.map rackOf).length := List.toFinset_card_le _
      _ = quota.found := by rw [List.length_map, h.found_eq]
      _ ≤ quota.wanted := h.found_le
  · obtain ⟨address, haddress, rfl⟩ := List.mem_map.mp (List.mem_toFinset.mp hrack)
    exact (hracks _).mpr ⟨address, h.met address (List.mem_append_left _ haddress), rfl⟩

theorem Filled.length_seenRacks_le_card (h : quota.Filled rackOf seen taken)
    (hholds : quota.Holds rackOf taken) :
    quota.seenRacks.length ≤ (taken.map rackOf).toFinset.card := by
  rw [← List.toFinset_card_of_nodup h.racks_nodup]
  refine Finset.card_le_card fun rack hrack => List.mem_toFinset.mpr ?_
  exact List.mem_map.mpr (hholds rack (List.mem_toFinset.mp hrack))

/-- The nodes taken lie on as many racks as are wanted, or else on every rack that has nodes. -/
theorem Filled.card_racks_taken (h : quota.Filled rackOf seen taken)
    (hholds : quota.Holds rackOf taken)
    (hracks : ∀ rack, rack ∈ racks ↔ ∃ address ∈ seen, rackOf address = rack)
    (hcount : racks.card ≤ quota.rackCount) :
    (taken.map rackOf).toFinset.card = min quota.wanted racks.card := by
  have hle := h.card_racks_taken_le hracks
  have hseen := h.length_seenRacks_le_card hholds
  refine le_antisymm hle ?_
  by_cases hall : quota.seenRacks.length = quota.rackCount
  · omega
  · -- While a rack has no replica, each replica is on a rack of its own.
    have hfound := (h.spread hall).1
    cases hmet : quota.isMet with
    | true =>
        have hmet : quota.wanted ≤ quota.found := of_decide_eq_true hmet
        omega
    | false =>
        have := h.card_racks_le hracks hmet hall
        omega

end Quota

namespace Spread

variable {s : Snapshot} {spread : Spread} {endpoint : IpAddress}

/-- In each datacenter that replicas are asked of, every rack seen holds a replica. -/
def Holds (s : Snapshot) (spread : Spread) : Prop :=
  ∀ datacenter quota, spread.quotas.get? datacenter = some quota →
    quota.Holds s.rackOf (spread.replicas.filter (s.isIn datacenter))

theorem holds_start (s : Snapshot) (factors : Assoc String Nat) : (start s factors).Holds s := by
  intro datacenter quota hquota
  rw [start, Assoc.get?_ofList_map factors (Quota.ofDatacenter s)] at hquota
  obtain ⟨factor, -, rfl⟩ := Option.map_eq_some_iff.mp hquota
  exact fun rack hrack => absurd hrack List.not_mem_nil

theorem step_eq_or (s : Snapshot) (spread : Spread) (endpoint : IpAddress) :
    step s spread endpoint = spread ∨
      ∃ datacenter quota, s.isIn datacenter endpoint = true ∧
        spread.quotas.get? datacenter = some quota ∧
        step s spread endpoint =
          spread.accept datacenter (quota.offer (s.rackOf endpoint) endpoint) := by
  by_cases hopen : spread.unmet = 0
  · exact .inl (if_pos (.inl hopen))
  · rcases wanted_or_unwanted s spread endpoint with
      ⟨datacenter, quota, hin, hquota, hmet, hnew⟩ | hidle
    · exact .inr ⟨datacenter, quota, hin, hquota, step_of_wanted hin hquota hmet hnew hopen⟩
    · exact .inl (step_of_unwanted hidle)

theorem Holds.step (h : spread.Holds s) (endpoint : IpAddress) :
    (Spread.step s spread endpoint).Holds s := by
  rcases step_eq_or s spread endpoint with hsame | ⟨home, quota, hin, hquota, hstep⟩
  · rwa [hsame]
  · rw [hstep]
    intro datacenter found hfound
    rw [get?_accept] at hfound
    rw [replicas_accept, List.filter_append]
    split at hfound
    · next heq =>
        subst heq
        obtain rfl := Option.some.inj hfound
        intro rack hrack
        -- The node offered is the only one whose rack becomes seen, and it is of this datacenter.
        rcases Quota.mem_seenRacks_offer hrack with hold | ⟨rfl, htaken⟩
        · exact (h datacenter quota hquota).mono (List.subset_append_left _ _) rack hold
        · exact ⟨endpoint, List.mem_append_right _ (List.mem_filter.mpr ⟨htaken, hin⟩), rfl⟩
    · exact (h datacenter found hfound).mono (List.subset_append_left _ _)

theorem Holds.walk (h : spread.Holds s) (endpoints : List IpAddress) :
    (endpoints.foldl (Spread.step s) spread).Holds s := by
  induction endpoints generalizing spread with
  | nil => exact h
  | cons endpoint rest ih => exact ih (h.step endpoint)

end Spread

namespace Snapshot

variable {s : Snapshot} {factors : Assoc String Nat} {datacenter : String} {factor : Nat}

theorem Consistent.card_racks_replicas (h : s.Consistent) (token : Token)
    (hfactor : factors.get? datacenter = some factor) :
    ((((Strategy.perDatacenter factors).replicas s token).filter (s.isIn datacenter)).map
        s.rackOf).toFinset.card =
      min factor (s.owningRacks datacenter).card := by
  have hsound := (Spread.sound_start s factors).walk (s.ring.owners token)
  have hholds := (Spread.holds_start s factors).walk (s.ring.owners token)
  have hasked := hsound.asked datacenter
  rw [hfactor, Option.map_some, Option.map_eq_some_iff] at hasked
  obtain ⟨quota, hquota, hsizes⟩ := hasked
  obtain ⟨hwanted, hrackCount⟩ := Prod.mk.inj hsizes
  have hracks : (s.owningRacks datacenter).card ≤ quota.rackCount := by
    rw [hrackCount, h.rackCount_eq_card]
    exact Finset.card_le_card (h.owningRacks_subset datacenter)
  have htaken := (hsound.filled datacenter quota hquota).card_racks_taken
    (hholds datacenter quota hquota) (h.mem_owningRacks_iff token datacenter) hracks
  have howners := h.card_owners_le datacenter
  have hle : (s.owningRacks datacenter).card ≤ (s.owners datacenter).card := Finset.card_image_le
  rw [hwanted] at htaken
  refine htaken.trans ?_
  omega

/-- Of every view that changes lead to, the replicas of a token have no repeats, and those of a
datacenter are no more than asked of it and lie on as many racks as they can. -/
theorem spreads_replicas_applyAll (changes : List SnapshotChange) (factors : Assoc String Nat)
    (token : Token) :
    let s := empty.applyAll changes
    let replicas := (Strategy.perDatacenter factors).replicas s token
    replicas.Nodup ∧
      ∀ datacenter factor, factors.get? datacenter = some factor →
        replicas.countP (s.isIn datacenter) ≤ factor ∧
          ((replicas.filter (s.isIn datacenter)).map s.rackOf).toFinset.card =
            min factor (s.owningRacks datacenter).card := by
  intro s replicas
  have hconsistent : s.Consistent := (indexed_empty.applyAll changes).consistent
  refine ⟨((Spread.sound_start s factors).walk (s.ring.owners token)).nodup, ?_⟩
  intro datacenter factor hfactor
  refine ⟨?_, hconsistent.card_racks_replicas token hfactor⟩
  rw [hconsistent.countP_replicas token hfactor]
  exact Nat.min_le_left _ _

/-- Three nodes own tokens, two of them on one rack; the only node of a third rack is joining. -/
def crowded : List SnapshotChange :=
  joining ++
    [.addPeer
      { address := .ofOctets 10 0 0 4, datacenter := some "dc1", rack := some "r3",
        tokens := [.murmur3 30] }]

theorem spreads_replicas_applyAll_crowded :
    let s := empty.applyAll crowded
    let factors := Assoc.empty.insert "dc1" 3
    let replicas := (Strategy.perDatacenter factors).replicas s (.murmur3 0)
    factors.get? "dc1" = some 3 ∧ (s.owningRacks "dc1").card = 2 ∧
      replicas.countP (s.isIn "dc1") ≤ 3 ∧
      ((replicas.filter (s.isIn "dc1")).map s.rackOf).toFinset.card = 2 := by
  intro s factors replicas
  have hracks : (s.owningRacks "dc1").card = 2 := by decide +kernel
  obtain ⟨hle, hcard⟩ := (spreads_replicas_applyAll crowded factors (.murmur3 0)).2 "dc1" 3 rfl
  refine ⟨rfl, hracks, hle, hcard.trans ?_⟩
  rw [hracks]
  rfl

end Snapshot

end CqlClient
