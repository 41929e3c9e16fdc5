import CqlClient.Placement.Replicas
import CqlClient.Proofs.Topology.Consistency
import Mathlib.Data.Finset.Card

/-!
How many replicas each datacenter gets when replicas are chosen by datacenter. Nodes passed over for
the sake of a new rack are taken only when every rack of the datacenter holds a replica, which never
happens while a rack has only nodes without tokens.
-/

namespace CqlClient

theorem foldl_seen {α σ : Type} {step : σ → α → σ} {motive : σ → List α → Prop}
    (hstep : ∀ state seen next, motive state seen → motive (step state next) (seen ++ [next]))
    {state : σ} {seen : List α} (h : motive state seen) (rest : List α) :
    motive (rest.foldl step state) (seen ++ rest) := by
  induction rest generalizing state seen with
  | nil => rwa [List.append_nil]
  | cons next rest ih =>
      rw [List.append_cons]
      exact ih (hstep state seen next h)

namespace Quota

variable {rackOf : IpAddress → String} {quota : Quota} {seen taken : List IpAddress}
  {endpoint : IpAddress}

/-- What a quota knows after some nodes of its datacenter were met and some of these were taken. -/
structure Filled (rackOf : IpAddress → String) (quota : Quota) (seen taken : List IpAddress) :
    Prop where
  found_eq : quota.found = taken.length
  found_le : quota.found ≤ quota.wanted
  nodup : (taken ++ quota.skipped).Nodup
  met : ∀ address ∈ taken ++ quota.skipped, address ∈ seen
  covered : quota.isMet = false → ∀ address ∈ seen, address ∈ taken ++ quota.skipped
  racks_nodup : quota.seenRacks.Nodup
  racks_met : ∀ rack ∈ quota.seenRacks, ∃ address ∈ seen, rackOf address = rack
  spread : quota.seenRacks.length ≠ quota.rackCount →
    quota.found = quota.seenRacks.length ∧
      ∀ address ∈ taken ++ quota.skipped, rackOf address ∈ quota.seenRacks
  released : quota.seenRacks.length = quota.rackCount → quota.isMet = false → quota.skipped = []

theorem filled_ofDatacenter (rackOf : IpAddress → String) (s : Snapshot) (datacenter : String)
    (factor : Nat) : (ofDatacenter s datacenter factor).Filled rackOf [] [] where
  found_eq := rfl
  found_le := Nat.zero_le _
  nodup := List.nodup_nil
  met := by simp [ofDatacenter]
  covered := by simp
  racks_nodup := List.nodup_nil
  racks_met := by simp [ofDatacenter]
  spread := by simp [ofDatacenter]
  released _ _ := rfl

theorem isMet_eq_false_iff : quota.isMet = false ↔ quota.found < quota.wanted := by
  rw [isMet, decide_eq_false_iff_not, Nat.not_le]

theorem Filled.exists_met (h : quota.Filled rackOf seen taken) {rack : String}
    (hrack : rack ∈ quota.seenRacks ++ [rackOf endpoint]) :
    ∃ address ∈ seen ++ [endpoint], rackOf address = rack := by
  rcases List.mem_append.mp hrack with hseen | hlast
  · obtain ⟨address, haddress, heq⟩ := h.racks_met rack hseen
    exact ⟨address, List.mem_append_left _ haddress, heq⟩
  · obtain rfl : rack = rackOf endpoint := by simpa using hlast
    exact ⟨endpoint, by simp, rfl⟩

theorem Filled.nodup_racks (h : quota.Filled rackOf seen taken) {rack : String}
    (hrack : rack ∉ quota.seenRacks) : (quota.seenRacks ++ [rack]).Nodup := by
  rw [← List.concat_eq_append]
  exact h.racks_nodup.concat hrack

theorem Filled.idle (h : quota.Filled rackOf seen taken)
    (hidle : quota.isMet = true ∨ endpoint ∈ taken ++ quota.skipped) :
    quota.Filled rackOf (seen ++ [endpoint]) taken where
  found_eq := h.found_eq
  found_le := h.found_le
  nodup := h.nodup
  met address haddress := List.mem_append_left _ (h.met address haddress)
  covered hunmet address haddress := by
    rcases List.mem_append.mp haddress with hseen | hlast
    · exact h.covered hunmet address hseen
    · obtain rfl : address = endpoint := by simpa using hlast
      rcases hidle with hmet | hknown
      · rw [hmet] at hunmet
        exact absurd hunmet (by simp)
      · exact hknown
  racks_nodup := h.racks_nodup
  racks_met rack hrack := h.exists_met (List.mem_append_left _ hrack)
  spread := h.spread
  released := h.released

theorem Filled.extend (h : quota.Filled rackOf seen taken) (hunmet : quota.isMet = false)
    (hnew : endpoint ∉ taken ++ quota.skipped) (known : List IpAddress)
    (hperm : known.Perm (taken ++ endpoint :: quota.skipped)) :
    known.Nodup ∧ (∀ address ∈ known, address ∈ seen ++ [endpoint]) ∧
      ∀ address ∈ seen ++ [endpoint], address ∈ known := by
  have hperm := hperm.trans List.perm_middle
  refine ⟨?_, fun address haddress => ?_, fun address haddress => ?_⟩
  · exact hperm.nodup_iff.mpr (List.nodup_cons.mpr ⟨hnew, h.nodup⟩)
  · rcases List.mem_cons.mp (hperm.mem_iff.mp haddress) with rfl | hknown
    · simp
    · exact List.mem_append_left _ (h.met address hknown)
  · rw [hperm.mem_iff]
    rcases List.mem_append.mp haddress with hseen | hlast
    · exact List.mem_cons_of_mem _ (h.covered hunmet address hseen)
    · obtain rfl : address = endpoint := by simpa using hlast
      exact List.mem_cons_self

theorem Filled.takeNext (h : quota.Filled rackOf seen taken) (hunmet : quota.isMet = false)
    (hnew : endpoint ∉ taken) (hall : quota.seenRacks.length = quota.rackCount) :
    { quota with found := quota.found + 1 }.Filled rackOf (seen ++ [endpoint])
      (taken ++ [endpoint]) := by
  have hskipped := h.released hall hunmet
  have hknown : endpoint ∉ taken ++ quota.skipped := by simpa [hskipped] using hnew
  obtain ⟨hnodup, hmet, hcovered⟩ := h.extend hunmet hknown
    (taken ++ [endpoint] ++ quota.skipped) (by simp)
  exact
    { found_eq := by simp [h.found_eq]
      found_le := isMet_eq_false_iff.mp hunmet
      nodup := hnodup
      met := hmet
      covered := fun _ => hcovered
      racks_nodup := h.racks_nodup
      racks_met := fun rack hrack => h.exists_met (List.mem_append_left _ hrack)
      spread := fun hsome => absurd hall hsome
      released := fun _ _ => hskipped }

theorem Filled.passOver (h : quota.Filled rackOf seen taken) (hunmet : quota.isMet = false)
    (hnew : endpoint ∉ taken ++ quota.skipped)
    (hsome : quota.seenRacks.length ≠ quota.rackCount) (hrack : rackOf endpoint ∈ quota.seenRacks) :
    { quota with skipped := quota.skipped ++ [endpoint] }.Filled rackOf (seen ++ [endpoint])
      taken := by
  obtain ⟨hnodup, hmet, hcovered⟩ := h.extend hunmet hnew _
    ((List.perm_append_singleton endpoint quota.skipped).append_left taken)
  obtain ⟨hfound, hracks⟩ := h.spread hsome
  refine
    { found_eq := h.found_eq
      found_le := h.found_le
      nodup := hnodup
      met := hmet
      covered := fun _ => hcovered
      racks_nodup := h.racks_nodup
      racks_met := fun rack hrack => h.exists_met (List.mem_append_left _ hrack)
      spread := fun _ => ⟨hfound, fun address haddress => ?_⟩
      released := fun hall => absurd hall hsome }
  rw [← List.append_assoc] at haddress
  rcases List.mem_append.mp haddress with hknown | hlast
  · exact hracks address hknown
  · obtain rfl : address = endpoint := by simpa using hlast
    exact hrack

theorem Filled.takeNewRack (h : quota.Filled rackOf seen taken) (hunmet : quota.isMet = false)
    (hnew : endpoint ∉ taken ++ quota.skipped)
    (hsome : quota.seenRacks.length ≠ quota.rackCount) (hrack : rackOf endpoint ∉ quota.seenRacks)
    (hstill : (quota.seenRacks ++ [rackOf endpoint]).length ≠ quota.rackCount) :
    { quota with
      found := quota.found + 1
      seenRacks := quota.seenRacks ++ [rackOf endpoint] }.Filled rackOf (seen ++ [endpoint])
      (taken ++ [endpoint]) := by
  obtain ⟨hnodup, hmet, hcovered⟩ := h.extend hunmet hnew
    (taken ++ [endpoint] ++ quota.skipped) (by simp)
  obtain ⟨hfound, hracks⟩ := h.spread hsome
  refine
    { found_eq := by simp [h.found_eq]
      found_le := isMet_eq_false_iff.mp hunmet
      nodup := hnodup
      met := hmet
      covered := fun _ => hcovered
      racks_nodup := h.nodup_racks hrack
      racks_met := fun rack hrack => h.exists_met hrack
      spread := fun _ => ⟨by simp [hfound], fun address haddress => ?_⟩
      released := fun hall => absurd hall hstill }
  rw [List.append_assoc, List.singleton_append, List.perm_middle.mem_iff, List.mem_cons]
    at haddress
  rcases haddress with rfl | hknown
  · simp
  · exact List.mem_append_left _ (hracks address hknown)

theorem Filled.release (h : quota.Filled rackOf seen taken) (hunmet : quota.isMet = false)
    (hnew : endpoint ∉ taken ++ quota.skipped) (hrack : rackOf endpoint ∉ quota.seenRacks)
    (hall : (quota.seenRacks ++ [rackOf endpoint]).length = quota.rackCount)
    {released : List IpAddress}
    (hreleased : released = quota.skipped.take (quota.wanted - (quota.found + 1))) :
    { quota with
      found := quota.found + 1 + released.length
      seenRacks := quota.seenRacks ++ [rackOf endpoint]
      skipped := [] }.Filled rackOf (seen ++ [endpoint]) (taken ++ endpoint :: released) := by
  obtain ⟨hnodup, hmet, hcovered⟩ := h.extend hunmet hnew _ (List.Perm.refl _)
  have hsub : (taken ++ endpoint :: released).Sublist (taken ++ endpoint :: quota.skipped) := by
    rw [hreleased]
    exact ((List.take_sublist _ _).cons_cons endpoint).append_left taken
  have hfound := isMet_eq_false_iff.mp hunmet
  have hlength : released.length =
      min (quota.wanted - (quota.found + 1)) quota.skipped.length := by
    rw [hreleased, List.length_take]
  refine
    { found_eq := by
        simp only [h.found_eq, List.length_append, List.length_cons]
        omega
      found_le := by
        simp only
        omega
      nodup := by simpa using hsub.nodup hnodup
      met := fun address haddress => hmet address (hsub.subset (by simpa using haddress))
      covered := fun hmore address haddress => ?_
      racks_nodup := h.nodup_racks hrack
      racks_met := fun rack hrack => h.exists_met hrack
      spread := fun hsome => absurd hall hsome
      released := fun _ _ => rfl }
  have hmore := isMet_eq_false_iff.mp hmore
  have hwhole : released = quota.skipped := by
    rw [hreleased, List.take_eq_self_iff]
    simp only at hmore
    omega
  rw [List.append_nil, hwhole]
  exact hcovered address haddress

theorem offer_wanted (quota : Quota) (rack : String) (endpoint : IpAddress) :
    (quota.offer rack endpoint).1.wanted = quota.wanted ∧
      (quota.offer rack endpoint).1.rackCount = quota.rackCount := by
  simp only [offer]
  split_ifs <;> exact ⟨rfl, rfl⟩

theorem mem_offer {rack : String} {address : IpAddress}
    (h : address ∈ (quota.offer rack endpoint).2) :
    address = endpoint ∨ address ∈ quota.skipped := by
  simp only [offer] at h
  split_ifs at h
  · exact .inl (List.mem_singleton.mp h)
  · simp at h
  · simp at h
  · exact (List.mem_cons.mp h).imp_right List.mem_of_mem_take
  · exact .inl (List.mem_singleton.mp h)

/-- Whatever an offer leads to, the quota knows of the node and of those taken. -/
theorem Filled.offer (h : quota.Filled rackOf seen taken) (hunmet : quota.isMet = false)
    (hnew : endpoint ∉ taken) :
    (quota.offer (rackOf endpoint) endpoint).1.Filled rackOf (seen ++ [endpoint])
      (taken ++ (quota.offer (rackOf endpoint) endpoint).2) := by
  simp only [Quota.offer]
  split
  · next hall => exact h.takeNext hunmet hnew hall
  · next hsome =>
      split
      · next hrack =>
          split
          · next hskipped =>
              rw [List.append_nil]
              exact h.idle (.inr (List.mem_append_right _ hskipped))
          · next hskipped =>
              rw [List.append_nil]
              have hknown : endpoint ∉ taken ++ quota.skipped := by simp [hnew, hskipped]
              exact h.passOver hunmet hknown hsome hrack
      · next hrack =>
          have hskipped : endpoint ∉ quota.skipped := fun hmem =>
            hrack ((h.spread hsome).2 endpoint (List.mem_append_right _ hmem))
          have hknown : endpoint ∉ taken ++ quota.skipped := by simp [hnew, hskipped]
          split
          · next hall => exact h.release hunmet hknown hrack hall rfl
          · next hstill => exact h.takeNewRack hunmet hknown hsome hrack hstill

section Count

variable {nodes : Finset IpAddress} {racks : Finset String}

theorem Filled.found_le_card (h : quota.Filled rackOf seen taken)
    (hnodes : ∀ address, address ∈ nodes ↔ address ∈ seen) : quota.found ≤ nodes.card := by
  rw [h.found_eq, ← List.toFinset_card_of_nodup (h.nodup.sublist (List.sublist_append_left _ _))]
  refine Finset.card_le_card fun address haddress => (hnodes address).mpr (h.met address ?_)
  exact List.mem_append_left _ (List.mem_toFinset.mp haddress)

theorem Filled.length_seenRacks_le (h : quota.Filled rackOf seen taken)
    (hracks : ∀ rack, rack ∈ racks ↔ ∃ address ∈ seen, rackOf address = rack) :
    quota.seenRacks.length ≤ racks.card := by
  rw [← List.toFinset_card_of_nodup h.racks_nodup]
  exact Finset.card_le_card fun rack hrack =>
    (hracks rack).mpr (h.racks_met rack (List.mem_toFinset.mp hrack))

theorem Filled.card_le_found (h : quota.Filled rackOf seen taken)
    (hnodes : ∀ address, address ∈ nodes ↔ address ∈ seen) (hunmet : quota.isMet = false)
    (hall : quota.seenRacks.length = quota.rackCount) : nodes.card ≤ quota.found := by
  have hcovered := h.covered hunmet
  rw [h.released hall hunmet, List.append_nil] at hcovered
  rw [h.found_eq]
  refine (Finset.card_le_card fun address haddress => ?_).trans (List.toFinset_card_le taken)
  exact List.mem_toFinset.mpr (hcovered address ((hnodes address).mp haddress))

theorem Filled.card_racks_le (h : quota.Filled rackOf seen taken)
    (hracks : ∀ rack, rack ∈ racks ↔ ∃ address ∈ seen, rackOf address = rack)
    (hunmet : quota.isMet = false) (hsome : quota.seenRacks.length ≠ quota.rackCount) :
    racks.card ≤ quota.seenRacks.length := by
  refine (Finset.card_le_card fun rack hrack => ?_).trans (List.toFinset_card_le quota.seenRacks)
  obtain ⟨address, haddress, rfl⟩ := (hracks rack).mp hrack
  exact List.mem_toFinset.mpr ((h.spread hsome).2 address (h.covered hunmet address haddress))

/-- A datacenter gives as many replicas as wanted, of all its nodes if these are in every rack, or
else one replica for each rack that has nodes. -/
theorem Filled.length_taken (h : quota.Filled rackOf seen taken)
    (hnodes : ∀ address, address ∈ nodes ↔ address ∈ seen)
    (hracks : ∀ rack, rack ∈ racks ↔ ∃ address ∈ seen, rackOf address = rack)
    (hcount : racks.card ≤ quota.rackCount) :
    taken.length =
      min quota.wanted (if racks.card = quota.rackCount then nodes.card else racks.card) := by
  have hfound := h.found_le
  have hnodes_card := h.found_le_card hnodes
  have hseen := h.length_seenRacks_le hracks
  rw [← h.found_eq]
  -- A quota that is not met has dealt with every node: all were taken if every rack holds a
  -- replica, and otherwise one of each rack that was seen.
  cases hmet : quota.isMet with
  | true =>
      have hmet : quota.wanted ≤ quota.found := of_decide_eq_true hmet
      split
      · omega
      · next hsome =>
          have := (h.spread (by omega)).1
          omega
  | false =>
      by_cases hall : quota.seenRacks.length = quota.rackCount
      · have := h.card_le_found hnodes hmet hall
        rw [if_pos (by omega)]
        omega
      · have := h.card_racks_le hracks hmet hall
        have := (h.spread hall).1
        rw [if_neg (by omega)]
        omega

end Count

end Quota

namespace Snapshot

/-- Whether a node is known to be in a datacenter. -/
def isIn (s : Snapshot) (datacenter : String) (address : IpAddress) : Bool :=
  (s.placement address).1 = some datacenter

/-- The rack of a node. -/
def rackOf (s : Snapshot) (address : IpAddress) : String := (s.placement address).2

theorem isIn_iff {s : Snapshot} {datacenter : String} {address : IpAddress} :
    s.isIn datacenter address = true ↔
      ∃ peer, s.peer? address = some peer ∧ peer.datacenter = some datacenter := by
  rw [isIn, decide_eq_true_eq, placement]
  cases s.peer? address with
  | none => simp
  | some peer => simp

theorem isIn_unique {s : Snapshot} {datacenter other : String} {address : IpAddress}
    (h : s.isIn datacenter address = true) (hother : s.isIn other address = true) :
    datacenter = other :=
  Option.some.inj ((of_decide_eq_true h).symm.trans (of_decide_eq_true hother))

end Snapshot

namespace Spread

variable {s : Snapshot} {factors : Assoc String Nat} {spread : Spread} {seen : List IpAddress}
  {endpoint : IpAddress}

/-- What a walk knows after some nodes were met: the quota of each datacenter that replicas are
asked of, and that replicas are in no other datacenter. -/
structure Sound (s : Snapshot) (factors : Assoc String Nat) (spread : Spread)
    (seen : List IpAddress) : Prop where
  unmet_eq : spread.unmet = spread.quotas.values.countP fun quota => !quota.isMet
  asked : ∀ datacenter,
    (spread.quotas.get? datacenter).map (fun quota => (quota.wanted, quota.rackCount)) =
      (factors.get? datacenter).map fun factor =>
        (min factor (s.datacenterEndpoints datacenter).length, s.rackCount datacenter)
  filled : ∀ datacenter quota, spread.quotas.get? datacenter = some quota →
    quota.Filled s.rackOf (seen.filter (s.isIn datacenter))
      (spread.replicas.filter (s.isIn datacenter))
  placed : ∀ address ∈ spread.replicas, ∃ datacenter,
    s.isIn datacenter address = true ∧ (spread.quotas.get? datacenter).isSome

/-- The state in which an offer to a datacenter leaves a walk. -/
def accept (spread : Spread) (datacenter : String) (offered : Quota × List IpAddress) : Spread :=
  { quotas := spread.quotas.insert datacenter offered.1
    unmet := if offered.1.isMet then spread.unmet - 1 else spread.unmet
    replicas := spread.replicas ++ offered.2 }

@[simp] theorem replicas_accept (spread : Spread) (datacenter : String)
    (offered : Quota × List IpAddress) :
    (spread.accept datacenter offered).replicas = spread.replicas ++ offered.2 := rfl

@[simp] theorem get?_accept (spread : Spread) (datacenter other : String)
    (offered : Quota × List IpAddress) :
    (spread.accept datacenter offered).quotas.get? other =
      if other = datacenter then some offered.1 else spread.quotas.get? other :=
  Assoc.get?_insert _ _ _ _

theorem step_of_wanted {datacenter : String} {quota : Quota}
    (hin : s.isIn datacenter endpoint = true)
    (hquota : spread.quotas.get? datacenter = some quota) (hmet : quota.isMet = false)
    (hnew : endpoint ∉ spread.replicas) (hopen : spread.unmet ≠ 0) :
    step s spread endpoint =
      spread.accept datacenter (quota.offer (s.rackOf endpoint) endpoint) := by
  obtain ⟨peer, hpeer, hhome⟩ := Snapshot.isIn_iff.mp hin
  rw [step, if_neg (by simp [hopen, hnew])]
  simp [hpeer, hhome, hquota, hmet, accept, Snapshot.rackOf, Snapshot.placement]

theorem step_of_unwanted
    (h : ∀ datacenter quota, s.isIn datacenter endpoint = true →
      spread.quotas.get? datacenter = some quota →
        quota.isMet = true ∨ endpoint ∈ spread.replicas) :
    step s spread endpoint = spread := by
  rw [step]
  split
  · rfl
  · next hopen =>
      cases hpeer : s.peer? endpoint with
      | none => rfl
      | some peer =>
          simp only
          cases hhome : peer.datacenter with
          | none => rfl
          | some home =>
              simp only
              cases hquota : spread.quotas.get? home with
              | none => rfl
              | some quota =>
                  have hin := Snapshot.isIn_iff.mpr ⟨peer, hpeer, hhome⟩
                  have hmet := (h home quota hin hquota).resolve_right (hopen ∘ .inr)
                  simp [hmet]

theorem wanted_or_unwanted (s : Snapshot) (spread : Spread) (endpoint : IpAddress) :
    (∃ datacenter quota, s.isIn datacenter endpoint = true ∧
      spread.quotas.get? datacenter = some quota ∧ quota.isMet = false ∧
      endpoint ∉ spread.replicas) ∨
    ∀ datacenter quota, s.isIn datacenter endpoint = true →
      spread.quotas.get? datacenter = some quota →
        quota.isMet = true ∨ endpoint ∈ spread.replicas := by
  rw [or_iff_not_imp_left]
  intro hnone datacenter quota hin hquota
  by_contra hneither
  rw [not_or, Bool.not_eq_true] at hneither
  exact hnone ⟨datacenter, quota, hin, hquota, hneither⟩

theorem filter_append_singleton (s : Snapshot) (datacenter : String) (seen : List IpAddress)
    (endpoint : IpAddress) :
    (seen ++ [endpoint]).filter (s.isIn datacenter) =
      seen.filter (s.isIn datacenter) ++ if s.isIn datacenter endpoint then [endpoint] else [] := by
  rw [List.filter_append, List.filter_singleton]
  cases s.isIn datacenter endpoint <;> rfl

theorem Sound.unmet_ne_zero (h : spread.Sound s factors seen) {datacenter : String} {quota : Quota}
    (hquota : spread.quotas.get? datacenter = some quota) (hmet : quota.isMet = false) :
    spread.unmet ≠ 0 := by
  rw [h.unmet_eq, Ne, List.countP_eq_zero]
  intro hall
  have := hall quota (Assoc.mem_values_iff.mpr ⟨datacenter, hquota⟩)
  simp [hmet] at this

theorem Sound.pass (h : spread.Sound s factors seen)
    (hidle : ∀ datacenter quota, s.isIn datacenter endpoint = true →
      spread.quotas.get? datacenter = some quota →
        quota.isMet = true ∨ endpoint ∈ spread.replicas) :
    spread.Sound s factors (seen ++ [endpoint]) where
  unmet_eq := h.unmet_eq
  asked := h.asked
  filled datacenter quota hquota := by
    have hfilled := h.filled datacenter quota hquota
    rw [filter_append_singleton]
    split
    · next hin =>
        refine hfilled.idle ((hidle datacenter quota hin hquota).imp_right fun hmem => ?_)
        exact List.mem_append_left _ (List.mem_filter.mpr ⟨hmem, hin⟩)
    · rwa [List.append_nil]
  placed := h.placed

theorem Sound.isIn_of_mem_offer (h : spread.Sound s factors seen) {datacenter rack : String}
    {quota : Quota} (hin : s.isIn datacenter endpoint = true)
    (hquota : spread.quotas.get? datacenter = some quota) {address : IpAddress}
    (haddress : address ∈ (quota.offer rack endpoint).2) : s.isIn datacenter address = true := by
  rcases Quota.mem_offer haddress with rfl | hskipped
  · exact hin
  · have hmet := (h.filled datacenter quota hquota).met address (List.mem_append_right _ hskipped)
    exact (List.mem_filter.mp hmet).2

theorem Sound.unmet_accept (h : spread.Sound s factors seen) {datacenter : String} {quota : Quota}
    (hquota : spread.quotas.get? datacenter = some quota) (hmet : quota.isMet = false)
    (offered : Quota × List IpAddress) :
    (spread.accept datacenter offered).unmet =
      (spread.accept datacenter offered).quotas.values.countP fun quota => !quota.isMet := by
  have hbefore : spread.unmet =
      (spread.quotas.erase datacenter).values.countP (fun quota => !quota.isMet) + 1 := by
    rw [h.unmet_eq, (Assoc.values_perm_cons_erase hquota).countP_eq,
      List.countP_cons_of_pos (by simp [hmet])]
  rw [Spread.accept, Assoc.values_insert, List.countP_append, List.countP_singleton]
  cases offered.1.isMet with
  | true => simp [hbefore]
  | false => simp [hbefore]

theorem Sound.accept (h : spread.Sound s factors seen) {datacenter : String} {quota : Quota}
    (hin : s.isIn datacenter endpoint = true)
    (hquota : spread.quotas.get? datacenter = some quota) (hmet : quota.isMet = false)
    (hnew : endpoint ∉ spread.replicas) :
    (spread.accept datacenter (quota.offer (s.rackOf endpoint) endpoint)).Sound s factors
      (seen ++ [endpoint]) := by
  have hoffered : ∀ address ∈ (quota.offer (s.rackOf endpoint) endpoint).2,
      s.isIn datacenter address = true := fun _ => h.isIn_of_mem_offer hin hquota
  refine ⟨h.unmet_accept hquota hmet _, fun other => ?_, fun other found hfound => ?_,
    fun address haddress => ?_⟩
  · have hasked := h.asked other
    rw [get?_accept]
    split
    · next heq =>
        obtain ⟨hwanted, hrackCount⟩ := quota.offer_wanted (s.rackOf endpoint) endpoint
        rw [heq, hquota] at hasked
        rw [heq, ← hasked, Option.map_some, Option.map_some, hwanted, hrackCount]
    · exact hasked
  · rw [get?_accept] at hfound
    rw [replicas_accept, filter_append_singleton, List.filter_append spread.replicas]
    split at hfound
    · next heq =>
        obtain rfl := Option.some.inj hfound
        rw [heq, if_pos hin, List.filter_eq_self.mpr hoffered]
        refine (h.filled datacenter quota hquota).offer hmet fun hmem => hnew ?_
        exact (List.mem_filter.mp hmem).1
    · next hne =>
        -- The nodes of another datacenter are neither offered nor taken here.
        have hother : ∀ address, s.isIn datacenter address = true → ¬ s.isIn other address = true :=
          fun address hhome hothers => hne (Snapshot.isIn_unique hothers hhome)
        have hnone := List.filter_eq_nil_iff.mpr fun address haddress =>
          hother address (hoffered address haddress)
        rw [if_neg (hother endpoint hin), List.append_nil, hnone, List.append_nil]
        exact h.filled other found hfound
  · rcases List.mem_append.mp haddress with hold | htaken
    · obtain ⟨other, hother, hsome⟩ := h.placed address hold
      refine ⟨other, hother, ?_⟩
      rw [get?_accept]
      split
      · rfl
      · exact hsome
    · exact ⟨datacenter, hoffered address htaken, by simp⟩

theorem Sound.step (h : spread.Sound s factors seen) (endpoint : IpAddress) :
    (Spread.step s spread endpoint).Sound s factors (seen ++ [endpoint]) := by
  rcases wanted_or_unwanted s spread endpoint with
    ⟨datacenter, quota, hin, hquota, hmet, hnew⟩ | hidle
  · rw [step_of_wanted hin hquota hmet hnew (h.unmet_ne_zero hquota hmet)]
    exact h.accept hin hquota hmet hnew
  · rw [step_of_unwanted hidle]
    exact h.pass hidle

theorem Sound.walk (h : spread.Sound s factors seen) (endpoints : List IpAddress) :
    (endpoints.foldl (Spread.step s) spread).Sound s factors (seen ++ endpoints) :=
  foldl_seen (motive := fun (spread : Spread) seen => spread.Sound s factors seen)
    (fun _ _ endpoint h => h.step endpoint) h endpoints

theorem sound_start (s : Snapshot) (factors : Assoc String Nat) :
    (start s factors).Sound s factors [] where
  unmet_eq := by
    have hnodup : ((factors.entries.map fun entry =>
        (entry.1, Quota.ofDatacenter s entry.1 entry.2)).map Prod.fst).Nodup := by
      rw [List.map_map]
      exact factors.nodup_keys
    simp only [start]
    rw [Assoc.values, Assoc.entries_ofList hnodup, List.countP_map, List.countP_eq_length_filter]
    rfl
  asked datacenter := by
    rw [start, Assoc.get?_ofList_map factors (Quota.ofDatacenter s), Option.map_map]
    rfl
  filled datacenter quota hquota := by
    rw [start, Assoc.get?_ofList_map factors (Quota.ofDatacenter s)] at hquota
    obtain ⟨factor, -, rfl⟩ := Option.map_eq_some_iff.mp hquota
    exact Quota.filled_ofDatacenter s.rackOf s datacenter factor
  placed := by simp [start]

theorem Sound.nodup (h : spread.Sound s factors seen) : spread.replicas.Nodup := by
  rw [List.nodup_iff_count_le_one]
  intro address
  by_cases hmem : address ∈ spread.replicas
  · obtain ⟨datacenter, hin, hsome⟩ := h.placed address hmem
    obtain ⟨quota, hquota⟩ := Option.isSome_iff_exists.mp hsome
    have hnodup := (h.filled datacenter quota hquota).nodup.sublist (List.sublist_append_left _ _)
    rw [← List.count_filter hin]
    exact List.nodup_iff_count_le_one.mp hnodup address
  · rw [List.count_eq_zero_of_not_mem hmem]
    exact Nat.zero_le 1

end Spread

namespace Snapshot

/-- The addresses of the peers of a datacenter that own tokens. -/
def owners (s : Snapshot) (datacenter : String) : Finset IpAddress :=
  ((s.peers.values.filter fun peer => peer.datacenter = some datacenter ∧ peer.tokens ≠ []).map
    Peer.address).toFinset

/-- The racks of a datacenter that have a peer with tokens. -/
def owningRacks (s : Snapshot) (datacenter : String) : Finset String :=
  (s.owners datacenter).image s.rackOf

variable {s : Snapshot}

theorem Consistent.mem_owners_iff (h : s.Consistent) {datacenter : String} {address : IpAddress} :
    address ∈ s.owners datacenter ↔
      ∃ peer, s.peer? address = some peer ∧ peer.datacenter = some datacenter ∧
        peer.tokens ≠ [] := by
  simp only [owners, List.mem_toFinset, List.mem_map, List.mem_filter, decide_eq_true_eq,
    Assoc.mem_values_iff]
  constructor
  · rintro ⟨peer, ⟨⟨key, hpeer⟩, howns⟩, rfl⟩
    rw [h.peer_address key peer hpeer]
    exact ⟨peer, hpeer, howns⟩
  · rintro ⟨peer, hpeer, howns⟩
    exact ⟨peer, ⟨⟨address, hpeer⟩, howns⟩, h.peer_address address peer hpeer⟩

theorem Consistent.mem_walk_iff (h : s.Consistent) (token : Token) (address : IpAddress) :
    address ∈ s.ring.owners token ↔
      ∃ peer, s.peer? address = some peer ∧ peer.tokens ≠ [] := by
  have hperm := (s.ring.walk_perm token).trans h.ring_perm
  rw [TokenRing.owners, (hperm.map Prod.snd).mem_iff, ownedTokens]
  simp only [List.mem_map, List.mem_flatMap, Assoc.mem_values_iff]
  constructor
  · rintro ⟨entry, ⟨peer, ⟨key, hpeer⟩, token, htoken, rfl⟩, rfl⟩
    rw [h.peer_address key peer hpeer]
    exact ⟨peer, hpeer, List.ne_nil_of_mem htoken⟩
  · rintro ⟨peer, hpeer, howns⟩
    obtain ⟨token, htoken⟩ := List.exists_mem_of_ne_nil peer.tokens howns
    exact ⟨(token, peer.address), ⟨peer, ⟨address, hpeer⟩, token, htoken, rfl⟩,
      h.peer_address address peer hpeer⟩

theorem Consistent.mem_owners_iff_mem_walk (h : s.Consistent) (token : Token) (datacenter : String)
    (address : IpAddress) :
    address ∈ s.owners datacenter ↔
      address ∈ (s.ring.owners token).filter (s.isIn datacenter) := by
  rw [h.mem_owners_iff, List.mem_filter, h.mem_walk_iff, isIn_iff]
  constructor
  · rintro ⟨peer, hpeer, hplace, howns⟩
    exact ⟨⟨peer, hpeer, howns⟩, peer, hpeer, hplace⟩
  · rintro ⟨⟨peer, hpeer, howns⟩, other, hother, hplace⟩
    rw [hpeer, Option.some.injEq] at hother
    exact ⟨peer, hpeer, hother ▸ hplace, howns⟩

theorem Consistent.card_owners_le (h : s.Consistent) (datacenter : String) :
    (s.owners datacenter).card ≤ (s.datacenterEndpoints datacenter).length := by
  refine (Finset.card_le_card fun address haddress => ?_).trans (List.toFinset_card_le _)
  obtain ⟨peer, hpeer, hplace, -⟩ := h.mem_owners_iff.mp haddress
  exact List.mem_toFinset.mpr ((h.mem_datacenter_iff datacenter address).mpr ⟨peer, hpeer, hplace⟩)

theorem Consistent.owningRacks_subset (h : s.Consistent) (datacenter : String) :
    s.owningRacks datacenter ⊆ s.distinctRacks datacenter := by
  intro rack hrack
  obtain ⟨address, haddress, rfl⟩ := Finset.mem_image.mp hrack
  obtain ⟨peer, hpeer, hplace, -⟩ := h.mem_owners_iff.mp haddress
  exact mem_distinctRacks_iff.mpr ⟨address, peer, hpeer, hplace, by simp [rackOf, placement, hpeer]⟩

theorem Consistent.mem_owningRacks_iff (h : s.Consistent) (token : Token)
    (datacenter rack : String) :
    rack ∈ s.owningRacks datacenter ↔
      ∃ address ∈ (s.ring.owners token).filter (s.isIn datacenter), s.rackOf address = rack := by
  simp only [owningRacks, Finset.mem_image, h.mem_owners_iff_mem_walk token]

theorem Consistent.card_owningRacks_eq_iff (h : s.Consistent) (datacenter : String) :
    (s.owningRacks datacenter).card = (s.distinctRacks datacenter).card ↔
      s.owningRacks datacenter = s.distinctRacks datacenter := by
  refine ⟨fun hcard => ?_, congrArg Finset.card⟩
  exact Finset.eq_of_subset_of_card_le (h.owningRacks_subset datacenter) hcard.ge

/-- A datacenter with tokens in each of its racks gives as many replicas as it can; one with a rack
that only has joining nodes gives no more than one for each rack that owns tokens. -/
theorem Consistent.countP_replicas (h : s.Consistent) {factors : Assoc String Nat} (token : Token)
    {datacenter : String} {factor : Nat} (hfactor : factors.get? datacenter = some factor) :
    ((Strategy.perDatacenter factors).replicas s token).countP (s.isIn datacenter) =
      min factor (if s.owningRacks datacenter = s.distinctRacks datacenter
        then (s.owners datacenter).card else (s.owningRacks datacenter).card) := by
  have hsound := (Spread.sound_start s factors).walk (s.ring.owners token)
  have hasked := hsound.asked datacenter
  rw [hfactor, Option.map_some, Option.map_eq_some_iff] at hasked
  obtain ⟨quota, hquota, hsizes⟩ := hasked
  obtain ⟨hwanted, hrackCount⟩ := Prod.mk.inj hsizes
  have hracks : (s.owningRacks datacenter).card ≤ quota.rackCount := by
    rw [hrackCount, h.rackCount_eq_card]
    exact Finset.card_le_card (h.owningRacks_subset datacenter)
  have htaken := (hsound.filled datacenter quota hquota).length_taken
    (h.mem_owners_iff_mem_walk token datacenter) (h.mem_owningRacks_iff token datacenter) hracks
  simp only [hrackCount, h.rackCount_eq_card, h.card_owningRacks_eq_iff, hwanted] at htaken
  have howners := h.card_owners_le datacenter
  have hle : (s.owningRacks datacenter).card ≤ (s.owners datacenter).card := Finset.card_image_le
  rw [List.countP_eq_length_filter]
  refine htaken.trans ?_
  split
  · omega
  · omega

/-- Of every view that changes lead to, each datacenter that replicas are asked of gives as many as
it can, unless one of its racks has only peers without tokens: then it gives one replica for each of
its other racks at most. No other datacenter gives any. -/
theorem countP_replicas_applyAll (changes : List SnapshotChange) (factors : Assoc String Nat)
    (token : Token) :
    let s := empty.applyAll changes
    let replicas := (Strategy.perDatacenter factors).replicas s token
    replicas.Nodup ∧
      (∀ datacenter factor, factors.get? datacenter = some factor →
        replicas.countP (s.isIn datacenter) =
            min factor (if s.owningRacks datacenter = s.distinctRacks datacenter
              then (s.owners datacenter).card else (s.owningRacks datacenter).card) ∧
          (replicas.countP (s.isIn datacenter) = min factor (s.owners datacenter).card ↔
            s.owningRacks datacenter = s.distinctRacks datacenter ∨
              min factor (s.owners datacenter).card ≤ (s.owningRacks datacenter).card)) ∧
      ∀ address ∈ replicas, ∃ datacenter factor,
        s.isIn datacenter address = true ∧ factors.get? datacenter = some factor := by
  intro s replicas
  have hconsistent : s.Consistent := (indexed_empty.applyAll changes).consistent
  have hsound := (Spread.sound_start s factors).walk (s.ring.owners token)
  refine ⟨hsound.nodup, fun datacenter factor hfactor => ?_, fun address haddress => ?_⟩
  · have hcount := hconsistent.countP_replicas token hfactor
    have hle : (s.owningRacks datacenter).card ≤ (s.owners datacenter).card := Finset.card_image_le
    refine ⟨hcount, ?_⟩
    rw [hcount]
    by_cases hall : s.owningRacks datacenter = s.distinctRacks datacenter
    · rw [if_pos hall]
      exact iff_of_true rfl (.inl hall)
    · rw [if_neg hall, or_iff_right hall]
      omega
  · obtain ⟨datacenter, hin, hsome⟩ := hsound.placed address haddress
    obtain ⟨quota, hquota⟩ := Option.isSome_iff_exists.mp hsome
    have hasked := hsound.asked datacenter
    rw [hquota, Option.map_some, eq_comm, Option.map_eq_some_iff] at hasked
    obtain ⟨factor, hfactor, -⟩ := hasked
    exact ⟨datacenter, factor, hin, hfactor⟩

/-- Two nodes of a rack own tokens; the only node of another rack is still joining. -/
def joining : List SnapshotChange :=
  let peer : Peer := { address := .ofOctets 10 0 0 1, datacenter := some "dc1", rack := some "r1" }
  [.addPeer { peer with tokens := [.murmur3 10] },
    .addPeer { peer with address := .ofOctets 10 0 0 2, tokens := [.murmur3 20] },
    .addPeer { peer with address := .ofOctets 10 0 0 3, rack := some "r2" }]

theorem not_countP_replicas_eq_min :
    ¬ ∀ (changes : List SnapshotChange) (factors : Assoc String Nat) (token : Token),
      let s := empty.applyAll changes
      let replicas := (Strategy.perDatacenter factors).replicas s token
      (∀ datacenter factor, factors.get? datacenter = some factor →
        replicas.countP (s.isIn datacenter) = min factor (s.owners datacenter).card) ∧
      ∀ address ∈ replicas, ∃ datacenter factor,
        s.isIn datacenter address = true ∧ factors.get? datacenter = some factor := by
  intro h
  have hcount := (h joining (Assoc.empty.insert "dc1" 2) (.murmur3 0)).1 "dc1" 2 rfl
  -- Sorting the ring does not compute here; what the replicas depend on does.
  rw [(indexed_empty.applyAll joining).consistent.countP_replicas _ rfl] at hcount
  revert hcount
  decide +kernel

end Snapshot

end CqlClient
