import CqlClient.Proofs.Cluster.Agreement
import CqlClient.Proofs.Placement.Distinct
import Mathlib.Data.List.Rotate

namespace CqlClient

theorem filterMap_getElem?_range {α : Type} (values : List α) :
    (List.range values.length).filterMap (fun index => values[index]?) = values := by
  induction values with
  | nil => rfl
  | cons value rest ih =>
      rw [List.length_cons, List.range_succ_eq_map, List.filterMap_cons, List.filterMap_map]
      simpa [Function.comp_def] using ih

namespace Rotation

/-- Whether the counter does not wrap around while a plan is made. -/
def Fits (rotation : Rotation) : Prop :=
  rotation.counter.toNat + rotation.endpoints.length ≤ UInt64.size

instance (rotation : Rotation) : Decidable rotation.Fits :=
  inferInstanceAs (Decidable (_ ≤ _))

theorem Fits.toNat_counter_add {rotation : Rotation} (h : rotation.Fits) {offset : Nat}
    (hoffset : offset < rotation.endpoints.length) :
    (rotation.counter + UInt64.ofNat offset).toNat = rotation.counter.toNat + offset := by
  have hsum : rotation.counter.toNat + offset < UInt64.size := by
    rw [Fits] at h
    omega
  have hsmall : offset < UInt64.size := by omega
  rw [UInt64.toNat_add, UInt64.toNat_ofNat_of_lt' hsmall]
  exact Nat.mod_eq_of_lt hsum

theorem Fits.plan_eq_rotate {rotation : Rotation} (h : rotation.Fits) :
    rotation.plan = rotation.endpoints.rotate rotation.counter.toNat := by
  have hturned := filterMap_getElem?_range (rotation.endpoints.rotate rotation.counter.toNat)
  rw [List.length_rotate] at hturned
  rw [← hturned, plan]
  apply List.filterMap_congr
  intro offset hoffset
  have hoffset := List.mem_range.mp hoffset
  rw [h.toNat_counter_add hoffset, List.getElem?_rotate hoffset, Nat.add_comm]

theorem Fits.plan_perm {rotation : Rotation} (h : rotation.Fits) :
    rotation.plan.Perm rotation.endpoints := by
  rw [h.plan_eq_rotate]
  exact List.rotate_perm _ _

end Rotation

/-- The natural replicas of the partition of a request; none if the request does not tell its
keyspace or its key. -/
def RoutingRequest.naturalReplicas (request : RoutingRequest) (s : Snapshot) : List IpAddress :=
  match request.keyspace, request.routingKey with
  | some keyspace, some key => s.replicas keyspace (s.partitioner.token key)
  | _, _ => []

theorem RoutingRequest.nodup_naturalReplicas (request : RoutingRequest) (s : Snapshot) :
    (request.naturalReplicas s).Nodup := by
  rw [naturalReplicas]
  split
  · exact s.nodup_replicas _ _
  · exact List.nodup_nil

namespace RoutingPolicy

/-- Whether no counter wraps around while a plan is made. -/
def CountersFit : RoutingPolicy → Prop
  | .rotating rotation => rotation.Fits
  | .datacenterAware _ rotations => ∀ rotation ∈ rotations.values, rotation.Fits
  | .tokenAware child => child.CountersFit

instance decidableCountersFit : (policy : RoutingPolicy) → Decidable policy.CountersFit
  | .rotating rotation => inferInstanceAs (Decidable rotation.Fits)
  | .datacenterAware _ rotations =>
      inferInstanceAs (Decidable (∀ rotation ∈ rotations.values, rotation.Fits))
  | .tokenAware child => decidableCountersFit child

/-- The policy with other counters: one for a rotation over all endpoints, and one for that of each
datacenter. -/
def recount (counters : Option String → UInt64) : RoutingPolicy → RoutingPolicy
  | .rotating rotation => .rotating ⟨rotation.endpoints, counters none⟩
  | .datacenterAware home rotations =>
      .datacenterAware home (Assoc.ofList (rotations.entries.map fun entry =>
        (entry.1, ⟨entry.2.endpoints, counters (some entry.1)⟩)))
  | .tokenAware child => .tokenAware (child.recount counters)

/-- Whether a peer that is up can be chosen at all. -/
def Serves : RoutingPolicy → Peer → Prop
  | .rotating _, _ => True
  | .datacenterAware _ _, peer => peer.datacenter.isSome
  | .tokenAware child, peer => child.Serves peer

/-- Those of some replicas that are up and local for a policy. -/
def preferred (policy : RoutingPolicy) (s : Snapshot) (replicas : List IpAddress) :
    List IpAddress :=
  replicas.filter fun endpoint =>
    (s.peer? endpoint).any fun peer => peer.isUp && policy.isLocal peer

/-- Whether a datacenter may stand before another one: the home datacenter before all, the others in
the order of their names. -/
def HomeFirst (home first second : String) : Prop :=
  first = home ∨ second ≠ home ∧ first ≤ second

/-- What the plan of a policy has to be. -/
structure PlansWell (policy : RoutingPolicy) (request : RoutingRequest) (s : Snapshot) : Prop where
  nodup : (policy.plan request s).Nodup
  mem_iff : ∀ address, address ∈ policy.plan request s ↔
    ∃ peer, s.peer? address = some peer ∧ peer.isUp ∧ policy.Serves peer
  home_first : ∀ home rotations, policy = .datacenterAware home rotations →
    (policy.plan request s).Pairwise fun a b => ∃ first second,
      s.isIn first a ∧ s.isIn second b ∧ HomeFirst home first second
  replicas_first : ∀ child, policy = .tokenAware child →
    policy.plan request s =
      if request.naturalReplicas s = [] then child.plan request s
      else
        child.preferred s (request.naturalReplicas s) ++
          (child.plan request s).filter fun endpoint =>
            endpoint ∉ child.preferred s (request.naturalReplicas s)

theorem Lists.recount {policy : RoutingPolicy} {up : IpAddress → Option Peer}
    (h : policy.Lists up) (counters : Option String → UInt64) :
    (policy.recount counters).Lists up := by
  induction policy with
  | rotating rotation => exact h
  | datacenterAware home rotations =>
      intro datacenter
      have hendpoints : endpointsIn (Assoc.ofList (rotations.entries.map fun entry =>
          (entry.1, ⟨entry.2.endpoints, counters (some entry.1)⟩))) datacenter =
          endpointsIn rotations datacenter := by
        have hget := Assoc.get?_ofList_map rotations
          (fun name rotation => Rotation.mk rotation.endpoints (counters (some name))) datacenter
        rw [endpointsIn, hget, Option.map_map]
        rfl
      rw [hendpoints]
      exact h datacenter
  | tokenAware child ih => exact ih h

section Datacenters

variable {home : String} {rotations : Assoc String Rotation}

theorem planOf_perm (h : ∀ rotation ∈ rotations.values, rotation.Fits) (datacenter : String) :
    (planOf rotations datacenter).Perm (endpointsIn rotations datacenter) := by
  rw [planOf, endpointsIn]
  cases hget : rotations.get? datacenter with
  | none => exact List.Perm.refl _
  | some rotation => exact (h rotation (Assoc.mem_values_iff.mpr ⟨datacenter, hget⟩)).plan_perm

theorem mem_otherDatacenters {datacenter : String} :
    datacenter ∈ otherDatacenters home rotations ↔
      datacenter ∈ rotations.keys ∧ datacenter ≠ home := by
  simp [otherDatacenters]

theorem nodup_visited (home : String) (rotations : Assoc String Rotation) :
    (home :: otherDatacenters home rotations).Nodup := by
  refine List.nodup_cons.mpr ⟨fun hmem => (mem_otherDatacenters.mp hmem).2 rfl, ?_⟩
  have hkeys : (rotations.keys.filter (· ≠ home)).Nodup := rotations.nodup_keys.filter _
  exact (List.mergeSort_perm _ _).nodup_iff.mpr hkeys

theorem pairwise_visited (home : String) (rotations : Assoc String Rotation) :
    (home :: otherDatacenters home rotations).Pairwise (HomeFirst home) := by
  have hle {a b : String} : (!decide (b < a)) = true ↔ a ≤ b := by
    rw [Bool.not_eq_true', decide_eq_false_iff_not]
    exact String.not_lt
  have hsorted : (otherDatacenters home rotations).Pairwise fun a b => !decide (b < a) := by
    apply List.pairwise_mergeSort
    · intro a b c hab hbc
      exact hle.mpr (String.le_trans (hle.mp hab) (hle.mp hbc))
    · intro a b
      rw [Bool.or_eq_true, hle, hle]
      exact String.le_total a b
  refine List.pairwise_cons.mpr ⟨fun other _ => .inl rfl, ?_⟩
  exact hsorted.imp_of_mem fun _ hb hab => .inr ⟨(mem_otherDatacenters.mp hb).2, hle.mp hab⟩

theorem mem_visited_of_mem_endpointsIn {datacenter : String} {address : IpAddress}
    (h : address ∈ endpointsIn rotations datacenter) :
    datacenter ∈ home :: otherDatacenters home rotations := by
  have hkey : datacenter ∈ rotations.keys := by
    rw [Assoc.mem_keys_iff]
    cases hget : rotations.get? datacenter with
    | none => simp [endpointsIn, hget] at h
    | some rotation => rfl
  by_cases hhome : datacenter = home
  · simp [hhome]
  · exact List.mem_cons_of_mem _ (mem_otherDatacenters.mpr ⟨hkey, hhome⟩)

theorem mem_plan_datacenterAware (h : ∀ rotation ∈ rotations.values, rotation.Fits)
    (request : RoutingRequest) (s : Snapshot) (address : IpAddress) :
    address ∈ (datacenterAware home rotations).plan request s ↔
      ∃ datacenter, address ∈ endpointsIn rotations datacenter := by
  change address ∈ (home :: otherDatacenters home rotations).flatMap (planOf rotations) ↔ _
  simp only [List.mem_flatMap, (planOf_perm h _).mem_iff]
  constructor
  · rintro ⟨datacenter, -, hmem⟩
    exact ⟨datacenter, hmem⟩
  · rintro ⟨datacenter, hmem⟩
    exact ⟨datacenter, mem_visited_of_mem_endpointsIn hmem, hmem⟩

theorem Lists.datacenter_unique {up : IpAddress → Option Peer}
    (h : (datacenterAware home rotations).Lists up) {first second : String} {address : IpAddress}
    (hfirst : address ∈ endpointsIn rotations first)
    (hsecond : address ∈ endpointsIn rotations second) : first = second := by
  obtain ⟨peer, hpeer, hplace⟩ := ((h first).2 address).mp hfirst
  obtain ⟨other, hother, hotherPlace⟩ := ((h second).2 address).mp hsecond
  rw [hpeer, Option.some.injEq] at hother
  rw [← hother, hplace, Option.some.injEq] at hotherPlace
  exact hotherPlace

theorem Lists.nodup_plan_datacenterAware {up : IpAddress → Option Peer}
    (h : (datacenterAware home rotations).Lists up)
    (hfits : ∀ rotation ∈ rotations.values, rotation.Fits) (request : RoutingRequest)
    (s : Snapshot) : ((datacenterAware home rotations).plan request s).Nodup := by
  change ((home :: otherDatacenters home rotations).flatMap (planOf rotations)).Nodup
  rw [List.nodup_flatMap]
  constructor
  · intro datacenter _
    exact (planOf_perm hfits datacenter).nodup_iff.mpr (h datacenter).1
  · refine (nodup_visited home rotations).imp fun {first second} hne address hfirst hsecond => ?_
    rw [(planOf_perm hfits _).mem_iff] at hfirst hsecond
    exact hne (h.datacenter_unique hfirst hsecond)

theorem Lists.pairwise_plan_datacenterAware {s : Snapshot}
    (h : (datacenterAware home rotations).Lists s.up?)
    (hfits : ∀ rotation ∈ rotations.values, rotation.Fits) (request : RoutingRequest) :
    ((datacenterAware home rotations).plan request s).Pairwise fun a b => ∃ first second,
      s.isIn first a ∧ s.isIn second b ∧ HomeFirst home first second := by
  have hin : ∀ datacenter address, address ∈ planOf rotations datacenter →
      s.isIn datacenter address := by
    intro datacenter address hmem
    rw [(planOf_perm hfits datacenter).mem_iff] at hmem
    obtain ⟨peer, hup, hplace⟩ := ((h datacenter).2 address).mp hmem
    exact Snapshot.isIn_iff.mpr ⟨peer, (Snapshot.up?_eq_some_iff.mp hup).1, hplace⟩
  have hself : ∀ datacenter, HomeFirst home datacenter datacenter := by
    intro datacenter
    by_cases hhome : datacenter = home
    · exact .inl hhome
    · exact .inr ⟨hhome, String.le_refl datacenter⟩
  change ((home :: otherDatacenters home rotations).flatMap (planOf rotations)).Pairwise _
  rw [List.pairwise_flatMap]
  constructor
  · intro datacenter _
    refine List.pairwise_of_forall_mem_list fun a ha b hb => ?_
    exact ⟨datacenter, datacenter, hin datacenter a ha, hin datacenter b hb, hself datacenter⟩
  · refine (pairwise_visited home rotations).imp fun {first second} hfirst a ha b hb => ?_
    exact ⟨first, second, hin first a ha, hin second b hb, hfirst⟩

end Datacenters

section TokenAware

variable {child : RoutingPolicy} {request : RoutingRequest} {s : Snapshot}

theorem localReplicas?_eq (child : RoutingPolicy) (request : RoutingRequest) (s : Snapshot) :
    child.localReplicas? request s =
      if request.naturalReplicas s = [] then none
      else some (child.preferred s (request.naturalReplicas s)) := by
  cases hkeyspace : request.keyspace with
  | none => simp [localReplicas?, RoutingRequest.naturalReplicas, hkeyspace]
  | some keyspace =>
      cases hkey : request.routingKey with
      | none => simp [localReplicas?, RoutingRequest.naturalReplicas, hkeyspace, hkey]
      | some key =>
          simp only [localReplicas?, RoutingRequest.naturalReplicas, hkeyspace, hkey,
            List.isEmpty_iff, Option.bind_eq_bind, Option.bind_some]
          split
          · rfl
          · refine congrArg some (List.filter_congr fun endpoint _ => ?_)
            cases s.peer? endpoint <;> rfl

/-- The plan of a token-aware policy: the replicas that are up and local, then the others as the
child says. -/
theorem plan_tokenAware (child : RoutingPolicy) (request : RoutingRequest) (s : Snapshot) :
    (tokenAware child).plan request s =
      if request.naturalReplicas s = [] then child.plan request s
      else
        child.preferred s (request.naturalReplicas s) ++
          (child.plan request s).filter fun endpoint =>
            endpoint ∉ child.preferred s (request.naturalReplicas s) := by
  rw [plan, localReplicas?_eq]
  split
  · next hnone => split at hnone <;> simp_all
  · next hsome => split at hsome <;> simp_all

theorem serves_of_isLocal {policy : RoutingPolicy} {peer : Peer} (h : policy.isLocal peer = true) :
    policy.Serves peer := by
  induction policy with
  | rotating rotation => trivial
  | datacenterAware home rotations =>
      have hhome : peer.datacenter = some home := of_decide_eq_true h
      rw [Serves, hhome]
      rfl
  | tokenAware child ih => exact ih h

theorem mem_preferred {replicas : List IpAddress} {address : IpAddress}
    (h : address ∈ child.preferred s replicas) :
    ∃ peer, s.up? address = some peer ∧ child.Serves peer := by
  obtain ⟨-, hlocal⟩ := List.mem_filter.mp h
  cases hpeer : s.peer? address with
  | none => simp [hpeer] at hlocal
  | some peer =>
      rw [hpeer, Option.any_some, Bool.and_eq_true] at hlocal
      exact ⟨peer, Snapshot.up?_eq_some_iff.mpr ⟨hpeer, hlocal.1⟩, serves_of_isLocal hlocal.2⟩

theorem mem_plan_tokenAware
    (h : ∀ address ∈ child.preferred s (request.naturalReplicas s),
      address ∈ child.plan request s) (address : IpAddress) :
    address ∈ (tokenAware child).plan request s ↔ address ∈ child.plan request s := by
  rw [plan_tokenAware]
  split
  · rfl
  · by_cases hpreferred : address ∈ child.preferred s (request.naturalReplicas s)
    · simp [hpreferred, h address hpreferred]
    · simp [hpreferred]

theorem nodup_plan_tokenAware (h : (child.plan request s).Nodup) :
    ((tokenAware child).plan request s).Nodup := by
  rw [plan_tokenAware]
  split
  · exact h
  · have hreplicas : (child.preferred s (request.naturalReplicas s)).Nodup :=
      (request.nodup_naturalReplicas s).filter _
    refine hreplicas.append (h.filter _) ?_
    intro address hfirst hsecond
    have hnew := (List.mem_filter.mp hsecond).2
    simp [hfirst] at hnew

end TokenAware

theorem Lists.mem_plan_iff {policy : RoutingPolicy} {s : Snapshot} (h : policy.Lists s.up?)
    (hfits : policy.CountersFit) (request : RoutingRequest) (address : IpAddress) :
    address ∈ policy.plan request s ↔
      ∃ peer, s.up? address = some peer ∧ policy.Serves peer := by
  induction policy generalizing address with
  | rotating rotation =>
      have hperm : rotation.plan.Perm rotation.endpoints := Rotation.Fits.plan_perm hfits
      rw [plan, hperm.mem_iff, h.2]
      simp [Serves]
  | datacenterAware home rotations =>
      rw [mem_plan_datacenterAware hfits]
      simp only [(h _).2, Serves, Option.isSome_iff_exists]
      constructor
      · rintro ⟨datacenter, peer, hup, hplace⟩
        exact ⟨peer, hup, datacenter, hplace⟩
      · rintro ⟨peer, hup, datacenter, hplace⟩
        exact ⟨datacenter, peer, hup, hplace⟩
  | tokenAware child ih =>
      have hpreferred : ∀ other ∈ child.preferred s (request.naturalReplicas s),
          other ∈ child.plan request s := by
        intro other hother
        exact (ih h hfits other).mpr (mem_preferred hother)
      rw [mem_plan_tokenAware hpreferred]
      exact ih h hfits address

theorem Lists.nodup_plan {policy : RoutingPolicy} {s : Snapshot} (h : policy.Lists s.up?)
    (hfits : policy.CountersFit) (request : RoutingRequest) :
    (policy.plan request s).Nodup := by
  induction policy with
  | rotating rotation =>
      have hperm : rotation.plan.Perm rotation.endpoints := Rotation.Fits.plan_perm hfits
      exact hperm.nodup_iff.mpr h.1
  | datacenterAware home rotations => exact h.nodup_plan_datacenterAware hfits request s
  | tokenAware child ih => exact nodup_plan_tokenAware (ih h hfits)

theorem Lists.plansWell {policy : RoutingPolicy} {s : Snapshot} (h : policy.Lists s.up?)
    (hfits : policy.CountersFit) (request : RoutingRequest) : policy.PlansWell request s where
  nodup := h.nodup_plan hfits request
  mem_iff address := by
    rw [h.mem_plan_iff hfits]
    simp only [Snapshot.up?_eq_some_iff, and_assoc]
  home_first home rotations heq := by
    subst heq
    exact h.pairwise_plan_datacenterAware hfits request
  replicas_first child heq := by
    subst heq
    exact plan_tokenAware child request s

end RoutingPolicy

namespace ClusterView

/-- Whatever happens to a cluster, a policy that had no endpoints at first plans well, with any
counters that do not wrap around meanwhile. -/
theorem plansWell_applyAll {policy : RoutingPolicy} (h : policy.HasNoEndpoints)
    (firstCounter : String → Nat) (changes : List ClusterChange)
    (counters : Option String → UInt64) (request : RoutingRequest)
    (hfits : ((({ routing := policy, firstCounter } : ClusterView).applyAll changes).routing.recount
      counters).CountersFit) :
    ((({ routing := policy, firstCounter } : ClusterView).applyAll changes).routing.recount
      counters).PlansWell request
        (({ routing := policy, firstCounter } : ClusterView).applyAll changes).snapshot := by
  have hstep := (inStep_of_hasNoEndpoints h firstCounter).applyAll changes
  exact (hstep.lists.recount counters).plansWell hfits request

/-- Three nodes of two datacenters own tokens, and one of the home datacenter goes down. -/
def outage : List ClusterChange :=
  let peer : Peer := { address := .ofOctets 10 0 0 1, datacenter := some "dc1", rack := some "r1" }
  let peers : List Peer :=
    [{ peer with tokens := [.murmur3 10] },
      { peer with
        address := .ofOctets 10 0 0 2
        datacenter := some "dc2"
        tokens := [.murmur3 20] },
      { peer with address := .ofOctets 10 0 0 3, tokens := [.murmur3 30] }]
  let keyspace : Keyspace :=
    { name := "ks", strategy := .perDatacenter ((Assoc.empty.insert "dc1" 2).insert "dc2" 1) }
  [.applyMetadata ⟨some "cluster", .murmur3, peers, [keyspace]⟩, .markDown (.ofOctets 10 0 0 3)]

theorem plansWell_applyAll_outage :
    (RoutingPolicy.tokenAware (.preferring "dc1" 0)).HasNoEndpoints ∧
      ((({ routing := .tokenAware (.preferring "dc1" 0), firstCounter := fun _ => 0 } :
        ClusterView).applyAll outage).routing.recount fun _ => 7).CountersFit ∧
      ((({ routing := .tokenAware (.preferring "dc1" 0), firstCounter := fun _ => 0 } :
        ClusterView).applyAll outage).routing.recount fun _ => 7).PlansWell
          { keyspace := some "ks", routingKey := some [1, 2, 3] }
        (({ routing := .tokenAware (.preferring "dc1" 0), firstCounter := fun _ => 0 } :
          ClusterView).applyAll outage).snapshot := by
  have hempty := RoutingPolicy.hasNoEndpoints_preferring "dc1" 0
  have hfits : ((({ routing := .tokenAware (.preferring "dc1" 0), firstCounter := fun _ => 0 } :
      ClusterView).applyAll outage).routing.recount fun _ => 7).CountersFit := by
    decide +kernel
  refine ⟨hempty, hfits, ?_⟩
  exact @plansWell_applyAll (.tokenAware (.preferring "dc1" 0)) hempty (fun _ => 0) outage
    (fun _ => 7) { keyspace := some "ks", routingKey := some [1, 2, 3] } hfits

end ClusterView

end CqlClient
