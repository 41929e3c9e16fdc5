import CqlClient.Proofs.Routing.Plans

namespace CqlClient

namespace RoutingPolicy

variable {policy : RoutingPolicy} {address : IpAddress} {peer other : Peer} {seed : Nat}

/-- Whether a policy chooses between an endpoint and others. -/
def Offers : RoutingPolicy → IpAddress → Prop
  | .rotating rotation, address => address ∈ rotation.endpoints
  | .datacenterAware _ rotations, address =>
      ∃ datacenter, address ∈ endpointsIn rotations datacenter
  | .tokenAware child, address => child.Offers address

/-- Whether a policy chooses between all peers that are up, but for those that it cannot choose at
all. -/
def Covers (policy : RoutingPolicy) (up : IpAddress → Option Peer) : Prop :=
  ∀ address peer, up address = some peer → policy.Serves peer → policy.Offers address

theorem serves_of_home?_eq_none (h : policy.home? = none) (peer : Peer) : policy.Serves peer := by
  induction policy with
  | rotating rotation => trivial
  | datacenterAware home rotations => exact nomatch h
  | tokenAware child ih => exact ih h

theorem serves_addEndpoint : (policy.addEndpoint seed other).Serves peer ↔ policy.Serves peer := by
  induction policy with
  | rotating rotation => rfl
  | datacenterAware home rotations =>
      rw [addEndpoint]
      split <;> rfl
  | tokenAware child ih => exact ih

theorem serves_removeEndpoint : (policy.removeEndpoint other).Serves peer ↔ policy.Serves peer := by
  induction policy with
  | rotating rotation => rfl
  | datacenterAware home rotations => rfl
  | tokenAware child ih => exact ih

theorem serves_afterPlan : policy.afterPlan.Serves peer ↔ policy.Serves peer := by
  induction policy with
  | rotating rotation => rfl
  | datacenterAware home rotations => rfl
  | tokenAware child ih => exact ih

theorem offers_addEndpoint :
    (policy.addEndpoint seed peer).Offers address ↔
      address = peer.address ∧ policy.Serves peer ∨ policy.Offers address := by
  induction policy with
  | rotating rotation => simp [addEndpoint, Offers, Serves, Rotation.mem_endpoints_add]
  | datacenterAware home rotations =>
      cases hdatacenter : peer.datacenter with
      | none => simp [addEndpoint, Serves, hdatacenter]
      | some place =>
          simp only [addEndpoint, hdatacenter, Offers, Serves, endpointsIn_addEndpoint,
            Option.isSome_some, and_true]
          constructor
          · rintro ⟨datacenter, hmem⟩
            split at hmem
            · exact (Rotation.mem_endpoints_add.mp hmem).imp_right fun hold => ⟨place, hold⟩
            · exact .inr ⟨datacenter, hmem⟩
          · rintro (rfl | ⟨datacenter, hmem⟩)
            · refine ⟨place, ?_⟩
              rw [if_pos rfl]
              exact Rotation.mem_endpoints_add.mpr (.inl rfl)
            · refine ⟨datacenter, ?_⟩
              split
              · next heq => exact Rotation.mem_endpoints_add.mpr (.inr (heq ▸ hmem))
              · exact hmem
  | tokenAware child ih => exact ih

theorem offers_removeEndpoint :
    (policy.removeEndpoint peer).Offers address ↔
      policy.Offers address ∧ address ≠ peer.address := by
  induction policy with
  | rotating rotation => exact Rotation.mem_endpoints_remove
  | datacenterAware home rotations =>
      simp only [removeEndpoint, Offers, endpointsIn_mapValues_remove, List.mem_filter,
        decide_eq_true_eq, exists_and_right]
  | tokenAware child ih => exact ih

theorem endpointsIn_mapValues_next (rotations : Assoc String Rotation) (datacenter : String) :
    endpointsIn (mapValues Rotation.next rotations) datacenter =
      endpointsIn rotations datacenter := by
  rw [endpointsIn, get?_mapValues, endpointsIn]
  cases rotations.get? datacenter <;> rfl

theorem offers_afterPlan : policy.afterPlan.Offers address ↔ policy.Offers address := by
  induction policy with
  | rotating rotation => rfl
  | datacenterAware home rotations =>
      simp only [afterPlan, Offers, endpointsIn_mapValues_next]
  | tokenAware child ih => exact ih

theorem covers_none (policy : RoutingPolicy) : policy.Covers fun _ => none :=
  fun _ _ hup => nomatch hup

theorem isKept_covers : IsKept Covers where
  removeEndpoint h peer address found hfound hserves := by
    rw [Function.update_apply] at hfound
    split at hfound
    · exact nomatch hfound
    · next hne =>
        have hserves := serves_removeEndpoint.mp hserves
        exact offers_removeEndpoint.mpr ⟨h address found hfound hserves, hne⟩
  addEndpoint h seed peer _ address found hfound hserves := by
    have hserves := serves_addEndpoint.mp hserves
    rw [Function.update_apply] at hfound
    split at hfound
    · next heq =>
        obtain rfl := Option.some.inj hfound
        exact offers_addEndpoint.mpr (.inl ⟨heq, hserves⟩)
    · exact offers_addEndpoint.mpr (.inr (h address found hfound hserves))

theorem Covers.afterPlan {up : IpAddress → Option Peer} (h : policy.Covers up) :
    policy.afterPlan.Covers up :=
  fun address peer hup hserves =>
    offers_afterPlan.mpr (h address peer hup (serves_afterPlan.mp hserves))

theorem Offers.mem_plan (h : policy.Offers address) (hfits : policy.CountersFit)
    (request : RoutingRequest) (s : Snapshot) : address ∈ policy.plan request s := by
  induction policy with
  | rotating rotation => exact (Rotation.Fits.plan_perm hfits).mem_iff.mpr h
  | datacenterAware home rotations => exact (mem_plan_datacenterAware hfits request s address).mpr h
  | tokenAware child ih =>
      have hchild := ih h hfits
      rw [plan_tokenAware]
      split
      · exact hchild
      · by_cases hpreferred : address ∈ child.preferred s (request.naturalReplicas s)
        · exact List.mem_append_left _ hpreferred
        · exact List.mem_append_right _ (List.mem_filter.mpr ⟨hchild, by simpa using hpreferred⟩)

end RoutingPolicy

end CqlClient
