import CqlClient.Proofs.Routing.Plans
import CqlClient.Session

namespace CqlClient

section Leading

variable {α : Type} [DecidableEq α] {values : List α}

theorem filter_notMem_eq_nil {first second : List α} (h : first ⊆ second) :
    first.filter (· ∉ second) = [] := by
  rw [List.filter_eq_nil_iff]
  intro value hvalue
  simp [h hvalue]

theorem filter_notMem_of_subset {first second : List α} (h : first ⊆ second) :
    (first ++ values.filter (· ∉ first)).filter (· ∉ second) = values.filter (· ∉ second) := by
  rw [List.filter_append, filter_notMem_eq_nil h, List.nil_append, List.filter_filter]
  refine List.filter_congr fun value _ => ?_
  by_cases hvalue : value ∈ first
  · simp [hvalue, h hvalue]
  · simp [hvalue]

theorem append_filter_eq_of_length_le {first second : List α}
    (hle : first.length ≤ second.length)
    (hbegins : second <+: first ++ values.filter (· ∉ first))
    (hlength : (first ++ values.filter (· ∉ first)).length =
      (second ++ values.filter (· ∉ second)).length) :
    first ++ values.filter (· ∉ first) = second ++ values.filter (· ∉ second) := by
  have hsubset := (List.prefix_of_prefix_length_le (List.prefix_append _ _) hbegins hle).subset
  obtain ⟨rest, hrest⟩ := hbegins
  have hothers : values.filter (· ∉ second) = rest.filter (· ∉ second) := by
    rw [← filter_notMem_of_subset hsubset, ← hrest, List.filter_append,
      filter_notMem_eq_nil (List.Subset.refl second), List.nil_append]
  rw [hothers, ← hrest] at hlength ⊢
  -- Nothing of the rest is left out, or the second list would be shorter.
  have hkept : rest.filter (· ∉ second) = rest := by
    rw [List.filter_eq_self, ← List.length_filter_eq_length_iff]
    simp only [List.length_append] at hlength
    omega
  rw [hkept]

/-- Two ways to put some values first agree exactly if each of the results begins with what the
other one puts first, and they are equally long. -/
theorem append_filter_eq_iff {first second : List α} :
    first ++ values.filter (· ∉ first) = second ++ values.filter (· ∉ second) ↔
      first <+: second ++ values.filter (· ∉ second) ∧
        second <+: first ++ values.filter (· ∉ first) ∧
        (first ++ values.filter (· ∉ first)).length =
          (second ++ values.filter (· ∉ second)).length := by
  constructor
  · intro h
    exact ⟨h ▸ List.prefix_append _ _, h ▸ List.prefix_append _ _, congrArg List.length h⟩
  · rintro ⟨hfirst, hsecond, hlength⟩
    rcases Nat.le_total first.length second.length with hle | hle
    · exact append_filter_eq_of_length_le hle hsecond hlength
    · exact (append_filter_eq_of_length_le hle hfirst hlength.symm).symm

end Leading

section Case

theorem isKeyspaceCharacter_toLower (c : Char) :
    isKeyspaceCharacter c.toLower = isKeyspaceCharacter c := by
  by_cases hupper : c.val ≥ 'A'.val ∧ c.val ≤ 'Z'.val
  · have hletter : c.isUpper = true := decide_eq_true hupper
    have hlower : c.toLower.isLower = true := by
      have hval : c.toLower.val = c.val + ('a'.val - 'A'.val) := congrArg Char.val (dif_pos hupper)
      change (decide (c.toLower.val ≥ 'a'.val) && decide (c.toLower.val ≤ 'z'.val)) = true
      rw [hval]
      simp only [Bool.and_eq_true, decide_eq_true_eq, UInt32.le_iff_toNat_le, ge_iff_le,
        UInt32.toNat_add, UInt32.toNat_sub] at hupper ⊢
      have hfirst : 'A'.val.toNat = 65 := rfl
      have hlast : 'Z'.val.toNat = 90 := rfl
      have hfirstLower : 'a'.val.toNat = 97 := rfl
      have hlastLower : 'z'.val.toNat = 122 := rfl
      omega
    change ((c.toLower.isUpper || c.toLower.isLower) || c.toLower.isDigit || c.toLower == '_') =
      ((c.isUpper || c.isLower) || c.isDigit || c == '_')
    simp only [hletter, hlower, Bool.or_true, Bool.true_or]
  · have hsame : c.toLower = c := dif_neg hupper
    rw [hsame]

theorem toList_toLower (text : String) : text.toLower.toList = text.toList.map Char.toLower :=
  String.toList_map

theorem keyspaceNameFault?_eq_none_iff {name : String} :
    keyspaceNameFault? name = none ↔
      name.toLower.toList ≠ [] ∧ name.toLower.toList.length ≤ maxKeyspaceNameLength ∧
        ∀ c ∈ name.toLower.toList, isKeyspaceCharacter c := by
  have hempty : name.isEmpty ↔ name.toList = [] := by
    rw [String.isEmpty_iff, String.toList_eq_nil_iff]
  simp only [toList_toLower, List.length_map, ne_eq, List.map_eq_nil_iff, List.forall_mem_map,
    isKeyspaceCharacter_toLower, String.length_toList, ← hempty]
  rw [keyspaceNameFault?]
  split_ifs with hnone hlong
  · simp [hnone]
  · simp [hnone, Nat.not_le.mpr hlong]
  · simp [hnone, Nat.le_of_not_lt hlong]

theorem KeyspaceName.text_of_ofText {text : String} {isCaseSensitive : Bool} {name : KeyspaceName}
    (h : KeyspaceName.ofText text isCaseSensitive = .ok name) : name.text = text := by
  rw [ofText] at h
  split at h
  · cases h
    rfl
  · cases h

theorem KeyspaceName.exists_ofText_iff {text : String} {isCaseSensitive : Bool} :
    (∃ name, KeyspaceName.ofText text isCaseSensitive = .ok name) ↔
      keyspaceNameFault? text = none := by
  rw [ofText]
  split
  · next hvalid => simp [hvalid]
  · next fault hfault => simp [hfault]

end Case

theorem RoutingRequest.naturalReplicas_of_unknown {request : RoutingRequest} {s : Snapshot}
    {spelling : String} (h : s.keyspace? spelling = none) :
    ({ request with keyspace := some spelling } : RoutingRequest).naturalReplicas s = [] := by
  rw [naturalReplicas]
  cases request.routingKey <;> simp only [Snapshot.replicas, h]

namespace RoutingPolicy

/-- The policy that a token-aware one asks for the order of the other endpoints. -/
def base : RoutingPolicy → RoutingPolicy
  | .tokenAware child => child.base
  | .rotating rotation => .rotating rotation
  | .datacenterAware home rotations => .datacenterAware home rotations

/-- What a policy puts first: a token-aware one, the replicas of the partition that are up and
local. -/
def leading (request : RoutingRequest) (s : Snapshot) : RoutingPolicy → List IpAddress
  | .tokenAware child => child.preferred s (request.naturalReplicas s)
  | .rotating _ => []
  | .datacenterAware _ _ => []

theorem leading_eq_nil {request : RoutingRequest} {s : Snapshot}
    (h : request.naturalReplicas s = []) (policy : RoutingPolicy) :
    policy.leading request s = [] := by
  cases policy with
  | tokenAware child => rw [leading, h]; rfl
  | rotating rotation => rfl
  | datacenterAware home rotations => rfl

theorem plan_base (policy : RoutingPolicy) (request other : RoutingRequest) (s : Snapshot) :
    policy.base.plan request s = policy.base.plan other s := by
  induction policy with
  | tokenAware child ih => exact ih
  | rotating rotation => rfl
  | datacenterAware home rotations => rfl

theorem leading_eq_of_naturalReplicas_eq {request other : RoutingRequest} {s : Snapshot}
    (h : request.naturalReplicas s = other.naturalReplicas s) (policy : RoutingPolicy) :
    policy.leading request s = policy.leading other s := by
  cases policy with
  | tokenAware child => rw [leading, leading, h]
  | rotating rotation => rfl
  | datacenterAware home rotations => rfl

theorem mem_preferred_of_mem_leading {policy : RoutingPolicy} {request : RoutingRequest}
    {s : Snapshot} {address : IpAddress} (h : address ∈ policy.leading request s) :
    address ∈ policy.preferred s (request.naturalReplicas s) := by
  cases policy with
  | tokenAware child => exact h
  | rotating rotation => exact absurd h List.not_mem_nil
  | datacenterAware home rotations => exact absurd h List.not_mem_nil

/-- A plan is what the policy puts first, and the others in their order. -/
theorem plan_eq_leading_append (policy : RoutingPolicy) (request : RoutingRequest)
    (s : Snapshot) :
    policy.plan request s = policy.leading request s ++
      (policy.base.plan request s).filter (· ∉ policy.leading request s) := by
  induction policy with
  | tokenAware child ih =>
      rw [plan_tokenAware]
      by_cases hnone : request.naturalReplicas s = []
      · rw [if_pos hnone, ih, leading_eq_nil hnone, leading_eq_nil hnone]
        rfl
      · -- What the child puts first stands among the replicas that are put before that.
        rw [if_neg hnone, ih, leading, base,
          filter_notMem_of_subset fun _ => mem_preferred_of_mem_leading]
  | rotating rotation => simp [leading, base]
  | datacenterAware home rotations => simp [leading, base]

theorem plan_eq_of_naturalReplicas_eq {request other : RoutingRequest} {s : Snapshot}
    (h : request.naturalReplicas s = other.naturalReplicas s) (policy : RoutingPolicy) :
    policy.plan request s = policy.plan other s := by
  rw [plan_eq_leading_append policy request, plan_eq_leading_append policy other,
    leading_eq_of_naturalReplicas_eq h, policy.plan_base request other]

end RoutingPolicy

namespace ClusterView

/-- What a plan begins with when the keyspace of a request is spelled in a certain way. -/
def leading (view : ClusterView) (request : RoutingRequest) (spelling : String) : List IpAddress :=
  view.routing.leading { request with keyspace := some spelling } view.snapshot

theorem plan_eq_iff (view : ClusterView) (request : RoutingRequest) (first second : String) :
    view.plan { request with keyspace := some first } =
        view.plan { request with keyspace := some second } ↔
      view.leading request first <+: view.plan { request with keyspace := some second } ∧
        view.leading request second <+: view.plan { request with keyspace := some first } ∧
        (view.plan { request with keyspace := some first }).length =
          (view.plan { request with keyspace := some second }).length := by
  have hfirst := view.routing.plan_eq_leading_append { request with keyspace := some first }
    view.snapshot
  have hsecond := view.routing.plan_eq_leading_append { request with keyspace := some second }
    view.snapshot
  rw [view.routing.plan_base _ request] at hfirst hsecond
  rw [plan, plan, hfirst, hsecond]
  exact append_filter_eq_iff

theorem plan_perm {view : ClusterView} (h : view.InStep) (hfits : view.routing.CountersFit)
    (request other : RoutingRequest) : (view.plan request).Perm (view.plan other) := by
  rw [plan, plan, List.perm_ext_iff_of_nodup (h.lists.nodup_plan hfits request)
    (h.lists.nodup_plan hfits other)]
  intro address
  rw [h.lists.mem_plan_iff hfits, h.lists.mem_plan_iff hfits]

end ClusterView

namespace Session

theorem exists_ofKeyspace_iff {spelling : String} :
    (∃ session, ofKeyspace (some spelling) = .ok session) ↔ keyspaceNameFault? spelling = none := by
  rw [← KeyspaceName.exists_ofText_iff, ofKeyspace]
  cases KeyspaceName.ofText spelling false with
  | ok name => exact iff_of_true ⟨_, rfl⟩ ⟨_, rfl⟩
  | error fault => exact iff_of_false nofun nofun

theorem candidates_of_ofKeyspace {spelling : String} {session : Session}
    (h : ofKeyspace (some spelling) = .ok session) (view : ClusterView) {request : RoutingRequest}
    (hnone : request.keyspace = none) :
    session.candidates view request = view.plan { request with keyspace := some spelling } := by
  rw [ofKeyspace] at h
  cases hname : KeyspaceName.ofText spelling false with
  | error fault => rw [hname] at h; cases h
  | ok name =>
      rw [hname] at h
      cases h
      rw [candidates, routing, hnone, ← KeyspaceName.text_of_ofText hname]
      rfl

/-- What two spellings of the keyspace of a session have in common, and what they have not. -/
structure SpelledAlike (first second : String) : Prop where
  /-- There is a session for both of them or for neither. -/
  exists_iff : (∃ session, ofKeyspace (some first) = .ok session) ↔
    ∃ session, ofKeyspace (some second) = .ok session
  /-- Whatever keyspace a node has switched to, it is right under both of them or under neither. -/
  isNamedBy_eq : ∀ name other, KeyspaceName.ofText first false = .ok name →
    KeyspaceName.ofText second false = .ok other → ∀ answer,
      name.isNamedBy answer = other.isNamedBy answer
  /-- The plans agree exactly if each of them begins with the replicas that the other one puts
  first, and they are equally long. -/
  candidates_eq_iff : ∀ session other, ofKeyspace (some first) = .ok session →
    ofKeyspace (some second) = .ok other → ∀ (view : ClusterView) (request : RoutingRequest),
      request.keyspace = none →
        (session.candidates view request = other.candidates view request ↔
          view.leading request first <+: other.candidates view request ∧
            view.leading request second <+: session.candidates view request ∧
            (session.candidates view request).length = (other.candidates view request).length)
  /-- In the states of a cluster the plans name the same endpoints. -/
  candidates_perm : ∀ session other, ofKeyspace (some first) = .ok session →
    ofKeyspace (some second) = .ok other → ∀ (view : ClusterView) (request : RoutingRequest),
      view.InStep → view.routing.CountersFit →
        (session.candidates view request).Perm (other.candidates view request)
  /-- A spelling that no known keyspace has is as good as no keyspace. -/
  candidates_of_unknown : ∀ session, ofKeyspace (some first) = .ok session →
    ∀ (view : ClusterView) (request : RoutingRequest), request.keyspace = none →
      view.snapshot.keyspace? first = none →
        session.candidates view request = view.plan request

theorem spelledAlike {first second : String} (hcase : first.toLower = second.toLower) :
    SpelledAlike first second where
  exists_iff := by
    rw [exists_ofKeyspace_iff, exists_ofKeyspace_iff, keyspaceNameFault?_eq_none_iff, hcase,
      ← keyspaceNameFault?_eq_none_iff]
  isNamedBy_eq name other hname hother answer := by
    rw [KeyspaceName.isNamedBy, KeyspaceName.isNamedBy, KeyspaceName.text_of_ofText hname,
      KeyspaceName.text_of_ofText hother, hcase]
  candidates_eq_iff session other hsession hother view request hnone := by
    rw [candidates_of_ofKeyspace hsession view hnone, candidates_of_ofKeyspace hother view hnone]
    exact view.plan_eq_iff request first second
  candidates_perm _ _ _ _ view request hstep hfits := ClusterView.plan_perm hstep hfits _ _
  candidates_of_unknown session hsession view request hnone hunknown := by
    rw [candidates_of_ofKeyspace hsession view hnone]
    refine RoutingPolicy.plan_eq_of_naturalReplicas_eq ?_ view.routing
    rw [RoutingRequest.naturalReplicas_of_unknown hunknown]
    simp only [RoutingRequest.naturalReplicas, hnone]

/-- The keyspace "ks" has one replica, on the second node. -/
def lowerCase : ClusterView :=
  let peers : List Peer :=
    [{ address := .ofOctets 10 0 0 1 },
      { address := .ofOctets 10 0 0 2, tokens := [.murmur3 10] }]
  let keyspace : Keyspace := { name := "ks", strategy := .simple 1 }
  ({ routing := .tokenAware (.roundRobin 0), firstCounter := fun _ => 0 } : ClusterView).applyAll
    [.applyMetadata ⟨some "cluster", .murmur3, peers, [keyspace]⟩]

theorem toLower_ks : "ks".toLower = "ks" ∧ "KS".toLower = "ks" := by
  simp only [← String.toList_inj, toList_toLower]
  decide

theorem spelledAlike_ks : "ks".toLower = "KS".toLower ∧ SpelledAlike "ks" "KS" := by
  have hcase : "ks".toLower = "KS".toLower := toLower_ks.1.trans toLower_ks.2.symm
  exact ⟨hcase, spelledAlike hcase⟩

/-- The keyspace, spelled as the nodes do. -/
def small : KeyspaceName := ⟨"ks", false, by decide +kernel⟩

/-- The keyspace in capital letters. -/
def capital : KeyspaceName := ⟨"KS", false, by decide +kernel⟩

/-- Both spellings are right where a node has switched to "ks", but only the plan for the first one
begins with the replica. -/
theorem not_candidates_eq :
    small.isNamedBy "ks" ∧ capital.isNamedBy "ks" ∧
      Session.candidates ⟨some small⟩ lowerCase { routingKey := some [1, 2, 3] } =
        [.ofOctets 10 0 0 2, .ofOctets 10 0 0 1] ∧
      Session.candidates ⟨some capital⟩ lowerCase { routingKey := some [1, 2, 3] } =
        [.ofOctets 10 0 0 1, .ofOctets 10 0 0 2] ∧
      ¬ ∀ (view : ClusterView) (request : RoutingRequest) (first second : KeyspaceName)
          (answer : String),
        request.keyspace = none → request.routingKey.isSome →
        first.isCaseSensitive = false → second.isCaseSensitive = false →
        first.text.toLower = second.text.toLower →
        first.isNamedBy answer → second.isNamedBy answer →
          Session.candidates ⟨some first⟩ view request =
            Session.candidates ⟨some second⟩ view request := by
  have hsmall : Session.candidates ⟨some small⟩ lowerCase { routingKey := some [1, 2, 3] } =
      [.ofOctets 10 0 0 2, .ofOctets 10 0 0 1] := by
    decide +kernel
  have hcapital : Session.candidates ⟨some capital⟩ lowerCase { routingKey := some [1, 2, 3] } =
      [.ofOctets 10 0 0 1, .ofOctets 10 0 0 2] := by
    decide +kernel
  have hcase : small.text.toLower = capital.text.toLower := toLower_ks.1.trans toLower_ks.2.symm
  have hnamed : small.isNamedBy "ks" ∧ capital.isNamedBy "ks" := by
    rw [KeyspaceName.isNamedBy, KeyspaceName.isNamedBy, ← hcase]
    exact ⟨beq_self_eq_true _, beq_self_eq_true _⟩
  refine ⟨hnamed.1, hnamed.2, hsmall, hcapital, fun h => ?_⟩
  have hsame := h lowerCase { routingKey := some [1, 2, 3] } small capital "ks" rfl rfl rfl rfl
    hcase hnamed.1 hnamed.2
  rw [hsmall, hcapital] at hsame
  exact absurd hsame (by decide)

end Session

end CqlClient
