import CqlClient.Proofs.Placement.HistoryIndependence
import CqlClient.Proofs.Placement.Racks
import Mathlib.Data.List.Infix

/-!
Datacenters that replicas are asked of do not influence each other: each takes what it would take if
its own nodes were all that is met. The count of the quotas that are not met ends the walk only when
nothing more would be taken, and never falls below zero.
-/

namespace CqlClient

namespace Quota

variable {rackOf : IpAddress → String} {quota : Quota} {taken : List IpAddress}

/-- Meet a node of a datacenter which is asked on its own and has given some nodes. -/
def meet (rackOf : IpAddress → String) (state : Quota × List IpAddress) (endpoint : IpAddress) :
    Quota × List IpAddress :=
  if state.1.isMet ∨ endpoint ∈ state.2 then state
  else
    let (quota, taken) := state.1.offer (rackOf endpoint) endpoint
    (quota, state.2 ++ taken)

theorem prefix_meet (state : Quota × List IpAddress) (endpoint : IpAddress) :
    state.2 <+: (meet rackOf state endpoint).2 := by
  rw [meet]
  split
  · exact List.prefix_rfl
  · exact List.prefix_append _ _

/-- A datacenter of which more is wanted takes the same nodes, until what was wanted is met. -/
inductive Precedes : Quota × List IpAddress → Quota × List IpAddress → Prop
  | level {quota : Quota} {taken : List IpAddress} {wanted : Nat} (h : quota.wanted ≤ wanted) :
      Precedes (quota, taken) ({ quota with wanted }, taken)
  | ahead {state other : Quota × List IpAddress} (hmet : state.1.isMet = true)
      (hbegins : state.2 <+: other.2) : Precedes state other

theorem Precedes.isPrefix {state other : Quota × List IpAddress} (h : Precedes state other) :
    state.2 <+: other.2 := by
  cases h with
  | level h => exact List.prefix_rfl
  | ahead hmet hbegins => exact hbegins

theorem precedes_offer (quota : Quota) (taken : List IpAddress) {wanted : Nat}
    (h : quota.wanted ≤ wanted) (rack : String) (endpoint : IpAddress) :
    Precedes ((quota.offer rack endpoint).1, taken ++ (quota.offer rack endpoint).2)
      (({ quota with wanted }.offer rack endpoint).1,
        taken ++ ({ quota with wanted }.offer rack endpoint).2) := by
  simp only [offer]
  split_ifs
  · exact .level h
  · exact .level h
  · exact .level h
  · by_cases hall : quota.skipped.length ≤ quota.wanted - (quota.found + 1)
    · rw [List.take_of_length_le hall, List.take_of_length_le (by omega)]
      exact .level h
    · -- Not all nodes passed over are taken, so this quota is met.
      refine .ahead ?_ ?_
      · simp only [isMet, List.length_take, decide_eq_true_eq]
        omega
      · refine List.prefix_append_right_inj _ |>.mpr ?_
        exact List.cons_prefix_cons.mpr ⟨rfl, List.take_prefix_take_left (by omega)⟩
  · exact .level h

theorem Precedes.meet {state other : Quota × List IpAddress} (h : Precedes state other)
    (endpoint : IpAddress) :
    Precedes (Quota.meet rackOf state endpoint) (Quota.meet rackOf other endpoint) := by
  by_cases hmet : state.1.isMet = true
  · have hstays : Quota.meet rackOf state endpoint = state := if_pos (.inl hmet)
    rw [hstays]
    exact .ahead hmet (h.isPrefix.trans (prefix_meet other endpoint))
  · cases h with
    | ahead hmet' hbegins => exact absurd hmet' hmet
    | @level quota taken wanted h =>
        have hfound : quota.found < quota.wanted := isMet_eq_false_iff.mp (by simpa using hmet)
        have hopen : { quota with wanted }.isMet = false :=
          isMet_eq_false_iff.mpr (Nat.lt_of_lt_of_le hfound h)
        by_cases hknown : endpoint ∈ taken
        · rw [Quota.meet, Quota.meet, if_pos (.inr hknown), if_pos (.inr hknown)]
          exact .level h
        · rw [Quota.meet, Quota.meet, if_neg (by simp [hmet, hknown]),
            if_neg (by simp [hopen, hknown])]
          exact precedes_offer quota taken h (rackOf endpoint) endpoint

theorem Precedes.walk {state other : Quota × List IpAddress} (h : Precedes state other)
    (endpoints : List IpAddress) :
    Precedes (endpoints.foldl (Quota.meet rackOf) state)
      (endpoints.foldl (Quota.meet rackOf) other) := by
  induction endpoints generalizing state other with
  | nil => exact h
  | cons endpoint rest ih => exact ih (h.meet endpoint)

end Quota

namespace Spread

variable {s : Snapshot} {factors : Assoc String Nat} {spread : Spread} {seen : List IpAddress}
  {datacenter : String} {factor : Nat} {state : Quota × List IpAddress}

/-- Whether a datacenter stands in a common walk as it stands on its own. -/
structure Tracks (s : Snapshot) (spread : Spread) (datacenter : String)
    (state : Quota × List IpAddress) : Prop where
  quota : spread.quotas.get? datacenter = some state.1
  taken : spread.replicas.filter (s.isIn datacenter) = state.2

theorem Tracks.meet (h : spread.Tracks s datacenter state) (hsound : spread.Sound s factors seen)
    {endpoint : IpAddress} (hin : s.isIn datacenter endpoint = true) :
    (Spread.step s spread endpoint).Tracks s datacenter (Quota.meet s.rackOf state endpoint) := by
  have hmem : endpoint ∈ spread.replicas ↔ endpoint ∈ state.2 := by
    rw [← h.taken, List.mem_filter, and_iff_left hin]
  by_cases hidle : state.1.isMet = true ∨ endpoint ∈ state.2
  · rw [Quota.meet, if_pos hidle, step_of_unwanted]
    · exact h
    · intro home quota hhome hquota
      obtain rfl := Snapshot.isIn_unique hin hhome
      rw [h.quota, Option.some.injEq] at hquota
      rwa [← hquota, hmem]
  · rw [Quota.meet, if_neg hidle]
    rw [not_or, Bool.not_eq_true] at hidle
    rw [step_of_wanted hin h.quota hidle.1 (mt hmem.mp hidle.2)
      (hsound.unmet_ne_zero h.quota hidle.1)]
    refine ⟨by simp, ?_⟩
    have hoffered : ∀ address ∈ (state.1.offer (s.rackOf endpoint) endpoint).2,
        s.isIn datacenter address = true := fun _ => hsound.isIn_of_mem_offer hin h.quota
    rw [replicas_accept, List.filter_append, h.taken, List.filter_eq_self.mpr hoffered]

theorem Tracks.pass (h : spread.Tracks s datacenter state) (hsound : spread.Sound s factors seen)
    {endpoint : IpAddress} (hout : ¬ s.isIn datacenter endpoint = true) :
    (Spread.step s spread endpoint).Tracks s datacenter state := by
  rcases step_eq_or s spread endpoint with hsame | ⟨home, quota, hhome, hquota, hstep⟩
  · rwa [hsame]
  · have hne : datacenter ≠ home := fun heq => hout (heq ▸ hhome)
    have hnone : ∀ address ∈ (quota.offer (s.rackOf endpoint) endpoint).2,
        ¬ s.isIn datacenter address = true := fun address haddress hin =>
      hne (Snapshot.isIn_unique hin (hsound.isIn_of_mem_offer hhome hquota haddress))
    rw [hstep]
    constructor
    · rw [get?_accept, if_neg hne, h.quota]
    · rw [replicas_accept, List.filter_append, List.filter_eq_nil_iff.mpr hnone, List.append_nil,
        h.taken]

theorem Tracks.walk (h : spread.Tracks s datacenter state) (hsound : spread.Sound s factors seen)
    (endpoints : List IpAddress) :
    (endpoints.foldl (Spread.step s) spread).Tracks s datacenter
      ((endpoints.filter (s.isIn datacenter)).foldl (Quota.meet s.rackOf) state) := by
  induction endpoints generalizing spread seen state with
  | nil => exact h
  | cons endpoint rest ih =>
      rw [List.foldl_cons]
      by_cases hin : s.isIn datacenter endpoint = true
      · rw [List.filter_cons_of_pos hin]
        exact ih (h.meet hsound hin) (hsound.step endpoint)
      · rw [List.filter_cons_of_neg hin]
        exact ih (h.pass hsound hin) (hsound.step endpoint)

theorem tracks_start (hfactor : factors.get? datacenter = some factor) :
    (start s factors).Tracks s datacenter (Quota.ofDatacenter s datacenter factor, []) where
  quota := by
    rw [start, Assoc.get?_ofList_map factors (Quota.ofDatacenter s), hfactor, Option.map_some]
  taken := rfl

end Spread

section Separately

variable {s : Snapshot} {factors : Assoc String Nat} {datacenter : String} {factor : Nat}

theorem filter_spreadReplicas (hfactor : factors.get? datacenter = some factor)
    (walk : List IpAddress) :
    (spreadReplicas s factors walk).filter (s.isIn datacenter) =
      ((walk.filter (s.isIn datacenter)).foldl (Quota.meet s.rackOf)
        (Quota.ofDatacenter s datacenter factor, [])).2 :=
  ((Spread.tracks_start hfactor).walk (Spread.sound_start s factors) walk).taken

theorem isIn_of_mem_spreadReplicas {walk : List IpAddress} {address : IpAddress}
    (h : address ∈ spreadReplicas s (Assoc.empty.insert datacenter factor) walk) :
    s.isIn datacenter address = true := by
  have hsound := (Spread.sound_start s (Assoc.empty.insert datacenter factor)).walk walk
  obtain ⟨home, hin, hsome⟩ := hsound.placed address h
  have hasked := hsound.asked home
  rw [Assoc.get?_insert] at hasked
  split at hasked
  · next heq => exact heq ▸ hin
  · rw [Assoc.get?_empty, Option.map_none, Option.map_eq_none_iff] at hasked
    rw [hasked] at hsome
    exact absurd hsome (by simp)

theorem spreadReplicas_single (walk : List IpAddress) :
    spreadReplicas s (Assoc.empty.insert datacenter factor) walk =
      ((walk.filter (s.isIn datacenter)).foldl (Quota.meet s.rackOf)
        (Quota.ofDatacenter s datacenter factor, [])).2 := by
  have hfactor : (Assoc.empty.insert datacenter factor).get? datacenter = some factor := by
    rw [Assoc.get?_insert, if_pos rfl]
  rw [← filter_spreadReplicas hfactor, List.filter_eq_self.mpr]
  exact fun address => isIn_of_mem_spreadReplicas

theorem prefix_spreadReplicas {greater : Nat} (hfactor : factors.get? datacenter = some factor)
    (hle : factor ≤ greater) (walk : List IpAddress) :
    (spreadReplicas s factors walk).filter (s.isIn datacenter) <+:
      (spreadReplicas s (factors.insert datacenter greater) walk).filter (s.isIn datacenter) := by
  have hgreater : (factors.insert datacenter greater).get? datacenter = some greater := by
    rw [Assoc.get?_insert, if_pos rfl]
  rw [filter_spreadReplicas hfactor, filter_spreadReplicas hgreater]
  have hstart : Quota.Precedes (Quota.ofDatacenter s datacenter factor, [])
      (Quota.ofDatacenter s datacenter greater, []) :=
    .level (min_le_min_right _ hle)
  exact (hstart.walk _).isPrefix

end Separately

/-- The replicas, the quota of one datacenter and the number of quotas that are not met, while nodes
of this datacenter are taken one by one. -/
structure Tally where
  quota : Quota
  unmet : Nat
  replicas : List IpAddress

namespace Tally

/-- Take a node. There is no outcome if the number of unmet quotas would fall below zero. -/
def take? (tally : Tally) (endpoint : IpAddress) : Option Tally :=
  let quota := { tally.quota with found := tally.quota.found + 1 }
  let replicas := tally.replicas ++ [endpoint]
  if quota.isMet then
    if tally.unmet = 0 then none else some { quota, unmet := tally.unmet - 1, replicas }
  else some { quota, unmet := tally.unmet, replicas }

/-- Take nodes, until no more are wanted. -/
def takeAll? (tally : Tally) : List IpAddress → Option Tally
  | [] => some tally
  | endpoint :: rest =>
      if tally.quota.isMet then some tally
      else (tally.take? endpoint).bind fun tally => tally.takeAll? rest

def offer? (tally : Tally) (rack : String) (endpoint : IpAddress) : Option Tally :=
  if tally.quota.seenRacks.length = tally.quota.rackCount then tally.take? endpoint
  else if rack ∈ tally.quota.seenRacks then
    if endpoint ∈ tally.quota.skipped then some tally
    else some { tally with
      quota := { tally.quota with skipped := tally.quota.skipped ++ [endpoint] } }
  else
    (tally.take? endpoint).bind fun tally =>
      let seenRacks := tally.quota.seenRacks ++ [rack]
      if seenRacks.length = tally.quota.rackCount then
        { tally with quota := { tally.quota with seenRacks, skipped := [] } }.takeAll?
          tally.quota.skipped
      else some { tally with quota := { tally.quota with seenRacks } }

/-- Where an offer to a quota that was not met leaves the replicas. -/
def after (unmet : Nat) (replicas : List IpAddress) (offered : Quota × List IpAddress) : Tally :=
  { quota := offered.1
    unmet := if offered.1.isMet then unmet - 1 else unmet
    replicas := replicas ++ offered.2 }

variable {quota : Quota} {unmet : Nat} {replicas taken : List IpAddress}

theorem after_of_unmet (h : quota.isMet = false) :
    after unmet replicas (quota, taken) = ⟨quota, unmet, replicas ++ taken⟩ := by
  simp [after, h]

theorem take?_after (hopen : unmet ≠ 0) (hunmet : quota.isMet = false) (endpoint : IpAddress) :
    (after unmet replicas (quota, taken)).take? endpoint =
      some (after unmet replicas
        ({ quota with found := quota.found + 1 }, taken ++ [endpoint])) := by
  rw [after_of_unmet hunmet]
  simp only [take?, after, if_neg hopen, List.append_assoc]
  split <;> rfl

theorem takeAll?_after (hopen : unmet ≠ 0) (endpoints : List IpAddress) :
    (after unmet replicas (quota, taken)).takeAll? endpoints =
      some (after unmet replicas
        ({ quota with
            found := quota.found + (endpoints.take (quota.wanted - quota.found)).length },
          taken ++ endpoints.take (quota.wanted - quota.found))) := by
  induction endpoints generalizing quota taken with
  | nil => simp [takeAll?]
  | cons endpoint rest ih =>
      rw [takeAll?]
      cases hmet : quota.isMet with
      | true =>
          have hnone : quota.wanted - quota.found = 0 :=
            Nat.sub_eq_zero_of_le (of_decide_eq_true hmet)
          simp [after, hmet, hnone]
      | false =>
          have hwanted := Quota.isMet_eq_false_iff.mp hmet
          have hsucc : quota.wanted - quota.found = quota.wanted - (quota.found + 1) + 1 := by omega
          have hquota : (after unmet replicas (quota, taken)).quota.isMet = false := hmet
          rw [hquota, if_neg Bool.false_ne_true, take?_after hopen hmet, Option.bind_some, ih,
            hsucc, List.take_succ_cons, List.length_cons, List.append_assoc, Nat.add_right_comm,
            Nat.add_assoc]
          rfl

/-- Taking the nodes one by one is what an offer says at once. -/
theorem offer?_eq (hopen : unmet ≠ 0) (hunmet : quota.isMet = false) (rack : String)
    (endpoint : IpAddress) :
    (Tally.mk quota unmet replicas).offer? rack endpoint =
      some (after unmet replicas (quota.offer rack endpoint)) := by
  have hstart : ∀ quota : Quota, quota.isMet = false →
      Tally.mk quota unmet replicas = after unmet replicas (quota, []) := by
    intro quota hquota
    rw [after_of_unmet hquota, List.append_nil]
  have htake : (Tally.mk quota unmet replicas).take? endpoint =
      some (after unmet replicas ({ quota with found := quota.found + 1 }, [endpoint])) := by
    rw [hstart quota hunmet]
    exact take?_after hopen hunmet endpoint
  simp only [offer?, Quota.offer]
  by_cases hall : quota.seenRacks.length = quota.rackCount
  · rw [if_pos hall, if_pos hall, htake]
  · rw [if_neg hall, if_neg hall]
    by_cases hrack : rack ∈ quota.seenRacks
    · rw [if_pos hrack, if_pos hrack]
      split
      · rw [hstart quota hunmet]
      · exact congrArg some (hstart _ hunmet)
    · rw [if_neg hrack, if_neg hrack, htake, Option.bind_some]
      by_cases hlast : (quota.seenRacks ++ [rack]).length = quota.rackCount
      · rw [if_pos hlast]
        refine (if_pos hlast).trans ?_
        exact takeAll?_after hopen quota.skipped
      · rw [if_neg hlast]
        exact if_neg hlast

end Tally

namespace Spread

variable {s : Snapshot} {factors : Assoc String Nat} {spread : Spread} {seen : List IpAddress}
  {endpoint : IpAddress}

/-- Meet a node on the ring, whether or not a quota is left that is not met. -/
def meet? (s : Snapshot) (spread : Spread) (endpoint : IpAddress) : Option Spread :=
  if endpoint ∈ spread.replicas then some spread
  else
    match (s.placement endpoint).1 with
    | none => some spread
    | some datacenter =>
        match spread.quotas.get? datacenter with
        | none => some spread
        | some quota =>
            if quota.isMet then some spread
            else
              let tally : Tally := { quota, unmet := spread.unmet, replicas := spread.replicas }
              (tally.offer? (s.rackOf endpoint) endpoint).map fun tally =>
                { quotas := spread.quotas.insert datacenter tally.quota
                  unmet := tally.unmet
                  replicas := tally.replicas }

theorem meet?_of_wanted {datacenter : String} {quota : Quota}
    (hin : s.isIn datacenter endpoint = true)
    (hquota : spread.quotas.get? datacenter = some quota) (hmet : quota.isMet = false)
    (hnew : endpoint ∉ spread.replicas) (hopen : spread.unmet ≠ 0) :
    meet? s spread endpoint =
      some (spread.accept datacenter (quota.offer (s.rackOf endpoint) endpoint)) := by
  have hhome : (s.placement endpoint).1 = some datacenter := of_decide_eq_true hin
  simp only [meet?, if_neg hnew, hhome, hquota, hmet, Bool.false_eq_true, if_false,
    Tally.offer?_eq hopen hmet, Option.map_some]
  rfl

theorem meet?_of_unwanted
    (h : ∀ datacenter quota, s.isIn datacenter endpoint = true →
      spread.quotas.get? datacenter = some quota →
        quota.isMet = true ∨ endpoint ∈ spread.replicas) :
    meet? s spread endpoint = some spread := by
  rw [meet?]
  split
  · rfl
  · next hnew =>
      cases hhome : (s.placement endpoint).1 with
      | none => rfl
      | some home =>
          simp only
          cases hquota : spread.quotas.get? home with
          | none => rfl
          | some quota =>
              have hmet := (h home quota (decide_eq_true hhome) hquota).resolve_right hnew
              simp [hmet]

/-- A walk that does not look at the count of the unmet quotas takes the same nodes, and the count
never has to be lowered when it is zero. -/
theorem Sound.meet?_eq (h : spread.Sound s factors seen) (endpoint : IpAddress) :
    meet? s spread endpoint = some (Spread.step s spread endpoint) := by
  rcases wanted_or_unwanted s spread endpoint with
    ⟨datacenter, quota, hin, hquota, hmet, hnew⟩ | hidle
  · have hopen := h.unmet_ne_zero hquota hmet
    rw [meet?_of_wanted hin hquota hmet hnew hopen, step_of_wanted hin hquota hmet hnew hopen]
  · rw [meet?_of_unwanted hidle, step_of_unwanted hidle]

theorem Sound.foldlM_meet? (h : spread.Sound s factors seen) (endpoints : List IpAddress) :
    endpoints.foldlM (meet? s) spread = some (endpoints.foldl (Spread.step s) spread) := by
  induction endpoints generalizing spread seen with
  | nil => rfl
  | cons endpoint rest ih =>
      rw [List.foldlM_cons, h.meet?_eq, List.foldl_cons]
      exact ih (h.step endpoint)

end Spread

namespace Snapshot

/-- Of any view of the cluster, the replicas in a datacenter are those that it gives when it alone
is asked, in the same order, and more that are asked of it come behind them. All this is as if the
whole ring was met, with the nodes taken one by one and the unmet quotas counted down. -/
theorem independent_replicas (s : Snapshot) (factors : Assoc String Nat) (token : Token) :
    let replicas := (Strategy.perDatacenter factors).replicas s token
    (∀ datacenter factor, factors.get? datacenter = some factor →
      replicas.filter (s.isIn datacenter) =
          (Strategy.perDatacenter (Assoc.empty.insert datacenter factor)).replicas s token ∧
        ∀ greater, factor ≤ greater →
          replicas.filter (s.isIn datacenter) <+:
            ((Strategy.perDatacenter (factors.insert datacenter greater)).replicas s token).filter
              (s.isIn datacenter)) ∧
      ((s.ring.owners token).foldlM (Spread.meet? s) (Spread.start s factors)).map Spread.replicas =
        some replicas := by
  intro replicas
  constructor
  · intro datacenter factor hfactor
    constructor
    · exact (filter_spreadReplicas hfactor _).trans (spreadReplicas_single _).symm
    · intro greater hle
      exact prefix_spreadReplicas hfactor hle _
  · rw [(Spread.sound_start s factors).foldlM_meet?]
    rfl

/-- Two datacenters on one ring; the second node met is on the rack of the first one. -/
def interleaved : List SnapshotChange :=
  let peer : Peer := { address := .ofOctets 10 0 0 1, datacenter := some "dc1", rack := some "r1" }
  [.addPeer { peer with tokens := [.murmur3 10] },
    .addPeer { peer with address := .ofOctets 10 0 0 2, tokens := [.murmur3 20] },
    .addPeer { peer with
      address := .ofOctets 10 0 0 3, datacenter := some "dc2", tokens := [.murmur3 30] },
    .addPeer { peer with
      address := .ofOctets 10 0 0 4, rack := some "r2", tokens := [.murmur3 40] }]

theorem independent_replicas_interleaved :
    let s := empty.applyAll interleaved
    let factors := (Assoc.empty.insert "dc1" 2).insert "dc2" 1
    let replicas := (Strategy.perDatacenter factors).replicas s (.murmur3 0)
    factors.get? "dc1" = some 2 ∧ 2 ≤ 3 ∧
      replicas = [.ofOctets 10 0 0 1, .ofOctets 10 0 0 3, .ofOctets 10 0 0 4] ∧
      replicas.filter (s.isIn "dc1") =
        (Strategy.perDatacenter (Assoc.empty.insert "dc1" 2)).replicas s (.murmur3 0) ∧
      replicas.filter (s.isIn "dc1") <+:
        ((Strategy.perDatacenter (factors.insert "dc1" 3)).replicas s (.murmur3 0)).filter
          (s.isIn "dc1") := by
  intro s factors replicas
  have hring : (empty.applyAll interleaved).ring =
      ⟨ownedTokens (empty.applyAll interleaved).peers⟩ :=
    (indexed_empty.applyAll interleaved).ring_eq (by decide) (by decide)
  have hreplicas : replicas = [.ofOctets 10 0 0 1, .ofOctets 10 0 0 3, .ofOctets 10 0 0 4] := by
    show spreadReplicas (empty.applyAll interleaved) factors
      ((empty.applyAll interleaved).ring.owners (.murmur3 0)) = _
    rw [hring]
    rfl
  obtain ⟨halone, hmore⟩ := (independent_replicas s factors (.murmur3 0)).1 "dc1" 2 rfl
  exact ⟨rfl, by decide, hreplicas, halone, hmore 3 (by decide)⟩

end Snapshot

end CqlClient
