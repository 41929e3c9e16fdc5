import CqlClient.Proofs.Placement.Distinct
import CqlClient.Proofs.Placement.HistoryIndependence
import Mathlib.Data.List.Infix

namespace CqlClient

theorem fillUp_concat (count : Nat) (replicas walk : List IpAddress) (endpoint : IpAddress) :
    fillUp count replicas (walk ++ [endpoint]) =
      if count ≤ (fillUp count replicas walk).length ∨ endpoint ∈ fillUp count replicas walk
      then fillUp count replicas walk else fillUp count replicas walk ++ [endpoint] := by
  rw [fillUp, List.foldl_append, List.foldl_cons, List.foldl_nil]
  rfl

theorem eraseDups_concat (walk : List IpAddress) (endpoint : IpAddress) :
    (walk ++ [endpoint]).eraseDups =
      walk.eraseDups ++ if endpoint ∈ walk then [] else [endpoint] := by
  rw [List.eraseDups_append]
  by_cases h : endpoint ∈ walk
  · simp [h, List.removeAll]
  · simp [h, List.removeAll, List.eraseDups_cons]

theorem fillUp_eq (count : Nat) (replicas walk : List IpAddress) :
    fillUp count replicas walk =
      replicas ++ (walk.eraseDups.filter (· ∉ replicas)).take (count - replicas.length) := by
  induction walk using List.reverseRecOn with
  | nil => simp [fillUp]
  | append_singleton walk endpoint ih =>
      rw [fillUp_concat, ih, eraseDups_concat, List.filter_append]
      generalize hfresh : walk.eraseDups.filter (· ∉ replicas) = fresh
      have hmem : endpoint ∈ fresh ↔ endpoint ∈ walk ∧ endpoint ∉ replicas := by
        simp [← hfresh, List.mem_eraseDups]
      split
      · next hidle =>
          rw [List.length_append, List.length_take, List.mem_append] at hidle
          rcases hidle with hfull | htaken | htaken
          · rw [List.take_append_of_le_length (by omega)]
          · simp [htaken, apply_ite]
          · simp [(hmem.mp (List.mem_of_mem_take htaken)).1]
      · next hopen =>
          rw [not_or, List.length_append, List.length_take, List.mem_append, not_or] at hopen
          obtain ⟨hroom, hnew, hlater⟩ := hopen
          have hwhole : fresh.take (count - replicas.length) = fresh :=
            List.take_of_length_le (by omega)
          rw [hwhole] at hlater ⊢
          have hunmet : endpoint ∉ walk := fun h => hlater (hmem.mpr ⟨h, hnew⟩)
          rw [if_neg hunmet, List.filter_cons_of_pos (by simpa using hnew), List.filter_nil,
            List.take_of_length_le, List.append_assoc]
          simp only [List.length_append, List.length_singleton]
          omega

theorem length_fillUp {count : Nat} {replicas walk : List IpAddress} (hnodup : replicas.Nodup)
    (hsub : replicas ⊆ walk) (hle : replicas.length ≤ count) :
    (fillUp count replicas walk).length = min count walk.toFinset.card := by
  have hsub : replicas.toFinset ⊆ walk.toFinset := fun address haddress =>
    List.mem_toFinset.mpr (hsub (List.mem_toFinset.mp haddress))
  have hcard := Finset.card_le_card hsub
  have hrest := Finset.card_sdiff_of_subset hsub
  have hfresh : (walk.eraseDups.filter (· ∉ replicas)).toFinset =
      walk.toFinset \ replicas.toFinset := by
    ext address
    simp [List.mem_eraseDups]
  rw [← hfresh, List.toFinset_card_of_nodup ((nodup_eraseDups walk).filter _)] at hrest
  rw [List.toFinset_card_of_nodup hnodup] at hcard hrest
  rw [fillUp_eq, List.length_append, List.length_take, hrest]
  omega

theorem TokenRing.mem_owners_iff {α : Type} {ring : TokenRing α} {token : Token} {owner : α} :
    owner ∈ ring.owners token ↔ owner ∈ ring.entries.map Prod.snd :=
  ((ring.walk_perm token).map Prod.snd).mem_iff

/-- The owners of a ring. -/
def TokenRing.ownerSet {α : Type} [DecidableEq α] (ring : TokenRing α) : Finset α :=
  (ring.entries.map Prod.snd).toFinset

theorem TokenRing.toFinset_owners {α : Type} [DecidableEq α] (ring : TokenRing α) (token : Token) :
    (ring.owners token).toFinset = ring.ownerSet := by
  ext owner
  rw [ownerSet, List.mem_toFinset, List.mem_toFinset, mem_owners_iff]

namespace Snapshot

/-- Whether a node is not in the datacenter of an owner. Nodes without a datacenter are in none of
the others, but together. -/
def isElsewhere (s : Snapshot) (owner address : IpAddress) : Bool :=
  (s.placement address).1 ≠ (s.placement owner).1

/-- Whether a node is in the datacenter of an owner, but not on its rack. -/
def isOnOtherRack (s : Snapshot) (owner address : IpAddress) : Bool :=
  (s.placement address).1 = (s.placement owner).1 ∧ (s.placement address).2 ≠ (s.placement owner).2

end Snapshot

namespace Across

variable {s : Snapshot} {count : Nat} {home : Option String × String} {across : Across}
  {owner endpoint : IpAddress} {seen replicas : List IpAddress}

theorem replicas_step (s : Snapshot) (count : Nat) (home : Option String × String)
    (across : Across) (endpoint : IpAddress) :
    (across.step s count home endpoint).replicas = across.replicas ∨
      across.replicas.length < count ∧
        (across.step s count home endpoint).replicas = across.replicas ++ [endpoint] := by
  simp only [Across.step]
  split_ifs with hfull
  · exact .inl rfl
  · exact .inl rfl
  · exact .inr ⟨Nat.not_le.mp hfull, rfl⟩
  · exact .inr ⟨Nat.not_le.mp hfull, rfl⟩
  · exact .inl rfl

/-- The owner comes first, and no more nodes are taken than asked for, all of which were met. -/
structure Begun (count : Nat) (owner : IpAddress) (across : Across) (seen : List IpAddress) :
    Prop where
  begins : [owner] <+: across.replicas
  met : across.replicas ⊆ seen
  length_le : across.replicas.length ≤ count

theorem Begun.step (h : across.Begun count owner seen) (s : Snapshot)
    (home : Option String × String) (endpoint : IpAddress) :
    (across.step s count home endpoint).Begun count owner (seen ++ [endpoint]) := by
  rcases replicas_step s count home across endpoint with hsame | ⟨hroom, htaken⟩
  · constructor
    · rw [hsame]
      exact h.begins
    · rw [hsame]
      exact List.subset_append_of_subset_left _ h.met
    · rw [hsame]
      exact h.length_le
  · constructor
    · rw [htaken]
      exact h.begins.trans (List.prefix_append _ _)
    · rw [htaken]
      exact List.append_subset.mpr
        ⟨List.subset_append_of_subset_left _ h.met, List.subset_append_right _ _⟩
    · rw [htaken, List.length_append]
      exact hroom

theorem Begun.walk (h : across.Begun count owner seen) (s : Snapshot)
    (home : Option String × String) (endpoints : List IpAddress) :
    (endpoints.foldl (Across.step s count home) across).Begun count owner (seen ++ endpoints) :=
  foldl_seen (motive := fun (across : Across) seen => across.Begun count owner seen)
    (fun _ _ endpoint h => h.step s home endpoint) h endpoints

/-- Whether the first node met that has a property was taken, and a flag tells if there was one. -/
structure Noted (property : IpAddress → Bool) (flag : Bool) (replicas seen : List IpAddress) :
    Prop where
  flag_eq : flag = (seen.find? property).isSome
  mem : ∀ address, seen.find? property = some address → address ∈ replicas

theorem Noted.take {property : IpAddress → Bool} (h : Noted property false replicas seen)
    (hhas : property endpoint = true) :
    Noted property true (replicas ++ [endpoint]) (seen ++ [endpoint]) := by
  have hnone : seen.find? property = none := by
    simpa using h.flag_eq
  have hfind : (seen ++ [endpoint]).find? property = some endpoint := by
    rw [List.find?_append, hnone, Option.none_or, List.find?_cons_of_pos hhas]
  constructor
  · rw [hfind, Option.isSome_some]
  · intro address haddress
    rw [hfind, Option.some.injEq] at haddress
    simp [haddress]

theorem Noted.pass {property : IpAddress → Bool} {flag : Bool} {more : List IpAddress}
    (h : Noted property flag replicas seen) (hsub : replicas ⊆ more)
    (hidle : flag = true ∨ property endpoint = false) :
    Noted property flag more (seen ++ [endpoint]) := by
  have hfind : (seen ++ [endpoint]).find? property = seen.find? property := by
    rw [List.find?_append]
    cases hfound : seen.find? property with
    | some address => rfl
    | none =>
        have hflag := h.flag_eq
        rw [hfound, Option.isSome_none] at hflag
        rw [Option.none_or, List.find?_cons_of_neg (by simp_all), List.find?_nil]
  constructor
  · rw [hfind]
    exact h.flag_eq
  · intro address haddress
    rw [hfind] at haddress
    exact hsub (h.mem address haddress)

/-- What is known when at least three nodes are asked for: there is room for the first node met
elsewhere and the first one on another rack. -/
structure Surveyed (s : Snapshot) (owner : IpAddress) (across : Across) (seen : List IpAddress) :
    Prop where
  length_eq : across.replicas.length =
    1 + across.hasOtherDatacenter.toNat + across.hasOtherRack.toNat
  elsewhere : Noted (s.isElsewhere owner) across.hasOtherDatacenter across.replicas seen
  otherRack : Noted (s.isOnOtherRack owner) across.hasOtherRack across.replicas seen

theorem surveyed_start (s : Snapshot) (owner : IpAddress) :
    Surveyed s owner ⟨[owner], false, false⟩ [owner] where
  length_eq := rfl
  elsewhere := ⟨by simp [Snapshot.isElsewhere], by simp [Snapshot.isElsewhere]⟩
  otherRack := ⟨by simp [Snapshot.isOnOtherRack], by simp [Snapshot.isOnOtherRack]⟩

theorem Surveyed.step (h : across.Surveyed s owner seen) (hcount : 3 ≤ count)
    (endpoint : IpAddress) :
    (across.step s count (s.placement owner) endpoint).Surveyed s owner (seen ++ [endpoint]) := by
  have hlength := h.length_eq
  have hsub := List.subset_append_left across.replicas [endpoint]
  have hrefl := List.Subset.refl across.replicas
  simp only [Across.step]
  split
  · next hfull =>
      -- Three nodes are taken already, so both flags are set.
      have hflags : across.hasOtherDatacenter = true ∧ across.hasOtherRack = true := by
        cases hdatacenter : across.hasOtherDatacenter <;> cases hrack : across.hasOtherRack <;>
          simp [hdatacenter, hrack] at hlength ⊢ <;> omega
      exact ⟨hlength, h.elsewhere.pass hrefl (.inl hflags.1),
        h.otherRack.pass hrefl (.inl hflags.2)⟩
  · split
    · next hdatacenter =>
        have haway : s.isElsewhere owner endpoint = true := decide_eq_true hdatacenter
        have hrack : s.isOnOtherRack owner endpoint = false :=
          decide_eq_false fun hboth => hdatacenter hboth.1
        split
        · next htaken =>
            exact ⟨hlength, h.elsewhere.pass hrefl (.inl htaken),
              h.otherRack.pass hrefl (.inr hrack)⟩
        · next hopen =>
            rw [Bool.not_eq_true] at hopen
            have helsewhere := h.elsewhere
            rw [hopen] at hlength helsewhere
            refine ⟨?_, helsewhere.take haway, h.otherRack.pass hsub (.inr hrack)⟩
            simp only [List.length_append, List.length_singleton, hlength, Bool.toNat_true,
              Bool.toNat_false]
            omega
    · next hdatacenter =>
        have hhome : (s.placement endpoint).1 = (s.placement owner).1 := not_not.mp hdatacenter
        have haway : s.isElsewhere owner endpoint = false := decide_eq_false hdatacenter
        split
        · next hboth =>
            obtain ⟨hrack, hopen⟩ := hboth
            rw [Bool.not_eq_true'] at hopen
            have hother : s.isOnOtherRack owner endpoint = true := decide_eq_true ⟨hhome, hrack⟩
            have hotherRack := h.otherRack
            rw [hopen] at hlength hotherRack
            refine ⟨?_, h.elsewhere.pass hsub (.inr haway), hotherRack.take hother⟩
            simp only [List.length_append, List.length_singleton, hlength, Bool.toNat_true,
              Bool.toNat_false]
        · next hneither =>
            refine ⟨hlength, h.elsewhere.pass hrefl (.inr haway), h.otherRack.pass hrefl ?_⟩
            rw [or_iff_not_imp_left, Bool.not_eq_true]
            intro hopen
            refine decide_eq_false fun hother => hneither ⟨hother.2, ?_⟩
            rw [hopen, Bool.not_false]

theorem Surveyed.walk (h : across.Surveyed s owner seen) (hcount : 3 ≤ count)
    (endpoints : List IpAddress) :
    (endpoints.foldl (Across.step s count (s.placement owner)) across).Surveyed s owner
      (seen ++ endpoints) :=
  foldl_seen (motive := fun (across : Across) seen => across.Surveyed s owner seen)
    (fun _ _ endpoint h => h.step hcount endpoint) h endpoints

end Across

section Ordered

variable {s : Snapshot} {count : Nat} {walk : List IpAddress}

/-- The replicas are the owner and what is taken for the sake of the datacenters and racks, and then
the next nodes. -/
theorem acrossReplicas_cons (s : Snapshot) (hcount : count ≠ 0) (owner : IpAddress)
    (rest : List IpAddress) :
    ∃ across : Across, acrossReplicas s count (owner :: rest) =
        fillUp count across.replicas (owner :: rest) ∧
      across.replicas.Nodup ∧ across.Begun count owner (owner :: rest) ∧
      (3 ≤ count → across.Surveyed s owner (owner :: rest)) := by
  refine ⟨rest.foldl (Across.step s count (s.placement owner)) ⟨[owner], false, false⟩, ?_, ?_, ?_,
    ?_⟩
  · rw [acrossReplicas, if_neg hcount]
  · exact ((Across.placed_start s owner).walk count rest).nodup
  · have hstart : (Across.mk [owner] false false).Begun count owner [owner] :=
      ⟨List.prefix_rfl, List.Subset.refl _, Nat.one_le_iff_ne_zero.mpr hcount⟩
    exact hstart.walk s (s.placement owner) rest
  · intro hthree
    exact (Across.surveyed_start s owner).walk hthree rest

theorem length_acrossReplicas (s : Snapshot) (count : Nat) (walk : List IpAddress) :
    (acrossReplicas s count walk).length = min count walk.toFinset.card := by
  by_cases hcount : count = 0
  · simp [acrossReplicas, hcount]
  · cases walk with
    | nil => simp [acrossReplicas]
    | cons owner rest =>
        obtain ⟨across, heq, hnodup, hbegun, -⟩ := acrossReplicas_cons s hcount owner rest
        rw [heq, length_fillUp hnodup hbegun.met hbegun.length_le]

theorem prefix_fillUp (count : Nat) (replicas walk : List IpAddress) :
    replicas <+: fillUp count replicas walk := by
  rw [fillUp_eq]
  exact List.prefix_append _ _

theorem head?_acrossReplicas (s : Snapshot) (count : Nat) (walk : List IpAddress) :
    (acrossReplicas s count walk).head? = if count = 0 then none else walk.head? := by
  by_cases hcount : count = 0
  · simp [acrossReplicas, hcount]
  · cases walk with
    | nil => simp [acrossReplicas]
    | cons owner rest =>
        obtain ⟨across, heq, -, hbegun, -⟩ := acrossReplicas_cons s hcount owner rest
        obtain ⟨others, hothers⟩ := hbegun.begins.trans
          (prefix_fillUp count across.replicas (owner :: rest))
        rw [heq, ← hothers, if_neg hcount]
        rfl

/-- Whether the first node met with a property is a replica, if any node met has it. -/
def IncludesFirst (replicas walk : List IpAddress) (property : IpAddress → Bool) : Prop :=
  ∀ address ∈ walk, property address = true →
    ∃ taken ∈ replicas, property taken = true ∧ walk.find? property = some taken

theorem Across.Noted.includesFirst {property : IpAddress → Bool} {flag : Bool}
    {taken replicas : List IpAddress} (h : Across.Noted property flag taken walk)
    (hsub : taken ⊆ replicas) : IncludesFirst replicas walk property := by
  intro address haddress hhas
  have hsome : (walk.find? property).isSome = true :=
    List.find?_isSome.mpr ⟨address, haddress, hhas⟩
  obtain ⟨first, hfirst⟩ := Option.isSome_iff_exists.mp hsome
  exact ⟨first, hsub (h.mem first hfirst), List.find?_some hfirst, hfirst⟩

theorem includesFirst_acrossReplicas (hcount : 3 ≤ count) {owner : IpAddress}
    (howner : walk.head? = some owner) :
    IncludesFirst (acrossReplicas s count walk) walk (s.isElsewhere owner) ∧
      IncludesFirst (acrossReplicas s count walk) walk (s.isOnOtherRack owner) := by
  obtain ⟨rest, rfl⟩ := List.head?_eq_some_iff.mp howner
  have hsome : count ≠ 0 := by omega
  obtain ⟨across, heq, -, -, hsurveyed⟩ := acrossReplicas_cons s hsome owner rest
  have hsub := (prefix_fillUp count across.replicas (owner :: rest)).subset
  rw [← heq] at hsub
  have hsurveyed := hsurveyed hcount
  exact ⟨hsurveyed.elsewhere.includesFirst hsub, hsurveyed.otherRack.includesFirst hsub⟩

end Ordered

namespace Snapshot

/-- Of any view of the cluster, the replicas across datacenters are distinct, as many as asked for
or else all nodes of the ring, and begin with the owner of the token. Three or more include a node
elsewhere and a node on another rack, if the ring has any. -/
theorem spans_replicas (s : Snapshot) (count : Nat) (token : Token) :
    let replicas := (Strategy.acrossDatacenters count).replicas s token
    replicas.Nodup ∧ replicas.length = min count s.ring.ownerSet.card ∧
      (∀ first, replicas.head? = some first → s.ring.owner? token = some first) ∧
      ∀ owner, s.ring.owner? token = some owner → 3 ≤ count →
        IncludesFirst replicas (s.ring.owners token) (s.isElsewhere owner) ∧
          IncludesFirst replicas (s.ring.owners token) (s.isOnOtherRack owner) := by
  intro replicas
  refine ⟨nodup_acrossReplicas s count _, ?_, ?_, ?_⟩
  · rw [← s.ring.toFinset_owners token]
    exact length_acrossReplicas s count _
  · intro first hfirst
    rw [show replicas.head? = _ from head?_acrossReplicas s count _] at hfirst
    split at hfirst
    · exact absurd hfirst (by simp)
    · exact hfirst
  · intro owner howner hcount
    exact includesFirst_acrossReplicas hcount howner

/-- The owner of the smallest token has two tokens; a node of its rack, one of another datacenter
and one of another rack follow. -/
def scattered : List SnapshotChange :=
  let peer : Peer := { address := .ofOctets 10 0 0 1, datacenter := some "dc1", rack := some "r1" }
  [.addPeer { peer with tokens := [.murmur3 10, .murmur3 15] },
    .addPeer { peer with address := .ofOctets 10 0 0 2, tokens := [.murmur3 20] },
    .addPeer { peer with
      address := .ofOctets 10 0 0 3, datacenter := some "dc2", tokens := [.murmur3 30] },
    .addPeer { peer with
      address := .ofOctets 10 0 0 4, rack := some "r2", tokens := [.murmur3 40] }]

theorem spans_replicas_scattered :
    let s := empty.applyAll scattered
    let replicas := (Strategy.acrossDatacenters 3).replicas s (.murmur3 0)
    let owner : IpAddress := .ofOctets 10 0 0 1
    replicas = [owner, .ofOctets 10 0 0 3, .ofOctets 10 0 0 4] ∧
      s.ring.owner? (.murmur3 0) = some owner ∧ 3 ≤ 3 ∧
      IncludesFirst replicas (s.ring.owners (.murmur3 0)) (s.isElsewhere owner) ∧
      IncludesFirst replicas (s.ring.owners (.murmur3 0)) (s.isOnOtherRack owner) := by
  intro s replicas owner
  have hring : (empty.applyAll scattered).ring =
      ⟨ownedTokens (empty.applyAll scattered).peers⟩ :=
    (indexed_empty.applyAll scattered).ring_eq (by decide) (by decide)
  have hreplicas : replicas = [owner, .ofOctets 10 0 0 3, .ofOctets 10 0 0 4] := by
    show acrossReplicas (empty.applyAll scattered) 3
      ((empty.applyAll scattered).ring.owners (.murmur3 0)) = _
    rw [hring]
    rfl
  obtain ⟨-, -, hfirst, hincludes⟩ := spans_replicas s 3 (.murmur3 0)
  have howner : s.ring.owner? (.murmur3 0) = some owner :=
    hfirst owner (congrArg List.head? hreplicas)
  exact ⟨hreplicas, howner, by decide, hincludes owner howner (by decide)⟩

end Snapshot

end CqlClient
