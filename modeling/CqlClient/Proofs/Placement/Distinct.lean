import CqlClient.Proofs.Placement.Spread

namespace CqlClient

/-- An address is kept where it comes first, and erased behind. -/
theorem eraseDups_induction {motive : List IpAddress → Prop} (nil : motive [])
    (cons : ∀ first rest, motive (rest.filter fun other => !other == first) →
      motive (first :: rest)) (addresses : List IpAddress) : motive addresses := by
  induction hlength : addresses.length using Nat.strong_induction_on generalizing addresses with
  | _ length ih =>
      cases addresses with
      | nil => exact nil
      | cons first rest =>
          have hshorter : (rest.filter fun other => !other == first).length < length := by
            have := List.length_filter_le (fun other => !other == first) rest
            rw [List.length_cons] at hlength
            omega
          exact cons first rest (ih _ hshorter _ rfl)

theorem nodup_eraseDups (endpoints : List IpAddress) : endpoints.eraseDups.Nodup := by
  induction endpoints using eraseDups_induction with
  | nil => exact List.nodup_nil
  | cons first rest ih =>
      rw [List.eraseDups_cons, List.nodup_cons]
      constructor
      · rw [List.mem_eraseDups]
        simp
      · exact ih

theorem eraseDups_sublist (addresses : List IpAddress) :
    addresses.eraseDups.Sublist addresses := by
  induction addresses using eraseDups_induction with
  | nil => exact List.Sublist.slnil
  | cons first rest ih =>
      rw [List.eraseDups_cons]
      exact (ih.trans List.filter_sublist).cons_cons first

theorem nodup_firstDistinct (count : Nat) (endpoints : List IpAddress) :
    (firstDistinct count endpoints).Nodup :=
  (nodup_eraseDups endpoints).sublist (List.take_sublist count _)

theorem nodup_concat_of_notMem {taken : List IpAddress} {endpoint : IpAddress}
    (h : taken.Nodup) (hnew : endpoint ∉ taken) : (taken ++ [endpoint]).Nodup := by
  rw [← List.concat_eq_append]
  exact h.concat hnew

namespace Across

variable {s : Snapshot} {home : Option String × String} {across : Across}

/-- What is known of the replicas taken besides the owner: while no node of another datacenter was
taken all are in the owner's, and while no node of another rack was taken those in the owner's
datacenter are in its rack. -/
structure Placed (s : Snapshot) (home : Option String × String) (across : Across) : Prop where
  nodup : across.replicas.Nodup
  inDatacenter : across.hasOtherDatacenter = false →
    ∀ address ∈ across.replicas, (s.placement address).1 = home.1
  inRack : across.hasOtherRack = false →
    ∀ address ∈ across.replicas, (s.placement address).1 = home.1 →
      (s.placement address).2 = home.2

theorem placed_start (s : Snapshot) (owner : IpAddress) :
    Placed s (s.placement owner) ⟨[owner], false, false⟩ where
  nodup := List.nodup_singleton owner
  inDatacenter := by simp
  inRack := by simp

theorem Placed.step (h : across.Placed s home) (count : Nat) (endpoint : IpAddress) :
    (across.step s count home endpoint).Placed s home := by
  simp only [Across.step]
  split
  · exact h
  · split
    · next hdatacenter =>
        split
        · exact h
        · next hfirst =>
            have hnew : endpoint ∉ across.replicas := by
              intro hmem
              exact hdatacenter (h.inDatacenter (by simpa using hfirst) endpoint hmem)
            refine ⟨nodup_concat_of_notMem h.nodup hnew, by simp, ?_⟩
            intro hopen address haddress hhome
            rcases List.mem_append.mp haddress with hold | hlast
            · exact h.inRack hopen address hold hhome
            · obtain rfl : address = endpoint := by simpa using hlast
              exact absurd hhome hdatacenter
    · next hdatacenter =>
        have hhome : (s.placement endpoint).1 = home.1 := not_not.mp hdatacenter
        split
        · next hrack =>
            obtain ⟨hrack, hfirst⟩ := hrack
            have hnew : endpoint ∉ across.replicas := by
              intro hmem
              exact hrack (h.inRack (by simpa using hfirst) endpoint hmem hhome)
            refine ⟨nodup_concat_of_notMem h.nodup hnew, ?_, by simp⟩
            intro hopen address haddress
            rcases List.mem_append.mp haddress with hold | hlast
            · exact h.inDatacenter hopen address hold
            · obtain rfl : address = endpoint := by simpa using hlast
              exact hhome
        · exact h

theorem Placed.walk (h : across.Placed s home) (count : Nat) (endpoints : List IpAddress) :
    (endpoints.foldl (Across.step s count home) across).Placed s home := by
  induction endpoints generalizing across with
  | nil => exact h
  | cons endpoint rest ih => exact ih (h.step count endpoint)

end Across

theorem nodup_fillUp (count : Nat) {replicas : List IpAddress} (h : replicas.Nodup)
    (walk : List IpAddress) : (fillUp count replicas walk).Nodup := by
  induction walk generalizing replicas with
  | nil => exact h
  | cons endpoint rest ih =>
      rw [fillUp, List.foldl_cons]
      split
      · exact ih h
      · next hopen =>
          have hnew : endpoint ∉ replicas := fun hmem => hopen (.inr hmem)
          exact ih (nodup_concat_of_notMem h hnew)

theorem nodup_acrossReplicas (s : Snapshot) (count : Nat) (walk : List IpAddress) :
    (acrossReplicas s count walk).Nodup := by
  unfold acrossReplicas
  split
  · exact List.nodup_nil
  · cases walk with
    | nil => exact List.nodup_nil
    | cons owner rest =>
        have hplaced := (Across.placed_start s owner).walk count rest
        exact nodup_fillUp count hplaced.nodup (owner :: rest)

theorem Strategy.nodup_replicas (strategy : Strategy) (s : Snapshot) (token : Token) :
    (strategy.replicas s token).Nodup := by
  cases strategy with
  | simple count => exact nodup_firstDistinct count _
  | perDatacenter factors => exact ((Spread.sound_start s factors).walk _).nodup
  | acrossDatacenters count => exact nodup_acrossReplicas s count _
  | single => exact nodup_firstDistinct 1 _
  | other className options => exact List.nodup_nil

theorem Snapshot.nodup_replicas (s : Snapshot) (keyspace : String) (token : Token) :
    (s.replicas keyspace token).Nodup := by
  rw [Snapshot.replicas]
  split
  · exact Strategy.nodup_replicas _ s token
  · exact List.nodup_nil

end CqlClient
