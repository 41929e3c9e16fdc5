import CqlClient.Proofs.Routing.Plans

namespace CqlClient

theorem map_some_filterMap {α β : Type} {f : α → Option β} {values : List α}
    (h : ∀ value ∈ values, (f value).isSome) : (values.filterMap f).map some = values.map f := by
  induction values with
  | nil => rfl
  | cons value rest ih =>
      obtain ⟨image, himage⟩ := Option.isSome_iff_exists.mp (h value List.mem_cons_self)
      rw [List.filterMap_cons_some himage, List.map_cons, List.map_cons, himage,
        ih fun other hother => h other (List.mem_cons_of_mem _ hother)]

namespace Rotation

/-- The place among `length` to which a counter with so many values points, some steps on. -/
def placeIn (values length counter offset : Nat) : Nat :=
  (counter + offset) % values % length

section Places

variable {values length counter : Nat}

theorem placeIn_of_lt {offset : Nat} (h : counter + offset < values) :
    placeIn values length counter offset = (counter + offset) % length := by
  rw [placeIn, Nat.mod_eq_of_lt h]

/-- If all places are met although the counter wraps around, then the last one is met right before
it does: the place after the last one is the first one, to which the wrap leads, too. -/
theorem dvd_of_placeIn_injective (hcounter : counter < values) (hwraps : values < counter + length)
    (hinjective : ∀ first < length, ∀ second < length,
      placeIn values length counter first = placeIn values length counter second → first = second)
    (hlast : ∃ offset < length, placeIn values length counter offset = length - 1) :
    length ∣ values := by
  obtain ⟨offset, hoffset, hplace⟩ := hlast
  obtain ⟨wrap, hwrap⟩ : ∃ wrap, counter + wrap = values := ⟨values - counter, by omega⟩
  have hzero : placeIn values length counter wrap = 0 := by
    rw [placeIn, hwrap, Nat.mod_self, Nat.zero_mod]
  have hbefore : offset < wrap := by
    by_contra hafter
    have hsum : counter + offset = values + (offset - wrap) := by omega
    have hle : placeIn values length counter offset ≤ offset - wrap := by
      rw [placeIn, hsum, Nat.add_mod_left]
      exact (Nat.mod_le _ _).trans (Nat.mod_le _ _)
    omega
  have hdvd : length ∣ counter + (offset + 1) := by
    rw [placeIn_of_lt (by omega)] at hplace
    have hdivision := Nat.div_add_mod (counter + offset) length
    refine ⟨(counter + offset) / length + 1, ?_⟩
    rw [Nat.mul_add]
    omega
  have hnext : offset + 1 = wrap := by
    by_contra hne
    have hfirst : placeIn values length counter (offset + 1) = 0 := by
      rw [placeIn_of_lt (by omega), Nat.mod_eq_zero_of_dvd hdvd]
    exact hne (hinjective _ (by omega) _ (by omega) (hfirst.trans hzero.symm))
  rwa [hnext, hwrap] at hdvd

end Places

variable {rotation : Rotation}

/-- The place of the endpoint that a plan names after `offset` others. -/
def place (rotation : Rotation) (offset : Nat) : Nat :=
  placeIn UInt64.size rotation.endpoints.length rotation.counter.toNat offset

theorem place_lt (h : 0 < rotation.endpoints.length) (offset : Nat) :
    rotation.place offset < rotation.endpoints.length :=
  Nat.mod_lt _ h

theorem toNat_counter_add (counter : UInt64) (offset : Nat) :
    (counter + UInt64.ofNat offset).toNat = (counter.toNat + offset) % UInt64.size := by
  rw [UInt64.toNat_add, UInt64.toNat_ofNat', Nat.add_mod_mod]

theorem plan_eq_filterMap (rotation : Rotation) :
    rotation.plan = (List.range rotation.endpoints.length).filterMap fun offset =>
      rotation.endpoints[rotation.place offset]? := by
  simp only [plan, toNat_counter_add, place, placeIn]

theorem map_some_plan (rotation : Rotation) :
    rotation.plan.map some = (List.range rotation.endpoints.length).map fun offset =>
      rotation.endpoints[rotation.place offset]? := by
  rw [plan_eq_filterMap]
  refine map_some_filterMap fun offset hoffset => ?_
  have hlength := Nat.zero_lt_of_lt (List.mem_range.mp hoffset)
  rw [List.getElem?_eq_getElem (place_lt hlength offset), Option.isSome_some]

theorem plan_eq_rotate_of_dvd (h : rotation.endpoints.length ∣ UInt64.size) :
    rotation.plan = rotation.endpoints.rotate rotation.counter.toNat := by
  have hturned := filterMap_getElem?_range (rotation.endpoints.rotate rotation.counter.toNat)
  rw [List.length_rotate] at hturned
  rw [← hturned, plan_eq_filterMap]
  apply List.filterMap_congr
  intro offset hoffset
  rw [place, placeIn, Nat.mod_mod_of_dvd _ h, List.getElem?_rotate (List.mem_range.mp hoffset),
    Nat.add_comm]

theorem plan_eq_rotate (h : rotation.Fits ∨ rotation.endpoints.length ∣ UInt64.size) :
    rotation.plan = rotation.endpoints.rotate rotation.counter.toNat :=
  h.elim Fits.plan_eq_rotate plan_eq_rotate_of_dvd

/-- A plan has each endpoint once exactly if the counter does not wrap around meanwhile, or comes to
the first endpoint when it does. -/
theorem plan_perm_iff (hnodup : rotation.endpoints.Nodup) :
    rotation.plan.Perm rotation.endpoints ↔
      rotation.Fits ∨ rotation.endpoints.length ∣ UInt64.size := by
  constructor
  · intro hperm
    by_cases hfits : rotation.Fits
    · exact .inl hfits
    · rw [Fits, Nat.not_le] at hfits
      have hsize : rotation.counter.toNat < UInt64.size := rotation.counter.toNat_lt
      have hlength : 0 < rotation.endpoints.length := by omega
      have hplan : (rotation.plan.map some).Nodup :=
        (hperm.nodup_iff.mpr hnodup).map (Option.some_injective _)
      rw [map_some_plan] at hplan
      have hlast : rotation.endpoints[rotation.endpoints.length - 1] ∈ rotation.plan :=
        hperm.mem_iff.mpr (List.getElem_mem _)
      rw [plan_eq_filterMap, List.mem_filterMap] at hlast
      obtain ⟨offset, hoffset, hget⟩ := hlast
      rw [← List.getElem?_eq_getElem (by omega)] at hget
      refine .inr (dvd_of_placeIn_injective hsize hfits ?_ ⟨offset, List.mem_range.mp hoffset, ?_⟩)
      · intro first hfirst second hsecond hsame
        exact List.inj_on_of_nodup_map hplan (List.mem_range.mpr hfirst)
          (List.mem_range.mpr hsecond) (congrArg (rotation.endpoints[·]?) hsame)
      · exact (List.getElem?_inj (place_lt hlength offset) hnodup).mp hget
  · intro h
    rw [plan_eq_rotate h]
    exact List.rotate_perm _ _

/-- Whether the plans go around the endpoints: the present one has each endpoint once, and the next
one is the same cycle, begun one endpoint further. -/
def TakesTurns (rotation : Rotation) : Prop :=
  rotation.plan.Perm rotation.endpoints ∧ rotation.next.plan = rotation.plan.rotate 1

theorem toNat_counter_next (rotation : Rotation) :
    rotation.next.counter.toNat = (rotation.counter.toNat + 1) % UInt64.size :=
  toNat_counter_add rotation.counter 1

theorem fits_next_iff (h : rotation.counter.toNat + 1 < UInt64.size) :
    rotation.next.Fits ↔
      rotation.counter.toNat + rotation.endpoints.length < UInt64.size := by
  have hendpoints : rotation.next.endpoints = rotation.endpoints := rfl
  rw [Fits, toNat_counter_next, Nat.mod_eq_of_lt h, hendpoints]
  omega

theorem plan_next_eq_rotate
    (h : rotation.counter.toNat + rotation.endpoints.length < UInt64.size ∨
      rotation.endpoints.length ∣ UInt64.size) :
    rotation.next.plan = rotation.endpoints.rotate (rotation.counter.toNat + 1) := by
  rcases h with hlt | hdvd
  · rcases Nat.eq_zero_or_pos rotation.endpoints.length with hnone | hsome
    · rw [List.length_eq_zero_iff] at hnone
      simp [plan, next, hnone]
    · have hnext : rotation.counter.toNat + 1 < UInt64.size := by omega
      rw [((fits_next_iff hnext).mpr hlt).plan_eq_rotate, toNat_counter_next,
        Nat.mod_eq_of_lt hnext]
      rfl
  · rw [@plan_eq_rotate_of_dvd rotation.next hdvd, toNat_counter_next]
    change rotation.endpoints.rotate _ = _
    rw [← List.rotate_mod, Nat.mod_mod_of_dvd _ hdvd, List.rotate_mod]

/-- The plans go around the endpoints exactly if the counter wraps around during neither this plan
nor the next one, or the wrap leads from the last endpoint to the first one. -/
theorem takesTurns_iff (hnodup : rotation.endpoints.Nodup) :
    rotation.TakesTurns ↔
      rotation.counter.toNat + rotation.endpoints.length < UInt64.size ∨
        rotation.endpoints.length ∣ UInt64.size := by
  have hcounter : rotation.counter.toNat < UInt64.size := rotation.counter.toNat_lt
  constructor
  · rintro ⟨hperm, hnext⟩
    have hnextPerm : rotation.next.plan.Perm rotation.next.endpoints := by
      rw [hnext]
      exact (List.rotate_perm _ _).trans hperm
    rcases (plan_perm_iff hnodup).mp hperm with hfits | hdvd
    · by_cases hwraps : rotation.counter.toNat + 1 < UInt64.size
      · exact ((@plan_perm_iff rotation.next hnodup).mp hnextPerm).imp_left
          (fits_next_iff hwraps).mp
      · -- The counter has its last value, so that at most one endpoint fits.
        rw [Fits] at hfits
        rcases Nat.eq_zero_or_pos rotation.endpoints.length with hnone | hsome
        · exact .inl (by omega)
        · obtain hone : rotation.endpoints.length = 1 := by omega
          exact .inr (hone ▸ Nat.one_dvd _)
    · exact .inr hdvd
  · intro h
    have hplan := @plan_eq_rotate rotation (h.imp_left Nat.le_of_lt)
    refine ⟨hplan ▸ List.rotate_perm _ _, ?_⟩
    rw [hplan, List.rotate_rotate, plan_next_eq_rotate h]

/-- Three endpoints do not divide the values of the counter, and it stands at the last one. -/
def lastValue : Rotation :=
  ⟨[.ofOctets 10 0 0 1, .ofOctets 10 0 0 2, .ofOctets 10 0 0 3], 0xFFFFFFFFFFFFFFFF⟩

theorem takesTurns_iff_lastValue :
    lastValue.endpoints.Nodup ∧
      (lastValue.TakesTurns ↔
        lastValue.counter.toNat + lastValue.endpoints.length < UInt64.size ∨
          lastValue.endpoints.length ∣ UInt64.size) :=
  ⟨by decide, takesTurns_iff (by decide)⟩

/-- At the last value of the counter a plan over three endpoints names the first one twice and
leaves the third one out. -/
theorem not_takesTurns :
    lastValue.plan = [.ofOctets 10 0 0 1, .ofOctets 10 0 0 1, .ofOctets 10 0 0 2] ∧
      ¬ ∀ rotation : Rotation, rotation.endpoints.Nodup → rotation.TakesTurns := by
  have hplan : lastValue.plan =
      [.ofOctets 10 0 0 1, .ofOctets 10 0 0 1, .ofOctets 10 0 0 2] := by
    decide
  refine ⟨hplan, fun h => ?_⟩
  have hperm := (h lastValue (by decide)).1
  have hnodup := hperm.nodup_iff.mpr (by decide)
  rw [hplan] at hnodup
  exact absurd hnodup (by decide)

end Rotation

end CqlClient
