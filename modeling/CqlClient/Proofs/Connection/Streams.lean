import CqlClient.Proofs.Connection.Pending
import Mathlib.Data.List.Nodup
import Mathlib.Data.List.Perm.Subperm

namespace CqlClient.PendingRequests

variable {ρ : Type} {p : PendingRequests} {connection : ConnectionId} {stream : Int8}

/-- The streams of a connection on which requests wait. -/
def takenStreams (p : PendingRequests) (connection : ConnectionId) : List Int8 :=
  (p.entries.keys.filter fun key => key.1 = connection).map Prod.snd

theorem mem_takenStreams_iff :
    stream ∈ p.takenStreams connection ↔ p.entries.contains (connection, stream) := by
  simp [takenStreams, Assoc.mem_keys_iff, Assoc.contains]

theorem nodup_takenStreams (p : PendingRequests) (connection : ConnectionId) :
    (p.takenStreams connection).Nodup := by
  have hkeys : (p.entries.keys.filter fun key => key.1 = connection).Nodup :=
    p.entries.nodup_keys.filter _
  refine hkeys.map_on fun first hfirst second hsecond heq => ?_
  have hfirst : first.1 = connection := by simpa using (List.mem_filter.mp hfirst).2
  have hsecond : second.1 = connection := by simpa using (List.mem_filter.mp hsecond).2
  exact Prod.ext (hfirst.trans hsecond.symm) heq

theorem mask_eq_ofNat_mod (value : UInt32) : value &&& 0x7F = UInt32.ofNat (value.toNat % 128) := by
  apply UInt32.toNat.inj
  rw [UInt32.toNat_and, UInt32.toNat_ofNat']
  change value.toNat &&& (2 ^ 7 - 1) = _
  rw [Nat.and_two_pow_sub_one_eq_mod]
  omega

theorem toInt_ofNat : ∀ number < 128, (UInt32.ofNat number).toUInt8.toInt8.toInt = number := by
  decide

/-- The counter may wrap around at any place of a search, as the number of streams divides the
number of its values. -/
theorem toInt_streamAt (counter : UInt32) (offset : Nat) :
    (streamAt counter offset).toInt = ((counter.toNat + offset) % streamCount : Nat) := by
  have hsum : (counter + UInt32.ofNat offset).toNat % 128 = (counter.toNat + offset) % 128 := by
    rw [UInt32.toNat_add, UInt32.toNat_ofNat']
    omega
  rw [streamAt, mask_eq_ofNat_mod, hsum]
  exact toInt_ofNat _ (Nat.mod_lt _ (by decide))

theorem mem_streamsFrom_iff {counter : UInt32} :
    stream ∈ streamsFrom counter ↔ 0 ≤ stream.toInt := by
  rw [streamsFrom, List.mem_map]
  constructor
  · rintro ⟨offset, hoffset, rfl⟩
    rw [toInt_streamAt]
    exact Int.natCast_nonneg _
  · intro hstream
    have hlt : stream.toInt < 128 := stream.toInt_lt
    have hoffset : (stream.toInt.toNat + (128 - counter.toNat % 128)) % 128 < streamCount :=
      Nat.mod_lt _ (by decide)
    refine ⟨_, List.mem_range.mpr hoffset, ?_⟩
    apply Int8.toInt.inj
    rw [toInt_streamAt, streamCount]
    omega

theorem nodup_streamsFrom (counter : UInt32) : (streamsFrom counter).Nodup := by
  refine List.nodup_range.map_on fun first hfirst second hsecond heq => ?_
  have hfirst := List.mem_range.mp hfirst
  have hsecond := List.mem_range.mp hsecond
  have hplace := congrArg Int8.toInt heq
  rw [toInt_streamAt, toInt_streamAt] at hplace
  rw [streamCount] at hfirst hsecond hplace
  omega

theorem length_streamsFrom (counter : UInt32) : (streamsFrom counter).length = streamCount := by
  rw [streamsFrom, List.length_map, List.length_range]

theorem exists_free_iff (hrange : ∀ taken ∈ p.takenStreams connection, 0 ≤ taken.toInt)
    (counter : UInt32) :
    (∃ stream ∈ streamsFrom counter, stream ∉ p.takenStreams connection) ↔
      (p.takenStreams connection).length < streamCount := by
  rw [← length_streamsFrom counter]
  constructor
  · rintro ⟨stream, htried, hfree⟩
    have hnodup : (stream :: p.takenStreams connection).Nodup :=
      List.nodup_cons.mpr ⟨hfree, p.nodup_takenStreams connection⟩
    refine (hnodup.subperm (List.cons_subset.mpr ⟨htried, fun taken htaken => ?_⟩)).length_le
    exact mem_streamsFrom_iff.mpr (hrange taken htaken)
  · intro hlt
    by_contra hnone
    push Not at hnone
    have hle := ((nodup_streamsFrom counter).subperm hnone).length_le
    omega

theorem mem_of_freeStream? (h : p.freeStream? connection = some stream) :
    stream ∈ streamsFrom p.streamCounter ∧ stream ∉ p.takenStreams connection := by
  have hfree := List.find?_some h
  rw [Bool.not_eq_true', ← Bool.not_eq_true, ← mem_takenStreams_iff] at hfree
  exact ⟨List.mem_of_find?_eq_some h, hfree⟩

theorem freeStream?_isSome_iff :
    (p.freeStream? connection).isSome ↔
      ∃ stream ∈ streamsFrom p.streamCounter, stream ∉ p.takenStreams connection := by
  rw [freeStream?, List.find?_isSome]
  simp only [mem_takenStreams_iff, Bool.not_eq_true', Bool.not_eq_true]

/-- The table with a request more. -/
def enter (p : PendingRequests) (connection : ConnectionId) (stream : Int8) (now : Moment) :
    PendingRequests :=
  { p with
    entries := p.entries.insert (connection, stream) ⟨p.registered, now⟩
    registered := p.registered + 1 }

theorem mem_takenStreams_enter {other : ConnectionId} {taken : Int8} {now : Moment} :
    stream ∈ (p.enter other taken now).takenStreams connection ↔
      connection = other ∧ stream = taken ∨ stream ∈ p.takenStreams connection := by
  rw [mem_takenStreams_iff, mem_takenStreams_iff, Assoc.contains, enter, Assoc.get?_insert,
    ← Prod.mk.injEq, Assoc.contains]
  split
  · next heq => simp [heq]
  · next hne => simp [hne]

theorem entries_enter (h : stream ∉ p.takenStreams connection) (now : Moment) :
    (p.enter connection stream now).entries.entries =
      p.entries.entries ++ [((connection, stream), ⟨p.registered, now⟩)] := by
  rw [mem_takenStreams_iff, Assoc.contains, Option.not_isSome_iff_eq_none] at h
  change (p.entries.erase (connection, stream)).entries ++ _ = _
  rw [Assoc.erase_eq_self h]

theorem allocate_of_none (h : p.freeStream? connection = none) (now : Moment) :
    p.allocate connection now = (none, { p with streamCounter := p.streamCounter + 1 }) := by
  simp only [allocate, h]

theorem allocate_of_some (h : p.freeStream? connection = some stream) (now : Moment) :
    p.allocate connection now = (some (stream, p.registered),
      enter { p with streamCounter := p.streamCounter + 1 } connection stream now) := by
  simp only [allocate, h, enter]

theorem fst_allocate (p : PendingRequests) (connection : ConnectionId) (now : Moment) :
    (p.allocate connection now).1 = (p.freeStream? connection).map (·, p.registered) := by
  cases h : p.freeStream? connection with
  | none => rw [allocate_of_none h, Option.map_none]
  | some stream => rw [allocate_of_some h, Option.map_some]

theorem mem_takenStreams_apply {operation : PendingOperation ρ}
    (h : stream ∈ (p.apply operation).2.takenStreams connection) :
    stream ∈ p.takenStreams connection ∨
      ∃ now, operation = .allocate connection now ∧ stream ∈ streamsFrom p.streamCounter := by
  have hrelease : ∀ other taken, stream ∈ (p.release other taken).takenStreams connection →
      stream ∈ p.takenStreams connection := by
    intro other taken hleft
    rw [mem_takenStreams_iff, Assoc.contains, release, Assoc.get?_erase] at hleft
    split at hleft
    · exact absurd hleft Bool.false_ne_true
    · exact mem_takenStreams_iff.mpr hleft
  have hfail : ∀ condition error,
      stream ∈ (p.fail (ρ := ρ) condition error).2.takenStreams connection →
        stream ∈ p.takenStreams connection := by
    intro condition error hleft
    rw [mem_takenStreams_iff, Assoc.contains, fail, Assoc.get?_filter] at hleft
    exact mem_takenStreams_iff.mpr (Option.isSome_of_isSome_filter _ _ hleft)
  cases operation with
  | allocate other now =>
      rw [apply] at h
      cases hfree : p.freeStream? other with
      | none =>
          rw [allocate_of_none hfree] at h
          exact .inl h
      | some found =>
          rw [allocate_of_some hfree, mem_takenStreams_enter] at h
          rcases h with ⟨rfl, rfl⟩ | hbefore
          · exact .inr ⟨now, rfl, (mem_of_freeStream? hfree).1⟩
          · exact .inl hbefore
  | complete other taken reply =>
      cases hget : p.entries.get? (other, taken) with
      | none =>
          simp only [apply, complete, hget] at h
          exact .inl h
      | some waiting =>
          simp only [apply, complete, hget] at h
          exact .inl (hrelease other taken h)
  | release other taken => exact .inl (hrelease other taken h)
  | sweep now => exact .inl (hfail _ _ h)
  | failConnection other error => exact .inl (hfail _ _ h)

/-- Requests wait only on streams that are for requests. -/
def UsesRequestStreams (p : PendingRequests) : Prop :=
  ∀ connection, ∀ stream ∈ p.takenStreams connection, 0 ≤ stream.toInt

theorem UsesRequestStreams.apply (h : p.UsesRequestStreams) (operation : PendingOperation ρ) :
    (p.apply operation).2.UsesRequestStreams := by
  intro connection stream htaken
  rcases mem_takenStreams_apply htaken with hbefore | ⟨now, rfl, hsearched⟩
  · exact h connection stream hbefore
  · exact mem_streamsFrom_iff.mp hsearched

theorem UsesRequestStreams.applyAll (h : p.UsesRequestStreams)
    (operations : List (PendingOperation ρ)) : (p.applyAll operations).2.UsesRequestStreams := by
  induction operations generalizing p with
  | nil => exact h
  | cons operation rest ih => exact ih (h.apply operation)

/-- How far an allocation came that takes turns with what others do: streams are left to try, or it
is over and has found a stream or none. -/
inductive Search
  | trying (left : List Int8)
  | over (found : Option (Int8 × Nat))

/-- A turn of an allocation: try the next stream, and take it if nothing waits there. -/
def advance (p : PendingRequests) (connection : ConnectionId) (now : Moment) :
    Search → Search × PendingRequests
  | .trying [] => (.over none, p)
  | .trying (stream :: left) =>
      if p.entries.contains (connection, stream) then (.trying left, p)
      else (.over (some (stream, p.registered)), p.enter connection stream now)
  | .over found => (.over found, p)

/-- A search and the table after turns: of the search, or of others with an operation. -/
def takeTurns (connection : ConnectionId) (now : Moment) :
    Search → PendingRequests → List (Option (PendingOperation ρ)) → Search × PendingRequests
  | search, p, [] => (search, p)
  | search, p, none :: turns =>
      takeTurns connection now (p.advance connection now search).1
        (p.advance connection now search).2 turns
  | search, p, some operation :: turns =>
      takeTurns connection now search (p.apply operation).2 turns

/-- An allocation whose turns come between others. -/
def allocateAmong (p : PendingRequests) (connection : ConnectionId) (now : Moment)
    (turns : List (Option (PendingOperation ρ))) : Search × PendingRequests :=
  takeTurns connection now (.trying (streamsFrom p.streamCounter))
    { p with streamCounter := p.streamCounter + 1 } turns

theorem takeTurns_over (connection : ConnectionId) (now : Moment) (found : Option (Int8 × Nat))
    (p : PendingRequests) (turns : List (Option (PendingOperation ρ))) :
    (takeTurns connection now (.over found) p turns).1 = .over found := by
  induction turns generalizing p with
  | nil => rfl
  | cons turn turns ih =>
      cases turn with
      | none => exact ih _
      | some operation => exact ih _

theorem takeTurns_over_replicate (connection : ConnectionId) (now : Moment)
    (found : Option (Int8 × Nat)) (p : PendingRequests) (count : Nat) :
    takeTurns (ρ := ρ) connection now (.over found) p (List.replicate count none) =
      (.over found, p) := by
  induction count with
  | zero => rfl
  | succ count ih => exact ih

theorem takeTurns_replicate (connection : ConnectionId) (now : Moment) (left : List Int8)
    (p : PendingRequests) :
    takeTurns (ρ := ρ) connection now (.trying left) p (List.replicate (left.length + 1) none) =
      match left.find? fun stream => !p.entries.contains (connection, stream) with
      | none => (.over none, p)
      | some stream => (.over (some (stream, p.registered)), p.enter connection stream now) := by
  induction left with
  | nil => rfl
  | cons stream left ih =>
      rw [List.length_cons, List.replicate_succ, takeTurns, advance, List.find?_cons]
      cases hidle : p.entries.contains (connection, stream) with
      | true => exact ih
      | false => exact takeTurns_over_replicate ..

/-- A stream that is free when a search begins stays so if nobody else allocates on the connection,
and the search comes to it unless it finds another one before. -/
theorem exists_takeTurns_eq_over {taken left : List Int8}
    {turns : List (Option (PendingOperation ρ))}
    (hothers : ∀ operation, some operation ∈ turns → ∀ time, operation ≠ .allocate connection time)
    (htaken : p.takenStreams connection ⊆ taken) (hfree : ∃ stream ∈ left, stream ∉ taken)
    (hturns : left.length ≤ turns.countP Option.isNone) (now : Moment) :
    ∃ found, (takeTurns connection now (.trying left) p turns).1 = .over (some found) := by
  induction turns generalizing left p with
  | nil =>
      obtain ⟨stream, hmem, -⟩ := hfree
      exact absurd hmem (by simp [List.length_eq_zero_iff.mp (Nat.le_zero.mp hturns)])
  | cons turn turns ih =>
      have hrest := fun operation hmem => hothers operation (List.mem_cons_of_mem _ hmem)
      cases turn with
      | some operation =>
          refine ih hrest (fun stream hstream => ?_) hfree (by simpa using hturns)
          rcases mem_takenStreams_apply hstream with hbefore | ⟨time, rfl, -⟩
          · exact htaken hbefore
          · exact absurd rfl (hothers _ List.mem_cons_self time)
      | none =>
          cases left with
          | nil => simp at hfree
          | cons stream left =>
              rw [takeTurns, advance]
              cases hidle : p.entries.contains (connection, stream) with
              | false => exact ⟨_, takeTurns_over ..⟩
              | true =>
                  have hstream := htaken (mem_takenStreams_iff.mpr hidle)
                  obtain ⟨free, hmem, hnot⟩ := hfree
                  have hmem : free ∈ left := by
                    rcases List.mem_cons.mp hmem with rfl | hmem
                    · exact absurd hstream hnot
                    · exact hmem
                  refine ih hrest htaken ⟨free, hmem, hnot⟩ ?_
                  simpa using hturns

/-- What an allocation on a connection does, and what others cannot do to it. -/
structure AllocatesFreely (ρ : Type) (p : PendingRequests) (connection : ConnectionId)
    (now : Moment) : Prop where
  isSome_iff : (p.allocate connection now).1.isSome ↔
    (p.takenStreams connection).length < streamCount
  /-- The stream was free, and the request on it is the only entry that is new. -/
  added : ∀ stream request, (p.allocate connection now).1 = some (stream, request) →
    0 ≤ stream.toInt ∧ stream ∉ p.takenStreams connection ∧
      (p.allocate connection now).2.entries.entries =
        p.entries.entries ++ [((connection, stream), ⟨request, now⟩)]
  unchanged : (p.allocate connection now).1 = none →
    (p.allocate connection now).2.entries = p.entries
  /-- An allocation is a search that is left to itself. -/
  alone : p.allocateAmong (ρ := ρ) connection now (List.replicate (streamCount + 1) none) =
    (.over (p.allocate connection now).1, (p.allocate connection now).2)
  /-- Whatever others do between the turns of a search but allocate on its connection, it finds a
  stream if one is free when it begins. -/
  undisturbed : ∀ turns : List (Option (PendingOperation ρ)),
    (∀ operation, some operation ∈ turns → ∀ time, operation ≠ .allocate connection time) →
    (p.takenStreams connection).length < streamCount →
    streamCount ≤ turns.countP Option.isNone →
    ∃ found, (p.allocateAmong connection now turns).1 = .over (some found)

theorem UsesRequestStreams.allocatesFreely (h : p.UsesRequestStreams) (connection : ConnectionId)
    (now : Moment) : p.AllocatesFreely ρ connection now where
  isSome_iff := by
    rw [fst_allocate, Option.isSome_map, freeStream?_isSome_iff, exists_free_iff (h connection)]
  added stream request hfound := by
    rw [fst_allocate, Option.map_eq_some_iff] at hfound
    obtain ⟨found, hfree, heq⟩ := hfound
    obtain ⟨rfl, rfl⟩ := Prod.mk.inj heq
    obtain ⟨hsearched, hidle⟩ := mem_of_freeStream? hfree
    rw [allocate_of_some hfree]
    exact ⟨mem_streamsFrom_iff.mp hsearched, hidle, entries_enter hidle now⟩
  unchanged hnone := by
    rw [fst_allocate, Option.map_eq_none_iff] at hnone
    rw [allocate_of_none hnone]
  alone := by
    have halone := takeTurns_replicate (ρ := ρ) connection now (streamsFrom p.streamCounter)
      { p with streamCounter := p.streamCounter + 1 }
    rw [length_streamsFrom] at halone
    rw [allocateAmong, halone]
    change (match p.freeStream? connection with | none => _ | some stream => _) = _
    cases hfree : p.freeStream? connection with
    | none => rw [allocate_of_none hfree]
    | some stream => rw [allocate_of_some hfree]
  undisturbed turns hothers hlt hturns := by
    refine exists_takeTurns_eq_over hothers (List.Subset.refl _) ?_ ?_ now
    · exact (exists_free_iff (h connection) p.streamCounter).mpr hlt
    · rwa [length_streamsFrom]

/-- Whatever was done to a table, and wherever its counter stands: requests wait on the streams from
0 to 127, no two on one stream of a connection, and an allocation succeeds exactly if fewer than 128
requests wait on its connection. -/
theorem allocates_applyAll (deadline : Duration) (first counter : UInt32)
    (operations : List (PendingOperation ρ)) :
    let start : PendingRequests := { deadline, streamCounter := first }
    let p : PendingRequests := { (start.applyAll operations).2 with streamCounter := counter }
    (∀ connection, (p.takenStreams connection).Nodup ∧
      ∀ stream ∈ p.takenStreams connection, 0 ≤ stream.toInt ∧ stream.toInt ≤ 127) ∧
    ∀ connection now, p.AllocatesFreely ρ connection now := by
  intro start p
  have hstart : start.UsesRequestStreams := by
    intro connection stream htaken
    exact nomatch mem_takenStreams_iff.mp htaken
  have hreached : p.UsesRequestStreams := hstart.applyAll operations
  refine ⟨fun connection => ⟨p.nodup_takenStreams connection, fun stream htaken => ?_⟩,
    hreached.allocatesFreely⟩
  exact ⟨hreached connection stream htaken, Int.lt_add_one_iff.mp stream.toInt_lt⟩

end CqlClient.PendingRequests
