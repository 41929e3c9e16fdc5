import CqlClient.Connection.Pending
import CqlClient.Proofs.Assoc
import Mathlib.Data.List.Perm.Basic

namespace CqlClient.PendingRequests

variable {ρ : Type}

theorem allocate_cases (p : PendingRequests) (connection : ConnectionId) (now : Moment) :
    p.allocate connection now = (none, { p with streamCounter := p.streamCounter + 1 }) ∨
      ∃ stream, p.entries.get? (connection, stream) = none ∧
        p.allocate connection now = (some (stream, p.registered),
          { p with
            streamCounter := p.streamCounter + 1
            entries := p.entries.insert (connection, stream) ⟨p.registered, now⟩
            registered := p.registered + 1 }) := by
  cases hfree : p.freeStream? connection with
  | none => exact .inl (by simp only [allocate, hfree])
  | some stream =>
      refine .inr ⟨stream, ?_, by simp only [allocate, hfree]⟩
      have hidle := List.find?_some hfree
      simpa [Assoc.contains] using hidle

def waiting (p : PendingRequests) : List Nat := p.entries.values.map WaitingRequest.request

/-- The requests that a step gives back without an outcome. -/
def givenBack (p : PendingRequests) : PendingOperation ρ → List Nat
  | .release connection stream =>
      (p.entries.get? (connection, stream)).toList.map WaitingRequest.request
  | _ => []

def givenBackAll (p : PendingRequests) : List (PendingOperation ρ) → List Nat
  | [] => []
  | operation :: rest => p.givenBack operation ++ (p.apply operation).2.givenBackAll rest

/-- Just the waits that satisfy a condition ended, each once and with the outcome. The others go on
as they were. -/
structure Ends (p : PendingRequests) (condition : ConnectionId × Int8 → WaitingRequest → Prop)
    (outcome : Except StreamError ρ) (deliveries : List (Delivery ρ)) (after : PendingRequests) :
    Prop where
  mem_iff : ∀ delivery, delivery ∈ deliveries ↔
    ∃ key waiting, p.entries.get? key = some waiting ∧ condition key waiting ∧
      delivery = ⟨waiting.request, outcome⟩
  nodup : (deliveries.map Delivery.request).Nodup
  left_iff : ∀ key waiting, after.entries.get? key = some waiting ↔
    p.entries.get? key = some waiting ∧ ¬ condition key waiting
  size : after.size + deliveries.length = p.size

/-- What the operations on a table do to the requests that wait in it. -/
structure SettlesExactly (ρ : Type) (p : PendingRequests) : Prop where
  /-- A request gets a number of its own and a stream on which nothing waits. -/
  allocate : ∀ connection now,
    ((p.allocate connection now).1 = none ∧
      ∀ key, (p.allocate connection now).2.entries.get? key = p.entries.get? key) ∨
    ∃ stream, p.entries.get? (connection, stream) = none ∧
      (p.allocate connection now).1 = some (stream, p.registered) ∧
      ∀ key, (p.allocate connection now).2.entries.get? key =
        if key = (connection, stream) then some ⟨p.registered, now⟩ else p.entries.get? key
  /-- An answer is for the request that waits on its stream. -/
  complete : ∀ connection stream (reply : ρ),
    p.Ends (fun key _ => key = (connection, stream)) (.ok reply)
      (p.complete connection stream reply).1.toList (p.complete connection stream reply).2
  release : ∀ connection stream key, (p.release connection stream).entries.get? key =
    if key = (connection, stream) then none else p.entries.get? key
  /-- A sweep is for the requests whose age has reached the deadline. -/
  sweep : ∀ now, p.Ends (ρ := ρ)
    (fun _ waiting => p.deadline.nanoseconds ≤ (Duration.between waiting.since now).nanoseconds)
    (.error (.timeout p.deadline)) (p.sweep now).1 (p.sweep (ρ := ρ) now).2
  sweep_again : ∀ now earlier, earlier ≤ now →
    ((p.sweep (ρ := ρ) now).2.sweep (ρ := ρ) earlier).1.length = 0
  /-- The failure of a connection is for the requests that wait on it. -/
  failConnection : ∀ connection error, p.Ends (ρ := ρ) (fun key _ => key.1 = connection)
    (.error (.connectionFailed error)) (p.failConnection connection error).1
    (p.failConnection (ρ := ρ) connection error).2
  failConnection_again : ∀ connection error other,
    ((p.failConnection (ρ := ρ) connection error).2.failConnection (ρ := ρ)
      connection other).1.length = 0

theorem waiting_fail_perm (p : PendingRequests)
    (condition : ConnectionId × Int8 → WaitingRequest → Bool) (error : StreamError) :
    ((p.fail (ρ := ρ) condition error).2.waiting ++
      (p.fail (ρ := ρ) condition error).1.map Delivery.request).Perm p.waiting := by
  have hsplit := List.filter_append_perm (fun entry => !condition entry.1 entry.2) p.entries.entries
  have hmap := hsplit.map fun entry => entry.2.request
  rw [List.map_append] at hmap
  simpa [fail, waiting, Assoc.values, Assoc.filter, Function.comp_def] using hmap

theorem waiting_release_perm (p : PendingRequests) (connection : ConnectionId) (stream : Int8) :
    ((p.release connection stream).waiting ++
      (p.entries.get? (connection, stream)).toList.map WaitingRequest.request).Perm p.waiting := by
  cases hget : p.entries.get? (connection, stream) with
  | none => simp [waiting, release, Assoc.erase_eq_self hget]
  | some found =>
      have hperm := (Assoc.values_perm_cons_erase hget).map WaitingRequest.request
      exact (List.perm_append_singleton _ _).trans hperm.symm

theorem waiting_complete_perm (p : PendingRequests) (connection : ConnectionId) (stream : Int8)
    (reply : ρ) : ((p.complete connection stream reply).2.waiting ++
      (p.complete connection stream reply).1.toList.map Delivery.request).Perm p.waiting := by
  have h := p.waiting_release_perm connection stream
  cases hget : p.entries.get? (connection, stream) with
  | none => simp [complete, hget]
  | some found =>
      rw [hget] at h
      simpa [complete, hget] using h

theorem length_waiting (p : PendingRequests) : p.waiting.length = p.size := by
  rw [waiting, Assoc.values, List.length_map, List.length_map, size, Assoc.size]

theorem size_add_length {p after : PendingRequests} {deliveries : List (Delivery ρ)}
    (h : (after.waiting ++ deliveries.map Delivery.request).Perm p.waiting) :
    after.size + deliveries.length = p.size := by
  have hlength := h.length_eq
  rwa [List.length_append, length_waiting, List.length_map, length_waiting] at hlength

theorem ends_complete (p : PendingRequests) (connection : ConnectionId) (stream : Int8)
    (reply : ρ) : p.Ends (fun key _ => key = (connection, stream)) (.ok reply)
      (p.complete connection stream reply).1.toList (p.complete connection stream reply).2 := by
  have hsize := size_add_length (p.waiting_complete_perm connection stream reply)
  cases hget : p.entries.get? (connection, stream) with
  | none =>
      simp only [complete, hget] at hsize ⊢
      refine ⟨fun delivery => ?_, List.nodup_nil, fun key waiting => ?_, hsize⟩
      · refine iff_of_false List.not_mem_nil ?_
        rintro ⟨key, waiting, hwaiting, rfl, -⟩
        cases hget.symm.trans hwaiting
      · refine (and_iff_left_of_imp ?_).symm
        rintro hwaiting rfl
        cases hget.symm.trans hwaiting
  | some found =>
      simp only [complete, hget, release] at hsize ⊢
      refine ⟨fun delivery => ?_, by simp, fun key waiting => ?_, hsize⟩
      · rw [Option.toList_some, List.mem_singleton]
        constructor
        · rintro rfl
          exact ⟨_, found, hget, rfl, rfl⟩
        · rintro ⟨key, waiting, hwaiting, rfl, rfl⟩
          rw [Option.some.inj (hget.symm.trans hwaiting)]
      · rw [Assoc.get?_erase]
        split
        · next heq => simp [heq]
        · next hne => simp [hne]

theorem ends_fail {p : PendingRequests} {condition : ConnectionId × Int8 → WaitingRequest → Bool}
    {P : ConnectionId × Int8 → WaitingRequest → Prop} (hnodup : p.waiting.Nodup)
    (hcondition : ∀ key waiting, condition key waiting = true ↔ P key waiting)
    (error : StreamError) :
    p.Ends (ρ := ρ) P (.error error) (p.fail condition error).1
      (p.fail (ρ := ρ) condition error).2 where
  mem_iff delivery := by
    simp only [fail, List.mem_map, List.mem_filter]
    constructor
    · rintro ⟨⟨key, waiting⟩, ⟨hmem, hkey⟩, rfl⟩
      exact ⟨key, waiting, Assoc.get?_eq_some_iff.mpr hmem, (hcondition key waiting).mp hkey, rfl⟩
    · rintro ⟨key, waiting, hget, hkey, rfl⟩
      exact ⟨(key, waiting), ⟨Assoc.get?_eq_some_iff.mp hget, (hcondition key waiting).mpr hkey⟩,
        rfl⟩
  nodup := by
    rw [waiting, Assoc.values, List.map_map] at hnodup
    simp only [fail, List.map_map]
    exact hnodup.sublist (List.filter_sublist.map _)
  left_iff key waiting := by
    simp only [fail, Assoc.get?_filter, Option.filter_eq_some_iff, Bool.not_eq_true',
      ← hcondition, Bool.not_eq_true]
  size := size_add_length (p.waiting_fail_perm condition error)

theorem isExpired_mono {p : PendingRequests} {earlier now : Moment} (h : earlier ≤ now)
    {waiting : WaitingRequest} (hold : p.isExpired earlier waiting = true) :
    p.isExpired now waiting = true :=
  decide_eq_true (Nat.le_trans (of_decide_eq_true hold) (Nat.sub_le_sub_right h waiting.since))

theorem fail_eq_nil {p : PendingRequests} {condition : ConnectionId × Int8 → WaitingRequest → Bool}
    {error : StreamError}
    (h : ∀ key waiting, p.entries.get? key = some waiting → condition key waiting = false) :
    (p.fail (ρ := ρ) condition error).1 = [] := by
  rw [fail, List.map_eq_nil_iff, List.filter_eq_nil_iff]
  rintro ⟨key, waiting⟩ hmem
  rw [h key waiting (Assoc.get?_eq_some_iff.mpr hmem)]
  exact Bool.false_ne_true

theorem sweep_sweep (p : PendingRequests) {now earlier : Moment} (h : earlier ≤ now) :
    ((p.sweep (ρ := ρ) now).2.sweep (ρ := ρ) earlier).1 = [] := by
  refine fail_eq_nil fun key waiting hget => ?_
  simp only [sweep, fail, Assoc.get?_filter, Option.filter_eq_some_iff, Bool.not_eq_true'] at hget
  rw [← Bool.not_eq_true]
  intro hold
  exact Bool.false_ne_true (hget.2.symm.trans (isExpired_mono h hold))

theorem failConnection_failConnection (p : PendingRequests) (connection : ConnectionId)
    (error other : ConnectionError) :
    ((p.failConnection (ρ := ρ) connection error).2.failConnection (ρ := ρ)
      connection other).1 = [] := by
  refine fail_eq_nil fun key waiting hget => ?_
  simp only [failConnection, fail, Assoc.get?_filter, Option.filter_eq_some_iff] at hget
  simpa using hget.2

theorem registered_complete (p : PendingRequests) (connection : ConnectionId) (stream : Int8)
    (reply : ρ) : (p.complete connection stream reply).2.registered = p.registered := by
  unfold complete
  split
  · rfl
  · rfl

/-- The requests that waited before a step, and the one that it registers if it does, are after it
those that wait, those that had an outcome and those that were given back. -/
theorem exists_apply_perm (p : PendingRequests) (operation : PendingOperation ρ) :
    ∃ new, List.range (p.apply operation).2.registered = List.range p.registered ++ new ∧
      ((p.apply operation).2.waiting ++ (p.apply operation).1.map Delivery.request ++
        p.givenBack operation).Perm (p.waiting ++ new) := by
  cases operation with
  | allocate connection now =>
      rcases p.allocate_cases connection now with hfull | ⟨stream, hidle, hsent⟩
      · exact ⟨[], by simp [apply, hfull], by simp [apply, hfull, waiting, givenBack]⟩
      · refine ⟨[p.registered], by simp [apply, hsent, List.range_succ], ?_⟩
        simp [apply, hsent, waiting, givenBack, Assoc.values_insert, Assoc.erase_eq_self hidle]
  | complete connection stream reply =>
      refine ⟨[], by simp [apply, registered_complete], ?_⟩
      simpa [apply, givenBack] using p.waiting_complete_perm connection stream reply
  | release connection stream =>
      refine ⟨[], by simp [apply, release], ?_⟩
      simpa [apply, givenBack] using p.waiting_release_perm connection stream
  | sweep now =>
      refine ⟨[], by simp [apply, sweep, fail], ?_⟩
      simp only [givenBack, List.append_nil]
      exact p.waiting_fail_perm _ _
  | failConnection connection error =>
      refine ⟨[], by simp [apply, failConnection, fail], ?_⟩
      simp only [givenBack, List.append_nil]
      exact p.waiting_fail_perm _ _

theorem exists_applyAll_perm (p : PendingRequests) (operations : List (PendingOperation ρ)) :
    ∃ new, List.range (p.applyAll operations).2.registered = List.range p.registered ++ new ∧
      ((p.applyAll operations).2.waiting ++ (p.applyAll operations).1.map Delivery.request ++
        p.givenBackAll operations).Perm (p.waiting ++ new) := by
  induction operations generalizing p with
  | nil => exact ⟨[], by simp [applyAll], by simp [applyAll, givenBackAll]⟩
  | cons operation rest ih =>
      obtain ⟨first, hfirst, hstep⟩ := p.exists_apply_perm operation
      obtain ⟨more, hmore, hrest⟩ := ih (p.apply operation).2
      refine ⟨first ++ more, ?_, ?_⟩
      · rw [← List.append_assoc, ← hfirst, ← hmore]
        rfl
      · -- Both steps account for each request as often as it occurs, so the counts add up.
        rw [List.perm_iff_count] at hstep hrest ⊢
        intro request
        have hstep := hstep request
        have hrest := hrest request
        simp only [applyAll, givenBackAll, List.map_append, List.count_append] at hstep hrest ⊢
        omega

theorem settlesExactly {p : PendingRequests} (hnodup : p.waiting.Nodup) : p.SettlesExactly ρ where
  allocate connection now := by
    rcases p.allocate_cases connection now with hfull | ⟨stream, hidle, hsent⟩
    · exact .inl ⟨by rw [hfull], fun key => by rw [hfull]⟩
    · refine .inr ⟨stream, hidle, by rw [hsent], fun key => ?_⟩
      rw [hsent]
      exact Assoc.get?_insert ..
  complete := p.ends_complete
  release connection stream key := Assoc.get?_erase ..
  sweep now := ends_fail hnodup (fun _ _ => decide_eq_true_iff) _
  sweep_again now earlier h := by rw [p.sweep_sweep h, List.length_nil]
  failConnection connection error := ends_fail hnodup (fun _ _ => decide_eq_true_iff) _
  failConnection_again connection error other := by
    rw [p.failConnection_failConnection connection error other, List.length_nil]

/-- Over any run of a new table every request that was registered either waits, or had one outcome,
or was given back, and no two of these; and whatever comes next settles just the waits that it is
about. -/
theorem settles_applyAll (deadline : Duration) (operations : List (PendingOperation ρ)) :
    let start : PendingRequests := { deadline }
    ((start.applyAll operations).2.waiting ++ (start.applyAll operations).1.map Delivery.request ++
        start.givenBackAll operations).Perm
      (List.range (start.applyAll operations).2.registered) ∧
    (start.applyAll operations).2.SettlesExactly ρ := by
  intro start
  obtain ⟨new, hnew, hperm⟩ := start.exists_applyAll_perm operations
  have hall : (List.range (start.applyAll operations).2.registered) = start.waiting ++ new := hnew
  rw [← hall] at hperm
  have hnodup := hperm.nodup_iff.mpr List.nodup_range
  exact ⟨hperm, settlesExactly hnodup.of_append_left.of_append_left⟩

end CqlClient.PendingRequests
