import CqlClient.Assoc
import CqlClient.Topology.Snapshot
import Mathlib.Data.List.Nodup
import Mathlib.Data.List.Perm.Basic

namespace CqlClient.Assoc

variable {κ α : Type}

theorem eq_empty_of_isEmpty {m : Assoc κ α} (h : m.isEmpty = true) : m = empty := by
  cases m with
  | mk entries nodup_keys =>
      rw [empty, mk.injEq]
      exact List.isEmpty_iff.mp h

variable [DecidableEq κ]

@[simp] theorem get?_empty (key : κ) : (empty : Assoc κ α).get? key = none := rfl

theorem get?_eq_some_iff {m : Assoc κ α} {key : κ} {value : α} :
    m.get? key = some value ↔ (key, value) ∈ m.entries := by
  rw [get?, Option.map_eq_some_iff]
  constructor
  · rintro ⟨⟨found, kept⟩, hfind, rfl⟩
    have hkey : found = key := by simpa using List.find?_some hfind
    subst hkey
    exact List.mem_of_find?_eq_some hfind
  · intro hmem
    cases hfind : m.entries.find? (fun entry => entry.1 = key) with
    | none => exact absurd (List.find?_eq_none.mp hfind _ hmem) (by simp)
    | some entry =>
        have hkey : entry.1 = key := by simpa using List.find?_some hfind
        refine ⟨entry, rfl, ?_⟩
        have heq : entry = (key, value) :=
          List.inj_on_of_nodup_map m.nodup_keys (List.mem_of_find?_eq_some hfind) hmem hkey
        rw [heq]

theorem mem_values_iff {m : Assoc κ α} {value : α} :
    value ∈ m.values ↔ ∃ key, m.get? key = some value := by
  simp [values, get?_eq_some_iff]

theorem erase_eq_self {m : Assoc κ α} {key : κ} (h : m.get? key = none) : m.erase key = m := by
  have hkey : ∀ entry ∈ m.entries, entry.1 ≠ key := by
    rintro ⟨found, value⟩ hmem rfl
    rw [get?_eq_some_iff.mpr hmem] at h
    exact absurd h (by simp)
  cases m with
  | mk entries nodup_keys =>
      rw [erase, mk.injEq, List.filter_eq_self]
      exact fun entry hmem => decide_eq_true (hkey entry hmem)

theorem get?_filter (m : Assoc κ α) (condition : κ → α → Bool) (key : κ) :
    (m.filter condition).get? key = (m.get? key).filter (condition key) := by
  apply Option.ext
  intro value
  rw [get?_eq_some_iff, Option.filter_eq_some_iff, get?_eq_some_iff, filter, List.mem_filter]

theorem get?_modify (m : Assoc κ α) (key other : κ) (change : α → α) :
    (m.modify key change).get? other =
      if other = key then (m.get? key).map change else m.get? other := by
  cases hget : m.get? key with
  | none =>
      simp only [modify, hget]
      split
      · next heq => rw [heq, hget, Option.map_none]
      · rfl
  | some value =>
      simp only [modify, hget]
      exact get?_insert m key other (change value)

theorem values_insert (m : Assoc κ α) (key : κ) (value : α) :
    (m.insert key value).values = (m.erase key).values ++ [value] := by
  simp [values, insert]

theorem values_perm_cons_erase {m : Assoc κ α} {key : κ} {value : α}
    (h : m.get? key = some value) : m.values.Perm (value :: (m.erase key).values) := by
  have hsplit := List.append_of_mem (get?_eq_some_iff.mp h)
  obtain ⟨before, after, hentries⟩ := hsplit
  have hnodup := m.nodup_keys
  rw [hentries, List.map_append, List.map_cons, List.nodup_append] at hnodup
  obtain ⟨-, hafter, hdisjoint⟩ := hnodup
  have herase : (m.erase key).entries = before ++ after := by
    change m.entries.filter (fun entry => entry.1 ≠ key) = before ++ after
    rw [hentries, List.filter_append, List.filter_cons_of_neg (by simp)]
    congr 1
    · refine List.filter_eq_self.mpr fun entry hmem => decide_eq_true ?_
      exact hdisjoint entry.1 (List.mem_map_of_mem hmem) key (by simp)
    · refine List.filter_eq_self.mpr fun entry hmem => decide_eq_true ?_
      intro hkey
      exact (List.nodup_cons.mp hafter).1 (List.mem_map.mpr ⟨entry, hmem, hkey⟩)
  rw [values, values, herase, hentries, List.map_append, List.map_append, List.map_cons]
  exact List.perm_middle

theorem entries_foldl_insert (pairs : List (κ × α)) (m : Assoc κ α)
    (hnodup : ((m.entries ++ pairs).map Prod.fst).Nodup) :
    (pairs.foldl (fun m pair => m.insert pair.1 pair.2) m).entries = m.entries ++ pairs := by
  induction pairs generalizing m with
  | nil => simp
  | cons pair rest ih =>
      have hnew : m.get? pair.1 = none := by
        rw [List.map_append, List.map_cons, List.nodup_middle, List.nodup_cons] at hnodup
        rw [Option.eq_none_iff_forall_ne_some]
        intro value hvalue
        have hmem := List.mem_map_of_mem (f := Prod.fst) (get?_eq_some_iff.mp hvalue)
        exact hnodup.1 (List.mem_append_left _ hmem)
      have hentries : (m.insert pair.1 pair.2).entries = m.entries ++ [pair] := by
        change (m.erase pair.1).entries ++ [pair] = m.entries ++ [pair]
        rw [erase_eq_self hnew]
      rw [List.foldl_cons, ih, hentries, List.append_assoc, List.singleton_append]
      rwa [hentries, List.append_assoc, List.singleton_append]

theorem entries_ofList {pairs : List (κ × α)} (hnodup : (pairs.map Prod.fst).Nodup) :
    (ofList pairs).entries = pairs :=
  entries_foldl_insert pairs empty hnodup

theorem ofList_entries (m : Assoc κ α) : ofList m.entries = m := by
  cases h : ofList m.entries with
  | mk entries nodup_keys =>
      obtain rfl : entries = m.entries := by
        rw [← entries_ofList m.nodup_keys, h]
      rfl

theorem get?_ofList_map {β : Type} (m : Assoc κ α) (change : κ → α → β) (key : κ) :
    (ofList (m.entries.map fun entry => (entry.1, change entry.1 entry.2))).get? key =
      (m.get? key).map (change key) := by
  have hnodup : ((m.entries.map fun entry => (entry.1, change entry.1 entry.2)).map
      Prod.fst).Nodup := by
    rw [List.map_map]
    exact m.nodup_keys
  apply Option.ext
  intro value
  rw [get?_eq_some_iff, entries_ofList hnodup, Option.map_eq_some_iff, List.mem_map]
  constructor
  · rintro ⟨⟨found, kept⟩, hmem, heq⟩
    obtain ⟨rfl, rfl⟩ := Prod.mk.inj heq
    exact ⟨kept, get?_eq_some_iff.mpr hmem, rfl⟩
  · rintro ⟨kept, hget, rfl⟩
    exact ⟨(key, kept), get?_eq_some_iff.mp hget, rfl⟩

theorem entries_map_perm {β : Type} {m n : Assoc κ α} {change : α → β}
    (h : ∀ key, (m.get? key).map change = (n.get? key).map change) :
    (m.entries.map (Prod.map id change)).Perm (n.entries.map (Prod.map id change)) := by
  have hnodup : ∀ l : Assoc κ α, (l.entries.map (Prod.map id change)).Nodup := by
    intro l
    refine List.Nodup.of_map Prod.fst ?_
    rw [List.map_map]
    exact l.nodup_keys
  have hmem : ∀ (l : Assoc κ α) (entry : κ × β),
      entry ∈ l.entries.map (Prod.map id change) ↔
        (l.get? entry.1).map change = some entry.2 := by
    rintro l ⟨key, value⟩
    rw [List.mem_map, Option.map_eq_some_iff]
    constructor
    · rintro ⟨⟨found, kept⟩, hentry, heq⟩
      obtain ⟨rfl, rfl⟩ := Prod.mk.inj heq
      exact ⟨kept, get?_eq_some_iff.mpr hentry, rfl⟩
    · rintro ⟨kept, hget, rfl⟩
      exact ⟨(key, kept), get?_eq_some_iff.mp hget, rfl⟩
  refine (List.perm_ext_iff_of_nodup (hnodup m) (hnodup n)).mpr fun entry => ?_
  rw [hmem m, hmem n, h]

theorem entries_perm {m n : Assoc κ α} (h : ∀ key, m.get? key = n.get? key) :
    m.entries.Perm n.entries := by
  have hperm : (m.entries.map (Prod.map id id)).Perm (n.entries.map (Prod.map id id)) :=
    entries_map_perm fun key => by rw [h]
  simpa using hperm

theorem values_map_perm {β : Type} {m n : Assoc κ α} {change : α → β}
    (h : ∀ key, (m.get? key).map change = (n.get? key).map change) :
    (m.values.map change).Perm (n.values.map change) := by
  have hvalues : ∀ l : Assoc κ α,
      l.values.map change = (l.entries.map (Prod.map id change)).map Prod.snd := fun l => by
    rw [values, List.map_map, List.map_map]
    rfl
  rw [hvalues, hvalues]
  exact (entries_map_perm h).map Prod.snd

/-- The list of a key; a key that is not there has the empty list. -/
def listAt (lists : Assoc κ (List α)) (key : κ) : List α := (lists.get? key).getD []

/-- Whether a map from keys to lists is the index of a relation: the list of a key holds, each once,
what is related to it, and no key has an empty list. -/
structure Indexes (lists : Assoc κ (List α)) (Related : κ → α → Prop) : Prop where
  nodup : ∀ key, (lists.listAt key).Nodup
  mem_iff : ∀ key value, value ∈ lists.listAt key ↔ Related key value
  ne_nil : ∀ key, lists.get? key ≠ some []

theorem Indexes.empty : (empty : Assoc κ (List α)).Indexes fun _ _ => False where
  nodup key := by simp [listAt]
  mem_iff key value := by simp [listAt]
  ne_nil key := by simp

theorem Indexes.congr {lists : Assoc κ (List α)} {Related Other : κ → α → Prop}
    (h : lists.Indexes Related) (heq : ∀ key value, Related key value ↔ Other key value) :
    lists.Indexes Other where
  nodup := h.nodup
  mem_iff key value := (h.mem_iff key value).trans (heq key value)
  ne_nil := h.ne_nil

theorem listAt_push (lists : Assoc κ (List α)) (key other : κ) (value : α) :
    (lists.push key value).listAt other =
      if other = key then lists.listAt key ++ [value] else lists.listAt other := by
  rw [listAt, push, get?_insert]
  split <;> rfl

theorem Indexes.push {lists : Assoc κ (List α)} {Related : κ → α → Prop} {key : κ} {value : α}
    (h : lists.Indexes Related) (hnew : ¬ Related key value) :
    (lists.push key value).Indexes fun k v => Related k v ∨ k = key ∧ v = value where
  nodup other := by
    rw [listAt_push]
    split
    · refine List.nodup_append.mpr ⟨h.nodup key, by simp, ?_⟩
      rintro v hv w hw rfl
      obtain rfl : v = value := by simpa using hw
      exact hnew ((h.mem_iff key v).mp hv)
    · exact h.nodup other
  mem_iff other v := by
    rw [listAt_push]
    split
    · next heq => simp [heq, h.mem_iff]
    · next hne => simp [hne, h.mem_iff]
  ne_nil other := by
    rw [Assoc.push, get?_insert]
    split
    · simp
    · exact h.ne_nil other

theorem get?_pull [DecidableEq α] (lists : Assoc κ (List α)) (key other : κ) (value : α) :
    (lists.pull key value).get? other =
      if other = key then
        (lists.get? key).bind fun values =>
          if (values.filter (· ≠ value)).isEmpty then none else some (values.filter (· ≠ value))
      else lists.get? other := by
  cases hget : lists.get? key with
  | none =>
      simp only [pull, hget, Option.bind_none]
      split
      · next heq => rw [heq, hget]
      · rfl
  | some values =>
      simp only [pull, hget, Option.bind_some]
      split
      · rw [get?_erase]
      · rw [get?_insert]

theorem listAt_pull [DecidableEq α] (lists : Assoc κ (List α)) (key other : κ) (value : α) :
    (lists.pull key value).listAt other =
      if other = key then (lists.listAt key).filter (· ≠ value) else lists.listAt other := by
  rw [listAt, get?_pull]
  split
  · rw [listAt]
    cases lists.get? key with
    | none => rfl
    | some values =>
        simp only [Option.bind_some, Option.getD_some]
        split
        · next hempty => exact (List.isEmpty_iff.mp hempty).symm
        · rfl
  · rfl

theorem Indexes.pull [DecidableEq α] {lists : Assoc κ (List α)} {Related : κ → α → Prop}
    (h : lists.Indexes Related) (key : κ) (value : α) :
    (lists.pull key value).Indexes fun k v => Related k v ∧ ¬ (k = key ∧ v = value) where
  nodup other := by
    rw [listAt_pull]
    split
    · exact (h.nodup key).filter _
    · exact h.nodup other
  mem_iff other v := by
    rw [listAt_pull]
    split
    · next heq => simp [heq, h.mem_iff]
    · next hne => simp [hne, h.mem_iff]
  ne_nil other := by
    rw [get?_pull]
    split
    · cases lists.get? key with
      | none => simp
      | some values =>
          simp only [Option.bind_some]
          split
          · simp
          · next hne => simpa [List.isEmpty_iff] using hne
    · exact h.ne_nil other

end CqlClient.Assoc
