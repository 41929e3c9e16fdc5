namespace CqlClient

/-- A finite map: pairs in the order in which their keys were last set, no key twice. -/
structure Assoc (κ α : Type) where
  entries : List (κ × α)
  nodup_keys : (entries.map Prod.fst).Nodup
  deriving DecidableEq

namespace Assoc

variable {κ α : Type}

/-- The map without keys. -/
def empty : Assoc κ α := ⟨[], List.nodup_nil⟩

instance : Inhabited (Assoc κ α) := ⟨empty⟩

/-- The keys, in order. -/
def keys (m : Assoc κ α) : List κ := m.entries.map Prod.fst

/-- The values, in the order of their keys. -/
def values (m : Assoc κ α) : List α := m.entries.map Prod.snd

/-- Number of keys. -/
def size (m : Assoc κ α) : Nat := m.entries.length

/-- Whether there is no key. -/
def isEmpty (m : Assoc κ α) : Bool := m.entries.isEmpty

variable [DecidableEq κ]

/-- The value of a key. -/
def get? (m : Assoc κ α) (key : κ) : Option α :=
  (m.entries.find? fun entry => entry.1 = key).map Prod.snd

/-- Whether a key has a value. -/
def contains (m : Assoc κ α) (key : κ) : Bool :=
  (m.get? key).isSome

/-- The map without a key. -/
def erase (m : Assoc κ α) (key : κ) : Assoc κ α :=
  ⟨m.entries.filter fun entry => entry.1 ≠ key,
    m.nodup_keys.sublist (List.filter_sublist.map Prod.fst)⟩

theorem not_mem_keys_erase (m : Assoc κ α) (key : κ) : key ∉ (m.erase key).keys := by
  simp [keys, erase]

/-- Give a key a value, in place of the one that it had. -/
def insert (m : Assoc κ α) (key : κ) (value : α) : Assoc κ α :=
  ⟨(m.erase key).entries ++ [(key, value)], by
    rw [List.map_append, List.nodup_append]
    refine ⟨(m.erase key).nodup_keys, by simp, ?_⟩
    intro a ha b hb
    obtain rfl : b = key := by simpa using hb
    rintro rfl
    exact m.not_mem_keys_erase a ha⟩

/-- The map of the keys whose entries satisfy a condition. -/
def filter (m : Assoc κ α) (condition : κ → α → Bool) : Assoc κ α :=
  ⟨m.entries.filter fun entry => condition entry.1 entry.2,
    m.nodup_keys.sublist (List.filter_sublist.map Prod.fst)⟩

/-- Change the value of a key, if it has one. -/
def modify (m : Assoc κ α) (key : κ) (change : α → α) : Assoc κ α :=
  match m.get? key with
  | some value => m.insert key (change value)
  | none => m

/-- The map of a list of pairs; of pairs with the same key the last stays. -/
def ofList (pairs : List (κ × α)) : Assoc κ α :=
  pairs.foldl (fun m pair => m.insert pair.1 pair.2) empty

theorem find?_filter_ne (entries : List (κ × α)) {key other : κ} (h : other ≠ key) :
    (entries.filter fun entry => entry.1 ≠ key).find? (fun entry => entry.1 = other) =
      entries.find? fun entry => entry.1 = other := by
  rw [List.find?_filter]
  congr 1
  funext entry
  by_cases ho : entry.1 = other
  · simp [ho, h]
  · simp [ho]

theorem get?_erase (m : Assoc κ α) (key other : κ) :
    (m.erase key).get? other = if other = key then none else m.get? other := by
  by_cases h : other = key
  · subst h
    simp [get?, erase]
  · rw [if_neg h]
    simp only [get?, erase, find?_filter_ne m.entries h]

theorem get?_insert (m : Assoc κ α) (key other : κ) (value : α) :
    (m.insert key value).get? other = if other = key then some value else m.get? other := by
  by_cases h : other = key
  · subst h
    have := m.get?_erase other other
    simp only [if_true, get?, Option.map_eq_none_iff] at this
    simp [get?, insert, List.find?_append, this]
  · have hk : ¬ key = other := fun e => h e.symm
    have := m.get?_erase key other
    simp only [if_neg h] at this ⊢
    rw [← this]
    simp [get?, insert, List.find?_append, hk]

theorem mem_keys_iff (m : Assoc κ α) (key : κ) : key ∈ m.keys ↔ (m.get? key).isSome := by
  simp [keys, get?]

end Assoc

end CqlClient
