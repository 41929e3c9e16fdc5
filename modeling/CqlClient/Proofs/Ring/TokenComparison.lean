import CqlClient.Proofs.Ring.Canonical

namespace CqlClient

namespace Utf16

variable {m n : Nat} {rest others : List Nat}

theorem compare_eq_lt_iff {first second : List Nat} :
    compare first second = .lt ↔ first < second := by
  induction first generalizing second with
  | nil => cases second <;> simp
  | cons m rest ih =>
      cases second with
      | nil => simp
      | cons n others =>
          rw [List.compare_cons_cons, Ordering.then_eq_lt, Nat.compare_eq_lt, Nat.compare_eq_eq, ih,
            List.cons_lt_cons_iff]

theorem compare_append (front : List Nat) :
    compare (front ++ rest) (front ++ others) = compare rest others := by
  induction front with
  | nil => rfl
  | cons m front ih => simp [List.compare_cons_cons, ih]

theorem compare_cons_of_ne (h : m ≠ n) : compare (m :: rest) (n :: others) = compare m n := by
  rcases Nat.lt_or_gt_of_ne h with hlt | hgt
  · rw [List.compare_cons_cons, Nat.compare_eq_lt.mpr hlt, Ordering.lt_then]
  · rw [List.compare_cons_cons, Nat.compare_eq_gt.mpr hgt, Ordering.gt_then]

theorem compare_congr {m' n' : Nat} (hlt : m < n ↔ m' < n') (hgt : n < m ↔ n' < m') :
    compare m n = compare m' n' := by
  rw [Nat.compare_eq_ite_lt, Nat.compare_eq_ite_lt]
  simp only [hlt, hgt]

/-- Place of a character in the order of code units. -/
def place (c : Char) : Nat :=
  if 0xDFFF < c.toNat ∧ c.toNat < 0x10000 then c.toNat + 0x110000 else c.toNat

theorem place_cases (c : Char) :
    c.toNat < 0xD800 ∧ place c = c.toNat ∨
      (0xDFFF < c.toNat ∧ c.toNat < 0x10000) ∧ place c = c.toNat + 0x110000 ∨
      (0xFFFF < c.toNat ∧ c.toNat < 0x110000) ∧ place c = c.toNat := by
  have hc : c.toNat < 0xD800 ∨ 0xDFFF < c.toNat ∧ c.toNat < 0x110000 := c.valid
  unfold place
  split <;> omega

theorem place_inj {c d : Char} (h : place c = place d) : c = d := by
  have hc := place_cases c
  have hd := place_cases d
  exact Char.toNat_inj.mp (by omega)

theorem compare_unitsOfChar_append {c d : Char} (h : c ≠ d) :
    compare (unitsOfChar c ++ rest) (unitsOfChar d ++ others) = compare (place c) (place d) := by
  have hc := place_cases c
  have hd := place_cases d
  have hne : c.toNat ≠ d.toNat := mt Char.toNat_inj.mp h
  unfold unitsOfChar
  split <;> split <;> simp only [List.cons_append, List.nil_append]
  · rw [compare_cons_of_ne hne]
    apply compare_congr <;> omega
  · rw [compare_cons_of_ne (by omega)]
    apply compare_congr <;> omega
  · rw [compare_cons_of_ne (by omega)]
    apply compare_congr <;> omega
  · by_cases hhigh : (c.toNat - 0x10000) / 0x400 = (d.toNat - 0x10000) / 0x400
    · -- With the same first surrogate the second one decides.
      rw [hhigh, List.compare_cons_cons, Nat.compare_eq_eq.mpr rfl, Ordering.eq_then,
        compare_cons_of_ne (by omega)]
      apply compare_congr <;> omega
    · rw [compare_cons_of_ne (by omega)]
      apply compare_congr <;> omega

theorem compare_flatMap_unitsOfChar (text other : List Char) :
    compare (text.flatMap unitsOfChar) (other.flatMap unitsOfChar) =
      compare (text.map place) (other.map place) := by
  induction text generalizing other with
  | nil =>
      cases other with
      | nil => rfl
      | cons d other =>
          obtain ⟨first, more, hunits⟩ := List.exists_cons_of_ne_nil (unitsOfChar_ne_nil d)
          rw [List.flatMap_cons, hunits]
          rfl
  | cons c text ih =>
      cases other with
      | nil =>
          obtain ⟨first, more, hunits⟩ := List.exists_cons_of_ne_nil (unitsOfChar_ne_nil c)
          rw [List.flatMap_cons, hunits]
          rfl
      | cons d other =>
          rw [List.flatMap_cons, List.flatMap_cons, List.map_cons, List.map_cons]
          by_cases h : c = d
          · subst h
            rw [compare_append, ih, List.compare_cons_cons, Nat.compare_eq_eq.mpr rfl,
              Ordering.eq_then]
          · rw [compare_unitsOfChar_append h, compare_cons_of_ne (mt place_inj h)]

end Utf16

namespace Token

theorem compare_eq_iff {a b : Token} : a.compare b = .eq ↔ a = b := by
  constructor
  · exact eq_of_compare_eq
  · rintro rfl
    exact Std.ReflCmp.compare_self

/-- The order of tokens. Texts stand in it as their code units do, and so as their characters do
after those that take one unit behind the surrogates were moved to the end. -/
theorem totalOrder_compare :
    (∀ a b : Token, a.compare b = .eq ↔ a = b) ∧
      (∀ a b : Token, b.compare a = (a.compare b).swap) ∧
      (∀ a b c : Token, a.atMost b → b.atMost c → a.atMost c) ∧
      ∀ text other : String,
        let order := (orderPreserving text).compare (orderPreserving other)
        (order = .lt ↔ Utf16.units text < Utf16.units other) ∧
          order = Ord.compare (text.toList.map Utf16.place) (other.toList.map Utf16.place) := by
  refine ⟨fun a b => compare_eq_iff, fun a b => compare_swap b a, fun a b c => atMost_trans, ?_⟩
  intro text other
  exact ⟨Utf16.compare_eq_lt_iff, Utf16.compare_flatMap_unitsOfChar text.toList other.toList⟩

/-- The first character of two units comes before the last one of one unit. -/
example : (orderPreserving (Char.ofNat 0x10000).toString).compare
    (orderPreserving (Char.ofNat 0xFFFF).toString) = .lt := by
  decide +kernel

end Token

end CqlClient
