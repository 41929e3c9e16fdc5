import CqlClient.Proofs.Ring.TokenOrder
import Mathlib.Data.List.Nodup

namespace CqlClient

namespace Utf16

/-- The units of a character end where those of the next one begin. -/
theorem unitsOfChar_append_inj {c d : Char} {rest others : List Nat}
    (h : unitsOfChar c ++ rest = unitsOfChar d ++ others) : c = d ∧ rest = others := by
  have hc : c.toNat < 0xD800 ∨ 0xDFFF < c.toNat ∧ c.toNat < 0x110000 := c.valid
  have hd : d.toNat < 0xD800 ∨ 0xDFFF < d.toNat ∧ d.toNat < 0x110000 := d.valid
  -- A unit of its own is never a surrogate, so the first unit tells how many there are.
  have heq : c.toNat = d.toNat ∧ rest = others := by
    rw [unitsOfChar, unitsOfChar] at h
    split at h <;> split at h
    · simpa using h
    · have hfirst := (List.cons.inj h).1
      omega
    · have hfirst := (List.cons.inj h).1
      omega
    · simp only [List.cons_append, List.nil_append, List.cons.injEq] at h
      refine ⟨?_, h.2.2⟩
      omega
  exact ⟨Char.toNat_inj.mp heq.1, heq.2⟩

theorem unitsOfChar_ne_nil (c : Char) : unitsOfChar c ≠ [] := by
  rw [unitsOfChar]
  split <;> simp

theorem flatMap_unitsOfChar_inj {text other : List Char}
    (h : text.flatMap unitsOfChar = other.flatMap unitsOfChar) : text = other := by
  induction text generalizing other with
  | nil =>
      cases other with
      | nil => rfl
      | cons d ds => exact absurd h.symm (by simp [unitsOfChar_ne_nil])
  | cons c cs ih =>
      cases other with
      | nil => exact absurd h (by simp [unitsOfChar_ne_nil])
      | cons d ds =>
          rw [List.flatMap_cons, List.flatMap_cons] at h
          obtain ⟨rfl, hrest⟩ := unitsOfChar_append_inj h
          rw [ih hrest]

theorem units_inj {text other : String} (h : units text = units other) : text = other :=
  String.toList_inj.mp (flatMap_unitsOfChar_inj h)

end Utf16

namespace Token

theorem rank_eq_of_compare_eq {a b : Token} (h : a.compare b = .eq) : a.rank = b.rank := by
  cases a <;> cases b <;>
    first
      | rfl
      | exact Std.LawfulEqOrd.eq_of_compare h

theorem eq_of_compare_eq {a b : Token} (h : a.compare b = .eq) : a = b := by
  have hrank := rank_eq_of_compare_eq h
  cases a with
  | murmur3 value =>
      cases b with
      | murmur3 other =>
          exact congrArg murmur3 (Int64.toInt_inj.mp (Std.LawfulEqOrd.eq_of_compare h))
      | _ => exact nomatch hrank
  | random value =>
      cases b with
      | random other => exact congrArg random (Std.LawfulEqOrd.eq_of_compare h)
      | _ => exact nomatch hrank
  | byteOrdered key =>
      cases b with
      | byteOrdered other =>
          have hkeys := Std.LawfulEqOrd.eq_of_compare h
          have hinj := List.map_injective_iff.mpr fun _ _ => UInt8.toNat_inj.mp
          exact congrArg byteOrdered (hinj hkeys)
      | _ => exact nomatch hrank
  | orderPreserving key =>
      cases b with
      | orderPreserving other =>
          exact congrArg orderPreserving (Utf16.units_inj (Std.LawfulEqOrd.eq_of_compare h))
      | _ => exact nomatch hrank

theorem atMost_antisymm {a b : Token} (hab : a.atMost b) (hba : b.atMost a) : a = b :=
  eq_of_compare_eq (Std.OrientedCmp.isLE_antisymm hab hba)

end Token

theorem TokenRing.eq_of_perm {α : Type} {ring other : TokenRing α} (hring : ring.IsSorted)
    (hother : other.IsSorted) (hnodup : (ring.entries.map Prod.fst).Nodup)
    (hperm : ring.entries.Perm other.entries) : ring = other := by
  have hentries : ring.entries = other.entries := by
    refine hperm.eq_of_pairwise (fun a b ha hb hab hba => ?_) hring hother
    exact List.inj_on_of_nodup_map hnodup ha (hperm.mem_iff.mpr hb) (Token.atMost_antisymm hab hba)
  cases ring with
  | mk entries => exact congrArg mk hentries

end CqlClient
