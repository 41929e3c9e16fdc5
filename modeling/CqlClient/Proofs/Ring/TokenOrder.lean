import CqlClient.Ring.TokenRing
import Mathlib.Data.List.Perm.Basic

namespace CqlClient

namespace Token

theorem compare_swap (a b : Token) : a.compare b = (b.compare a).swap := by
  cases a <;> cases b <;> exact Std.OrientedOrd.eq_swap

theorem compare_isLE_trans {a b c : Token} (hab : (a.compare b).isLE) (hbc : (b.compare c).isLE) :
    (a.compare c).isLE := by
  -- Kinds are compared by their ranks, which are numbers here.
  cases a <;> cases b <;> cases c <;>
    first
      | exact absurd hab Bool.false_ne_true
      | exact absurd hbc Bool.false_ne_true
      | rfl
      | exact Std.TransOrd.isLE_trans hab hbc

instance : Std.TransCmp Token.compare where
  eq_swap {a b} := compare_swap a b
  isLE_trans := compare_isLE_trans

theorem atMost_trans {a b c : Token} (hab : a.atMost b) (hbc : b.atMost c) : a.atMost c :=
  compare_isLE_trans hab hbc

theorem atMost_total (a b : Token) : a.atMost b || b.atMost a := by
  rw [atMost, atMost, compare_swap b a]
  cases a.compare b <;> rfl

end Token

namespace TokenRing

variable {α : Type}

/-- Whether the entries are in the order of their tokens. -/
def IsSorted (ring : TokenRing α) : Prop :=
  ring.entries.Pairwise fun a b => a.1.atMost b.1

theorem isSorted_empty : (empty : TokenRing α).IsSorted := List.Pairwise.nil

theorem isSorted_ofEntries (entries : List (Token × α)) : (ofEntries entries).IsSorted := by
  rw [IsSorted, ofEntries]
  apply List.pairwise_mergeSort
  · intro a b c
    exact Token.atMost_trans
  · intro a b
    exact Token.atMost_total a.1 b.1

theorem ofEntries_perm (entries : List (Token × α)) : (ofEntries entries).entries.Perm entries :=
  List.mergeSort_perm entries _

theorem IsSorted.without [DecidableEq α] {ring : TokenRing α} (h : ring.IsSorted) (owner : α) :
    (ring.without owner).IsSorted :=
  List.Pairwise.filter _ h

theorem walk_perm (ring : TokenRing α) (token : Token) : (ring.walk token).Perm ring.entries := by
  rw [walk]
  refine List.perm_append_comm.trans ?_
  rw [List.takeWhile_append_dropWhile]

end TokenRing

end CqlClient
