import CqlClient.Proofs.Ring.Canonical
import Mathlib.Data.List.TakeWhile

namespace CqlClient

namespace Token

theorem before_eq_not_atMost (a b : Token) : a.before b = !b.atMost a := by
  rw [before, atMost, compare_swap b a]
  cases a.compare b <;> rfl

theorem not_before_iff {a b : Token} : ¬ a.before b ↔ b.atMost a := by
  simp [before_eq_not_atMost]

theorem before_of_atMost_of_before {a b c : Token} (hab : a.atMost b) (hbc : b.before c) :
    a.before c := by
  by_contra hnot
  exact not_before_iff.mpr (atMost_trans (not_before_iff.mp hnot) hab) hbc

theorem before_of_ne {a b : Token} (hle : a.atMost b) (hne : a ≠ b) : a.before b := by
  by_contra hnot
  exact hne (atMost_antisymm hle (not_before_iff.mp hnot))

theorem atMost_refl (a : Token) : a.atMost a := by
  simpa using atMost_total a a

end Token

namespace TokenRing

variable {α : Type} {ring : TokenRing α} {entries : List (Token × α)} {token : Token}

/-- Halve the entries from `low` to `high` until the first one is found that does not come before a
token. -/
def search (ring : TokenRing α) (token : Token) (low high : Nat)
    (hhigh : high ≤ ring.entries.length) : Nat :=
  if h : low < high then
    if ring.entries[(low + high) / 2].1.before token then
      search ring token ((low + high) / 2 + 1) high hhigh
    else search ring token low ((low + high) / 2) (by omega)
  else low
termination_by high - low

/-- How many entries come before a token. -/
def boundary (ring : TokenRing α) (token : Token) : Nat :=
  ring.search token 0 ring.entries.length (Nat.le_refl _)

/-- Whether the first entry that does not come before a token is from `low` to `high`. -/
structure Brackets (ring : TokenRing α) (token : Token) (low high : Nat) : Prop where
  le : low ≤ high
  below : ∀ index (h : index < ring.entries.length), index < low →
    ring.entries[index].1.before token
  above : ∀ index (h : index < ring.entries.length), high ≤ index →
    token.atMost ring.entries[index].1

theorem IsSorted.atMost_of_le (h : ring.IsSorted) {i j : Nat} (hij : i ≤ j)
    (hj : j < ring.entries.length) : ring.entries[i].1.atMost ring.entries[j].1 := by
  rcases Nat.lt_or_eq_of_le hij with hlt | rfl
  · exact List.pairwise_iff_getElem.mp h i j (by omega) hj hlt
  · exact Token.atMost_refl _

theorem Brackets.search {low high : Nat} (hsorted : ring.IsSorted)
    (h : ring.Brackets token low high) (hhigh : high ≤ ring.entries.length) :
    ring.Brackets token (ring.search token low high hhigh) (ring.search token low high hhigh) := by
  fun_induction TokenRing.search ring token low high hhigh with
  | case1 low high hhigh hlt hbefore ih =>
      refine ih ⟨by omega, ?_, h.above⟩
      intro index hindex hle
      exact Token.before_of_atMost_of_before (hsorted.atMost_of_le (by omega) (by omega)) hbefore
  | case2 low high hhigh hlt hnot ih =>
      refine ih ⟨by omega, h.below, ?_⟩
      intro index hindex hle
      exact Token.atMost_trans (Token.not_before_iff.mp hnot) (hsorted.atMost_of_le hle hindex)
  | case3 low high hhigh hle =>
      have heq : high = low := by
        have := h.le
        omega
      exact ⟨Nat.le_refl low, h.below, heq ▸ h.above⟩

theorem IsSorted.brackets_boundary (h : ring.IsSorted) (token : Token) :
    ring.Brackets token (ring.boundary token) (ring.boundary token) := by
  refine Brackets.search h ⟨Nat.zero_le _, ?_, ?_⟩ (Nat.le_refl _)
  · intro index hindex hlt
    omega
  · intro index hindex hle
    omega

theorem Brackets.before_of_mem_take {cut : Nat} (h : ring.Brackets token cut cut)
    {entry : Token × α} (hentry : entry ∈ ring.entries.take cut) : entry.1.before token := by
  obtain ⟨index, hindex, rfl⟩ := List.mem_take_iff_getElem.mp hentry
  exact h.below index (by omega) (by omega)

theorem Brackets.atMost_of_mem_drop {cut : Nat} (h : ring.Brackets token cut cut)
    {entry : Token × α} (hentry : entry ∈ ring.entries.drop cut) : token.atMost entry.1 := by
  obtain ⟨index, hindex, rfl⟩ := List.mem_drop_iff_getElem.mp hentry
  exact h.above _ (by omega) (by omega)

theorem Brackets.walk_eq {cut : Nat} (h : ring.Brackets token cut cut) :
    ring.walk token = ring.entries.drop cut ++ ring.entries.take cut := by
  have htake : ∀ entry ∈ ring.entries.take cut, entry.1.before token :=
    fun _ => h.before_of_mem_take
  have hdrop : ∀ entry ∈ ring.entries.drop cut, ¬ entry.1.before token :=
    fun _ hentry => Token.not_before_iff.mpr (h.atMost_of_mem_drop hentry)
  have hnone : (ring.entries.drop cut).takeWhile (·.1.before token) = [] :=
    List.takeWhile_eq_nil_iff.mpr fun hpos => hdrop _ (List.getElem_mem hpos)
  have hall : (ring.entries.drop cut).dropWhile (·.1.before token) = ring.entries.drop cut :=
    List.dropWhile_eq_self_iff.mpr fun hpos => hdrop _ (List.getElem_mem hpos)
  have hsplit := (List.take_append_drop cut ring.entries).symm
  rw [walk, hsplit, List.dropWhile_append_of_pos htake, List.takeWhile_append_of_pos htake, hnone,
    hall, List.append_nil, ← hsplit]

/-- The order in which a list of entries is met when going around from a token on: first those whose
token is not smaller, then the others, both in the order of their tokens, and those with the same
token in the order of the list. -/
structure GoesAround (entries : List (Token × α)) (token : Token) (walk : List (Token × α)) :
    Prop where
  perm : walk.Perm entries
  parts : ∃ upper lower, walk = upper ++ lower ∧
    (∀ entry ∈ upper, token.atMost entry.1) ∧ (∀ entry ∈ lower, entry.1.before token) ∧
    upper.Pairwise (fun a b => a.1.atMost b.1) ∧ lower.Pairwise (fun a b => a.1.atMost b.1)
  stable : ∀ place, walk.filter (·.1 = place) = entries.filter (·.1 = place)

/-- Sorting leaves entries with the same token in their order. -/
theorem filter_ofEntries (entries : List (Token × α)) (place : Token) :
    (ofEntries entries).entries.filter (·.1 = place) = entries.filter (·.1 = place) := by
  have hsame : (entries.filter (·.1 = place)).Pairwise fun a b => a.1.atMost b.1 := by
    refine List.pairwise_of_forall_mem_list fun a ha b hb => ?_
    have ha : a.1 = place := by simpa using (List.mem_filter.mp ha).2
    have hb : b.1 = place := by simpa using (List.mem_filter.mp hb).2
    rw [ha, hb]
    exact Token.atMost_refl place
  have hsub : (entries.filter (·.1 = place)).Sublist (ofEntries entries).entries := by
    apply List.sublist_mergeSort _ _ hsame List.filter_sublist
    · intro a b c
      exact Token.atMost_trans
    · intro a b
      exact Token.atMost_total a.1 b.1
  have hfiltered := hsub.filter (·.1 = place)
  rw [List.filter_eq_self.mpr fun entry hentry => (List.mem_filter.mp hentry).2] at hfiltered
  exact (hfiltered.eq_of_length ((ofEntries_perm entries).filter _).length_eq.symm).symm

theorem goesAround_ofEntries (entries : List (Token × α)) (token : Token) :
    GoesAround entries token ((ofEntries entries).walk token) := by
  have hsorted := isSorted_ofEntries entries
  have hbrackets := hsorted.brackets_boundary token
  have hwalk := hbrackets.walk_eq
  refine ⟨((ofEntries entries).walk_perm token).trans (ofEntries_perm entries), ?_, ?_⟩
  · refine ⟨_, _, hwalk, fun _ => hbrackets.atMost_of_mem_drop,
      fun _ => hbrackets.before_of_mem_take, ?_, ?_⟩
    · exact List.Pairwise.sublist (List.drop_sublist _ _) hsorted
    · exact List.Pairwise.sublist (List.take_sublist _ _) hsorted
  · intro place
    rw [← filter_ofEntries entries place, hwalk]
    generalize (ofEntries entries).boundary token = cut at hbrackets
    conv_rhs => rw [← List.take_append_drop cut (ofEntries entries).entries]
    rw [List.filter_append, List.filter_append]
    -- Entries with the same token are all in one part.
    by_cases hplace : place.before token
    · have hnone : ((ofEntries entries).entries.drop cut).filter (·.1 = place) = [] := by
        refine List.filter_eq_nil_iff.mpr fun entry hentry heq => ?_
        obtain rfl := of_decide_eq_true heq
        exact Token.not_before_iff.mpr (hbrackets.atMost_of_mem_drop hentry) hplace
      rw [hnone, List.nil_append, List.append_nil]
    · have hnone : ((ofEntries entries).entries.take cut).filter (·.1 = place) = [] := by
        refine List.filter_eq_nil_iff.mpr fun entry hentry heq => ?_
        obtain rfl := of_decide_eq_true heq
        exact hplace (hbrackets.before_of_mem_take hentry)
      rw [hnone, List.nil_append, List.append_nil]

/-- The entries among which the owner of a token is looked for: those with a token that is not
smaller, or all if there are none. -/
def candidates (entries : List (Token × α)) (token : Token) : List (Token × α) :=
  if entries.any (token.atMost ·.1) then entries.filter (token.atMost ·.1) else entries

/-- Whether an entry has the smallest token of a list and is the first one with it. -/
def IsFirstLeast (entries : List (Token × α)) (entry : Token × α) : Prop :=
  ∃ earlier later, entries = earlier ++ entry :: later ∧
    (∀ other ∈ earlier, entry.1.before other.1) ∧ ∀ other ∈ later, entry.1.atMost other.1

theorem isFirstLeast_of_filter {entry : Token × α} {rest : List (Token × α)}
    (hfirst : entries.filter (·.1 = entry.1) = entry :: rest)
    (hleast : ∀ other ∈ entries, entry.1.atMost other.1) : IsFirstLeast entries entry := by
  have hfind : entries.find? (·.1 = entry.1) = some entry := by
    rw [← List.head?_filter, hfirst, List.head?_cons]
  obtain ⟨-, earlier, later, hsplit, hearlier⟩ := List.find?_eq_some_iff_append.mp hfind
  refine ⟨earlier, later, hsplit, fun other hother => ?_, fun other hother => ?_⟩
  · refine Token.before_of_ne (hleast other (by simp [hsplit, hother])) fun heq => ?_
    have hne := hearlier other hother
    simp [heq] at hne
  · exact hleast other (by simp [hsplit, hother])

theorem GoesAround.isFirstLeast {entry : Token × α} {rest : List (Token × α)}
    (h : GoesAround entries token (entry :: rest)) :
    IsFirstLeast (candidates entries token) entry := by
  obtain ⟨upper, lower, hparts, hupper, hlower, hupper_sorted, hlower_sorted⟩ := h.parts
  have hfilter : entries.filter (·.1 = entry.1) = entry :: rest.filter (·.1 = entry.1) := by
    rw [← h.stable, List.filter_cons_of_pos (by simp)]
  cases upper with
  | nil =>
      have hnone : entries.any (token.atMost ·.1) = false := by
        refine List.any_eq_false.mpr fun other hother hle => ?_
        have hmem := h.perm.mem_iff.mpr hother
        rw [hparts] at hmem
        exact Token.not_before_iff.mpr hle (hlower other hmem)
      rw [candidates, hnone, if_neg Bool.false_ne_true]
      refine isFirstLeast_of_filter hfilter fun other hother => ?_
      have hmem := h.perm.mem_iff.mpr hother
      rw [List.nil_append] at hparts
      rw [← hparts, List.pairwise_cons] at hlower_sorted
      rcases List.mem_cons.mp hmem with rfl | hrest
      · exact Token.atMost_refl _
      · exact hlower_sorted.1 other hrest
  | cons first others =>
      rw [List.cons_append, List.cons.injEq] at hparts
      obtain ⟨rfl, rfl⟩ := hparts
      have hle := hupper entry List.mem_cons_self
      have hsome : entries.any (token.atMost ·.1) = true :=
        List.any_eq_true.mpr ⟨entry, h.perm.mem_iff.mp List.mem_cons_self, hle⟩
      rw [candidates, if_pos hsome]
      have hat : (entries.filter (token.atMost ·.1)).filter (·.1 = entry.1) =
          entry :: ((others ++ lower).filter (·.1 = entry.1)).filter (token.atMost ·.1) := by
        rw [List.filter_comm, hfilter]
        exact List.filter_cons_of_pos hle
      refine isFirstLeast_of_filter hat fun other hother => ?_
      obtain ⟨hother, hnot⟩ := List.mem_filter.mp hother
      rcases List.mem_cons.mp (h.perm.mem_iff.mpr hother) with rfl | hrest
      · exact Token.atMost_refl _
      · rcases List.mem_append.mp hrest with hin | hin
        · exact (List.pairwise_cons.mp hupper_sorted).1 other hin
        · exact absurd (hlower other hin) (Token.not_before_iff.mpr hnot)

/-- Of every list of entries, the ring made of them is met as it should be from each token on, the
walk is the ring cut where halving ends, and the owner of a token is that of the smallest token
which is not smaller, or else of the smallest one of all; only the ring of no entries has no
owner. -/
theorem goesAround_walk (entries : List (Token × α)) (token : Token) :
    let ring := ofEntries entries
    GoesAround entries token (ring.walk token) ∧
      ring.walk token =
        ring.entries.drop (ring.boundary token) ++ ring.entries.take (ring.boundary token) ∧
      (ring.owner? token = none ↔ entries = []) ∧
      ∀ owner, ring.owner? token = some owner →
        ∃ place, IsFirstLeast (candidates entries token) (place, owner) := by
  intro ring
  have hgoes := goesAround_ofEntries entries token
  refine ⟨hgoes, ((isSorted_ofEntries entries).brackets_boundary token).walk_eq, ?_, ?_⟩
  · rw [owner?, owners, List.head?_eq_none_iff, List.map_eq_nil_iff]
    constructor
    · intro hwalk
      exact List.nil_perm.mp (hwalk ▸ hgoes.perm)
    · rintro rfl
      exact List.perm_nil.mp hgoes.perm
  · intro owner howner
    rw [owner?, owners, List.head?_map, Option.map_eq_some_iff] at howner
    obtain ⟨⟨place, found⟩, hhead, rfl⟩ := howner
    obtain ⟨rest, hwalk⟩ := List.head?_eq_some_iff.mp hhead
    change GoesAround entries token (ring.walk token) at hgoes
    rw [hwalk] at hgoes
    exact ⟨place, hgoes.isFirstLeast⟩

/-- Four tokens of three owners; two owners have the smallest one. -/
def sharedToken : List (Token × Nat) :=
  [(.murmur3 30, 3), (.murmur3 10, 1), (.murmur3 20, 2), (.murmur3 10, 3)]

theorem goesAround_walk_pastLast :
    (ofEntries sharedToken).owner? (.murmur3 31) = some 1 ∧
      ∃ place, IsFirstLeast (candidates sharedToken (.murmur3 31)) (place, 1) := by
  have hnot : (Token.murmur3 30).atMost (.murmur3 10) = false ∧
      (Token.murmur3 20).atMost (.murmur3 10) = false ∧
      (Token.murmur3 30).atMost (.murmur3 20) = false := by decide
  have hring : ofEntries sharedToken =
      ⟨[(.murmur3 10, 1), (.murmur3 10, 3), (.murmur3 20, 2), (.murmur3 30, 3)]⟩ := by
    simp [ofEntries, sharedToken, List.mergeSort, Token.atMost_refl, hnot]
  have howner : (ofEntries sharedToken).owner? (.murmur3 31) = some 1 := by
    rw [hring]
    rfl
  obtain ⟨-, -, -, hleast⟩ := goesAround_walk sharedToken (.murmur3 31)
  exact ⟨howner, hleast 1 howner⟩

end TokenRing

end CqlClient
