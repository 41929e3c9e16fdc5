import CqlClient.Ring.Partitioner
import Mathlib.Data.List.Perm.Basic

/-!
The hash of a partition key against the standard one. The standard hash has 128 bits; it takes the
bytes after the last whole block without sign, while nodes take them with their sign. Apart from
this the low half of the standard hash is the hash of the key, for keys of every length.
-/

namespace CqlClient.Murmur3

namespace Standard

abbrev Word := BitVec 64

/-- Both halves of the running hash. -/
@[ext]
structure Halves where
  low : Word
  high : Word

def c1 : Word := 0x87c37b91114253d5

def c2 : Word := 0x4cf5ad432745937f

def mixLow (k : Word) : Word := (k * c1).rotateLeft 31 * c2

def mixHigh (k : Word) : Word := (k * c2).rotateLeft 33 * c1

/-- Take in the two words of a block. -/
def round (h : Halves) (k1 k2 : Word) : Halves :=
  let low := (h.low ^^^ mixLow k1).rotateLeft 27 + h.high
  let low := low * 5 + 0x52dce729
  let high := (h.high ^^^ mixHigh k2).rotateLeft 31 + low
  let high := high * 5 + 0x38495ab5
  ⟨low, high⟩

def byteAt (key : Bytes) (place : Nat) : BitVec 8 := (key.getD place 0).toBitVec

/-- The word at a place of the key, least significant byte first. -/
def wordAt (key : Bytes) (place : Nat) : Word :=
  byteAt key (place + 7) ++ byteAt key (place + 6) ++ byteAt key (place + 5) ++
    byteAt key (place + 4) ++ byteAt key (place + 3) ++ byteAt key (place + 2) ++
    byteAt key (place + 1) ++ byteAt key place

/-- Bytes after the last block that go to the high half, from the last one down, each with the
number of bits by which it is moved. -/
def highCases : List (Nat × Nat) :=
  [(14, 48), (13, 40), (12, 32), (11, 24), (10, 16), (9, 8), (8, 0)]

/-- Bytes after the last block that go to the low half. -/
def lowCases : List (Nat × Nat) :=
  [(7, 56), (6, 48), (5, 40), (4, 32), (3, 24), (2, 16), (1, 8), (0, 0)]

/-- Only the cases of bytes that are there are run through. A byte is made a word by `widen`. -/
def tailWord (widen : BitVec 8 → Word) (tail : Bytes) (cases : List (Nat × Nat)) : Word :=
  cases.foldl (fun k case =>
    if case.1 < tail.length then k ^^^ widen (byteAt tail case.1) <<< case.2 else k) 0

/-- Take in the bytes after the last block. -/
def takeTail (widen : BitVec 8 → Word) (h : Halves) (tail : Bytes) : Halves where
  low := if 0 < tail.length then h.low ^^^ mixLow (tailWord widen tail lowCases) else h.low
  high := if 8 < tail.length then h.high ^^^ mixHigh (tailWord widen tail highCases) else h.high

def finish (k : Word) : Word :=
  let k := k ^^^ k >>> 33
  let k := k * 0xff51afd7ed558ccd
  let k := k ^^^ k >>> 33
  let k := k * 0xc4ceb9fe1a85ec53
  k ^^^ k >>> 33

/-- The hash of 128 bits with seed zero, where a byte after the last block is made a word by
`widen`. -/
def hashWith (widen : BitVec 8 → Word) (key : Bytes) : BitVec 128 :=
  let blocks := key.length / 16
  let h := (List.range blocks).foldl
    (fun h i => round h (wordAt key (16 * i)) (wordAt key (16 * i + 8))) ⟨0, 0⟩
  let h := takeTail widen h (key.drop (16 * blocks))
  let low := h.low ^^^ BitVec.ofNat 64 key.length
  let high := h.high ^^^ BitVec.ofNat 64 key.length
  let low := low + high
  let high := high + low
  let low := finish low
  let high := finish high
  let low := low + high
  let high := high + low
  high ++ low

/-- The standard hash: bytes have no sign. -/
def hash (key : Bytes) : BitVec 128 := hashWith (BitVec.zeroExtend 64) key

example : hash (Bytes.ofString "test") = 0x9a128231f9bd4d82ac7d28cc74bde19d := by
  decide +kernel

end Standard

theorem toBitVec_rotate (word amount : UInt64) (hpos : 0 < amount.toNat)
    (hlt : amount.toNat < 64) :
    (rotate word amount).toBitVec = word.toBitVec.rotateLeft amount.toNat := by
  have hleft : (amount.toBitVec % 64).toNat = amount.toNat := Nat.mod_eq_of_lt hlt
  have hle : amount ≤ 64 := UInt64.le_iff_toNat_le.mpr (Nat.le_of_lt hlt)
  have hsub : (64 - amount).toNat = 64 - amount.toNat := UInt64.toNat_sub_of_le 64 amount hle
  have hright : ((64 - amount).toBitVec % 64).toNat = 64 - amount.toNat := by
    change (64 - amount).toNat % 64 = 64 - amount.toNat
    omega
  rw [rotate, UInt64.toBitVec_or, UInt64.toBitVec_shiftLeft, UInt64.toBitVec_shiftRight,
    BitVec.shiftLeft_eq', BitVec.ushiftRight_eq', hleft, hright, BitVec.rotateLeft_def,
    Nat.mod_eq_of_lt hlt]

theorem toBitVec_mixFirst (k : UInt64) : (mixFirst k).toBitVec = Standard.mixLow k.toBitVec := by
  rw [mixFirst, UInt64.toBitVec_mul, toBitVec_rotate _ _ (by decide) (by decide),
    UInt64.toBitVec_mul]
  rfl

theorem toBitVec_mixSecond (k : UInt64) : (mixSecond k).toBitVec = Standard.mixHigh k.toBitVec := by
  rw [mixSecond, UInt64.toBitVec_mul, toBitVec_rotate _ _ (by decide) (by decide),
    UInt64.toBitVec_mul]
  rfl

theorem toBitVec_finish (k : UInt64) : (finish k).toBitVec = Standard.finish k.toBitVec := by
  simp only [finish, Standard.finish, UInt64.toBitVec_xor, UInt64.toBitVec_mul,
    UInt64.toBitVec_shiftRight]
  rfl

namespace State

/-- The state as halves of the standard hash. -/
def halves (s : State) : Standard.Halves := ⟨s.h1.toBitVec, s.h2.toBitVec⟩

end State

theorem halves_absorb (s : State) (k1 k2 : UInt64) :
    (absorb s k1 k2).halves = Standard.round s.halves k1.toBitVec k2.toBitVec := by
  simp only [absorb, State.halves, Standard.round, UInt64.toBitVec_add, UInt64.toBitVec_mul,
    toBitVec_rotate _ 27 (by decide) (by decide), toBitVec_rotate _ 31 (by decide) (by decide),
    UInt64.toBitVec_xor, toBitVec_mixFirst, toBitVec_mixSecond]
  rfl

theorem toNat_append_byte {m : Nat} (x : BitVec m) (y : BitVec 8) :
    (x ++ y).toNat = x.toNat * 256 + y.toNat := by
  rw [BitVec.toNat_append, ← Nat.shiftLeft_add_eq_or_of_lt y.isLt, Nat.shiftLeft_eq]

theorem take_drop_eq_map {key : Bytes} {place n : Nat} (h : place + n ≤ key.length) :
    (key.drop place).take n = (List.range n).map fun i => key.getD (place + i) 0 := by
  apply List.ext_getElem
  · simp
    omega
  · intro i hi _
    simp at hi ⊢
    rw [List.getElem?_eq_getElem (by omega)]
    rfl

theorem toNat_reverse_cons (b : UInt8) (bytes : Bytes) :
    Bytes.toNat (b :: bytes).reverse = Bytes.toNat bytes.reverse * 256 + b.toNat := by
  rw [List.reverse_cons, Bytes.toNat_append_singleton]

theorem toBitVec_word {key : Bytes} {place : Nat} (h : place + 8 ≤ key.length) :
    (word ((key.drop place).take 8)).toBitVec = Standard.wordAt key place := by
  have hvalue : Bytes.toNat ((key.drop place).take 8).reverse =
      (Standard.wordAt key place).toNat := by
    rw [take_drop_eq_map h]
    simp only [Standard.wordAt, toNat_append_byte, List.range, List.range.loop, List.map_cons,
      List.map_nil, toNat_reverse_cons]
    simp [Bytes.toNat, Standard.byteAt]
  rw [word, hvalue, UInt64.toBitVec_ofNat', BitVec.ofNat_toNat, BitVec.setWidth_eq]

namespace Standard

variable {widen : BitVec 8 → Word}

/-- What a byte brings to a word that begins with bytes of which the first is moved by `shift`. -/
def contribution (widen : BitVec 8 → Word) (bytes : Bytes) (shift i : Nat) : Word :=
  if i < bytes.length then widen (byteAt bytes i) <<< (shift + 8 * i) else 0

theorem contribution_cons_zero (b : UInt8) (bytes : Bytes) (shift : Nat) :
    contribution widen (b :: bytes) shift 0 = widen b.toBitVec <<< shift := rfl

theorem contribution_cons_succ (b : UInt8) (bytes : Bytes) (shift i : Nat) :
    contribution widen (b :: bytes) shift (i + 1) = contribution widen bytes (shift + 8) i := by
  have hshift : shift + 8 * (i + 1) = shift + 8 + 8 * i := by omega
  simp only [contribution, List.length_cons, Nat.succ_lt_succ_iff, hshift]
  rfl

theorem contribution_nil (shift i : Nat) : contribution widen [] shift i = 0 := rfl

theorem tailWord_eq_foldl {tail part : Bytes} {first n : Nat}
    (hpart : part = (tail.drop first).take n) :
    tailWord widen tail ((List.range n).reverse.map fun i => (first + i, 8 * i)) =
      (List.range n).foldl (fun k i => k ^^^ contribution widen part 0 i) 0 := by
  have hcomm : ∀ i ∈ (List.range n).reverse, ∀ j ∈ (List.range n).reverse, ∀ k,
      k ^^^ contribution widen part 0 i ^^^ contribution widen part 0 j =
        k ^^^ contribution widen part 0 j ^^^ contribution widen part 0 i := by
    intro i _ j _ k
    rw [BitVec.xor_assoc, BitVec.xor_comm (contribution widen part 0 i), BitVec.xor_assoc]
  rw [← (List.reverse_perm (List.range n)).foldl_eq' hcomm, tailWord, List.foldl_map]
  refine List.foldl_ext _ _ _ fun k i hi => ?_
  have hlt : i < n := by simpa using hi
  have hlength : i < part.length ↔ first + i < tail.length := by
    rw [hpart, List.length_take, List.length_drop]
    omega
  have hbyte : byteAt part i = byteAt tail (first + i) := by
    simp [byteAt, hpart, hlt]
  simp only [contribution, hlength, hbyte, Nat.zero_add]
  split
  · rfl
  · exact BitVec.xor_zero.symm

theorem lowCases_eq : lowCases = (List.range 8).reverse.map fun i => (0 + i, 8 * i) := rfl

theorem highCases_eq : highCases = (List.range 7).reverse.map fun i => (8 + i, 8 * i) := rfl

end Standard

theorem toBitVec_extended (b : UInt8) : (extended b).toBitVec = b.toBitVec.signExtend 64 :=
  Int8.toBitVec_toInt64 _

/-- The remaining bytes are met by the shift at which the first of them stands. -/
theorem toBitVec_go {bytes : Bytes} {n shift : Nat} (hn : bytes.length ≤ n)
    (hshift : shift + 8 * n ≤ 64) (w : UInt64) :
    (tailWord.go w (UInt64.ofNat shift) bytes).toBitVec =
      (List.range n).foldl
        (fun k i => k ^^^ Standard.contribution (BitVec.signExtend 64) bytes shift i)
        w.toBitVec := by
  induction bytes generalizing n shift w with
  | nil =>
      simp only [tailWord.go, Standard.contribution_nil]
      exact (List.foldl_fixed' (fun _ => BitVec.xor_zero) _).symm
  | cons b bytes ih =>
      obtain ⟨m, rfl⟩ : ∃ m, n = m + 1 := ⟨n - 1, by rw [List.length_cons] at hn; omega⟩
      have hamount : ((UInt64.ofNat shift).toBitVec % 64).toNat = shift := by
        change shift % 18446744073709551616 % 64 = shift
        omega
      have hnext : UInt64.ofNat shift + 8 = UInt64.ofNat (shift + 8) :=
        (UInt64.ofNat_add shift 8).symm
      have hhead : (w ^^^ extended b <<< UInt64.ofNat shift).toBitVec =
          w.toBitVec ^^^ b.toBitVec.signExtend 64 <<< shift := by
        rw [UInt64.toBitVec_xor, UInt64.toBitVec_shiftLeft, BitVec.shiftLeft_eq', hamount,
          toBitVec_extended]
      rw [tailWord.go, hnext, ih (Nat.le_of_succ_le_succ hn) (by omega), hhead,
        List.range_succ_eq_map, List.foldl_cons, List.foldl_map]
      simp only [Nat.succ_eq_add_one, Standard.contribution_cons_succ,
        Standard.contribution_cons_zero]

theorem toBitVec_tailWord {bytes : Bytes} {n : Nat} (hn : bytes.length ≤ n) (hfits : n ≤ 8) :
    (tailWord bytes).toBitVec =
      (List.range n).foldl
        (fun k i => k ^^^ Standard.contribution (BitVec.signExtend 64) bytes 0 i) 0 :=
  @toBitVec_go bytes n 0 hn (by omega) 0

theorem halves_absorbTail {s : State} {tail : Bytes} (h : tail.length < 16) :
    (absorbTail s tail).halves = Standard.takeTail (BitVec.signExtend 64) s.halves tail := by
  have hlow : (tailWord (tail.take 8)).toBitVec =
      Standard.tailWord (BitVec.signExtend 64) tail Standard.lowCases := by
    rw [Standard.lowCases_eq, Standard.tailWord_eq_foldl rfl, List.drop_zero]
    exact toBitVec_tailWord (List.length_take_le 8 tail) (Nat.le_refl 8)
  have hhigh : (tailWord (tail.drop 8)).toBitVec =
      Standard.tailWord (BitVec.signExtend 64) tail Standard.highCases := by
    have hlength : (tail.drop 8).length ≤ 7 := by
      rw [List.length_drop]
      omega
    rw [Standard.highCases_eq, Standard.tailWord_eq_foldl rfl, List.take_of_length_le hlength]
    exact toBitVec_tailWord hlength (by decide)
  apply Standard.Halves.ext
  · cases tail with
    | nil => rfl
    | cons b tail =>
        change (s.h1 ^^^ mixFirst _).toBitVec = _
        rw [UInt64.toBitVec_xor, toBitVec_mixFirst, hlow]
        rfl
  · simp only [State.halves, absorbTail, Standard.takeTail]
    by_cases hshort : tail.length ≤ 8
    · rw [if_pos hshort, if_neg (Nat.not_lt.mpr hshort)]
    · rw [if_neg hshort, if_pos (Nat.lt_of_not_le hshort), UInt64.toBitVec_xor, toBitVec_mixSecond,
        hhigh]

theorem exists_absorbAll_drop (key : Bytes) (blocks first : Nat) (s : State)
    (h : 16 * (first + blocks) ≤ key.length) :
    ∃ s' : State,
      absorbAll blocks s (key.drop (16 * first)) =
        absorbTail s' (key.drop (16 * (first + blocks))) ∧
      s'.halves = (List.range' first blocks).foldl
        (fun h i => Standard.round h (Standard.wordAt key (16 * i))
          (Standard.wordAt key (16 * i + 8))) s.halves := by
  induction blocks generalizing first s with
  | zero => exact ⟨s, rfl, rfl⟩
  | succ blocks ih =>
      have hnext : 16 * (first + 1 + blocks) ≤ key.length := by omega
      obtain ⟨s', habsorb, hhalves⟩ := ih (first + 1)
        (absorb s (word ((key.drop (16 * first)).take 8))
          (word ((key.drop (16 * first + 8)).take 8))) hnext
      refine ⟨s', ?_, ?_⟩
      · rw [absorbAll, List.drop_drop, List.drop_drop]
        rw [show first + (blocks + 1) = first + 1 + blocks by omega]
        exact habsorb
      · rw [hhalves, halves_absorb, toBitVec_word (by omega), toBitVec_word (by omega),
          List.range'_succ, List.foldl_cons]

theorem toBitVec_hash (key : Bytes) :
    (hash key).toBitVec = (Standard.hashWith (BitVec.signExtend 64) key).setWidth 64 := by
  obtain ⟨s, habsorb, hhalves⟩ := exists_absorbAll_drop key (key.length / 16) 0 ⟨0, 0⟩ (by omega)
  rw [Nat.zero_add, List.drop_zero] at habsorb
  have htail : (key.drop (16 * (key.length / 16))).length < 16 := by
    rw [List.length_drop]
    omega
  have hall := halves_absorbTail (s := s) htail
  rw [hhalves, ← List.range_eq_range'] at hall
  have hlow := congrArg Standard.Halves.low hall
  have hhigh := congrArg Standard.Halves.high hall
  simp only [State.halves] at hlow hhigh
  simp only [hash, habsorb, Standard.hashWith, BitVec.setWidth_append_eq_right,
    UInt64.toBitVec_add, toBitVec_finish, UInt64.toBitVec_xor, UInt64.toBitVec_ofNat', hlow, hhigh]
  rfl

namespace Standard

/-- Whether no byte after the last whole block has a sign. -/
def HasPlainTail (key : Bytes) : Prop := ∀ b ∈ key.drop (16 * (key.length / 16)), b < 0x80

instance (key : Bytes) : Decidable (HasPlainTail key) :=
  List.decidableBAll (fun b => b < 0x80) (key.drop (16 * (key.length / 16)))

theorem tailWord_congr {widen other : BitVec 8 → Word} {tail : Bytes}
    (h : ∀ b ∈ tail, widen b.toBitVec = other b.toBitVec) (cases : List (Nat × Nat)) :
    tailWord widen tail cases = tailWord other tail cases := by
  refine List.foldl_ext _ _ _ fun k case _ => ?_
  split
  · next hlt =>
      have hbyte : byteAt tail case.1 = tail[case.1].toBitVec := by
        rw [byteAt, List.getD_eq_getElem?_getD, List.getElem?_eq_getElem hlt, Option.getD_some]
      rw [hbyte, h _ (List.getElem_mem hlt)]
  · rfl

theorem HasPlainTail.hashWith_signExtend {key : Bytes} (h : HasPlainTail key) :
    hashWith (BitVec.signExtend 64) key = hash key := by
  have hwiden : ∀ b ∈ key.drop (16 * (key.length / 16)),
      b.toBitVec.signExtend 64 = b.toBitVec.zeroExtend 64 := by
    intro b hb
    refine BitVec.signExtend_eq_setWidth_of_msb_false (BitVec.msb_eq_false_iff_two_mul_lt.mpr ?_)
    have hlt : b.toNat < 128 := h b hb
    change 2 * b.toNat < 256
    omega
  simp only [hash, hashWith, takeTail, tailWord_congr hwiden]

/-- The low half of a hash as a signed number; the least number is replaced by the greatest. -/
def signedLow (hash : BitVec 128) : Int :=
  let value := (hash.setWidth 64).toInt
  if value = -0x8000000000000000 then 0x7FFFFFFFFFFFFFFF else value

end Standard

theorem ofHash_toInt64 (hash : UInt64) :
    ∃ value : Int64, Token.ofHash hash.toInt64 = .murmur3 value ∧ value ≠ Int64.minValue ∧
      value.toInt =
        if hash.toBitVec.toInt = -0x8000000000000000 then 0x7FFFFFFFFFFFFFFF
        else hash.toBitVec.toInt := by
  have hmin : hash.toInt64 = Int64.minValue ↔ hash.toBitVec.toInt = -0x8000000000000000 :=
    Int64.toInt_inj.symm
  refine ⟨_, rfl, ?_, ?_⟩
  · split
    · decide
    · assumption
  · by_cases h : hash.toInt64 = Int64.minValue
    · rw [if_pos h, if_pos (hmin.mp h)]
      rfl
    · rw [if_neg h, if_neg fun hvalue => h (hmin.mpr hvalue)]
      rfl

/-- The token of a key that is not empty is never the least number. It is read off the low half of
the hash that takes the bytes after the last block with their sign, which is the standard hash if
none of these bytes has one. -/
theorem hashesLikeStandard {key : Bytes} (hkey : key ≠ []) :
    ∃ value : Int64, Partitioner.murmur3.token key = .murmur3 value ∧ value ≠ Int64.minValue ∧
      value.toInt = Standard.signedLow (Standard.hashWith (BitVec.signExtend 64) key) ∧
      (Standard.HasPlainTail key → value.toInt = Standard.signedLow (Standard.hash key)) := by
  obtain ⟨value, htoken, hleast, hvalue⟩ := ofHash_toInt64 (hash key)
  rw [toBitVec_hash] at hvalue
  refine ⟨value, ?_, hleast, hvalue, ?_⟩
  · rw [Partitioner.token, if_neg (by simpa using hkey), htoken]
  · intro hplain
    rw [← hplain.hashWith_signExtend]
    exact hvalue

/-- A whole block and as many bytes after it as there can be. -/
def fullTail : Bytes := Bytes.ofString "Wsiadl rycerz na bulanego konia"

theorem hashesLikeStandard_fullTail :
    fullTail ≠ [] ∧ Standard.HasPlainTail fullTail ∧
      ∃ value : Int64, Partitioner.murmur3.token fullTail = .murmur3 value ∧
        value ≠ Int64.minValue ∧ value.toInt = Standard.signedLow (Standard.hash fullTail) ∧
        Standard.signedLow (Standard.hash fullTail) = 1416378635561243658 := by
  have hkey : fullTail ≠ [] := by decide +kernel
  have hplain : Standard.HasPlainTail fullTail := by decide +kernel
  obtain ⟨value, htoken, hleast, -, hvalue⟩ := hashesLikeStandard hkey
  exact ⟨hkey, hplain, value, htoken, hleast, hvalue hplain, by decide +kernel⟩

end CqlClient.Murmur3
