import CqlClient.Ring.Partitioner
import Mathlib.Data.List.Basic

namespace CqlClient

namespace Numeral

theorem digit?_of_isDigit {c : Char} (h : c.isDigit = true) : digit? c = some (c.toNat - 48) := by
  have hrange : '0' ≤ c ∧ c ≤ '9' := by
    simpa [Char.isDigit, Char.le_def] using h
  rw [digit?, if_pos hrange]

theorem digitsFrom?_of_isDigit {cs : List Char} (h : ∀ c ∈ cs, c.isDigit = true) (value : Nat) :
    digitsFrom? value cs = some (Nat.ofDigitChars 10 cs value) := by
  induction cs generalizing value with
  | nil => rfl
  | cons c cs ih =>
      rw [digitsFrom?, digit?_of_isDigit (h c List.mem_cons_self), Option.bind_some,
        ih fun d hd => h d (List.mem_cons_of_mem c hd), Nat.ofDigitChars_cons, Nat.mul_comm]
      rfl

section Decimal

variable {n : Nat}

theorem isDigit_of_mem_toDigits {c : Char} (h : c ∈ Nat.toDigits 10 n) : c.isDigit = true :=
  Nat.isDigit_of_mem_toDigits (by decide) (by decide) h

theorem ne_of_mem_toDigits {c other : Char} (h : c ∈ Nat.toDigits 10 n)
    (hother : other.isDigit = false) : c ≠ other := by
  rintro rfl
  rw [isDigit_of_mem_toDigits h] at hother
  exact Bool.noConfusion hother

theorem exists_toDigits_eq_cons (n : Nat) :
    ∃ c cs, Nat.toDigits 10 n = c :: cs ∧ c ≠ '-' ∧ c ≠ '+' := by
  obtain ⟨c, cs, hcons⟩ := List.exists_cons_of_ne_nil (Nat.toDigits_ne_nil (b := 10) (n := n))
  have hmem : c ∈ Nat.toDigits 10 n := hcons ▸ List.mem_cons_self
  exact ⟨c, cs, hcons, ne_of_mem_toDigits hmem rfl, ne_of_mem_toDigits hmem rfl⟩

end Decimal

theorem digits?_toDigits (n : Nat) : digits? (Nat.toDigits 10 n) = some n := by
  rw [digits?, if_neg (by simp), digitsFrom?_of_isDigit fun c => isDigit_of_mem_toDigits,
    Nat.ofDigitChars_ten_toDigits]

theorem grouped?_toDigits (n : Nat) : integer?.grouped? (Nat.toDigits 10 n) = some n := by
  have hkeep : (Nat.toDigits 10 n).filter (· ≠ '_') = Nat.toDigits 10 n :=
    List.filter_eq_self.mpr fun c hc => decide_eq_true (ne_of_mem_toDigits hc rfl)
  have hfirst : (Nat.toDigits 10 n).head? ≠ some '_' :=
    fun h => ne_of_mem_toDigits (List.mem_of_head? h) rfl rfl
  rw [integer?.grouped?, if_neg hfirst, hkeep, digits?_toDigits]

theorem toList_toString (n : Int) :
    (toString n).toList =
      match n with
      | .ofNat m => Nat.toDigits 10 m
      | .negSucc m => '-' :: Nat.toDigits 10 (m + 1) := by
  cases n with
  | ofNat m => exact Nat.toList_repr
  | negSucc m =>
      change ("-" ++ (m + 1).repr).toList = _
      rw [String.toList_append, Nat.toList_repr]
      rfl

theorem signed?_toString (n : Int) : signed? (toString n).toList = some n := by
  rw [toList_toString]
  cases n with
  | ofNat m =>
      have hdigits := digits?_toDigits m
      obtain ⟨c, cs, hcons, hminus, hplus⟩ := exists_toDigits_eq_cons m
      dsimp only
      rw [hcons] at hdigits ⊢
      rw [signed?, hdigits]
      · rfl
      · rintro rest ⟨⟩
        exact hminus rfl
      · rintro rest ⟨⟩
        exact hplus rfl
  | negSucc m =>
      rw [signed?, digits?_toDigits]
      rfl

theorem integer?_toString (n : Int) : integer? (toString n) = some n := by
  rw [integer?, toList_toString]
  cases n with
  | ofNat m =>
      have hdigits := grouped?_toDigits m
      obtain ⟨c, cs, hcons, hminus, hplus⟩ := exists_toDigits_eq_cons m
      dsimp only
      rw [hcons] at hdigits ⊢
      split
      · next h => exact absurd (List.cons.inj h).1 hminus
      · next h => exact absurd (List.cons.inj h).1 hminus
      · next h => exact absurd (List.cons.inj h).1 hplus
      · rw [hdigits]
        rfl
  | negSucc m =>
      have hdigits := grouped?_toDigits (m + 1)
      obtain ⟨c, cs, hcons, -, hplus⟩ := exists_toDigits_eq_cons (m + 1)
      dsimp only
      rw [hcons] at hdigits ⊢
      split
      · next h => exact absurd (List.cons.inj (List.cons.inj h).2).1 hplus
      · next rest _ h =>
          obtain rfl := (List.cons.inj h).2
          rw [hdigits]
          rfl
      · next h => exact absurd (List.cons.inj h).1 (by decide)
      · next _ hminus _ => exact absurd rfl (hminus _)

theorem int64?_toString (value : Int64) : int64? (toString value.toInt) = some value := by
  have hrange : Int64.minValue.toInt ≤ value.toInt ∧ value.toInt ≤ Int64.maxValue.toInt :=
    ⟨value.minValue_le_toInt, value.toInt_le⟩
  rw [int64?, signed?_toString, Option.bind_some, if_pos hrange, Int64.ofInt_toInt]

/-- The hexadecimal digits of lower case, by their value. -/
def lowerHexDigits : List Char :=
  ['0', '1', '2', '3', '4', '5', '6', '7', '8', '9', 'a', 'b', 'c', 'd', 'e', 'f']

/-- The hexadecimal digits of either case. -/
def hexDigits : List Char := lowerHexDigits ++ ['A', 'B', 'C', 'D', 'E', 'F']

def hexValue (c : Char) : Nat := lowerHexDigits.idxOf c.toLower

theorem bounds_of_mem_hexDigits {c : Char} (h : c ∈ hexDigits) :
    c.toNat < 128 ∧ hexValue c < 16 := by
  have hall : hexDigits.all (fun d => d.toNat < 128 ∧ hexValue d < 16) = true := by decide
  simpa using List.all_eq_true.mp hall c h

theorem hexDigit?_of_ascii : ∀ n < 128,
    hexDigit? (Char.ofNat n) =
      if Char.ofNat n ∈ hexDigits then some (hexValue (Char.ofNat n)) else none := by
  decide +kernel

theorem hexDigit?_eq_ite (c : Char) :
    hexDigit? c = if c ∈ hexDigits then some (hexValue c) else none := by
  by_cases h : c.toNat < 128
  · have hascii := hexDigit?_of_ascii c.toNat h
    rwa [Char.ofNat_toNat] at hascii
  · rw [if_neg fun hmem => h (bounds_of_mem_hexDigits hmem).1]
    have hlarge (last : Char) (hlast : last.toNat < 128) : ¬ c ≤ last :=
      fun hle => h (Nat.lt_of_le_of_lt (show c.toNat ≤ last.toNat from hle) hlast)
    rw [hexDigit?, if_neg fun hrange => hlarge '9' (by decide) hrange.2,
      if_neg fun hrange => hlarge 'f' (by decide) hrange.2,
      if_neg fun hrange => hlarge 'F' (by decide) hrange.2]

theorem hexDigit?_eq_some_iff {c : Char} {digit : Nat} :
    hexDigit? c = some digit ↔ c ∈ hexDigits ∧ hexValue c = digit := by
  rw [hexDigit?_eq_ite, Option.ite_none_right_eq_some, Option.some.injEq]

theorem mapM_hexDigit?_eq_some_iff {cs : List Char} {digits : List Nat} :
    cs.mapM hexDigit? = some digits ↔ (∀ c ∈ cs, c ∈ hexDigits) ∧ cs.map hexValue = digits := by
  induction cs generalizing digits with
  | nil => simp [eq_comm]
  | cons c cs ih =>
      rw [List.mapM_cons, List.forall_mem_cons, List.map_cons]
      simp only [Option.bind_eq_bind, Option.bind_eq_some_iff, hexDigit?_eq_some_iff, ih]
      constructor
      · rintro ⟨digit, ⟨hc, rfl⟩, rest, ⟨hcs, rfl⟩, hdigits⟩
        exact ⟨⟨hc, hcs⟩, Option.some.inj hdigits⟩
      · rintro ⟨⟨hc, hcs⟩, rfl⟩
        exact ⟨hexValue c, ⟨hc, rfl⟩, cs.map hexValue, ⟨hcs, rfl⟩, rfl⟩

theorem digitChar_mem_hexDigits : ∀ n < 16, Nat.digitChar n ∈ hexDigits := by decide

theorem hexValue_digitChar : ∀ n < 16, hexValue (Nat.digitChar n) = n := by decide

end Numeral

namespace Bytes

/-- The halves of the bytes, the high half of a byte before the low one. -/
def halves (bytes : Bytes) : List Nat :=
  bytes.flatMap fun b => [b.toNat / 16, b.toNat % 16]

theorem halves_cons (b : UInt8) (bytes : Bytes) :
    halves (b :: bytes) = b.toNat / 16 :: b.toNat % 16 :: halves bytes := rfl

theorem length_halves (bytes : Bytes) : bytes.halves.length = 2 * bytes.length := by
  induction bytes with
  | nil => rfl
  | cons b bytes ih =>
      rw [halves_cons, List.length_cons, List.length_cons, List.length_cons, ih]
      omega

theorem lt_of_mem_halves {bytes : Bytes} {half : Nat} (h : half ∈ bytes.halves) : half < 16 := by
  obtain ⟨b, -, hb⟩ := List.mem_flatMap.mp h
  have := b.toNat_lt
  simp only [List.mem_cons, List.not_mem_nil, or_false] at hb
  omega

theorem toList_toHex (bytes : Bytes) : (toHex bytes).toList = bytes.halves.map Nat.digitChar := by
  rw [toHex, String.toList_ofList, halves, List.map_flatMap]
  rfl

end Bytes

open Numeral

namespace Partitioner

theorem pairUp_halves (bytes : Bytes) : pairUp bytes.halves = bytes := by
  induction bytes with
  | nil => rfl
  | cons b bytes ih =>
      have hvalue : b.toNat / 16 * 16 + b.toNat % 16 = b.toNat := by omega
      rw [Bytes.halves_cons, pairUp, ih, hvalue, UInt8.ofNat_toNat]

theorem halves_pairUp {digits : List Nat} (heven : digits.length % 2 = 0)
    (h : ∀ digit ∈ digits, digit < 16) : (pairUp digits).halves = digits := by
  fun_induction pairUp digits with
  | case1 high low rest ih =>
      rw [List.forall_mem_cons, List.forall_mem_cons] at h
      obtain ⟨hhigh, hlow, hrest⟩ := h
      have hvalue : (UInt8.ofNat (high * 16 + low)).toNat = high * 16 + low :=
        UInt8.toNat_ofNat_of_lt' (by rw [UInt8.size]; omega)
      have hdiv : (high * 16 + low) / 16 = high := by omega
      have hmod : (high * 16 + low) % 16 = low := by omega
      have hlength : rest.length % 2 = 0 := by
        rw [List.length_cons, List.length_cons] at heven
        omega
      rw [Bytes.halves_cons, hvalue, hdiv, hmod, ih hlength hrest]
  | case2 digits hshort =>
      match digits with
      | [] => rfl
      | [digit] => exact absurd heven Nat.one_ne_zero
      | high :: low :: rest => exact absurd rfl (hshort high low rest)

/-- An odd number of digits has a zero in front. -/
def padded (digits : List Nat) : List Nat :=
  if digits.length % 2 = 1 then 0 :: digits else digits

theorem length_padded (digits : List Nat) : (padded digits).length % 2 = 0 := by
  unfold padded
  split
  · rw [List.length_cons]
    omega
  · omega

theorem lt_of_mem_padded {digits : List Nat} (h : ∀ digit ∈ digits, digit < 16) :
    ∀ digit ∈ padded digits, digit < 16 := by
  unfold padded
  split
  · exact List.forall_mem_cons.mpr ⟨by decide, h⟩
  · exact h

/-- Whether a text has no other characters than hexadecimal digits. -/
def IsHexadecimal (text : String) : Prop := ∀ c ∈ text.toList, c ∈ hexDigits

/-- Whether the hexadecimal digits of a text are the halves of the bytes. -/
structure Spells (text : String) (bytes : Bytes) : Prop where
  isHexadecimal : IsHexadecimal text
  halves_eq : bytes.halves = padded (text.toList.map hexValue)

theorem spells_iff {text : String} {bytes : Bytes} :
    Spells text bytes ↔
      IsHexadecimal text ∧ pairUp (padded (text.toList.map hexValue)) = bytes := by
  constructor
  · rintro ⟨htext, hhalves⟩
    exact ⟨htext, by rw [← hhalves, pairUp_halves]⟩
  · rintro ⟨htext, rfl⟩
    refine ⟨htext, halves_pairUp (length_padded _) (lt_of_mem_padded ?_)⟩
    exact List.forall_mem_map.mpr fun c hc => (bounds_of_mem_hexDigits (htext c hc)).2

theorem bytesOfHex?_eq_some_iff {text : String} {bytes : Bytes} :
    bytesOfHex? text = some bytes ↔ Spells text bytes := by
  have hpairUp (digits : List Nat) :
      (if digits.length % 2 = 1 then pairUp (0 :: digits) else pairUp digits) =
        pairUp (padded digits) := by
    rw [padded, apply_ite pairUp]
  rw [bytesOfHex?, Option.map_eq_some_iff, spells_iff]
  simp only [mapM_hexDigit?_eq_some_iff, hpairUp]
  constructor
  · rintro ⟨digits, ⟨htext, rfl⟩, rfl⟩
    exact ⟨htext, rfl⟩
  · rintro ⟨htext, rfl⟩
    exact ⟨_, ⟨htext, rfl⟩, rfl⟩

theorem exists_spells_iff {text : String} : (∃ bytes, Spells text bytes) ↔ IsHexadecimal text := by
  simp [spells_iff]

theorem spells_toHex (bytes : Bytes) : Spells (Bytes.toHex bytes) bytes where
  isHexadecimal := by
    rw [IsHexadecimal, Bytes.toList_toHex]
    exact List.forall_mem_map.mpr fun half hhalf =>
      digitChar_mem_hexDigits half (Bytes.lt_of_mem_halves hhalf)
  halves_eq := by
    have hvalues : (bytes.halves.map Nat.digitChar).map hexValue = bytes.halves := by
      rw [List.map_map]
      exact (List.map_congr_left fun half hhalf =>
        hexValue_digitChar half (Bytes.lt_of_mem_halves hhalf)).trans (List.map_id _)
    rw [Bytes.toList_toHex, hvalues, padded, if_neg]
    rw [Bytes.length_halves]
    omega

end Partitioner

/-- The partitioner that has tokens of this kind. -/
def Token.partitioner : Token → Partitioner
  | .murmur3 _ => .murmur3
  | .random _ => .random
  | .byteOrdered _ => .byteOrdered
  | .orderPreserving _ => .orderPreserving

namespace Partitioner

theorem parseToken_text (token : Token) : token.partitioner.parseToken token.text = .ok token := by
  cases token with
  | murmur3 value =>
      simp only [Token.partitioner, parseToken, Token.text, int64?_toString, Option.map_some]
  | random value =>
      simp only [Token.partitioner, parseToken, Token.text, integer?_toString, Option.map_some]
  | byteOrdered key =>
      have hkey := bytesOfHex?_eq_some_iff.mpr (spells_toHex key)
      simp only [Token.partitioner, parseToken, Token.text, hkey, Option.map_some]
  | orderPreserving key => rfl

theorem parseToken_byteOrdered_eq_ok_iff {text : String} {token : Token} :
    byteOrdered.parseToken text = .ok token ↔
      ∃ bytes, Spells text bytes ∧ token = .byteOrdered bytes := by
  simp only [parseToken, ← bytesOfHex?_eq_some_iff]
  cases bytesOfHex? text with
  | none => simp
  | some bytes => simp [eq_comm]

/-- Every token is read back from its text by the partitioner of its kind. The byte-ordered
partitioner accepts a text exactly if all its characters are hexadecimal digits, and the token has
the bytes whose halves the digits are, an odd number of digits with a zero in front. -/
theorem readsTexts :
    (∀ token : Token, token.partitioner.parseToken token.text = .ok token) ∧
      ∀ text, ((∃ token, byteOrdered.parseToken text = .ok token) ↔ IsHexadecimal text) ∧
        ∀ token, byteOrdered.parseToken text = .ok token ↔
          ∃ bytes, Spells text bytes ∧ token = .byteOrdered bytes := by
  refine ⟨parseToken_text, fun text => ⟨?_, fun token => parseToken_byteOrdered_eq_ok_iff⟩⟩
  simp only [parseToken_byteOrdered_eq_ok_iff, ← exists_spells_iff]
  constructor
  · rintro ⟨_, bytes, hbytes, -⟩
    exact ⟨bytes, hbytes⟩
  · rintro ⟨bytes, hbytes⟩
    exact ⟨.byteOrdered bytes, bytes, hbytes, rfl⟩

example : byteOrdered.parseToken "0a0B1" = .ok (.byteOrdered [0x00, 0xa0, 0xb1]) := by decide

end Partitioner

end CqlClient
