namespace CqlClient

/-- A string of bytes, first byte first. -/
abbrev Bytes := List UInt8

/-- A byte string of exactly `n` bytes. -/
abbrev Octets (n : Nat) := { bytes : Bytes // bytes.length = n }

namespace Bytes

/-- The UTF-8 form of a text. -/
def ofString (text : String) : Bytes :=
  text.toUTF8.data.toList

/-- Split off the first `n` bytes; `none` if there are fewer. -/
def splitExact? (n : Nat) (bytes : Bytes) : Option (Bytes × Bytes) :=
  go n [] bytes
where
  go : Nat → Bytes → Bytes → Option (Bytes × Bytes)
  | 0, taken, rest => some (taken.reverse, rest)
  | _ + 1, _, [] => none
  | n + 1, taken, b :: rest => go n (b :: taken) rest

theorem splitExact?_go (n : Nat) (taken bytes : Bytes) :
    splitExact?.go n taken bytes =
      if n ≤ bytes.length then some (taken.reverse ++ bytes.take n, bytes.drop n) else none := by
  induction n generalizing taken bytes with
  | zero => simp [splitExact?.go]
  | succ n ih =>
      cases bytes with
      | nil => simp [splitExact?.go]
      | cons b rest => simp [splitExact?.go, ih]

theorem splitExact?_eq (n : Nat) (bytes : Bytes) :
    splitExact? n bytes =
      if n ≤ bytes.length then some (bytes.take n, bytes.drop n) else none := by
  simp [splitExact?, splitExact?_go]

theorem splitExact?_append {taken : Bytes} {n : Nat} (h : taken.length = n) (rest : Bytes) :
    splitExact? n (taken ++ rest) = some (taken, rest) := by
  subst h
  simp [splitExact?_eq]

theorem length_of_splitExact? {n : Nat} {bytes taken rest : Bytes}
    (h : splitExact? n bytes = some (taken, rest)) : taken.length = n := by
  rw [splitExact?_eq] at h
  split at h
  · next hn =>
      obtain ⟨rfl, -⟩ := Prod.mk.inj (Option.some.inj h)
      rw [List.length_take]
      omega
  · exact absurd h (by simp)

/-- The number written by the bytes, most significant byte first. -/
def toNat (bytes : Bytes) : Nat :=
  bytes.foldl (fun value b => value * 256 + b.toNat) 0

/-- The `width` lowest bytes of `value`, most significant byte first. -/
def ofNat : (width value : Nat) → Bytes
  | 0, _ => []
  | width + 1, value => ofNat width (value / 256) ++ [UInt8.ofNat value]

@[simp]
theorem length_ofNat (width value : Nat) : (ofNat width value).length = width := by
  induction width generalizing value with
  | zero => rfl
  | succ width ih => simp [ofNat, ih]

@[simp]
theorem toNat_append_singleton (bytes : Bytes) (b : UInt8) :
    toNat (bytes ++ [b]) = toNat bytes * 256 + b.toNat := by
  simp [toNat]

theorem toNat_ofNat (width value : Nat) :
    toNat (ofNat width value) = value % Nat.pow 256 width := by
  induction width generalizing value with
  | zero => simp [ofNat, toNat, Nat.mod_one]
  | succ width ih =>
      have split := Nat.mod_mul (a := 256) (b := Nat.pow 256 width) (x := value)
      rw [ofNat, toNat_append_singleton, ih, Nat.pow, Nat.mul_eq,
        Nat.mul_comm (Nat.pow 256 width) 256, split]
      simp
      omega

/-- Lower-case hexadecimal digits, two a byte. -/
def toHex (bytes : Bytes) : String :=
  String.ofList (bytes.flatMap fun b =>
    [Nat.digitChar (b.toNat / 16), Nat.digitChar (b.toNat % 16)])

end Bytes

end CqlClient
