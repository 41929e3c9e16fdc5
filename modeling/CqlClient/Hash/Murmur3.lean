import CqlClient.Bytes

namespace CqlClient.Murmur3

/-- First multiplier. -/
def c1 : UInt64 := 0x87c37b91114253d5

/-- Second multiplier. -/
def c2 : UInt64 := 0x4cf5ad432745937f

/-- Rotate to the left. -/
def rotate (word amount : UInt64) : UInt64 :=
  (word <<< amount) ||| (word >>> (64 - amount))

/-- Prepare the first word of a block. -/
def mixFirst (k : UInt64) : UInt64 := rotate (k * c1) 31 * c2

/-- Prepare the second word of a block. -/
def mixSecond (k : UInt64) : UInt64 := rotate (k * c2) 33 * c1

/-- Spread every bit of a word over the whole word. -/
def finish (k : UInt64) : UInt64 :=
  let k := (k ^^^ (k >>> 33)) * 0xff51afd7ed558ccd
  let k := (k ^^^ (k >>> 33)) * 0xc4ceb9fe1a85ec53
  k ^^^ (k >>> 33)

/-- Both words of the running hash. -/
structure State where
  h1 : UInt64
  h2 : UInt64
  deriving DecidableEq

/-- Mix both words of a block into the hash. -/
def absorb (s : State) (k1 k2 : UInt64) : State :=
  let h1 := (rotate (s.h1 ^^^ mixFirst k1) 27 + s.h2) * 5 + 0x52dce729
  let h2 := (rotate (s.h2 ^^^ mixSecond k2) 31 + h1) * 5 + 0x38495ab5
  ⟨h1, h2⟩

/-- The word written by bytes, least significant byte first. -/
def word (bytes : Bytes) : UInt64 :=
  UInt64.ofNat (Bytes.toNat bytes.reverse)

/-- A byte taken as a signed number. -/
def extended (b : UInt8) : UInt64 := b.toInt8.toInt64.toUInt64

/-- The word written by the last bytes. A byte from 0x80 on counts as a negative number, so it also
flips all bits above its own. -/
def tailWord (bytes : Bytes) : UInt64 :=
  go 0 0 bytes
where
  go (word shift : UInt64) : Bytes → UInt64
  | [] => word
  | b :: rest => go (word ^^^ (extended b <<< shift)) (shift + 8) rest

/-- Mix the bytes after the last whole block into the hash. -/
def absorbTail (s : State) (tail : Bytes) : State :=
  { h1 := if tail.isEmpty then s.h1 else s.h1 ^^^ mixFirst (tailWord (tail.take 8))
    h2 := if tail.length ≤ 8 then s.h2 else s.h2 ^^^ mixSecond (tailWord (tail.drop 8)) }

/-- Mix blocks of sixteen bytes and the bytes after them into the hash. -/
def absorbAll : (blocks : Nat) → State → Bytes → State
  | 0, s, tail => absorbTail s tail
  | blocks + 1, s, bytes =>
      absorbAll blocks (absorb s (word (bytes.take 8)) (word ((bytes.drop 8).take 8)))
        (bytes.drop 16)

/-- The low half of the 128-bit hash with seed zero. -/
def hash (key : Bytes) : UInt64 :=
  let length := key.length
  let s := absorbAll (length / 16) ⟨0, 0⟩ key
  let h1 := s.h1 ^^^ UInt64.ofNat length
  let h2 := s.h2 ^^^ UInt64.ofNat length
  let h1 := h1 + h2
  let h2 := h2 + h1
  finish h1 + finish h2

end CqlClient.Murmur3
