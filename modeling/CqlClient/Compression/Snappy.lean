import CqlClient.Compression.Lz4

namespace CqlClient.Snappy

/-- The largest content that the format can announce. -/
def maxSize : Nat := UInt32.size - 1

/-- Read a number in at most five groups of seven bits, lowest first. -/
def readVarint (shift value : Nat) : Bytes → Option (Nat × Bytes)
  | [] => none
  | b :: rest =>
      if 35 ≤ shift then none
      else
        let value := value + (b.toNat % 128) <<< shift
        if b < 128 then some (value, rest) else readVarint (shift + 7) value rest

/-- Write a number in groups of seven bits, lowest first. -/
def writeVarint (value : Nat) : Bytes :=
  if value < 128 then [UInt8.ofNat value]
  else UInt8.ofNat (value % 128 + 128) :: writeVarint (value / 128)
termination_by value

/-- The number written by the bytes, lowest byte first. -/
def littleEndian (bytes : Bytes) : Nat :=
  bytes.foldr (fun b value => b.toNat + value * 256) 0

/-- Length of a literal and the bytes after it was read. A length above 60 in the tag counts the
bytes of the length that follow it. -/
def literalLength (tag : UInt8) (rest : Bytes) : Option (Nat × Bytes) :=
  let length := tag.toNat / 4 + 1
  if length ≤ 60 then some (length, rest)
  else (Bytes.splitExact? (length - 60) rest).map fun (size, rest) => (littleEndian size + 1, rest)

/-- Length and offset of a repetition and the bytes after them. -/
def copySpan (tag : UInt8) (rest : Bytes) : Option (Nat × Nat × Bytes) :=
  let kind := tag.toNat % 4
  let width := if kind = 1 then 1 else if kind = 2 then 2 else 4
  (Bytes.splitExact? width rest).map fun (offset, rest) =>
    if kind = 1 then
      (4 + tag.toNat / 4 % 8, tag.toNat / 32 * 256 + littleEndian offset, rest)
    else (tag.toNat / 4 + 1, littleEndian offset, rest)

theorem length_literalLength {tag : UInt8} {rest after : Bytes} {length : Nat}
    (h : literalLength tag rest = some (length, after)) : after.length ≤ rest.length := by
  simp only [literalLength] at h
  split at h
  · obtain ⟨-, rfl⟩ := Prod.mk.inj (Option.some.inj h)
    exact Nat.le_refl _
  · obtain ⟨⟨size, left⟩, hs, h⟩ := Option.map_eq_some_iff.1 h
    obtain ⟨-, rfl⟩ := Prod.mk.inj h
    exact Lz4.length_of_splitExact? hs

theorem length_copySpan {tag : UInt8} {rest after : Bytes} {length offset : Nat}
    (h : copySpan tag rest = some (length, offset, after)) : after.length ≤ rest.length := by
  obtain ⟨⟨bytes, left⟩, hs, h⟩ := Option.map_eq_some_iff.1 h
  have hl := Lz4.length_of_splitExact? hs
  dsimp only at h
  split at h <;>
    · obtain ⟨-, h⟩ := Prod.mk.inj h
      obtain ⟨-, rfl⟩ := Prod.mk.inj h
      exact hl

/-- Decode literals and repetitions to exactly `size` bytes. -/
def decode (size : Nat) (out : ByteArray) (block : Bytes) : Option ByteArray :=
  match block with
  | [] => if out.size = size then some out else none
  | tag :: afterTag =>
      if tag.toNat % 4 = 0 then
        match _hLength : literalLength tag afterTag with
        | none => none
        | some (length, afterLength) =>
            match _hSplit : Bytes.splitExact? length afterLength with
            | none => none
            | some (literal, rest) =>
                if size < out.size + length then none
                else decode size (out ++ literal.toByteArray) rest
      else
        match _hCopy : copySpan tag afterTag with
        | none => none
        | some (length, offset, rest) =>
            if offset = 0 ∨ out.size < offset ∨ size < out.size + length then none
            else decode size (Lz4.copyBack offset length out) rest
termination_by block.length
decreasing_by
  · have h1 := length_literalLength _hLength
    have h2 := Lz4.length_of_splitExact? _hSplit
    simp only [List.length_cons]
    omega
  · have h1 := length_copySpan _hCopy
    simp only [List.length_cons]
    omega

/-- Decompress: the size of the content, then literals and repetitions. -/
def decompress (bytes : Bytes) : Option Bytes :=
  match readVarint 0 0 bytes with
  | some (size, block) =>
      if maxSize < size then none
      else (decode size ByteArray.empty block).map fun out => out.data.toList
  | none => none

/-- Largest part of a text that is compressed on its own. -/
def blockSize : Nat := 65536

/-- No repetition is looked for in this many bytes before the end of a block. -/
def margin : Nat := 15

/-- Number of slots in the table of recent positions: a power of two that is not smaller than the
block, between 256 and 16384. -/
def slotCount (size : Nat) : Nat :=
  ([256, 512, 1024, 2048, 4096, 8192].find? (size ≤ ·)).getD 16384

/-- The slot of the four bytes at a position: the high bits of their product with a number. -/
def slot (slots : Nat) (data : ByteArray) (pos : Nat) : Nat :=
  (UInt32.ofNat (Factor.numberAt data pos 4) * 0x1E35A7BD).toNat * slots / UInt32.size

/-- Factor the bytes of a block from `pos` on. Those from `start` to `pos` are not written yet, and
`recent` holds the last position per slot. Steps grow by one after every 32 bytes in which nothing
was found. -/
def piecesFrom (slot : Nat → Nat) (data : ByteArray) (start pos patience : Nat)
    (recent : Array Nat) (done : List Factor.Piece) : List Factor.Piece :=
  let step := max 1 (patience / 32)
  have _ahead : 0 < step := Nat.lt_of_lt_of_le Nat.one_pos (Nat.le_max_left ..)
  if pos + step + margin ≤ data.size then
    let key := slot pos
    let source := recent.getD key 0
    let recent := recent.setIfInBounds key pos
    if Factor.agrees data source pos then
      match Factor.copyEnd data source pos data.size with
      | ⟨next, _forward⟩ =>
          let recent := recent.setIfInBounds (slot (next - 1)) (next - 1)
          let copy := Factor.Piece.copy (pos - source) (next - pos)
          piecesFrom slot data next next 31 recent
            (copy :: Factor.addLiteral data start pos done)
    else piecesFrom slot data start (pos + step) (patience + step) recent done
  else (Factor.addLiteral data start data.size done).reverse
termination_by data.size - pos

/-- Factor a block. The first byte is never part of a repetition, and short blocks have none. -/
def pieces (block : Bytes) : List Factor.Piece :=
  if block.length ≤ margin + 1 then [.literal block]
  else
    let slots := slotCount block.length
    let data := block.toByteArray
    piecesFrom (slot slots data) data 0 1 32 (Array.replicate slots 0) []

/-- A literal with its length in the tag, or in one byte or two after it. -/
def literalBytes (bytes : Bytes) : Bytes :=
  let last := bytes.length - 1
  if last < 60 then UInt8.ofNat (last * 4) :: bytes
  else if last < 256 then UInt8.ofNat (60 * 4) :: UInt8.ofNat last :: bytes
  else UInt8.ofNat (61 * 4) :: UInt8.ofNat last :: UInt8.ofNat (last / 256) :: bytes

/-- A repetition of at most 64 bytes with an offset in two bytes. -/
def farCopy (offset length : Nat) : Bytes :=
  [UInt8.ofNat ((length - 1) * 4 + 2), UInt8.ofNat offset, UInt8.ofNat (offset / 256)]

/-- A repetition of at most 64 bytes; a short one from nearby needs one byte less. -/
def copyPart (offset length : Nat) : Bytes :=
  if length ≤ 11 ∧ offset ≤ 2047 then
    [UInt8.ofNat (offset / 256 * 32 + (length - 4) * 4 + 1), UInt8.ofNat offset]
  else farCopy offset length

/-- A repetition, in parts of which none is shorter than four bytes. -/
def copyBytes (offset length : Nat) : Bytes :=
  if 68 ≤ length then farCopy offset 64 ++ copyBytes offset (length - 64)
  else if 64 < length then farCopy offset 60 ++ copyPart offset (length - 60)
  else copyPart offset length
termination_by length

/-- Write a piece. -/
def pieceBytes : Factor.Piece → Bytes
  | .literal bytes => literalBytes bytes
  | .copy offset length => copyBytes offset length

/-- Compress blocks, one after another. -/
def blockBytes (bytes : Bytes) : Bytes :=
  if _h : bytes = [] then []
  else (pieces (bytes.take blockSize)).flatMap pieceBytes ++ blockBytes (bytes.drop blockSize)
termination_by bytes.length
decreasing_by
  have := List.length_pos_iff.2 _h
  simp only [List.length_drop, blockSize]
  omega

/-- The most bytes that a content of some size can take when it is compressed. -/
def maxCompressed (size : Nat) : Nat := 32 + size + size / 6

/-- Compress: the size of the content, then literals and repetitions. -/
def compress (bytes : Bytes) : Bytes :=
  writeVarint bytes.length ++ blockBytes bytes

end CqlClient.Snappy
