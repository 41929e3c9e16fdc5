import CqlClient.Compression.Factor

namespace CqlClient.Lz4

/-- Why a block cannot be decompressed. -/
inductive Fault
  | outputTooSmall (expected actual : Nat)
  | literalOutOfBounds
  | expectedAnotherByte
  | offsetOutOfBounds
  deriving DecidableEq, Repr

/-- Wording of a fault. -/
def Fault.message : Fault → String
  | .outputTooSmall expected actual =>
      "provided output is too small for the decompressed data, actual " ++ toString actual ++
        ", expected " ++ toString expected
  | .literalOutOfBounds => "literal is out of bounds of the input"
  | .expectedAnotherByte => "expected another byte, found none"
  | .offsetOutOfBounds => "the offset to copy is not contained in the decompressed buffer"

/-- Add up length bytes, the last of which is the first below 255. -/
def extension (sum : Nat) : Bytes → Except Fault (Nat × Bytes)
  | [] => .error .expectedAnotherByte
  | b :: rest => if b = 255 then extension (sum + 255) rest else .ok (sum + b.toNat, rest)

/-- A length of which `nibble` is the part in the token. -/
def fullLength (nibble : Nat) (bytes : Bytes) : Except Fault (Nat × Bytes) :=
  if nibble = 15 then extension 15 bytes else .ok (nibble, bytes)

/-- Append `count` bytes, each a copy of the one `offset` bytes before it. -/
def copyBack (offset : Nat) : (count : Nat) → ByteArray → ByteArray
  | 0, out => out
  | count + 1, out => copyBack offset count (out.push (Factor.byteAt out (out.size - offset)))

theorem length_extension {sum total : Nat} {bytes rest : Bytes}
    (h : extension sum bytes = .ok (total, rest)) : rest.length < bytes.length := by
  induction bytes generalizing sum with
  | nil => simp [extension] at h
  | cons b bytes ih =>
      unfold extension at h
      split at h
      · exact Nat.lt_succ_of_lt (ih h)
      · obtain ⟨-, rfl⟩ := Prod.mk.inj (Except.ok.inj h)
        simp

theorem length_fullLength {nibble total : Nat} {bytes rest : Bytes}
    (h : fullLength nibble bytes = .ok (total, rest)) : rest.length ≤ bytes.length := by
  unfold fullLength at h
  split at h
  · exact Nat.le_of_lt (length_extension h)
  · obtain ⟨-, rfl⟩ := Prod.mk.inj (Except.ok.inj h)
    exact Nat.le_refl _

theorem length_of_splitExact? {n : Nat} {bytes taken rest : Bytes}
    (h : Bytes.splitExact? n bytes = some (taken, rest)) : rest.length ≤ bytes.length := by
  rw [Bytes.splitExact?_eq] at h
  split at h
  · obtain ⟨-, rfl⟩ := Prod.mk.inj (Option.some.inj h)
    simp
  · simp at h

/-- Decode sequences of a token, literals, and a repetition. The block ends after literals; the
result has at most `room` bytes. -/
def decode (room : Nat) (out : ByteArray) (block : Bytes) : Except Fault ByteArray :=
  match block with
  | [] => .error .expectedAnotherByte
  | token :: afterToken =>
      match _hLiteral : fullLength (token.toNat / 16) afterToken with
      | .error fault => .error fault
      | .ok (literalLength, afterLength) =>
          match _hSplit : Bytes.splitExact? literalLength afterLength with
          | none => .error .literalOutOfBounds
          | some (literal, afterLiteral) =>
              if room < out.size + literalLength then
                .error (.outputTooSmall (out.size + literalLength) room)
              else
                let out := out ++ literal.toByteArray
                match afterLiteral with
                | [] => .ok out
                | [_] => .error .expectedAnotherByte
                | lo :: hi :: afterOffset =>
                    let offset := lo.toNat + hi.toNat * 256
                    match _hCopy : fullLength (token.toNat % 16) afterOffset with
                    | .error fault => .error fault
                    | .ok (extra, rest) =>
                        let length := extra + Factor.minCopy
                        if room < out.size + length then
                          .error (.outputTooSmall (out.size + length) room)
                        else if offset = 0 ∨ out.size < offset then .error .offsetOutOfBounds
                        else decode room (copyBack offset length out) rest
termination_by block.length
decreasing_by
  have h1 := length_fullLength _hLiteral
  have h2 := length_of_splitExact? _hSplit
  have h3 := length_fullLength _hCopy
  simp only [List.length_cons] at h2 ⊢
  omega

/-- Decompress a block whose content has at most `size` bytes. -/
def decompress (size : Nat) (block : Bytes) : Except Fault Bytes :=
  (fun out => out.data.toList) <$> decode size ByteArray.empty block

/-- Number of slots in the table of recent positions. -/
def slotCount : Nat := 4096

/-- The slot of the four bytes at a position: the high bits of their product with a prime. -/
def slotOfFour (data : ByteArray) (pos : Nat) : Nat :=
  ((UInt32.ofNat (Factor.numberAt data pos 4) * 2654435761) >>> 20).toNat

/-- The slot of the five bytes at a position: the high bits of their product with a prime. -/
def slotOfFive (data : ByteArray) (pos : Nat) : Nat :=
  (((UInt64.ofNat (Factor.numberAt data pos 5) <<< 24) * 889523592379) >>> 52).toNat

/-- How far back a repetition may reach. -/
def maxOffset : Nat := 65535

/-- The last repetition starts this many bytes before the end, or more. -/
def startMargin : Nat := 12

/-- Repetitions end this many bytes before the end, or more. -/
def endMargin : Nat := 6

/-- Factor the bytes from `pos` on. Those from `start` to `pos` are not written yet, nothing was
found at the last `misses` positions tried, and `recent` holds the last position per slot. After
every 32 misses the steps become longer. A repetition found is extended to both sides. -/
def piecesFrom (slot : Nat → Nat) (data : ByteArray) (start pos misses : Nat) (recent : Array Nat)
    (done : List Factor.Piece) : List Factor.Piece :=
  if pos + startMargin ≤ data.size then
    let key := slot pos
    let source := recent.getD key 0
    let recent := recent.setIfInBounds key pos
    if pos ≤ source + maxOffset ∧ Factor.agrees data source pos then
      let begin := pos - Factor.repeatedBefore data source pos (min source (pos - start))
      match Factor.copyEnd data source pos (data.size - endMargin) with
      | ⟨next, _forward⟩ =>
          let recent := recent.setIfInBounds (slot (next - 2)) (next - 2)
          let copy := Factor.Piece.copy (pos - source) (next - begin)
          piecesFrom slot data next next 0 recent
            (copy :: Factor.addLiteral data start begin done)
    else piecesFrom slot data start (pos + 1 + misses / 32) (misses + 1) recent done
  else (.literal (Factor.slice data start data.size) :: done).reverse
termination_by data.size - pos
decreasing_by
  all_goals
    have margin : 0 < startMargin := by decide
    omega

/-- The slot of a position. Where every distance can be named, four bytes decide; longer texts take
five, as four of their bytes agree by chance more often. -/
def slot (data : ByteArray) : Nat → Nat :=
  if data.size < maxOffset then slotOfFour data else slotOfFive data

/-- Factor bytes. The first byte is never part of a repetition, and short texts have none. -/
def pieces (bytes : Bytes) : List Factor.Piece :=
  if bytes.length ≤ startMargin then [.literal bytes]
  else
    let data := bytes.toByteArray
    piecesFrom (slot data) data 0 1 0 (Array.replicate slotCount 0) []

/-- The bytes of a length beyond the part in the token. -/
def extensionBytes (length : Nat) : Bytes :=
  List.replicate ((length - 15) / 255) 255 ++ [UInt8.ofNat ((length - 15) % 255)]

/-- A sequence: token, literals, and, if there is one, a repetition. -/
def sequenceBytes (literal : Bytes) (copy : Option (Nat × Nat)) : Bytes :=
  let literalNibble := min literal.length 15
  let copyNibble := match copy with
    | some (_, length) => min (length - Factor.minCopy) 15
    | none => 0
  let token := UInt8.ofNat (literalNibble * 16 + copyNibble)
  let literalRest := if literal.length < 15 then [] else extensionBytes literal.length
  let copyRest := match copy with
    | some (offset, length) =>
        UInt8.ofNat offset :: UInt8.ofNat (offset / 256) ::
          (if length - Factor.minCopy < 15 then [] else extensionBytes (length - Factor.minCopy))
    | none => []
  token :: (literalRest ++ literal ++ copyRest)

/-- Write pieces as sequences. -/
def encode : List Factor.Piece → List Bytes
  | [] => []
  | .literal bytes :: .copy offset length :: rest =>
      sequenceBytes bytes (some (offset, length)) :: encode rest
  | .literal bytes :: rest => sequenceBytes bytes none :: encode rest
  | .copy offset length :: rest => sequenceBytes [] (some (offset, length)) :: encode rest

/-- Compress bytes into a block. -/
def compress (bytes : Bytes) : Bytes :=
  (encode (pieces bytes)).flatten

end CqlClient.Lz4
