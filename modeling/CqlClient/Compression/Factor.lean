import CqlClient.Bytes

/-!
Factored texts: bytes as they are, and repetitions of bytes before them. Both compressed formats
write such pieces; each finds repetitions in its own way.
-/

namespace CqlClient.Factor

/-- A piece of a factored text: bytes as they are, or a repetition of `length` bytes that started
`offset` bytes before. -/
inductive Piece
  | literal (bytes : Bytes)
  | copy (offset length : Nat)
  deriving DecidableEq, Repr

/-- The shortest repetition worth naming. -/
def minCopy : Nat := 4

/-- The byte at a position, zero beyond the end. -/
def byteAt (data : ByteArray) (pos : Nat) : UInt8 :=
  if h : pos < data.size then data[pos] else 0

/-- The number that `width` bytes write from a position on, lowest byte first. -/
def numberAt (data : ByteArray) (pos : Nat) : (width : Nat) → Nat
  | 0 => 0
  | width + 1 => (byteAt data pos).toNat + 256 * numberAt data (pos + 1) width

/-- Whether the shortest repetition worth naming starts at two positions. -/
def agrees (data : ByteArray) (source pos : Nat) : Bool :=
  numberAt data source minCopy == numberAt data pos minCopy

/-- Where the bytes from `pos` on cease to repeat those from `source` on, at `limit` at the
latest. -/
def repeatEnd (data : ByteArray) (source pos limit : Nat) : Nat :=
  if pos < limit then
    if byteAt data source = byteAt data pos then repeatEnd data (source + 1) (pos + 1) limit
    else pos
  else pos
termination_by limit - pos

theorem le_repeatEnd (data : ByteArray) (source pos limit : Nat) :
    pos ≤ repeatEnd data source pos limit := by
  fun_induction repeatEnd data source pos limit <;> omega

/-- Where a repetition ends whose first bytes agree, at `limit` at the latest. -/
def copyEnd (data : ByteArray) (source pos limit : Nat) : { stop : Nat // pos < stop } :=
  ⟨repeatEnd data (source + minCopy) (pos + minCopy) limit,
    Nat.lt_of_lt_of_le (Nat.lt_add_of_pos_right (by decide)) (le_repeatEnd ..)⟩

/-- How many bytes before `pos`, of the last `most`, repeat those before `source`. -/
def repeatedBefore (data : ByteArray) (source pos : Nat) : (most : Nat) → Nat
  | 0 => 0
  | most + 1 =>
      if byteAt data (source - 1) = byteAt data (pos - 1) then
        repeatedBefore data (source - 1) (pos - 1) most + 1
      else 0

/-- The bytes from `start` up to `stop`. -/
def slice (data : ByteArray) (start stop : Nat) : Bytes :=
  (data.extract start stop).data.toList

/-- Add the bytes from `start` up to `stop` to pieces, if there are any; the last piece comes
first. -/
def addLiteral (data : ByteArray) (start stop : Nat) (done : List Piece) : List Piece :=
  if start < stop then .literal (slice data start stop) :: done else done

end CqlClient.Factor
