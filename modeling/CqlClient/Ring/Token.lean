import CqlClient.Bytes
import CqlClient.Text.Utf16

namespace CqlClient

/-- Position of a partition key on the ring. The tokens of a ring are all of one kind, that of its
partitioner. -/
inductive Token
  | murmur3 (value : Int64)
  | random (value : Int)
  | byteOrdered (key : Bytes)
  | orderPreserving (key : String)
  deriving DecidableEq

namespace Token

/-- Rank of the kind of a token. -/
def rank : Token → Nat
  | .murmur3 _ => 0
  | .random _ => 1
  | .byteOrdered _ => 2
  | .orderPreserving _ => 3

/-- Order on the ring: numbers by value, bytes and UTF-16 code units lexicographically, and tokens
of different kinds by their kind. -/
def compare : Token → Token → Ordering
  | .murmur3 a, .murmur3 b => Ord.compare a.toInt b.toInt
  | .random a, .random b => Ord.compare a b
  | .byteOrdered a, .byteOrdered b => Ord.compare (a.map UInt8.toNat) (b.map UInt8.toNat)
  | .orderPreserving a, .orderPreserving b => Ord.compare (Utf16.units a) (Utf16.units b)
  | a, b => Ord.compare a.rank b.rank

/-- Whether a token comes before another one. -/
def before (a b : Token) : Bool := (a.compare b).isLT

/-- Whether a token does not come after another one. -/
def atMost (a b : Token) : Bool := (a.compare b).isLE

/-- The token of a hash. The least number is kept for the empty key, so a hash of that value becomes
the greatest one. -/
def ofHash (hash : Int64) : Token :=
  .murmur3 (if hash = Int64.minValue then Int64.maxValue else hash)

/-- The token as a node writes it. -/
def text : Token → String
  | .murmur3 value => toString value.toInt
  | .random value => toString value
  | .byteOrdered key => Bytes.toHex key
  | .orderPreserving key => key

end Token

end CqlClient
