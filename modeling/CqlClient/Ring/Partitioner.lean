import CqlClient.Hash.Md5
import CqlClient.Hash.Murmur3
import CqlClient.Ring.Token
import CqlClient.Text.Numeral
import CqlClient.Text.Quoted
import CqlClient.Text.Utf8

namespace CqlClient

/-- How a cluster computes tokens from partition keys. -/
inductive Partitioner
  | murmur3
  | random
  | byteOrdered
  | orderPreserving
  deriving DecidableEq, Repr, Inhabited

/-- A text that is no token of a partitioner. -/
structure TokenTextError where
  partitioner : Partitioner
  text : String
  deriving DecidableEq, Repr

namespace Partitioner

/-- Name of the partitioner. -/
def name : Partitioner → String
  | .murmur3 => "Murmur3Partitioner"
  | .random => "RandomPartitioner"
  | .byteOrdered => "ByteOrderedPartitioner"
  | .orderPreserving => "OrderPreservingPartitioner"

/-- The partitioner with a given class name, qualified or not. -/
def ofClassName? (className : String) : Option Partitioner :=
  [murmur3, random, byteOrdered, orderPreserving].find? fun p => className.endsWith p.name

/-- The distance from zero of bytes read as a signed number. -/
def magnitude (bytes : Bytes) : Nat :=
  let value := Bytes.toNat bytes
  let bound := Nat.pow 256 bytes.length
  if value < bound / 2 then value else bound - value

/-- The token of a partition key. -/
def token : Partitioner → Bytes → Token
  | .murmur3, key =>
      if key.isEmpty then .murmur3 Int64.minValue
      else .ofHash (Murmur3.hash key).toInt64
  | .random, key =>
      if key.isEmpty then .random (-1) else .random (magnitude (Md5.digest key).val)
  | .byteOrdered, key => .byteOrdered key
  | .orderPreserving, key =>
      match Utf8.decode key with
      | .ok text => .orderPreserving text
      | .error _ => .orderPreserving (Bytes.toHex key)

/-- Bytes from pairs of hexadecimal digits. -/
def pairUp : List Nat → Bytes
  | high :: low :: rest => UInt8.ofNat (high * 16 + low) :: pairUp rest
  | _ => []

/-- Bytes from hexadecimal digits of either case; an odd number of them has a zero in front. -/
def bytesOfHex? (text : String) : Option Bytes :=
  (text.toList.mapM Numeral.hexDigit?).map fun digits =>
    if digits.length % 2 = 1 then pairUp (0 :: digits) else pairUp digits

/-- The token with a given text. -/
def parseToken (partitioner : Partitioner) (text : String) : Except TokenTextError Token :=
  let token := match partitioner with
    | .murmur3 => (Numeral.int64? text).map Token.murmur3
    | .random => (Numeral.integer? text).map Token.random
    | .byteOrdered => (bytesOfHex? text).map Token.byteOrdered
    | .orderPreserving => some (.orderPreserving text)
  match token with
  | some token => .ok token
  | none => .error ⟨partitioner, text⟩

end Partitioner

/-- Wording of a bad token. -/
def TokenTextError.message (error : TokenTextError) : String :=
  "Invalid token " ++ Text.quoted error.text ++ " for " ++ error.partitioner.name

end CqlClient
