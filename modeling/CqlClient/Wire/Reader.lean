import CqlClient.Address
import CqlClient.Uuid
import CqlClient.Wire.Error

namespace CqlClient

/-- Reads a value from the front of the bytes and leaves the rest. -/
abbrev Reader (α : Type) := StateT Bytes (Except ParseError) α

namespace Reader

/-- Fail with a fault of the incoming bytes. -/
def refuse {α : Type} (fault : ReadFault) : Reader α :=
  throw (.badIncomingData fault)

/-- Read `n` values, one after another. -/
def many {α : Type} (reader : Reader α) (n : Nat) : Reader (List α) :=
  go n []
where
  go : Nat → List α → Reader (List α)
  | 0, values => fun bytes => .ok (values.reverse, bytes)
  | n + 1, values => fun bytes =>
      match reader bytes with
      | .ok (value, rest) => go n (value :: values) rest
      | .error e => .error e

/-- A number of exactly `width` bytes. -/
def fixed (width : Nat) : Reader Nat := fun bytes =>
  match Bytes.splitExact? width bytes with
  | some (taken, rest) => .ok (Bytes.toNat taken, rest)
  | none => .error .unexpectedEnd

/-- A single byte. -/
def byte : Reader UInt8 :=
  UInt8.ofNat <$> fixed 1

/-- A number of two bytes. -/
def short : Reader UInt16 :=
  UInt16.ofNat <$> fixed 2

/-- A signed number of four bytes. -/
def int : Reader Int32 :=
  (fun n => (UInt32.ofNat n).toInt32) <$> fixed 4

/-- Exactly `count` bytes. -/
def raw (count : Nat) : Reader Bytes := fun bytes =>
  match Bytes.splitExact? count bytes with
  | some (taken, rest) => .ok (taken, rest)
  | none => .error (.badIncomingData (.notEnoughBytes count bytes.length))

/-- Exactly `n` bytes, with their number in the type. -/
def octets (n : Nat) : Reader (Octets n) := fun bytes =>
  match h : Bytes.splitExact? n bytes with
  | some (taken, rest) => .ok (⟨taken, Bytes.length_of_splitExact? h⟩, rest)
  | none => .error (.badIncomingData (.notEnoughBytes n bytes.length))

/-- A length of four bytes, which must not be negative. -/
def intLength : Reader Nat := do
  let length ← int
  if length < 0 then refuse .negativeLength else return length.toInt.toNat

/-- A length of two bytes. -/
def shortLength : Reader Nat :=
  UInt16.toNat <$> short

/-- Bytes with a length of four bytes; any negative length stands for null. -/
def bytesOpt : Reader (Option Bytes) := do
  let length ← int
  if length < 0 then return none else some <$> raw length.toInt.toNat

/-- Bytes with a length of four bytes. -/
def bytes : Reader Bytes := do
  raw (← intLength)

/-- Bytes with a length of two bytes. -/
def shortBytes : Reader Bytes := do
  raw (← shortLength)

/-- Take bytes for a text. -/
def decodeText (bytes : Bytes) : Reader String :=
  match Utf8.decode bytes with
  | .ok text => return text
  | .error fault => refuse (.utf8 fault)

/-- A text with a length of two bytes. -/
def string : Reader String := do
  decodeText (← shortBytes)

/-- A text with a length of four bytes. -/
def longString : Reader String := do
  decodeText (← bytes)

/-- A list of texts with a count of two bytes. -/
def stringList : Reader (List String) := do
  many string (← shortLength)

/-- Two values, one after the other. -/
def pair {α β : Type} (first : Reader α) (second : Reader β) : Reader (α × β) := do
  let a ← first
  let b ← second
  return (a, b)

/-- Pairs of texts in the order written. -/
def stringPairs : Reader (List (String × String)) := do
  many (pair string string) (← shortLength)

/-- Texts with lists of texts, in the order written. -/
def stringListPairs : Reader (List (String × List String)) := do
  many (pair string stringList) (← shortLength)

/-- An identifier of sixteen bytes. -/
def uuid : Reader Uuid :=
  Uuid.mk <$> octets 16

/-- A consistency level of two bytes. -/
def consistency : Reader Consistency := do
  let code ← short
  match Consistency.ofCode? code with
  | some level => return level
  | none => throw (.unknownValue ⟨"Consistency", code.toNat⟩)

/-- An address: its size in bytes, the bytes and a port of four bytes, of which two count. -/
def inet : Reader Endpoint := do
  let size ← byte
  let ip ←
    if size = 4 then IpAddress.v4 <$> octets 4
    else if size = 16 then IpAddress.v6 <$> octets 16
    else refuse (.inetLength size)
  let port ← int
  return ⟨ip, UInt16.ofNat port.toUInt32.toNat⟩

end Reader

end CqlClient
