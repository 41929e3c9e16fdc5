import CqlClient.Compression.Snappy

namespace CqlClient

/-- The algorithms that a connection can negotiate. -/
inductive Compression
  | lz4
  | snappy
  deriving DecidableEq, Repr

namespace Compression

/-- Name of the algorithm in SUPPORTED and STARTUP. -/
def name : Compression → String
  | .lz4 => "lz4"
  | .snappy => "snappy"

/-- The algorithm with a given name. -/
def ofName? : String → Option Compression
  | "lz4" => some .lz4
  | "snappy" => some .snappy
  | _ => none

/-- Why a body cannot be decompressed. -/
inductive Fault
  | malformed
  | lz4 (fault : Lz4.Fault)
  deriving DecidableEq, Repr

/-- Whether a body can be compressed. Snappy refuses what might take more bytes than it can
announce; LZ4 takes every body. -/
def takes : Compression → Bytes → Bool
  | .lz4, _ => true
  | .snappy, body => Snappy.maxCompressed body.length ≤ Snappy.maxSize

/-- Compress a body. An LZ4 block has the size of its content in front, in four bytes. -/
def compress : Compression → Bytes → Bytes
  | .lz4, body => Bytes.ofNat 4 body.length ++ Lz4.compress body
  | .snappy, body => Snappy.compress body

/-- Decompress a body. -/
def decompress : Compression → Bytes → Except Fault Bytes
  | .lz4, body =>
      match Bytes.splitExact? 4 body with
      | some (size, block) =>
          match Lz4.decompress (Bytes.toNat size) block with
          | .ok content => .ok content
          | .error fault => .error (.lz4 fault)
      | none => .error .malformed
  | .snappy, body =>
      match Snappy.decompress body with
      | some content => .ok content
      | none => .error .malformed

end Compression

end CqlClient
