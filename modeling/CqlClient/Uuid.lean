import CqlClient.Bytes

namespace CqlClient

/-- A universally unique identifier. -/
structure Uuid where
  octets : Octets 16
  deriving DecidableEq

namespace Uuid

/-- Five groups of lower-case hexadecimal digits with hyphens between them. -/
def text (id : Uuid) : String :=
  let bytes := id.octets.val
  let group (start size : Nat) : String := Bytes.toHex ((bytes.drop start).take size)
  String.intercalate "-" [group 0 4, group 4 2, group 6 2, group 8 2, group 10 6]

/-- The identifier with a given number as its big-endian value. -/
def ofNat (value : Nat) : Uuid :=
  ⟨⟨Bytes.ofNat 16 value, Bytes.length_ofNat 16 value⟩⟩

end Uuid

end CqlClient
