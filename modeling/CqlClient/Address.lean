import CqlClient.Bytes
import CqlClient.Text.Numeral
import CqlClient.Text.Quoted

namespace CqlClient

/-- Address of a node. -/
inductive IpAddress
  | v4 (octets : Octets 4)
  | v6 (octets : Octets 16)
  deriving DecidableEq

namespace IpAddress

/-- The bytes of the address, in network order. -/
def toBytes : IpAddress → Bytes
  | .v4 octets => octets.val
  | .v6 octets => octets.val

/-- Order of addresses: all of version 4 before those of version 6, then byte by byte. -/
def le : IpAddress → IpAddress → Bool
  | .v4 a, .v4 b => decide (a.val ≤ b.val)
  | .v4 _, .v6 _ => true
  | .v6 _, .v4 _ => false
  | .v6 a, .v6 b => decide (a.val ≤ b.val)

/-- Addresses in their order. -/
def sort (addresses : List IpAddress) : List IpAddress := addresses.mergeSort le

/-- The wildcard address, with no bit set. -/
def isUnspecified (address : IpAddress) : Bool :=
  address.toBytes.all (· == 0)

/-- An address of version 4 by its four bytes. -/
def ofOctets (a b c d : UInt8) : IpAddress :=
  .v4 ⟨[a, b, c, d], rfl⟩

/-- The eight 16-bit groups of an address of version 6. -/
def groups (bytes : Bytes) : List Nat :=
  match bytes with
  | hi :: lo :: rest => (hi.toNat * 256 + lo.toNat) :: groups rest
  | _ => []

/-- Groups in hexadecimal, with colons between them. -/
def groupsText (groups : List Nat) : String :=
  String.intercalate ":" (groups.map Text.hexDigits)

/-- Length of the run of zeros at the front. -/
def zeroRun (groups : List Nat) : Nat :=
  (groups.takeWhile (· == 0)).length

/-- Start and length of the longest run of zeros, the first of equal ones. -/
def longestZeroRun (groups : List Nat) : Nat × Nat :=
  ((List.range groups.length).map fun start => (start, zeroRun (groups.drop start))).foldl
    (fun best run => if best.2 < run.2 then run else best) (0, 0)

/-- Decimal bytes with dots between them. -/
def dotted (bytes : Bytes) : String :=
  String.intercalate "." (bytes.map fun b => toString b.toNat)

/-- The usual text of an address. In version 6 the longest run of at least two zero groups is
written `::`, and an embedded address of version 4 keeps its dots. -/
def text : IpAddress → String
  | .v4 octets => dotted octets.val
  | .v6 octets =>
      let all := groups octets.val
      if all.take 6 = [0, 0, 0, 0, 0, 0xFFFF] then
        "::ffff:" ++ dotted (octets.val.drop 12)
      else
        let (start, size) := longestZeroRun all
        if size < 2 then groupsText all
        else groupsText (all.take start) ++ "::" ++ groupsText (all.drop (start + size))

/-- Read a decimal byte: at most three digits, no leading zero, at most 255. -/
def readByte (cs : List Char) : Option (UInt8 × List Char) :=
  let row := cs.takeWhile fun c => (Numeral.digit? c).isSome
  if row.length = 0 ∨ 3 < row.length ∨ (row.head? = some '0' ∧ 1 < row.length) then none
  else (Numeral.digits? row).bind fun n =>
    if n < 256 then some (UInt8.ofNat n, cs.drop row.length) else none

/-- Read four decimal bytes with dots between them. -/
def readDotted (cs : List Char) : Option (Octets 4 × List Char) := do
  let (a, cs) ← readByte cs
  let cs ← afterChar '.' cs
  let (b, cs) ← readByte cs
  let cs ← afterChar '.' cs
  let (c, cs) ← readByte cs
  let cs ← afterChar '.' cs
  let (d, cs) ← readByte cs
  return (⟨[a, b, c, d], rfl⟩, cs)
where
  afterChar (expected : Char) : List Char → Option (List Char)
  | c :: rest => if c = expected then some rest else none
  | [] => none

/-- Read a group of one to four hexadecimal digits. -/
def readGroup (cs : List Char) : Option (Nat × List Char) :=
  let row := cs.takeWhile fun c => (Numeral.hexDigit? c).isSome
  if row.length = 0 ∨ 4 < row.length then none
  else
    let value := row.foldl (fun value c => value * 16 + (Numeral.hexDigit? c).getD 0) 0
    some (value, cs.drop row.length)

/-- Read at most `room` groups with colons between them; the last two may be written as an
address of version 4. Tells the groups, whether such an address ended them, and the rest. -/
def readGroups (room : Nat) (isFirst : Bool) (cs : List Char) : List Nat × Bool × List Char :=
  match room with
  | 0 => ([], false, cs)
  | room + 1 =>
      let body := if isFirst then some cs else readDotted.afterChar ':' cs
      match body with
      | none => ([], false, cs)
      | some body =>
          match (if room = 0 then none else readDotted body) with
          | some (octets, rest) => (groups octets.val, true, rest)
          | none =>
              match readGroup body with
              | none => ([], false, cs)
              | some (group, rest) =>
                  let (more, embedded, rest) := readGroups room false rest
                  (group :: more, embedded, rest)

/-- The address of version 6 with the given groups, filled with zeros. -/
def ofGroups (groups : List Nat) : IpAddress :=
  let bytes := groups.flatMap (Bytes.ofNat 2)
  .v6 ⟨Bytes.ofNat 16 (Bytes.toNat bytes), Bytes.length_ofNat 16 _⟩

/-- Read an address of version 6. -/
def readGrouped (cs : List Char) : Option (IpAddress × List Char) :=
  let (head, embedded, rest) := readGroups 8 true cs
  if head.length = 8 then some (ofGroups head, rest)
  else if embedded then none
  else
    match rest with
    | ':' :: ':' :: rest =>
        let (tail, _, rest) := readGroups (7 - head.length) true rest
        let zeros := List.replicate (8 - head.length - tail.length) 0
        some (ofGroups (head ++ zeros ++ tail), rest)
    | _ => none

/-- The address written by a whole text. -/
def ofText? (text : String) : Option IpAddress :=
  let cs := text.toList
  match readDotted cs with
  | some (octets, rest) => if rest.isEmpty then some (.v4 octets) else none
  | none =>
      match readGrouped cs with
      | some (address, rest) => if rest.isEmpty then some address else none
      | none => none

end IpAddress

/-- An address together with a port. -/
structure Endpoint where
  ip : IpAddress
  port : UInt16
  deriving DecidableEq

end CqlClient
