import CqlClient.Wire.Reader

namespace CqlClient

/-- Bytes written for a value, unless a length does not fit its field. -/
abbrev Written := Except ParseError Bytes

namespace Write

/-- A single byte. -/
def byte (value : UInt8) : Bytes := [value]

/-- A number of two bytes. -/
def short (value : UInt16) : Bytes := Bytes.ofNat 2 value.toNat

/-- A signed number of four bytes. -/
def int (value : Int32) : Bytes := Bytes.ofNat 4 value.toUInt32.toNat

/-- A length of four bytes; it must be below `2 ^ 31`. -/
def intLength (length : Nat) : Written :=
  if length < 0x80000000 then .ok (Bytes.ofNat 4 length) else .error (.badData (.intLength length))

/-- A length of two bytes; it must be below `2 ^ 16`. -/
def shortLength (length : Nat) : Written :=
  if length < UInt16.size then .ok (Bytes.ofNat 2 length) else .error (.badData (.shortLength length))

/-- The parts one after another; the first failure wins. -/
def concat (parts : List Written) : Written :=
  go [] parts
where
  /-- `done` holds the bytes so far, last byte first. -/
  go (done : Bytes) : List Written → Written
  | [] => .ok done.reverse
  | .ok front :: parts => go (front.reverseAux done) parts
  | .error e :: _ => .error e

theorem concat_go (done : Bytes) (parts : List Written) :
    concat.go done parts = (done.reverse ++ ·) <$> concat.go [] parts := by
  induction parts generalizing done with
  | nil => simp [concat.go, Functor.map, Except.map]
  | cons part parts ih =>
      cases part with
      | error e => rfl
      | ok front =>
          simp only [concat.go]
          rw [ih, ih (front.reverseAux [])]
          cases concat.go [] parts <;> simp [Functor.map, Except.map, List.reverseAux_eq]

@[simp]
theorem concat_nil : concat [] = .ok [] := rfl

theorem concat_cons (part : Written) (parts : List Written) :
    concat (part :: parts) = part.bind fun front => (front ++ ·) <$> concat parts := by
  cases part with
  | error e => rfl
  | ok front =>
      simp only [concat, concat.go]
      rw [concat_go]
      simp [Except.bind, List.reverseAux_eq]

/-- Bytes with a length of four bytes. -/
def bytes (value : Bytes) : Written :=
  (· ++ value) <$> intLength value.length

/-- Bytes with a length of four bytes; null is the length -1. -/
def bytesOpt : Option Bytes → Written
  | some value => bytes value
  | none => .ok (int (-1))

/-- Bytes with a length of two bytes. -/
def shortBytes (value : Bytes) : Written :=
  (· ++ value) <$> shortLength value.length

/-- A text with a length of two bytes. -/
def string (text : String) : Written :=
  shortBytes (Bytes.ofString text)

/-- A text with a length of four bytes. -/
def longString (text : String) : Written :=
  bytes (Bytes.ofString text)

/-- A count of two bytes, then the values. -/
def counted {α : Type} (write : α → Written) (values : List α) : Written :=
  concat (shortLength values.length :: values.map write)

/-- A list of texts. -/
def stringList (texts : List String) : Written :=
  counted string texts

/-- Pairs of texts. -/
def stringPairs (pairs : List (String × String)) : Written :=
  counted (fun pair => concat [string pair.1, string pair.2]) pairs

/-- Texts with lists of texts. -/
def stringListPairs (pairs : List (String × List String)) : Written :=
  counted (fun pair => concat [string pair.1, stringList pair.2]) pairs

/-- An identifier of sixteen bytes. -/
def uuid (id : Uuid) : Bytes := id.octets.val

/-- A consistency level. -/
def consistency (level : Consistency) : Bytes := short level.code

/-- A serial consistency level. -/
def serialConsistency (level : SerialConsistency) : Bytes := consistency level.toConsistency

/-- An address: its size in bytes, the bytes and the port as four bytes. -/
def inet (endpoint : Endpoint) : Bytes :=
  let address := endpoint.ip.toBytes
  byte (UInt8.ofNat address.length) ++ address ++ Bytes.ofNat 4 endpoint.port.toNat

end Write

end CqlClient
