import CqlClient.Address
import CqlClient.Consistency
import CqlClient.Json.Access
import CqlClient.Text.Numeral
import CqlClient.Uuid

/-!
JSON forms of values, for tools that show what a client knows and sends, and that describe such
values. Bytes are written in hexadecimal; long bytes and texts are abridged to their size and a
checksum. In a description, texts and bytes may also be given as repetitions, and bytes piece by
piece.
-/

namespace CqlClient

namespace Bytes

/-- The most bytes that are written out. -/
def shownSize : Nat := 1024

/-- FNV-1a with 64 bits. -/
def checksum (bytes : Bytes) : UInt64 :=
  bytes.foldl (fun hash b => (hash ^^^ b.toUInt64) * 0x100000001b3) 0xcbf29ce484222325

/-- Size and checksum of bytes. -/
def abridged (bytes : Bytes) : Json :=
  .object [
    ("len", .ofNat bytes.length),
    ("fnv", .string (toHex (ofNat 8 (checksum bytes).toNat)))]

/-- The JSON form of bytes. -/
def toJson (bytes : Bytes) : Json :=
  if (bytes.drop shownSize).isEmpty then .string (toHex bytes) else abridged bytes

/-- The bytes with given hexadecimal digits, two a byte. -/
def ofHex (digits : String) : Decoded Bytes :=
  go [] digits.toList
where
  go (done : Bytes) : List Char → Decoded Bytes
  | [] => .ok done.reverse
  | high :: low :: rest =>
      match Numeral.hexDigit? high, Numeral.hexDigit? low with
      | some high, some low => go (UInt8.ofNat (high * 16 + low) :: done) rest
      | _, _ => .error "hexadecimal digits expected"
  | [_] => .error "an even number of digits expected"

/-- Bytes by their digits, as a repetition, or piece by piece. -/
def ofJson : Json → Decoded Bytes
  | .string digits => ofHex digits
  | .object members => do
      let unit ← ofJson ((Json.object members).get "rep")
      let count ← ((Json.object members).get "n").toNat
      return (List.replicate count unit).flatten
  | .array items => do
      let pieces ← items.attach.mapM fun ⟨item, _⟩ => ofJson item
      return pieces.flatten
  | _ => .error "bytes expected"
termination_by json => json
decreasing_by
  · exact Json.sizeOf_get_lt members "rep"
  · next h => exact Json.sizeOf_item_lt h

end Bytes

namespace Json

/-- The JSON form of a text. -/
def ofText (text : String) : Json :=
  if text.utf8ByteSize ≤ Bytes.shownSize then .string text
  else Bytes.abridged (Bytes.ofString text)

/-- A text as it is, or as a repetition. -/
def toText : Json → Decoded String
  | .string text => .ok text
  | .object members => do
      let unit ← toText ((Json.object members).get "rep")
      let count ← ((Json.object members).get "n").toNat
      return String.join (List.replicate count unit)
  | _ => .error "text expected"
termination_by json => json
decreasing_by exact sizeOf_get_lt members "rep"

/-- A failure by its kind and its wording. -/
def failure (kind message : String) : Json :=
  .object [("error", kind), ("message", message)]

/-- A value, or the failure in its place. -/
def ofExcept {ε α : Type} (onError : ε → Json) (onValue : α → Json) : Except ε α → Json
  | .ok value => onValue value
  | .error e => onError e

/-- A value of a kind, with the fields that go with it. -/
def ofKind (kind : String) (fields : List (String × Json)) : Json :=
  .object (("kind", kind) :: fields)

/-- A 32-bit number. -/
def ofInt32 (value : Int32) : Json := ofInt value.toInt

/-- A 32-bit number. -/
def toInt32 (json : Json) : Decoded Int32 := Int32.ofInt <$> json.toInt

/-- A 16-bit number. -/
def toUInt16 (json : Json) : Decoded UInt16 := UInt16.ofNat <$> json.toNat

/-- A number as a decimal text. -/
def ofDecimal (value : Int) : Json := .string (toString value)

end Json

namespace IpAddress

/-- The JSON form of an address. -/
def toJson (ip : IpAddress) : Json := .string ip.text

/-- An address by its text. -/
def ofJson (json : Json) : Decoded IpAddress := do
  match ofText? (← json.toStr) with
  | some ip => return ip
  | none => throw "address expected"

end IpAddress

/-- The JSON form of an identifier. -/
def Uuid.toJson (id : Uuid) : Json := .string id.text

/-- An identifier by its text. -/
def Uuid.ofJson (json : Json) : Decoded Uuid := do
  let digits := (← json.toStr).toList.filter (· ≠ '-')
  let bytes ← Bytes.ofHex (String.ofList digits)
  if h : bytes.length = 16 then return ⟨⟨bytes, h⟩⟩ else throw "identifier expected"

namespace Endpoint

/-- The fields of an endpoint. -/
def fields (endpoint : Endpoint) : List (String × Json) :=
  [("ip", endpoint.ip.toJson), ("port", .ofNat endpoint.port.toNat)]

/-- An endpoint by its fields. -/
def ofJson (json : Json) : Decoded Endpoint := do
  return ⟨← IpAddress.ofJson (json.get "ip"), ← (json.get "port").toUInt16⟩

end Endpoint

namespace Consistency

/-- All levels. -/
def levels : List Consistency :=
  [.any, .one, .two, .three, .quorum, .all, .localQuorum, .eachQuorum, .serial, .localSerial,
    .localOne]

/-- The JSON form of a level. -/
def toJson (level : Consistency) : Json := .string level.name

/-- A level by its name. -/
def ofJson (json : Json) : Decoded Consistency := do
  let name ← json.toStr
  match levels.find? fun level => level.name = name with
  | some level => return level
  | none => throw "consistency expected"

end Consistency

namespace SerialConsistency

/-- The JSON form of a level. -/
def toJson (level : SerialConsistency) : Json := level.toConsistency.toJson

/-- A level by its name. -/
def ofJson (json : Json) : Decoded SerialConsistency := do
  match ofConsistency? (← Consistency.ofJson json) with
  | some level => return level
  | none => throw "serial consistency expected"

end SerialConsistency

end CqlClient
