import CqlClient.Assoc
import CqlClient.Message.EventType

namespace CqlClient

/-- What goes with the text of a query or the id of a prepared statement. -/
structure QueryParameters where
  consistency : Consistency := .quorum
  serialConsistency : Option SerialConsistency := none
  skipMetadata : Bool := false
  pageSize : Option Int32 := none
  pagingState : Option Bytes := none
  /-- Serialized values of the bind markers; `none` is null. -/
  values : List (Option Bytes) := []
  deriving DecidableEq

namespace QueryParameters

/-- Flags of the parts that are present. -/
def flags (p : QueryParameters) : UInt8 :=
  (if p.values.isEmpty then 0 else 0x01) ||| (if p.skipMetadata then 0x02 else 0) |||
    (if p.pageSize.isSome then 0x04 else 0) ||| (if p.pagingState.isSome then 0x08 else 0) |||
    (if p.serialConsistency.isSome then 0x10 else 0)

/-- Flags that have no meaning. -/
def unknownFlags (flags : UInt8) : UInt8 := flags &&& 0xE0

/-- The number of values, which must be below `2 ^ 16`. -/
def writeCount (count : Nat) : Written :=
  if count < UInt16.size then .ok (Bytes.ofNat 2 count) else .error (.badData (.tooManyValues count))

/-- The wire form: consistency, flags, and the parts that the flags announce. -/
def write (p : QueryParameters) : Written :=
  Write.concat <|
    [.ok (Write.consistency p.consistency ++ Write.byte p.flags)] ++
    (if p.values.isEmpty then []
      else writeCount p.values.length :: p.values.map Write.bytesOpt) ++
    [.ok ((p.pageSize.map Write.int).getD []),
      (p.pagingState.map Write.bytes).getD (.ok []),
      .ok ((p.serialConsistency.map Write.serialConsistency).getD [])]

/-- Run a reader if a flag is set. -/
def readIf {α : Type} (flags flag : UInt8) (reader : Reader α) : Reader (Option α) := do
  if flags &&& flag ≠ 0 then some <$> reader else return none

/-- The byte of flags. -/
def readFlags : Reader UInt8
  | [] => .error (.badIncomingData .missingQueryFlags)
  | flags :: rest =>
      if unknownFlags flags ≠ 0 then .error (.badIncomingData (.queryFlags (unknownFlags flags)))
      else .ok (flags, rest)

/-- A consistency level that must be serial. -/
def readSerial : Reader SerialConsistency := do
  let level ← Reader.consistency
  match SerialConsistency.ofConsistency? level with
  | some serialLevel => return serialLevel
  | none => Reader.refuse (.regularConsistency level)

/-- Read the wire form. -/
def read : Reader QueryParameters := do
  let consistency ← Reader.consistency
  let flags ← readFlags
  let values ← readIf flags 0x01 do
    Reader.many Reader.bytesOpt (← Reader.shortLength)
  let pageSize ← readIf flags 0x04 Reader.int
  let pagingState ← readIf flags 0x08 Reader.bytes
  let serialConsistency ← readIf flags 0x10 readSerial
  return {
    consistency, serialConsistency, pageSize, pagingState
    skipMetadata := flags &&& 0x02 ≠ 0
    values := values.getD [] }

end QueryParameters

/-- Kinds of requests, by their number on the wire. -/
inductive RequestOpcode
  | startup
  | credentials
  | options
  | query
  | prepare
  | execute
  | register
  | batch
  | authResponse
  deriving DecidableEq, Repr

namespace RequestOpcode

/-- Number of the kind. -/
def code : RequestOpcode → UInt8
  | .startup => 0x01
  | .credentials => 0x04
  | .options => 0x05
  | .query => 0x07
  | .prepare => 0x09
  | .execute => 0x0A
  | .register => 0x0B
  | .batch => 0x0D
  | .authResponse => 0x0F

/-- The kind with a given number. -/
def ofCode? : UInt8 → Option RequestOpcode
  | 0x01 => some .startup
  | 0x04 => some .credentials
  | 0x05 => some .options
  | 0x07 => some .query
  | 0x09 => some .prepare
  | 0x0A => some .execute
  | 0x0B => some .register
  | 0x0D => some .batch
  | 0x0F => some .authResponse
  | _ => none

theorem ofCode?_code (opcode : RequestOpcode) : ofCode? opcode.code = some opcode := by
  cases opcode <;> rfl

/-- The kind with a given number, or the fault of naming none. -/
def ofCode (code : UInt8) : Except UnknownCode RequestOpcode :=
  match ofCode? code with
  | some opcode => .ok opcode
  | none => .error ⟨"RequestOpcode", code.toNat⟩

end RequestOpcode

/-- A message from the client to a node. -/
inductive Request
  | startup (settings : Assoc String String)
  | options
  | query (contents : String) (parameters : QueryParameters)
  | prepare (contents : String)
  | execute (id : Bytes) (parameters : QueryParameters)
  | register (events : List EventType)
  | authResponse (token : Option Bytes)
  deriving DecidableEq

namespace Request

/-- Key of the query language version in STARTUP. -/
def cqlVersionKey : String := "CQL_VERSION"

/-- Key of the compression algorithm in STARTUP and SUPPORTED. -/
def compressionKey : String := "COMPRESSION"

/-- Query language version announced unless another one is configured. -/
def defaultCqlVersion : String := "3.1.1"

/-- Kind of the request. -/
def opcode : Request → RequestOpcode
  | .startup _ => .startup
  | .options => .options
  | .query _ _ => .query
  | .prepare _ => .prepare
  | .execute _ _ => .execute
  | .register _ => .register
  | .authResponse _ => .authResponse

/-- Body of the request. -/
def write : Request → Written
  | .startup settings => Write.stringPairs settings.entries
  | .options => .ok []
  | .query contents parameters =>
      Write.concat [Write.longString contents, parameters.write]
  | .prepare contents => Write.longString contents
  | .execute id parameters => Write.concat [Write.shortBytes id, parameters.write]
  | .register events => Write.stringList (events.map EventType.name)
  | .authResponse token => Write.bytesOpt token

/-- Read the body of a request of a given kind. -/
def read : RequestOpcode → Reader Request
  | .startup => (fun pairs => .startup (Assoc.ofList pairs)) <$> Reader.stringPairs
  | .options => return .options
  | .query => do
      let contents ← Reader.longString
      return .query contents (← QueryParameters.read)
  | .prepare => .prepare <$> Reader.longString
  | .execute => do
      let id ← Reader.shortBytes
      return .execute id (← QueryParameters.read)
  | .register => do
      let names ← Reader.stringList
      return .register (← names.mapM fun name => (EventType.ofName name : Except ParseError _))
  | .authResponse => .authResponse <$> Reader.bytesOpt
  | .credentials => Reader.refuse (.unsupportedRequest "Credentials")
  | .batch => Reader.refuse (.unsupportedRequest "Batch")

end Request

end CqlClient
