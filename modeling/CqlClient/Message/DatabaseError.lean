import CqlClient.Wire.Writer

namespace CqlClient

/-- What kind of write timed out. -/
inductive WriteType
  | simple
  | batch
  | unloggedBatch
  | counter
  | batchLog
  | cas
  | other (name : String)
  deriving DecidableEq, Repr

namespace WriteType

/-- Name on the wire. -/
def name : WriteType → String
  | .simple => "SIMPLE"
  | .batch => "BATCH"
  | .unloggedBatch => "UNLOGGED_BATCH"
  | .counter => "COUNTER"
  | .batchLog => "BATCH_LOG"
  | .cas => "CAS"
  | .other name => name

/-- The kind with a given name; a name without meaning is kept. -/
def ofName : String → WriteType
  | "SIMPLE" => .simple
  | "BATCH" => .batch
  | "UNLOGGED_BATCH" => .unloggedBatch
  | "COUNTER" => .counter
  | "BATCH_LOG" => .batchLog
  | "CAS" => .cas
  | name => .other name

/-- Whether the name has a meaning. -/
def isKnown : WriteType → Bool
  | .other _ => false
  | _ => true

/-- The kind as error messages name it. -/
def text : WriteType → String
  | .simple => "Simple"
  | .batch => "Batch"
  | .unloggedBatch => "UnloggedBatch"
  | .counter => "Counter"
  | .batchLog => "BatchLog"
  | .cas => "Cas"
  | .other name => "Other(" ++ Text.quoted name ++ ")"

end WriteType

/-- What went wrong at the node, as an ERROR response tells it. -/
inductive DatabaseError
  | serverError
  | protocolError
  | authenticationError
  | unavailable (consistency : Consistency) (required alive : Int32)
  | overloaded
  | isBootstrapping
  | truncateError
  | writeTimeout (consistency : Consistency) (received required : Int32) (writeType : WriteType)
  | readTimeout (consistency : Consistency) (received required : Int32) (dataPresent : Bool)
  | syntaxError
  | unauthorized
  | invalid
  | configError
  | alreadyExists (keyspace table : String)
  | unprepared (id : Bytes)
  | other (code : Int32)
  deriving DecidableEq

namespace DatabaseError

/-- Number of the error on the wire. -/
def code : DatabaseError → Int32
  | .serverError => 0x0000
  | .protocolError => 0x000A
  | .authenticationError => 0x0100
  | .unavailable .. => 0x1000
  | .overloaded => 0x1001
  | .isBootstrapping => 0x1002
  | .truncateError => 0x1003
  | .writeTimeout .. => 0x1100
  | .readTimeout .. => 0x1200
  | .syntaxError => 0x2000
  | .unauthorized => 0x2100
  | .invalid => 0x2200
  | .configError => 0x2300
  | .alreadyExists .. => 0x2400
  | .unprepared _ => 0x2500
  | .other code => code

/-- A code in hexadecimal, with at least four digits. -/
def codeText (code : Int32) : String :=
  "0x" ++ Text.paddedHex 4 code.toUInt32.toNat

/-- Wording of the error. -/
def message : DatabaseError → String
  | .serverError => "Server error"
  | .protocolError => "Protocol error"
  | .authenticationError => "Bad credentials"
  | .unavailable consistency required alive =>
      "Cannot achieve consistency " ++ consistency.name ++ ": " ++ toString alive.toInt ++
        " replicas alive, " ++ toString required.toInt ++ " required"
  | .overloaded => "Coordinator is overloaded"
  | .isBootstrapping => "Coordinator is bootstrapping"
  | .truncateError => "Truncate failed"
  | .writeTimeout consistency received required writeType =>
      "Write timed out at consistency " ++ consistency.name ++ ": " ++ toString received.toInt ++
        " of " ++ toString required.toInt ++ " acknowledgements, write type " ++ writeType.text
  | .readTimeout consistency received required dataPresent =>
      "Read timed out at consistency " ++ consistency.name ++ ": " ++ toString received.toInt ++
        " of " ++ toString required.toInt ++ " responses, data present: " ++ toString dataPresent
  | .syntaxError => "Syntax error in CQL statement"
  | .unauthorized => "Unauthorized"
  | .invalid => "Invalid statement"
  | .configError => "Configuration error"
  | .alreadyExists keyspace table =>
      "Already exists: keyspace " ++ Text.quoted keyspace ++ ", table " ++ Text.quoted table
  | .unprepared id => "Unknown prepared statement id " ++ Text.quotedBytes id
  | .other code => "Unknown error code " ++ codeText code

/-- The fields that follow the reason on the wire. -/
def writeFields : DatabaseError → Written
  | .unavailable consistency required alive =>
      .ok (Write.consistency consistency ++ Write.int required ++ Write.int alive)
  | .writeTimeout consistency received required writeType =>
      Write.concat [
        .ok (Write.consistency consistency ++ Write.int received ++ Write.int required),
        Write.string writeType.name]
  | .readTimeout consistency received required dataPresent =>
      .ok (Write.consistency consistency ++ Write.int received ++ Write.int required ++
        Write.byte (if dataPresent then 1 else 0))
  | .alreadyExists keyspace table => Write.concat [Write.string keyspace, Write.string table]
  | .unprepared id => Write.shortBytes id
  | _ => .ok []

/-- Read the fields that follow the reason in an error with a given number. -/
def readFields (code : Int32) : Reader DatabaseError :=
  match code.toInt with
  | 0x0000 => return .serverError
  | 0x000A => return .protocolError
  | 0x0100 => return .authenticationError
  | 0x1000 => do
      let consistency ← Reader.consistency
      let required ← Reader.int
      return .unavailable consistency required (← Reader.int)
  | 0x1001 => return .overloaded
  | 0x1002 => return .isBootstrapping
  | 0x1003 => return .truncateError
  | 0x1100 => do
      let consistency ← Reader.consistency
      let received ← Reader.int
      let required ← Reader.int
      return .writeTimeout consistency received required (WriteType.ofName (← Reader.string))
  | 0x1200 => do
      let consistency ← Reader.consistency
      let received ← Reader.int
      let required ← Reader.int
      return .readTimeout consistency received required ((← Reader.byte) ≠ 0)
  | 0x2000 => return .syntaxError
  | 0x2100 => return .unauthorized
  | 0x2200 => return .invalid
  | 0x2300 => return .configError
  | 0x2400 => do
      let keyspace ← Reader.string
      return .alreadyExists keyspace (← Reader.string)
  | 0x2500 => .unprepared <$> Reader.shortBytes
  | _ => return .other code

end DatabaseError

/-- An error of a node with the reason that it gives. -/
structure ErrorReport where
  error : DatabaseError
  reason : String
  deriving DecidableEq

namespace ErrorReport

/-- The wire form: code, reason, and the fields of the error. -/
def write (report : ErrorReport) : Written :=
  Write.concat [
    .ok (Write.int report.error.code), Write.string report.reason, report.error.writeFields]

/-- Read the wire form. -/
def read : Reader ErrorReport := do
  let code ← Reader.int
  let reason ← Reader.string
  return ⟨← DatabaseError.readFields code, reason⟩

end ErrorReport

end CqlClient
