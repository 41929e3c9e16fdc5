import CqlClient.Consistency
import CqlClient.Text.Quoted
import CqlClient.Text.Utf8

namespace CqlClient

/-- Kinds of input/output failures. -/
inductive IoErrorKind
  | connectionRefused
  | connectionReset
  | brokenPipe
  | timedOut
  | unexpectedEof
  | networkUnreachable
  | other
  deriving DecidableEq, Repr

/-- Wording of a kind that comes without a text. -/
def IoErrorKind.message : IoErrorKind → String
  | .connectionRefused => "connection refused"
  | .connectionReset => "connection reset"
  | .brokenPipe => "broken pipe"
  | .timedOut => "timed out"
  | .unexpectedEof => "unexpected end of file"
  | .networkUnreachable => "network unreachable"
  | .other => "other error"

/-- An input/output failure, with the text of whoever reported it. -/
structure IoError where
  kind : IoErrorKind
  text : Option String := none
  deriving DecidableEq, Repr

/-- Wording of an input/output failure. -/
def IoError.message (error : IoError) : String :=
  error.text.getD error.kind.message

/-- Why a value does not fit the wire format. -/
inductive WriteFault
  | intLength (length : Nat)
  | shortLength (length : Nat)
  | tooManyValues (count : Nat)
  | described (text : String)
  deriving DecidableEq, Repr

/-- Wording of a write fault. -/
def WriteFault.message : WriteFault → String
  | .intLength length => "length " ++ toString length ++ " does not fit in [int]"
  | .shortLength length => "length " ++ toString length ++ " does not fit in [short]"
  | .tooManyValues count => "Too many values: " ++ toString count
  | .described text => text

/-- Why incoming bytes are not a message. -/
inductive ReadFault
  | notEnoughBytes (expected received : Nat)
  | negativeLength
  | utf8 (fault : Utf8.Fault)
  | inetLength (length : UInt8)
  | eventType (name : String)
  | topologyChange (name : String)
  | statusChange (name : String)
  | resultKind (kind : Int32)
  | missingQueryFlags
  | queryFlags (unknown : UInt8)
  | regularConsistency (level : Consistency)
  | unsupportedRequest (name : String)
  | described (text : String)
  deriving DecidableEq, Repr

/-- Wording of a read fault. -/
def ReadFault.message : ReadFault → String
  | .notEnoughBytes expected received =>
      "Not enough bytes! expected: " ++ toString expected ++ " received: " ++ toString received
  | .negativeLength => "number too small to fit in target type"
  | .utf8 fault => fault.message
  | .inetLength length => "Invalid inet bytes length: " ++ toString length.toNat
  | .eventType name => "Invalid type event type: " ++ name
  | .topologyChange name => "Invalid type of change (" ++ name ++ ") in TopologyChangeEvent"
  | .statusChange name => "Invalid type of status change (" ++ name ++ ") in StatusChangeEvent"
  | .resultKind kind => "Unknown query result id: " ++ toString kind.toInt
  | .missingQueryFlags => "Missing query flags"
  | .queryFlags unknown =>
      "Specified flags are not recognised: " ++ Text.paddedHex 2 unknown.toNat
  | .regularConsistency level =>
      "Expected SerialConsistency, got regular Consistency " ++ level.name
  | .unsupportedRequest name => "Deserialization of " ++ name ++ " is not supported"
  | .described text => text

/-- A cell that has the wrong shape for its column type. -/
inductive CellFault
  | elementCount (count : UInt16)
  | fixedLength (expected actual : Nat)
  deriving DecidableEq, Repr

/-- Wording of a cell fault. -/
def CellFault.message : CellFault → String
  | .elementCount count =>
      "Invalid number of collection elements: " ++ toString count.toNat
  | .fixedLength expected actual =>
      "Invalid length of a fixed-size value: expected " ++ toString expected ++ ", got " ++
        toString actual

/-- A number that names no value of an enumeration. -/
structure UnknownCode where
  enumeration : String
  code : Nat
  deriving DecidableEq, Repr

/-- Wording of an unknown number. -/
def UnknownCode.message (unknown : UnknownCode) : String :=
  "No discrimant in enum `" ++ unknown.enumeration ++ "` matches the value `" ++
    toString unknown.code ++ "`"

/-- Failure to write or read the parts of a message. -/
inductive ParseError
  | badData (fault : WriteFault)
  | badIncomingData (fault : ReadFault)
  | io (error : IoError)
  | typeNotImplemented (id : UInt16)
  | cell (fault : CellFault)
  | unknownValue (unknown : UnknownCode)
  deriving DecidableEq, Repr

namespace ParseError

/-- A fixed-size number was cut short. -/
def unexpectedEnd : ParseError :=
  .io ⟨.unexpectedEof, some "failed to fill whole buffer"⟩

/-- Wording of a parse error. -/
def message : ParseError → String
  | .badData fault => "Could not serialize frame: " ++ fault.message
  | .badIncomingData fault => "Could not deserialize frame: " ++ fault.message
  | .io error => error.message
  | .typeNotImplemented id => "type not yet implemented, id: " ++ toString id.toNat
  | .cell fault => fault.message
  | .unknownValue unknown => unknown.message

end ParseError

end CqlClient
