import CqlClient.Cell.Reader
import CqlClient.Failure.Discovery
import CqlClient.JsonForm.Message
import CqlClient.JsonForm.Ring

/-!
JSON forms of failures: their kind and their wording, with what a caller may want to look into.
Descriptions give the kind and the fields of a failure.
-/

namespace CqlClient

/-- A span of time by its milliseconds or microseconds. -/
def Duration.ofJson (json : Json) : Decoded Duration := do
  if json.has "us" then return .ofMicroseconds (← (json.get "us").toNat)
  else return .ofMilliseconds (← (json.get "ms").toNat)

/-- An input/output failure by its kind and its text. -/
def IoError.ofJson (json : Json) : Decoded IoError := do
  let kind ← match ← (json.get "io").toStr with
    | "ConnectionRefused" => pure IoErrorKind.connectionRefused
    | "ConnectionReset" => pure .connectionReset
    | "BrokenPipe" => pure .brokenPipe
    | "TimedOut" => pure .timedOut
    | "UnexpectedEof" => pure .unexpectedEof
    | "NetworkUnreachable" => pure .networkUnreachable
    | _ => pure .other
  return ⟨kind, ← (json.get "text").toOption Json.toText⟩

namespace ParseError

/-- Name of the error. -/
def kind : ParseError → String
  | .badData _ => "BadData"
  | .badIncomingData _ => "BadIncomingData"
  | .io _ => "IoError"
  | .typeNotImplemented _ => "TypeNotImplemented"
  | .cell _ => "CqlTypeError"
  | .unknownValue _ => "UnknownValue"

/-- The JSON form of an error. -/
def toJson (error : ParseError) : Json := .failure error.kind error.message

/-- An error by its fields. -/
def ofJson (json : Json) : Decoded ParseError := do
  let text := (json.get "text").toText
  let number (name : String) : Decoded Nat := (json.get name).toNat
  match ← (json.get "kind").toStr with
  | "BadData" => return .badData (.described (← text))
  | "BadIncomingData" => return .badIncomingData (.described (← text))
  | "TypeNotImplemented" => return .typeNotImplemented (UInt16.ofNat (← number "id"))
  | "IoError" => .io <$> IoError.ofJson json
  | "UnknownValue" => return .unknownValue ⟨"Consistency", ← number "value"⟩
  | "CqlTypeError" => return .cell (.fixedLength (← number "expected") (← number "actual"))
  | _ => throw "parse error expected"

end ParseError

namespace FrameError

/-- Name of the error. -/
def kind : FrameError → String
  | .parse error => error.kind
  | .noCompressionNegotiated => "NoCompressionNegotiated"
  | .frameFromClient => "FrameFromClient"
  | .frameFromServer => "FrameFromServer"
  | .versionNotSupported _ => "VersionNotSupported"
  | .connectionClosed _ _ => "ConnectionClosed"
  | .frameDecompression => "FrameDecompression"
  | .frameCompression => "FrameCompression"
  | .bodyTooLarge _ => "BodyTooLarge"
  | .io _ => "StdIoError"
  | .unknownOpcode _ => "UnknownOpcode"
  | .lz4 _ => "Lz4DecompressError"

/-- The JSON form of an error. The wording of a bad block is left out. -/
def toJson : FrameError → Json
  | .lz4 fault => .object [("error", kind (.lz4 fault))]
  | error => .failure error.kind error.message

/-- An error by its fields. -/
def ofJson (json : Json) : Decoded FrameError := do
  let number (name : String) : Decoded Nat := (json.get name).toNat
  match ← (json.get "kind").toStr with
  | "NoCompressionNegotiated" => return .noCompressionNegotiated
  | "FrameFromClient" => return .frameFromClient
  | "FrameFromServer" => return .frameFromServer
  | "VersionNotSupported" => return .versionNotSupported (UInt8.ofNat (← number "version"))
  | "ConnectionClosed" => return .connectionClosed (← number "missing") (← number "length")
  | "FrameDecompression" => return .frameDecompression
  | "FrameCompression" => return .frameCompression
  | "BodyTooLarge" => return .bodyTooLarge (← number "length")
  | "StdIoError" => .io <$> IoError.ofJson json
  | "UnknownOpcode" => return .unknownOpcode ⟨"RequestOpcode", ← number "opcode"⟩
  | _ => .parse <$> ParseError.ofJson json

end FrameError

/-- The JSON form of an opcode that is not known. -/
def UnknownCode.toJson (unknown : UnknownCode) : Json := .failure "UnknownOpcode" unknown.message

/-- The JSON form of a cell error. -/
def CellError.toJson (error : CellError) : Json :=
  let kind := match error with
    | .badType => "BadCqlType"
    | .isNull => "ValIsNull"
    | _ => "BadVal"
  .failure kind error.message

/-- The JSON form of a row error. -/
def RowError.toJson (error : RowError) : Json :=
  let kind := match error with
    | .badCell _ _ => "BadCqlVal"
    | .wrongRowSize _ _ => "WrongRowSize"
    | .noSuchColumn _ => "NoSuchColumn"
  .failure kind error.message

namespace KeyspaceNameError

/-- The JSON form of an error. -/
def toJson (error : KeyspaceNameError) : Json := .failure error.kind error.message

/-- The error of a name. -/
def ofJson (json : Json) : Decoded KeyspaceNameError := do
  match keyspaceNameFault? (← (json.get "name").toText) with
  | some fault => return fault
  | none => throw "a bad name expected"

end KeyspaceNameError

/-- Why a connection broke, by the kind and its fields. -/
def BrokenConnection.ofJson (json : Json) : Decoded BrokenConnection := do
  match ← (json.get "kind").toStr with
  | "FrameReadError" => .frameRead <$> FrameError.ofJson (json.get "inner")
  | "WriteError" => .write <$> IoError.ofJson json
  | "CqlEventHandlingError" => .event <$> (json.get "text").toText
  | "ChannelError" => return .routerGone
  | "ClosedByPeer" => return .closedByPeer
  | _ => throw "broken connection expected"

namespace ConnectionError

/-- The JSON form of an error. -/
def toJson (error : ConnectionError) : Json := .failure error.kind error.message

/-- An error by its fields. -/
def ofJson (json : Json) : Decoded ConnectionError := do
  let text (name : String) : Decoded String := (json.get name).toText
  match ← (json.get "kind").toStr with
  | "IoError" => .io <$> IoError.ofJson json
  | "ConnectTimeout" => .connectTimeout <$> Duration.ofJson json
  | "SetupTimeout" => .setupTimeout <$> Duration.ofJson json
  | "DbError" =>
      let report ← ErrorReport.ofJson json
      return .database report.error report.reason
  | "MissingAuthentication" => .missingAuthentication <$> text "name"
  | "AuthenticationFailed" => .authenticationFailed <$> text "text"
  | "CompressionNotSupported" =>
      match Compression.ofName? (← text "compression") with
      | some compression => return .compressionNotSupported compression
      | none => throw "compression expected"
  | "UnexpectedResponse" => .unexpectedResponse <$> text "what"
  | "InvalidMessage" => .invalidMessage <$> text "text"
  | "BadKeyspaceName" => .badKeyspaceName <$> KeyspaceNameError.ofJson json
  | "BrokenConnection" => .broken <$> BrokenConnection.ofJson (json.get "broken")
  | "Closed" => return .closed
  | _ => throw "connection error expected"

end ConnectionError

/-- An error by its fields. -/
def StreamError.ofJson (json : Json) : Decoded StreamError := do
  match ← (json.get "kind").toStr with
  | "UnableToAllocStreamId" => return .noFreeStream
  | "Timeout" => .timeout <$> Duration.ofJson json
  | "ConnectionFailed" => .connectionFailed <$> ConnectionError.ofJson (json.get "inner")
  | _ => throw "stream error expected"

namespace AttemptError

/-- The JSON form of an error. -/
def toJson (error : AttemptError) : Json := .failure error.kind error.message

/-- An error by its fields. -/
def ofJson (json : Json) : Decoded AttemptError := do
  match ← (json.get "kind").toStr with
  | "ConnectionError" => .connection <$> ConnectionError.ofJson (json.get "inner")
  | "BrokenConnection" => .broken <$> BrokenConnection.ofJson (json.get "broken")
  | "NotYetOpen" => return .notYetOpen
  | "ConnectionClosed" => return .connectionClosed
  | "UnableToAllocStreamId" => return .noFreeStream
  | "RequestTimeout" => .timeout <$> Duration.ofJson json
  | "DbError" => .ofReport <$> ErrorReport.ofJson json
  | "UnexpectedResponse" => .unexpectedResponse <$> (json.get "what").toText
  | "InvalidMessage" => .invalidMessage <$> (json.get "text").toText
  | _ => throw "attempt error expected"

end AttemptError

namespace ExecutionError

/-- The JSON form of an error, with the kind of the last attempt's error. -/
def toJson (error : ExecutionError) : Json :=
  let attempt : List (String × Json) := match error with
    | .lastAttempt error => [("attempt", error.kind)]
    | _ => []
  .object ([("error", .string error.kind), ("message", .string error.message)] ++ attempt)

/-- An error by its fields. -/
def ofJson (json : Json) : Decoded ExecutionError := do
  match ← (json.get "kind").toStr with
  | "EmptyPlan" => return .emptyPlan
  | "ClusterUnavailable" => return .clusterUnavailable
  | "RequestTimeout" => .timeout <$> Duration.ofJson json
  | "BadKeyspaceName" => .badKeyspaceName <$> KeyspaceNameError.ofJson json
  | _ => throw "execution error expected"

end ExecutionError

/-- An error by its fields. -/
def MetadataError.ofJson (json : Json) : Decoded MetadataError := do
  let text (name : String) : Decoded String := (json.get name).toText
  match ← (json.get "kind").toStr with
  | "Query" => return .query (← text "table") (← AttemptError.ofJson (json.get "inner"))
  | "BadRow" => return .badRow (← text "table") (← text "text")
  | "MissingLocalRow" => return .missingLocalRow
  | "UnknownPartitioner" => .unknownPartitioner <$> text "name"
  | "TokenParseError" =>
      return .badToken ⟨← Partitioner.ofJson (json.get "p"), ← text "text"⟩
  | "Replication" =>
      match Strategy.ofSchema (← text "class") (← text "options") with
      | .error error => return .badStrategy (← text "name") error
      | .ok _ => throw "a bad strategy expected"
  | "Timeout" => .timeout <$> Duration.ofJson json
  | _ => throw "metadata error expected"

/-- The JSON form of an error, with the kind of the last connection's error. -/
def DiscoveryError.toJson (error : DiscoveryError) : Json :=
  let last : List (String × Json) := match error with
    | .noAvailablePeers last => [("last", last.kind)]
    | _ => []
  .object ([("error", .string error.kind), ("message", .string error.message)] ++ last)

end CqlClient
