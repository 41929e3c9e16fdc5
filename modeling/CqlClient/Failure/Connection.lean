import CqlClient.Frame
import CqlClient.KeyspaceName
import CqlClient.Text.Duration

namespace CqlClient

/-- Why an open connection stopped working. -/
inductive BrokenConnection
  | frameRead (error : FrameError)
  | write (error : IoError)
  | event (text : String)
  | routerGone
  | closedByPeer
  deriving DecidableEq, Repr

namespace BrokenConnection

/-- Name of the reason. -/
def kind : BrokenConnection → String
  | .frameRead _ => "FrameReadError"
  | .write _ => "WriteError"
  | .event _ => "CqlEventHandlingError"
  | .routerGone => "ChannelError"
  | .closedByPeer => "ClosedByPeer"

/-- Wording of the reason. -/
def reason : BrokenConnection → String
  | .frameRead error => "Failed to read a frame: " ++ error.message
  | .write error => "Failed to write a request: " ++ error.message
  | .event text => "Failed to handle server event: " ++ text
  | .routerGone => "The connection router is gone"
  | .closedByPeer => "Connection closed by the node"

/-- Wording of the failure. -/
def message (broken : BrokenConnection) : String :=
  "Connection broken, reason: " ++ broken.reason

/-- Why a stream of frames ended: when it is cut short, the node closed the connection. -/
def ofFrameError : FrameError → BrokenConnection
  | .io ⟨.unexpectedEof, _⟩ => .closedByPeer
  | .connectionClosed _ _ => .closedByPeer
  | error => .frameRead error

end BrokenConnection

/-- Failure to open a connection, or of an open one. -/
inductive ConnectionError
  | io (error : IoError)
  | connectTimeout (limit : Duration)
  | setupTimeout (limit : Duration)
  | database (error : DatabaseError) (reason : String)
  | missingAuthentication (authenticator : String)
  | authenticationFailed (text : String)
  | compressionNotSupported (compression : Compression)
  | unexpectedResponse (kind : String)
  | invalidMessage (text : String)
  | badKeyspaceName (error : KeyspaceNameError)
  | broken (reason : BrokenConnection)
  | closed
  deriving DecidableEq

namespace ConnectionError

/-- Name of the error; a broken connection is named with its reason. -/
def kind : ConnectionError → String
  | .io _ => "IoError"
  | .connectTimeout _ => "ConnectTimeout"
  | .setupTimeout _ => "SetupTimeout"
  | .database _ _ => "DbError"
  | .missingAuthentication _ => "MissingAuthentication"
  | .authenticationFailed _ => "AuthenticationFailed"
  | .compressionNotSupported _ => "CompressionNotSupported"
  | .unexpectedResponse _ => "UnexpectedResponse"
  | .invalidMessage _ => "InvalidMessage"
  | .badKeyspaceName _ => "BadKeyspaceName"
  | .broken reason => "BrokenConnection." ++ reason.kind
  | .closed => "Closed"

/-- Wording of the error. -/
def message : ConnectionError → String
  | .io error => "IO Error: " ++ error.message
  | .connectTimeout limit => "Connect timeout elapsed after " ++ limit.text
  | .setupTimeout limit => "Connection setup did not finish within " ++ limit.text
  | .database error reason =>
      "Database returned an error: " ++ error.message ++ ", Error message: " ++ reason
  | .missingAuthentication authenticator =>
      "Server requested authentication with " ++ authenticator ++
        ", but no authenticator was configured"
  | .authenticationFailed text => "Authentication failed: " ++ text
  | .compressionNotSupported compression =>
      "Compression " ++ compression.name ++ " is not supported by the node"
  | .unexpectedResponse kind => "Unexpected response during connection setup: " ++ kind
  | .invalidMessage text => "Invalid message: " ++ text
  | .badKeyspaceName error => error.message
  | .broken reason => reason.message
  | .closed => "Connection was closed"

/-- An answer whose frame could not be opened. -/
def ofFrameError (error : FrameError) : ConnectionError :=
  .invalidMessage ("Frame error: " ++ error.message)

/-- An answer that could not be read. -/
def ofParseError (error : ParseError) : ConnectionError :=
  .invalidMessage ("Error parsing message: " ++ error.message)

/-- An ERROR response. -/
def ofReport (report : ErrorReport) : ConnectionError :=
  .database report.error report.reason

end ConnectionError

end CqlClient
