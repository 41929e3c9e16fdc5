import CqlClient.Failure.Connection

namespace CqlClient

/-- Failure of a request that waits for its answer on a stream of a connection. -/
inductive StreamError
  | noFreeStream
  | timeout (deadline : Duration)
  | connectionFailed (error : ConnectionError)
  deriving DecidableEq

/-- Wording of a stream error. -/
def StreamError.message : StreamError → String
  | .noFreeStream => "Unable to allocate stream id: all 128 streams are in use"
  | .timeout deadline => "No response within " ++ deadline.text
  | .connectionFailed error => "Connection failed: " ++ error.message

/-- Failure of a single attempt to have a request answered by one node. -/
inductive AttemptError
  | connection (error : ConnectionError)
  | broken (reason : BrokenConnection)
  | notYetOpen
  | connectionClosed
  | noFreeStream
  | timeout (deadline : Duration)
  | database (error : DatabaseError) (reason : String)
  | unexpectedResponse (kind : String)
  | invalidMessage (text : String)
  deriving DecidableEq

namespace AttemptError

/-- Name of the error; a nested error is named too, and a database error with its code. -/
def kind : AttemptError → String
  | .connection error => "ConnectionError." ++ error.kind
  | .broken reason => "BrokenConnection." ++ reason.kind
  | .notYetOpen => "NotYetOpen"
  | .connectionClosed => "ConnectionClosed"
  | .noFreeStream => "UnableToAllocStreamId"
  | .timeout _ => "RequestTimeout"
  | .database error _ => "DbError." ++ DatabaseError.codeText error.code
  | .unexpectedResponse _ => "UnexpectedResponse"
  | .invalidMessage _ => "InvalidMessage"

/-- Wording of the error. -/
def message : AttemptError → String
  | .connection error => "Failed to open connection: " ++ error.message
  | .broken reason => reason.message
  | .notYetOpen => "Connection is not yet open"
  | .connectionClosed => "Connection is closed"
  | .noFreeStream => "Unable to allocate stream id"
  | .timeout deadline => "Request timed out after " ++ deadline.text
  | .database error reason =>
      "Database returned an error: " ++ error.message ++ ", Error message: " ++ reason
  | .unexpectedResponse kind => "Received unexpected response from the server: " ++ kind
  | .invalidMessage text => "Invalid message: " ++ text

/-- An answer whose frame could not be opened. -/
def ofFrameError (error : FrameError) : AttemptError :=
  .invalidMessage ("Frame error: " ++ error.message)

/-- An answer that could not be read. -/
def ofParseError (error : ParseError) : AttemptError :=
  .invalidMessage ("Error parsing message: " ++ error.message)

/-- An ERROR response. -/
def ofReport (report : ErrorReport) : AttemptError :=
  .database report.error report.reason

/-- The failure of a request by that of its stream. -/
def ofStreamError : StreamError → AttemptError
  | .noFreeStream => .noFreeStream
  | .timeout deadline => .timeout deadline
  | .connectionFailed (.broken reason) => .broken reason
  | .connectionFailed .closed => .connectionClosed
  | .connectionFailed error => .connection error

end AttemptError

/-- The failure to open a connection by that of a request that belongs to opening it. -/
def ConnectionError.ofAttempt : AttemptError → ConnectionError
  | .database error reason => .database error reason
  | .connection error => error
  | .broken reason => .broken reason
  | .unexpectedResponse kind => .unexpectedResponse kind
  | error => .invalidMessage error.message

/-- Failure of a whole request. -/
inductive ExecutionError
  | emptyPlan
  | lastAttempt (error : AttemptError)
  | clusterUnavailable
  | timeout (deadline : Duration)
  | badKeyspaceName (error : KeyspaceNameError)
  deriving DecidableEq

namespace ExecutionError

/-- Name of the error. -/
def kind : ExecutionError → String
  | .emptyPlan => "EmptyPlan"
  | .lastAttempt _ => "LastAttemptError"
  | .clusterUnavailable => "ClusterUnavailable"
  | .timeout _ => "RequestTimeout"
  | .badKeyspaceName _ => "BadKeyspaceName"

/-- Wording of the error. -/
def message : ExecutionError → String
  | .emptyPlan => "Empty query plan: no endpoint to send the request to"
  | .lastAttempt error => error.message
  | .clusterUnavailable =>
      "Cluster is unavailable: no node could be reached to re-register for events"
  | .timeout deadline => "Request timeout: no result after " ++ deadline.text
  | .badKeyspaceName error => error.message

end ExecutionError

end CqlClient
