import CqlClient.Config
import CqlClient.Connection.Reply
import CqlClient.Statement.Query

/-!
What a client says to a node before a connection can carry requests: OPTIONS, STARTUP, answers to
an authenticator, and USE. Each answer of the node decides the next step.
-/

namespace CqlClient

/-- Progress of a connection; it never goes back. -/
inductive ConnectionPhase
  | created
  | connecting
  | startupSent
  | authenticating
  | opened
  | closed
  deriving DecidableEq, Repr

/-- Place of a phase in the order of all phases. -/
def ConnectionPhase.rank : ConnectionPhase → Nat
  | .created => 0
  | .connecting => 1
  | .startupSent => 2
  | .authenticating => 3
  | .opened => 4
  | .closed => 5

namespace Handshake

/-- What the node is expected to answer. -/
inductive Awaited
  | supported
  | ready
  | authentication (session : AuthSession)
  | keyspace (name : KeyspaceName)

/-- What the client does next. -/
inductive Step
  /-- Enter a phase first; a connection that was closed meanwhile cannot. -/
  | enter (phase : ConnectionPhase) (next : Step)
  | send (request : Request) (awaited : Awaited)
  | finish
  | fail (error : ConnectionError)

/-- The first step. -/
def start : Step := .send .options .supported

/-- What STARTUP announces. -/
def startupSettings (config : ConnectionConfig) : Assoc String String :=
  let settings := Assoc.empty.insert Request.cqlVersionKey config.cqlVersion
  match config.compression with
  | some algorithm => settings.insert Request.compressionKey algorithm.name
  | none => settings

/-- The statement that switches to a keyspace, as a request. -/
def useRequest (name : KeyspaceName) : Request :=
  Query.request { contents := name.useStatement }

/-- The step once the node knows the client. -/
def accepted (config : ConnectionConfig) : Step :=
  match config.keyspace with
  | some name => .send (useRequest name) (.keyspace name)
  | none => .finish

/-- The step for what an authenticator says. -/
def ofAuthentication : Except String (Option Bytes × AuthSession) → Step
  | .ok (token, session) => .send (.authResponse token) (.authentication session)
  | .error text => .fail (.authenticationFailed text)

/-- The step when the node asks who the client is. -/
def authenticate (config : ConnectionConfig) (announced : String) : Step :=
  match config.authenticator with
  | some authenticator => ofAuthentication (AuthSession.start authenticator announced)
  | none => .fail (.missingAuthentication announced)

/-- Whether the node switched to the keyspace that was asked for. -/
def switched (name : KeyspaceName) (answer : String) : Except AttemptError Unit :=
  if name.isNamedBy answer then .ok ()
  else .error (.invalidMessage
    ("Switched to keyspace " ++ answer ++ " instead of " ++ name.text))

/-- The step after an answer. -/
def received (config : ConnectionConfig) : Awaited → Except AttemptError Response → Step
  | _, .error e => .fail (.ofAttempt e)
  | .supported, .ok (.supported offers) =>
      let next := .enter .startupSent (.send (.startup (startupSettings config)) .ready)
      match config.compression with
      | some algorithm =>
          if Response.listsCompression offers algorithm.name then next
          else .fail (.compressionNotSupported algorithm)
      | none => next
  | .ready, .ok .ready => accepted config
  | .ready, .ok (.authenticate announced) =>
      .enter .authenticating (authenticate config announced)
  | .authentication session, .ok (.authChallenge token) =>
      ofAuthentication (session.answer token)
  | .authentication session, .ok (.authSuccess token) =>
      match session.finish token with
      | .ok () => accepted config
      | .error text => .fail (.authenticationFailed text)
  | .keyspace name, .ok (.result (.setKeyspace answer)) =>
      match switched name answer with
      | .ok () => .finish
      | .error e => .fail (.ofAttempt e)
  | _, .ok response => .fail (.unexpectedResponse response.kindName)

/-- Compression of the request whose answer is awaited: none before the node has answered
STARTUP. -/
def compressionOf (config : ConnectionConfig) : Awaited → Option Compression
  | .supported => none
  | .ready => none
  | _ => config.compression

/-- A request that was put on the wire, with the compression of its body. -/
structure Sent where
  request : Request
  compression : Option Compression
  deriving DecidableEq

/-- How far a handshake came. -/
inductive Outcome
  | waiting (awaited : Awaited)
  | opened
  | failed (error : ConnectionError)

/-- Do what a step says on a connection that nobody else uses. A request that does not fit the wire
format is not sent. -/
def perform (config : ConnectionConfig) : Step → Option Sent × Outcome
  | .enter _ next => perform config next
  | .send request awaited =>
      let compression := compressionOf config awaited
      match Frame.ofRequest request compression false 0 with
      | .ok _ => (some ⟨request, compression⟩, .waiting awaited)
      | .error e => (none, .failed (.ofAttempt (.ofFrameError e)))
  | .finish => (none, .opened)
  | .fail e => (none, .failed e)

/-- Go on with answers one after another. Answers that come after the end are not read. -/
def resume (config : ConnectionConfig) : Outcome → List (Except AttemptError Response) →
    List Sent × Outcome
  | .waiting awaited, answer :: answers =>
      let (sent, outcome) := perform config (received config awaited answer)
      let (more, outcome) := resume config outcome answers
      (sent.toList ++ more, outcome)
  | outcome, _ => ([], outcome)

/-- The requests that a handshake sends when it gets given answers, and how far it comes. -/
def run (config : ConnectionConfig) (answers : List (Except AttemptError Response)) :
    List Sent × Outcome :=
  let (sent, outcome) := perform config start
  let (more, outcome) := resume config outcome answers
  (sent.toList ++ more, outcome)

end Handshake

end CqlClient
