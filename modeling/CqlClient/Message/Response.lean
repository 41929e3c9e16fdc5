import CqlClient.Assoc
import CqlClient.Message.DatabaseError
import CqlClient.Message.Request
import CqlClient.Message.Result

namespace CqlClient

/-- Kinds of responses, by their number on the wire. -/
inductive ResponseOpcode
  | error
  | ready
  | authenticate
  | supported
  | result
  | event
  | authChallenge
  | authSuccess
  deriving DecidableEq, Repr

namespace ResponseOpcode

/-- Number of the kind. -/
def code : ResponseOpcode → UInt8
  | .error => 0x00
  | .ready => 0x02
  | .authenticate => 0x03
  | .supported => 0x06
  | .result => 0x08
  | .event => 0x0C
  | .authChallenge => 0x0E
  | .authSuccess => 0x10

/-- The kind with a given number. -/
def ofCode? : UInt8 → Option ResponseOpcode
  | 0x00 => some .error
  | 0x02 => some .ready
  | 0x03 => some .authenticate
  | 0x06 => some .supported
  | 0x08 => some .result
  | 0x0C => some .event
  | 0x0E => some .authChallenge
  | 0x10 => some .authSuccess
  | _ => none

theorem ofCode?_code (opcode : ResponseOpcode) : ofCode? opcode.code = some opcode := by
  cases opcode <;> rfl

/-- The kind with a given number, or the fault of naming none. -/
def ofCode (code : UInt8) : Except UnknownCode ResponseOpcode :=
  match ofCode? code with
  | some opcode => .ok opcode
  | none => .error ⟨"ResponseOpcode", code.toNat⟩

end ResponseOpcode

/-- A message from a node to the client. -/
inductive Response
  | error (report : ErrorReport)
  | ready
  | authenticate (authenticator : String)
  | supported (options : Assoc String (List String))
  | result (outcome : QueryOutcome)
  | event (event : Event)
  | authChallenge (token : Option Bytes)
  | authSuccess (token : Option Bytes)
  deriving DecidableEq

namespace Response

/-- Kind of the response. -/
def opcode : Response → ResponseOpcode
  | .error _ => .error
  | .ready => .ready
  | .authenticate _ => .authenticate
  | .supported _ => .supported
  | .result _ => .result
  | .event _ => .event
  | .authChallenge _ => .authChallenge
  | .authSuccess _ => .authSuccess

/-- Name of the kind. -/
def kindName : Response → String
  | .error _ => "ERROR"
  | .ready => "READY"
  | .authenticate _ => "AUTHENTICATE"
  | .supported _ => "SUPPORTED"
  | .result _ => "RESULT"
  | .event _ => "EVENT"
  | .authChallenge _ => "AUTH_CHALLENGE"
  | .authSuccess _ => "AUTH_SUCCESS"

/-- Body of the response. -/
def write : Response → Written
  | .error report => report.write
  | .ready => .ok []
  | .authenticate authenticator => Write.string authenticator
  | .supported options => Write.stringListPairs options.entries
  | .result outcome => outcome.write
  | .event change => change.write
  | .authChallenge token => Write.bytesOpt token
  | .authSuccess token => Write.bytesOpt token

/-- Read the body of a response of a given kind. -/
def read : ResponseOpcode → Reader Response
  | .error => .error <$> ErrorReport.read
  | .ready => return .ready
  | .authenticate => .authenticate <$> Reader.string
  | .supported => (fun pairs => .supported (Assoc.ofList pairs)) <$> Reader.stringListPairs
  | .result => .result <$> QueryOutcome.read
  | .event => .event <$> Event.read
  | .authChallenge => .authChallenge <$> Reader.bytesOpt
  | .authSuccess => .authSuccess <$> Reader.bytesOpt

/-- Whether a SUPPORTED response lists a compression algorithm. -/
def listsCompression (options : Assoc String (List String)) (name : String) : Bool :=
  ((options.get? Request.compressionKey).getD []).contains name

end Response

end CqlClient
