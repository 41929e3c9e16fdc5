import CqlClient.Failure.Attempt

namespace CqlClient

/-- The frame of a response, with a body that was not read yet. -/
structure Reply where
  params : Frame.Params
  opcode : ResponseOpcode
  body : Bytes
  deriving DecidableEq

/-- A response other than an ERROR, with the identifier of its trace. -/
structure Answer where
  response : Response
  traceId : Option Uuid := none
  deriving DecidableEq

namespace Reply

/-- Read the body. An ERROR response is a failure of the request. -/
def answer (reply : Reply) (compression : Option Compression) : Except AttemptError Answer :=
  match Frame.openBody reply.params.flags compression reply.body with
  | .error e => .error (.ofFrameError e)
  | .ok (traceId, body) =>
      match Response.read reply.opcode body with
      | .error e => .error (.ofParseError e)
      | .ok (.error report, _) => .error (.ofReport report)
      | .ok (response, _) => .ok ⟨response, traceId⟩

end Reply

/-- What a frame from a node means to a connection. -/
inductive Incoming
  | answer (stream : Int8) (reply : Reply)
  | event (change : Event)
  | ignored

namespace Incoming

/-- The meaning of a frame. Events come on stream -1, where nothing else may come; they are of no
interest to a connection that does not listen. Other negative streams are not used. -/
def ofReply (listens : Bool) (compression : Option Compression) (reply : Reply) :
    Except BrokenConnection Incoming :=
  let stream := reply.params.stream
  if stream < -1 then .ok .ignored
  else if stream = -1 then
    if listens then
      match reply.answer compression with
      | .ok ⟨.event change, _⟩ => .ok (.event change)
      | .ok ⟨response, _⟩ =>
          .error (.event ("unexpected " ++ response.kindName ++ " on the event stream"))
      | .error e => .error (.event e.message)
    else .ok .ignored
  else .ok (.answer stream reply)

/-- Whether reading a frame failed only because the rest of it is still to come. -/
def isCutShort : FrameError → Bool
  | .io ⟨.unexpectedEof, _⟩ => true
  | .connectionClosed _ _ => true
  | _ => false

/-- What arrived on a connection: the frames that are complete, and the bytes after them or why
nothing more is read. -/
structure Received where
  frames : List Incoming
  rest : Except BrokenConnection Bytes

/-- Read all complete frames at the front of what arrived. -/
def readAll (listens : Bool) (compression : Option Compression) (bytes : Bytes) : Received :=
  match _h : Frame.splitResponse bytes with
  | .error e => ⟨[], if isCutShort e then .ok bytes else .error (.ofFrameError e)⟩
  | .ok ((params, opcode, body), rest) =>
      match ofReply listens compression ⟨params, opcode, body⟩ with
      | .error broken => ⟨[], .error broken⟩
      | .ok frame =>
          let more := readAll listens compression rest
          ⟨frame :: more.frames, more.rest⟩
termination_by bytes.length
decreasing_by exact Frame.length_of_splitResponse (by assumption)

end Incoming

end CqlClient
