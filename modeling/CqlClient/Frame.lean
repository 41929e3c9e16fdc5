import CqlClient.Compression
import CqlClient.Message.Response

namespace CqlClient

/-- Failure to send or receive a frame. -/
inductive FrameError
  | parse (error : ParseError)
  | noCompressionNegotiated
  | frameFromClient
  | frameFromServer
  | versionNotSupported (version : UInt8)
  | connectionClosed (missing length : Nat)
  | frameDecompression
  | frameCompression
  | bodyTooLarge (length : Nat)
  | io (error : IoError)
  | unknownOpcode (unknown : UnknownCode)
  | lz4 (fault : Lz4.Fault)
  deriving DecidableEq, Repr

/-- Wording of a frame error. -/
def FrameError.message : FrameError → String
  | .parse error => error.message
  | .noCompressionNegotiated =>
      "Frame is compressed, but no compression negotiated for connection."
  | .frameFromClient => "Received frame marked as coming from a client"
  | .frameFromServer => "Received frame marked as coming from the server"
  | .versionNotSupported version =>
      "Received a frame from version " ++ toString version.toNat ++ ", but only 2 is supported"
  | .connectionClosed missing length =>
      "Connection was closed before body was read: missing " ++ toString missing ++ " out of " ++
        toString length
  | .frameDecompression => "Frame decompression failed."
  | .frameCompression => "Frame compression failed."
  | .bodyTooLarge length => "Frame body too large: " ++ toString length ++ " bytes"
  | .io error => error.message
  | .unknownOpcode unknown => "Unrecognized opcode: " ++ unknown.message
  | .lz4 fault => "Error decompressing lz4 data " ++ fault.message

namespace Frame

/-- Version of the protocol. -/
def version : UInt8 := 0x02

/-- Set in the first byte of a frame from a node. -/
def responseBit : UInt8 := 0x80

/-- The body is compressed. -/
def compressionFlag : UInt8 := 0x01

/-- In a request: trace it. In a response: the body starts with a trace identifier. -/
def tracingFlag : UInt8 := 0x02

/-- Bytes before the body. -/
def headerSize : Nat := 8

/-- The largest body accepted. -/
def maxBodySize : Nat := 256 * 1024 * 1024

/-- The parts of a header that do not depend on the message. -/
structure Params where
  /-- The first byte, with the bit of the direction. -/
  version : UInt8
  flags : UInt8
  stream : Int8
  deriving DecidableEq

/-- A header before a body. -/
def assemble (params : Params) (opcode : UInt8) (body : Bytes) : Bytes :=
  params.version :: params.flags :: params.stream.toUInt8 :: opcode ::
    (Bytes.ofNat 4 body.length ++ body)

/-- The frame of a request. -/
def ofRequest (request : Request) (compression : Option Compression) (tracing : Bool)
    (stream : Int8) : Except FrameError Bytes :=
  match request.write with
  | .error e => .error (.parse e)
  | .ok body =>
      if compression.all (·.takes body) then
        let body := match compression with
          | some algorithm => algorithm.compress body
          | none => body
        let flags := (if compression.isSome then compressionFlag else 0) |||
          (if tracing then tracingFlag else 0)
        .ok (assemble ⟨version, flags, stream⟩ request.opcode.code body)
      else .error .frameCompression

/-- The frame of a response, without flags. -/
def ofResponse (response : Response) (stream : Int8) : Except ParseError Bytes :=
  (assemble ⟨version ||| responseBit, 0, stream⟩ response.opcode.code ·) <$> response.write

/-- Split a frame off the front of a stream: parameters, opcode, body, and the rest. -/
def split (bytes : Bytes) : Except FrameError ((Params × UInt8 × Bytes) × Bytes) :=
  match bytes with
  | first :: flags :: stream :: opcode :: l3 :: l2 :: l1 :: l0 :: rest =>
      if first &&& 0x7F ≠ version then .error (.versionNotSupported (first &&& 0x7F))
      else
        let length := Bytes.toNat [l3, l2, l1, l0]
        if maxBodySize < length then .error (.bodyTooLarge length)
        else
          match Bytes.splitExact? length rest with
          | some (body, rest) => .ok ((⟨first, flags, stream.toInt8⟩, opcode, body), rest)
          | none => .error (.connectionClosed (length - rest.length) length)
  | _ => .error (.io ⟨.unexpectedEof, some "early eof"⟩)

theorem length_of_split {bytes rest : Bytes} {parts : Params × UInt8 × Bytes}
    (h : split bytes = .ok (parts, rest)) : rest.length < bytes.length := by
  unfold split at h
  split at h
  · simp only at h
    split at h
    · simp at h
    · split at h
      · simp at h
      · split at h
        · next body rest' hs =>
            rw [Bytes.splitExact?_eq] at hs
            split at hs
            · simp only [Option.some.injEq, Prod.mk.injEq] at hs
              simp only [Except.ok.injEq, Prod.mk.injEq] at h
              simp only [List.length_cons, ← h.2, ← hs.2, List.length_drop]
              omega
            · simp at hs
        · simp at h
  · simp at h

/-- Split the frame of a response off the front of a stream. -/
def splitResponse (bytes : Bytes) :
    Except FrameError ((Params × ResponseOpcode × Bytes) × Bytes) := do
  let ((params, code, body), rest) ← split bytes
  if params.version &&& responseBit = 0 then throw .frameFromClient
  match ResponseOpcode.ofCode code with
  | .ok opcode => return ((params, opcode, body), rest)
  | .error unknown => throw (.unknownOpcode unknown)

theorem length_of_splitResponse {bytes rest : Bytes} {parts : Params × ResponseOpcode × Bytes}
    (h : splitResponse bytes = .ok (parts, rest)) : rest.length < bytes.length := by
  unfold splitResponse at h
  cases hs : split bytes with
  | error e => simp [hs, bind, Except.bind] at h
  | ok result =>
      obtain ⟨⟨params, code, body⟩, remaining⟩ := result
      obtain rfl : remaining = rest := by
        simp only [hs, bind, Except.bind, throw, throwThe, MonadExceptOf.throw, pure,
          Except.pure] at h
        split at h
        · simp at h
        · split at h
          · simp only [Except.ok.injEq, Prod.mk.injEq] at h
            exact h.2
          · simp at h
      exact length_of_split hs

/-- Split the frame of a request off the front of a stream. -/
def splitRequest (bytes : Bytes) :
    Except FrameError ((Params × RequestOpcode × Bytes) × Bytes) := do
  let ((params, code, body), rest) ← split bytes
  if params.version &&& responseBit ≠ 0 then throw .frameFromServer
  match RequestOpcode.ofCode code with
  | .ok opcode => return ((params, opcode, body), rest)
  | .error unknown => throw (.unknownOpcode unknown)

/-- Undo what the flags of a response announce: compression first, then the trace identifier in
front. Gives the identifier and the body proper. -/
def openBody (flags : UInt8) (compression : Option Compression) (body : Bytes) :
    Except FrameError (Option Uuid × Bytes) := do
  let body ←
    if flags &&& compressionFlag = 0 then pure body
    else
      match compression with
      | none => throw .noCompressionNegotiated
      | some algorithm =>
          match algorithm.decompress body with
          | .ok content => pure content
          | .error .malformed => throw .frameDecompression
          | .error (.lz4 fault) => throw (.lz4 fault)
  if flags &&& tracingFlag = 0 then return (none, body)
  match Reader.uuid body with
  | .ok (id, rest) => return (some id, rest)
  | .error e => throw (.parse e)

end Frame

end CqlClient
