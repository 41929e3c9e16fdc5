import CqlClient.Frame
import CqlClient.Rehearsal.Script

/-!
Scripted nodes at work: the connections that they accepted, what they answer, and a record of all
requests.
-/

namespace CqlClient.Rehearsal

/-- A connection as its node sees it. -/
structure AcceptedConnection where
  id : ConnectionId
  node : Nat
  /-- Number among the connections that the node accepted. -/
  number : Nat
  /-- Compression that STARTUP asked for. -/
  compression : Option Compression := none
  /-- Events for which the client registered. -/
  registered : List EventType := []
  isOpen : Bool := true

/-- A request that a node received. -/
structure LogEntry where
  node : Nat
  connection : Nat
  flags : UInt8
  request : Request

/-- Scripted nodes at work. -/
structure Stage where
  /-- Whether there is a way from the client to the nodes. -/
  hasRoute : Bool := true
  tables : Tables := {}
  /-- Nodes that accept connections. -/
  listening : List Nat := []
  rules : List Rule := []
  connections : List AcceptedConnection := []
  /-- Requests since the record was last taken. -/
  log : List LogEntry := []

namespace Stage

/-- The open connection with a given number at the client. -/
def find? (s : Stage) (id : ConnectionId) : Option AcceptedConnection :=
  s.connections.find? fun c => c.id = id && c.isOpen

/-- Change a connection. -/
def update (s : Stage) (id : ConnectionId)
    (change : AcceptedConnection → AcceptedConnection) : Stage :=
  { s with connections := s.connections.map fun c => if c.id = id then change c else c }

/-- Accept a connection, or refuse it. -/
def dial (id : ConnectionId) (address : IpAddress) : StateM Stage Dial := fun s =>
  if !s.hasRoute then (.unreachable, s)
  else
    match s.listening.find? fun node => addressOf node = address with
    | some node =>
        let number := (s.connections.filter (·.node = node)).length
        (.accepted, { s with connections := s.connections ++ [{ id, node, number }] })
    | none => (.refused IoError.refused, s)

/-- The frame of an answer. -/
def frameOf (connection : AcceptedConnection) (stream : Int8) (response : Response)
    (traceId : Option Uuid) (compress : Bool) : Except ParseError Bytes := do
  let content ← response.write
  let body := (traceId.map (·.octets.val)).getD [] ++ content
  let body := match compress, connection.compression with
    | true, some algorithm => algorithm.compress body
    | _, _ => body
  let flags := (if compress then Frame.compressionFlag else 0) |||
    (if traceId.isSome then Frame.tracingFlag else 0)
  return Frame.assemble ⟨Frame.version ||| Frame.responseBit, flags, stream⟩
    response.opcode.code body

/-- A frame on another stream. -/
def onStream (frame : Bytes) (stream : Int8) : Bytes :=
  frame.take 2 ++ (if 2 < frame.length then [stream.toUInt8] else []) ++ frame.drop 3

/-- What a reply puts on a connection. -/
def react (connection : AcceptedConnection) (stream : Int8) : ScriptedReply → Reaction
  | .answer response noise traceId compress =>
      match frameOf connection stream response traceId compress with
      | .ok frame => { bytes := noise.flatten ++ frame }
      | .error _ => { bytes := noise.flatten, hangsUp := true }
  | .raw frame => { bytes := onStream frame stream }
  | .silence => {}
  | .hangUp => { hangsUp := true }

/-- The compression that a request asks for, if it is a STARTUP. -/
def requestedCompression : Request → Option Compression
  | .startup settings => (settings.get? Request.compressionKey).bind Compression.ofName?
  | _ => none

/-- The events that an accepted request registers for. -/
def registration : Request → ScriptedReply → List EventType
  | .register events, .answer .ready _ _ _ => events
  | _, _ => []

/-- Read a request off a frame. -/
def readRequest (connection : AcceptedConnection) (frame : Bytes) :
    Option (Frame.Params × Request) := do
  let ((params, opcode, packed), _) ← (Frame.splitRequest frame).toOption
  let body ← if params.flags &&& Frame.compressionFlag = 0 then some packed
    else connection.compression.bind fun algorithm => (algorithm.decompress packed).toOption
  let (request, _) ← (Request.read opcode body).toOption
  return (params, request)

/-- React to a request, by the rules or as usual. -/
def handle (s : Stage) (connection : AcceptedConnection) (params : Frame.Params)
    (request : Request) : Reaction × Stage :=
  let connection :=
    { connection with compression := connection.compression <|> requestedCompression request }
  let (scripted, rules) := Rule.choose connection.node request s.rules
  let reply := scripted.getD
    (.answer (s.tables.answer connection.node request) [] none false)
  let reaction := react connection params.stream reply
  let entry : LogEntry := ⟨connection.node, connection.number, params.flags, request⟩
  let next := { s with rules, log := s.log ++ [entry] }
  (reaction, next.update connection.id fun c => { c with
    compression := connection.compression
    registered := c.registered ++ registration request reply
    isOpen := !reaction.hangsUp })

/-- React to a frame. A node hangs up if it is not a request. -/
def write (id : ConnectionId) (frame : Bytes) : StateM Stage Reaction := fun s =>
  match s.find? id with
  | none => ({ hangsUp := true }, s)
  | some connection =>
      match readRequest connection frame with
      | some (params, request) => s.handle connection params request
      | none => ({ hangsUp := true }, s.update id fun c => { c with isOpen := false })

/-- The client ends a connection. -/
def hangUp (id : ConnectionId) : StateM Stage Unit := fun s =>
  ((), s.update id fun c => { c with isOpen := false })

/-- Scripted nodes as the other end of the wire. -/
def network : Network Stage where
  dial := dial
  write := write
  hangUp := hangUp

/-- Connections whose clients registered for events of some kind. -/
def listeners (s : Stage) (isWanted : List EventType → Bool) : List ConnectionId :=
  (s.connections.filter fun c => c.isOpen && isWanted c.registered).map (·.id)

/-- A node closes its connections and accepts no more. Gives the connections that it closed. -/
def stop (s : Stage) (node : Nat) : List ConnectionId × Stage :=
  let mine (c : AcceptedConnection) : Bool := c.isOpen && c.node = node
  ((s.connections.filter mine).map (·.id),
    { s with
      listening := s.listening.filter (· ≠ node)
      connections := s.connections.map fun c =>
        if mine c then { c with isOpen := false } else c })

/-- A node accepts connections. -/
def start (s : Stage) (node : Nat) : Stage :=
  if node ∈ s.listening then s else { s with listening := s.listening ++ [node] }

/-- Change what the system tables hold. -/
def changeTables (s : Stage) (change : Tables → Tables) : Stage :=
  { s with tables := change s.tables }

/-- Put a row in place of the one with its number, or at the end. -/
def setRow (s : Stage) (row : NodeRow) : Stage := s.changeTables fun t =>
  if t.nodes.any (·.node = row.node) then
    { t with nodes := t.nodes.map fun old => if old.node = row.node then row else old }
  else { t with nodes := t.nodes ++ [row] }

end Stage

end CqlClient.Rehearsal
