import ChatRelay.Frame
import ChatRelay.Http.Route
import ChatRelay.Http.Upgrade
import ChatRelay.Relay.Schedule

/-!
# The chat server

The relay behind its two paths: one at which clients are upgraded to chat connections, and one that
says that the server is up.
-/

namespace ChatRelay

open Http (Request Response Route RouteFault)

structure ChatServer where
  relay : Relay
  route : Route
  /-- The connections whose clients have dropped their streams. -/
  lost : List Nat := []

namespace ChatServer

/-- The route of a path pattern, if both it and the path of the health check can be served. -/
def route? (pattern : String) : Except RouteFault Route :=
  if pattern = Settings.healthCheckPath then .error .taken else Route.parse? pattern

def ofConfig (config : RelayConfig) : Except RouteFault ChatServer := do
  let route ← route? config.wsPath
  return { relay := .ofConfig config, route }

/-- Answers a request for an upgrade; with the key of the connection, if there is one now. -/
def upgrade (s : ChatServer) (peer : String) (request : Request) :
    Response × Option Nat × ChatServer :=
  match request.upgradeFault? with
  | some fault => (request.read fault.response, none, s)
  | none => match s.relay.requestUpgrade peer with
    | (.shuttingDown, relay) =>
      (.text 503 "Server wird heruntergefahren", none, { s with relay })
    | (.full, relay) => (.text 503 "Server voll", none, { s with relay })
    | (.accepted, relay) =>
      let (_, connected) := relay.completeUpgrade peer {}
      (.switching, some relay.connections.size, { s with relay := connected })

/-- Answers a request. The path of the health check goes before the route, and paths are compared as
they are. -/
def answer (s : ChatServer) (peer : String) (request : Request) :
    Response × Option Nat × ChatServer :=
  if request.path = Settings.healthCheckPath.toList then
    (request.read (.text 200 "OK"), none, s)
  else if s.route.isOf request.path then
    if request.method = "GET" || request.method = "HEAD" then s.upgrade peer request
    else (.methodNotAllowed, none, s)
  else (.notFound, none, s)

/-- Takes the frames of a client one after the other. Behind a close frame the stream is over, and
no close frame is written in return. -/
def receiveAll (relay : Relay) (key : Nat) (id : ConnectionId) : List Frame → Relay
  | [] => relay
  | frame :: rest =>
    let relay := match frame.reply? with
      | some payload =>
        { relay with hub := relay.hub.note (.connection id (.ponged payload)) }
      | none => relay
    let relay := match frame.inbound with
      | .streamEnd => relay.modifyTransport key fun t =>
        { t.finish with closing := .fails Defect.reset.fault }
      | item => relay.modifyTransport key fun t => t.arrive item
    receiveAll relay key id rest

/-- Frames arrive from a client, and the answer is whether anybody reads them. -/
def receive (s : ChatServer) (key : Nat) (frames : List Frame) : Bool × ChatServer :=
  match s.relay.connections[key]? with
  | none => (false, s)
  | some c =>
    if c.isListening then (true, { s with relay := receiveAll s.relay key c.id frames })
    else (false, s)

/-- A client drops its stream, and the answer is whether it had not done so before. Nothing can be
written to it from then on. -/
def drop (s : ChatServer) (key : Nat) : Bool × ChatServer :=
  if s.lost.contains key then (false, s)
  else
    let fault := Defect.reset.fault
    let relay := s.relay.modifyTransport key fun t =>
      { t.arrive (.fault fault) with
        isOpen := false, writing := .fails fault, pinging := .fails fault, closing := .fails fault }
    (true, { s with relay, lost := key :: s.lost })

end ChatServer

/-- What a client sees of an event of its connection. -/
def ConnectionEvent.frame? : ConnectionEvent → Option ServerFrame
  | .written (.text text) => some (.text text)
  | .written .ping => some .ping
  | .ponged payload => some (.pong payload)
  | .closed => some .close
  | _ => none

def ConnectionEvent.endsStream : ConnectionEvent → Bool
  | .returned .. => true
  | .aborted => true
  | .panicked => true
  | _ => false

end ChatRelay
