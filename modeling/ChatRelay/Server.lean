import ChatRelay.Address
import ChatRelay.ChatServer
import ChatRelay.Observability

/-!
# The server

The chat server and the observability server on one machine: how they start, what stops them, and
what is logged on the way. Whatever goes wrong with the observability server leaves the chat alone;
whatever goes wrong with the chat ends the server.
-/

namespace ChatRelay

inductive BindFault where
  | inUse
  | notLocal
  | unknownName
deriving DecidableEq

def BindFault.message : BindFault → String
  | .inUse => "Address already in use (os error 98)"
  | .notLocal => "Cannot assign requested address (os error 99)"
  | .unknownName => "failed to lookup address information: Name or service not known"

/-- The machine that the server runs on. -/
structure Host where
  /-- The addresses at which someone listens. -/
  taken : List SocketAddress := []
  /-- The numbers under which the machine is known. -/
  isLocal : IpAddress → Bool := fun _ => true
  /-- The name that it gives to the task of the chat server. -/
  chatTask : String := "1"

namespace Host

def listen (h : Host) (a : SocketAddress) : Except BindFault Host :=
  if !h.isLocal a.ip then .error .notLocal
  else if h.taken.any (a.collides ·) then .error .inUse
  else .ok { h with taken := a :: h.taken }

end Host

inductive ServerFault where
  | chatAddress (address : String) (cause : BindFault)
  | observabilityAddress
  | chatRoute (task pattern : String) (fault : Http.RouteFault)
deriving DecidableEq

namespace ServerFault

def message : ServerFault → String
  | .chatAddress address _ => "Chat-Port " ++ address ++ " konnte nicht gebunden werden"
  | .observabilityAddress => "Ungueltige Observability-Adresse"
  | .chatRoute task pattern fault =>
    "task " ++ task ++ " panicked with message " ++ Text.quoted (fault.message pattern)

def cause? : ServerFault → Option String
  | .chatAddress _ cause => some cause.message
  | .observabilityAddress => some "invalid socket address syntax"
  | .chatRoute .. => none

end ServerFault

namespace Server

open Log (Line)

def line (message : String) (fields : List (String × Log.Value)) : Line :=
  ⟨.info, "parlor_server", message, fields⟩

def startLine (settings : Settings) (chat : SocketAddress) : Line :=
  line "Server startet"
    [("server_name", .shown settings.server.name), ("chat", .shown chat.text),
      ("ws_pfad", .shown settings.network.wsPath),
      ("max_clients", .count settings.server.maxClients.toNat)]

/-- Starts the observability server at an address. That nobody can listen there is only logged. -/
def observabilityLine (host : Host) (address : SocketAddress) : Line :=
  match host.listen address with
  | .ok _ =>
    ⟨.info, "parlor_observability", "Observability-Server gestartet", [("addr", .shown address.text)]⟩
  | .error fault =>
    ⟨.error, "parlor_server", "Observability-Server beendet", [("fehler", .shown fault.message)]⟩

/-- Starts the observability server, if there is to be one. Its address has to be in strict form. -/
def observe (host : Host) (settings : Settings) : Except ServerFault Line :=
  if settings.observability.enabled then
    match SocketAddress.ofText? settings.observabilityAddress with
    | some address => .ok (observabilityLine host address)
    | none => .error .observabilityAddress
  else .ok (line "Observability-Server deaktiviert" [])

def chatLine (settings : Settings) (chat : SocketAddress) : Line :=
  ⟨.info, "parlor_relay::ws", "WebSocket-Chat-Server gestartet",
    [("adresse", .shown chat.text), ("pfad", .shown settings.network.wsPath)]⟩

/-- Starts both servers, with a listener for the chat that is there already. -/
def start (host : Host) (settings : Settings) (chat : SocketAddress) :
    List Line × Except ServerFault ChatServer :=
  match observe host settings with
  | .error fault => ([startLine settings chat], .error fault)
  | .ok observability =>
    let lines := [startLine settings chat, observability,
      line "Server laeuft. Warte auf Shutdown-Signal (Ctrl-C / SIGTERM)..." [],
      chatLine settings chat]
    match ChatServer.ofConfig settings.relayConfig with
    | .ok server => (lines, .ok server)
    | .error fault => (lines, .error (.chatRoute host.chatTask settings.network.wsPath fault))

/-- Finds a listener for the chat and starts both servers. -/
def listenAndStart (host : Host) (settings : Settings) : List Line × Except ServerFault ChatServer :=
  match SocketAddress.resolve? settings.chatAddress with
  | none => ([], .error (.chatAddress settings.chatAddress .unknownName))
  | some chat => match host.listen chat with
    | .error cause => ([], .error (.chatAddress settings.chatAddress cause))
    | .ok host => start host settings chat

/-- Stops a server after a number of seconds: the signal is set, the registry ends, and all tasks
come to their ends. -/
def stop (server : ChatServer) (uptime : Nat) : List Line × ChatServer :=
  let relay := (server.relay.send? true).getD server.relay
  let (removed, relay) := relay.endRegistry
  let lines := [line "Shutdown-Signal empfangen, Server wird beendet" [],
    line "Alle Verbindungen getrennt" [("getrennt", .count removed)],
    ⟨.info, "parlor_relay::ws", "WebSocket-Chat-Server gestoppt", []⟩,
    line "Server beendet" [("uptime_sek", .count uptime)]]
  (lines, { server with relay := relay.settle })

end Server

end ChatRelay
