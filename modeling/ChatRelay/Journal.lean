import ChatRelay.Log.Line
import ChatRelay.Message
import ChatRelay.Transport

/-!
# The journal

Everything that happens in the relay is an event with the time at which it happened. Log lines are
read off the events; most events of a transport have no line.
-/

namespace ChatRelay

/-- Names an outgoing queue. -/
abbrev QueueKey := Nat

/-- The stages of a connection, in the order in which it passes through them. -/
inductive Stage where
  /-- Accepted, and nothing awaited yet. -/
  | connecting
  /-- Waiting for the client's name. -/
  | handshake
  /-- Registered. -/
  | active
  /-- Being torn down. -/
  | closing
deriving DecidableEq

def Stage.name : Stage → String
  | .connecting => "Verbindend"
  | .handshake => "Handshake"
  | .active => "Aktiv"
  | .closing => "Schliessend"

inductive ConnectionEvent where
  | began (peer : String)
  | moved (before after : Stage)
  | consumed (item : Inbound)
  | named (name : String)
  | received (bytes : Nat)
  | leftBeforeName
  | left
  | shutdownInHandshake
  | shutdownWhenIdle
  | shutdownInWrite
  | taken (text : String)
  | writeBegun (item : Outgoing)
  | written (item : Outgoing)
  | writeFailed (item : Outgoing) (fault : WriteFault)
  | closeBegun
  | closed
  | closeFailed
  | closeOverdue
  /-- A ping of the client is answered. -/
  | ponged (payload : String)
  | returned (peer : String) (fault : Option ConnectionFault)
  | aborted
  | panicked
deriving DecidableEq

inductive Event where
  | registered (id : ConnectionId) (name : String) (online : Nat)
  | unregistered (id : ConnectionId) (name : String) (online : Nat)
  | registryEnded (removed : Nat)
  | accepted (queue : QueueKey) (text : String)
  | deliveryFailed (recipient : ConnectionId) (name : String) (sender : ConnectionId)
      (fault : DeliveryFault)
  | broadcast (message : Message) (delivered : Nat) (failed : List ConnectionId)
  | connection (id : ConnectionId) (event : ConnectionEvent)
  | turnedAway (peer : String) (capacity : Nat)
deriving DecidableEq

structure Entry where
  time : Nat
  event : Event
deriving DecidableEq

open Log (Line Level)

def ConnectionId.field (id : ConnectionId) : String × Log.Value := ("verbindung", .shown id.text)

def ConnectionEvent.line? (id : ConnectionId) (event : ConnectionEvent) : Option Line :=
  let line (level : Level) (message : String) (fields : List (String × Log.Value)) : Option Line :=
    some ⟨level, "parlor_relay::connection", message, id.field :: fields⟩
  match event with
  | .began peer => line .info "Neue Verbindung" [("peer", .shown peer)]
  | .moved before after =>
    line .debug "Zustandswechsel" [("von", .shown before.name), ("nach", .shown after.name)]
  | .consumed (.binary size) =>
    some ⟨.debug, "parlor_relay::ws", "Binaer-Frame ignoriert", [("bytes", .count size)]⟩
  | .named name => line .debug "Handshake abgeschlossen" [("name", .shown name)]
  | .received bytes => line .trace "Nachricht empfangen" [("bytes", .count bytes)]
  | .leftBeforeName => line .info "Verbindung vor dem Handshake getrennt" []
  | .left => line .info "Verbindung vom Client getrennt" []
  | .shutdownInHandshake => line .debug "Shutdown waehrend des Handshakes" []
  | .shutdownWhenIdle => line .info "Shutdown-Signal – Verbindung wird getrennt" []
  | .shutdownInWrite => line .info "Shutdown waehrend des Schreibens" []
  | .closeOverdue => line .debug "Close-Frame nicht rechtzeitig gesendet" []
  | .returned peer none => line .info "Verbindung beendet" [("peer", .shown peer)]
  | .returned peer (some fault) =>
    line .warn "Verbindung mit Fehler beendet"
      [("peer", .shown peer), ("fehler", .shown fault.message)]
  | _ => none

def Event.line? : Event → Option Line
  | .registered id name online =>
    some ⟨.info, "parlor_relay::registry", "Client angemeldet",
      [id.field, ("name", .shown name), ("online", .count online)]⟩
  | .unregistered id name online =>
    some ⟨.info, "parlor_relay::registry", "Client abgemeldet",
      [id.field, ("name", .shown name), ("online", .count online)]⟩
  | .registryEnded removed =>
    some ⟨.info, "parlor_relay::registry", "Registry heruntergefahren",
      [("entfernt", .count removed)]⟩
  | .accepted .. => none
  | .deliveryFailed recipient name sender fault =>
    some ⟨.warn, "parlor_relay::broadcast",
      "Zustellung fehlgeschlagen – Verbindung wird getrennt",
      [recipient.field, ("name", .shown name), ("absender", .shown sender.text),
        ("fehler", .shown fault.message)]⟩
  | .broadcast message delivered failed =>
    some ⟨.trace, "parlor_relay::broadcast", "Broadcast abgeschlossen",
      [("absender", .shown message.sender.text), ("zugestellt", .count delivered),
        ("fehlgeschlagen", .count failed.length)]⟩
  | .connection id event => event.line? id
  | .turnedAway peer capacity =>
    some ⟨.warn, "parlor_relay::ws", "Server voll – Verbindung abgelehnt",
      [("peer", .shown peer), ("max", .count capacity)]⟩

/-- The connection that the line of an event speaks of first. -/
def Event.subject? : Event → Option ConnectionId
  | .registered id .. => some id
  | .unregistered id .. => some id
  | .deliveryFailed recipient .. => some recipient
  | .broadcast message .. => some message.sender
  | .connection _ (.consumed _) => none
  | .connection id _ => some id
  | _ => none

end ChatRelay
