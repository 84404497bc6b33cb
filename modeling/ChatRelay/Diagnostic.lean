import ChatRelay.Broadcast
import ChatRelay.Settings.Basic
import ChatRelay.Text.Quoted

/-!
# Diagnostic texts

Values written so that everything in them can be seen: the name of what they are, and behind it
their parts, in parentheses, in braces with names, or in brackets. Texts are quoted.
-/

namespace ChatRelay

/-- A value taken apart for a diagnostic text. -/
inductive Diagnostic where
  /-- Something that is its own text: a number, a length of time, a bare name. -/
  | plain (text : String)
  | text (text : String)
  | flag (value : Bool)
  /-- A name around one part. -/
  | around (name : String) (part : Diagnostic)
  /-- A name with named parts. -/
  | record (name : String) (parts : List (String × Diagnostic))
  | list (items : List Diagnostic)

namespace Diagnostic

mutual

def render : Diagnostic → String
  | .plain content => content
  | .text content => Text.quoted content
  | .flag value => if value then "true" else "false"
  | .around name part => name ++ "(" ++ part.render ++ ")"
  | .record name parts => name ++ " \x7b " ++ ", ".intercalate (renderParts parts) ++ " \x7d"
  | .list items => "[" ++ ", ".intercalate (renderItems items) ++ "]"

def renderParts : List (String × Diagnostic) → List String
  | [] => []
  | (name, part) :: rest => (name ++ ": " ++ part.render) :: renderParts rest

def renderItems : List Diagnostic → List String
  | [] => []
  | item :: rest => item.render :: renderItems rest

end

def number (n : Nat) : Diagnostic := .plain (toString n)

def duration (millis : Nat) : Diagnostic := .plain (Duration.text millis)

end Diagnostic

def ConnectionId.diagnostic (id : ConnectionId) : Diagnostic :=
  .around "VerbindungsId" (.number id.number.toNat)

def DeliveryFault.diagnostic : DeliveryFault → Diagnostic
  | .queueFull => .plain "QueueVoll"
  | .queueClosed => .plain "QueueGeschlossen"

def RegistrationFault.diagnostic : RegistrationFault → Diagnostic
  | .ended => .plain "RegistryBeendet"
  | .present id => .around "BereitsAngemeldet" id.diagnostic

def TransportFault.diagnostic (fault : TransportFault) : Diagnostic :=
  .around "TransportFehler" (.text fault.reason)

def ConnectionFault.diagnostic : ConnectionFault → Diagnostic
  | .handshakeTimeout => .plain "HandshakeZeitlimit"
  | .readFailed fault => .around "Lesefehler" (.text fault.reason)
  | .writeFailed fault => .around "Schreibfehler" (.text fault.message)
  | .refused fault => fault.diagnostic
  | .removed => .plain "Entfernt"
  | .idleTimeout => .plain "Zeitlimit"

def Inbound.diagnostic : Inbound → Diagnostic
  | .text line => .around "Text" (.text line)
  | .lifeSign => .plain "Lebenszeichen"
  | .binary size => .around "Binaer" (.number size)
  | .fault reported => reported.diagnostic
  | .streamEnd => .plain "Ende"

def Report.diagnostic (report : Report) : Diagnostic :=
  .record "ZustellBericht"
    [("zugestellt", .number report.delivered),
      ("fehlgeschlagen", .list (report.failed.map ConnectionId.diagnostic))]

def Message.diagnostic (message : Message) : Diagnostic :=
  .record "ChatNachricht"
    [("von", message.sender.diagnostic), ("absender", .text message.senderName),
      ("text", .text message.text)]

def RelayConfig.diagnostic (config : RelayConfig) : Diagnostic :=
  .record "RelayKonfig"
    [("max_clients", .number config.maxClients), ("ws_pfad", .text config.wsPath),
      ("handshake_timeout", .duration config.handshakeTimeout),
      ("sende_queue_groesse", .number config.queueSize),
      ("keepalive", .duration config.keepalive),
      ("verbindungs_timeout", .duration config.idleTimeout),
      ("schreib_timeout", .duration config.writeTimeout),
      ("absender_anzeigen", .flag config.showSender)]

def ServerSettings.diagnostic (s : ServerSettings) : Diagnostic :=
  .record "ServerEinstellungen"
    [("name", .text s.name), ("max_clients", .number s.maxClients.toNat)]

def NetworkSettings.diagnostic (s : NetworkSettings) : Diagnostic :=
  .record "NetzwerkEinstellungen"
    [("bind_adresse", .text s.bindAddress), ("port", .number s.port.toNat),
      ("ws_pfad", .text s.wsPath)]

def ChatSettings.diagnostic (s : ChatSettings) : Diagnostic :=
  .record "ChatEinstellungen"
    [("handshake_timeout_sek", .number s.handshakeTimeout.toNat),
      ("sende_queue_groesse", .number s.queueSize.toNat),
      ("keepalive_sek", .number s.keepalive.toNat),
      ("verbindungs_timeout_sek", .number s.idleTimeout.toNat),
      ("schreib_timeout_sek", .number s.writeTimeout.toNat),
      ("absender_anzeigen", .flag s.showSender)]

def LoggingSettings.diagnostic (s : LoggingSettings) : Diagnostic :=
  .record "LoggingEinstellungen" [("level", .text s.level), ("format", .text s.format)]

def ObservabilitySettings.diagnostic (s : ObservabilitySettings) : Diagnostic :=
  .record "ObservabilityEinstellungen"
    [("aktiviert", .flag s.enabled), ("port", .number s.port.toNat)]

def Settings.diagnostic (s : Settings) : Diagnostic :=
  .record "ServerConfig"
    [("server", s.server.diagnostic), ("netzwerk", s.network.diagnostic),
      ("chat", s.chat.diagnostic), ("logging", s.logging.diagnostic),
      ("observability", s.observability.diagnostic)]

end ChatRelay
