import ChatRelay.Log.Setup
import ChatRelay.Text.Duration

/-!
# Settings

What an operator can set, in five sections, with a default for every value, and what the relay
makes of it.
-/

namespace ChatRelay

structure ServerSettings where
  name : String := "Parlor"
  maxClients : UInt32 := 512
deriving DecidableEq

structure NetworkSettings where
  bindAddress : String := "0.0.0.0"
  port : UInt16 := 8087
  wsPath : String := "/chat-ws"
deriving DecidableEq

/-- The timings are in seconds. -/
structure ChatSettings where
  handshakeTimeout : UInt64 := 10
  queueSize : UInt64 := 64
  keepalive : UInt64 := 30
  idleTimeout : UInt64 := 90
  writeTimeout : UInt64 := 10
  showSender : Bool := false
deriving DecidableEq

structure LoggingSettings where
  level : String := "info"
  format : String := "text"
deriving DecidableEq

structure ObservabilitySettings where
  enabled : Bool := true
  port : UInt16 := 9300
deriving DecidableEq

structure Settings where
  server : ServerSettings := {}
  network : NetworkSettings := {}
  chat : ChatSettings := {}
  logging : LoggingSettings := {}
  observability : ObservabilitySettings := {}
deriving DecidableEq

/-- What the relay needs to know. The timings are in milliseconds. -/
structure RelayConfig where
  maxClients : Nat := 512
  wsPath : String := "/chat-ws"
  handshakeTimeout : Nat := Duration.seconds 10
  queueSize : Nat := 64
  keepalive : Nat := Duration.seconds 30
  idleTimeout : Nat := Duration.seconds 90
  writeTimeout : Nat := Duration.seconds 10
  showSender : Bool := false
deriving DecidableEq

namespace Settings

def address (s : Settings) (port : UInt16) : String :=
  s.network.bindAddress ++ ":" ++ toString port.toNat

def chatAddress (s : Settings) : String := s.address s.network.port

def observabilityAddress (s : Settings) : String := s.address s.observability.port

def relayConfig (s : Settings) : RelayConfig where
  maxClients := s.server.maxClients.toNat
  wsPath := s.network.wsPath
  handshakeTimeout := Duration.seconds s.chat.handshakeTimeout.toNat
  queueSize := s.chat.queueSize.toNat
  keepalive := Duration.seconds s.chat.keepalive.toNat
  idleTimeout := Duration.seconds s.chat.idleTimeout.toNat
  writeTimeout := Duration.seconds s.chat.writeTimeout.toNat
  showSender := s.chat.showSender

end Settings

inductive SettingsFault where
  | pathWithoutSlash (path : String)
  | pathOfHealthCheck
  | queueEmpty
  | keepaliveZero
  | idleTimeoutTooShort (idleTimeout keepalive : UInt64)
  | writeTimeoutZero
  | unknownLevel (level : String)
  | unknownFormat (format : String)
deriving DecidableEq

def SettingsFault.message : SettingsFault → String
  | .pathWithoutSlash path => "netzwerk.ws_pfad muss mit '/' beginnen: '" ++ path ++ "'"
  | .pathOfHealthCheck => "netzwerk.ws_pfad kollidiert mit /health-check"
  | .queueEmpty => "chat.sende_queue_groesse muss groesser als 0 sein"
  | .keepaliveZero => "chat.keepalive_sek muss groesser als 0 sein"
  | .idleTimeoutTooShort idleTimeout keepalive =>
    "chat.verbindungs_timeout_sek (" ++ toString idleTimeout.toNat
      ++ ") muss groesser als chat.keepalive_sek (" ++ toString keepalive.toNat ++ ") sein"
  | .writeTimeoutZero => "chat.schreib_timeout_sek muss groesser als 0 sein"
  | .unknownLevel level => "Unbekanntes Log-Level: '" ++ level ++ "'"
  | .unknownFormat format => "Unbekanntes Log-Format: '" ++ format ++ "'"

namespace Settings

/-- The path under which the chat server answers that it is up. -/
def healthCheckPath : String := "/health-check"

/-- The first fault of the settings, in the order of the checks. -/
def fault? (s : Settings) : Option SettingsFault :=
  if s.network.wsPath.toList.head? ≠ some '/' then some (.pathWithoutSlash s.network.wsPath)
  else if s.network.wsPath = healthCheckPath then some .pathOfHealthCheck
  else if s.chat.queueSize = 0 then some .queueEmpty
  else if s.chat.keepalive = 0 then some .keepaliveZero
  else if s.chat.idleTimeout ≤ s.chat.keepalive then
    some (.idleTimeoutTooShort s.chat.idleTimeout s.chat.keepalive)
  else if s.chat.writeTimeout = 0 then some .writeTimeoutZero
  else if !Log.isLevelName s.logging.level then some (.unknownLevel s.logging.level)
  else if !Log.isFormatName s.logging.format then some (.unknownFormat s.logging.format)
  else none

end Settings

end ChatRelay
