import ChatRelay.ConnectionId
import ChatRelay.Text.Duration

/-!
# Faults

What can go wrong for one connection, each cause with its wording. None of these faults ever
concerns more than the connection at which it arises.
-/

namespace ChatRelay

inductive DeliveryFault where
  | queueFull
  | queueClosed
deriving DecidableEq

def DeliveryFault.message : DeliveryFault → String
  | .queueFull => "Send-Queue voll"
  | .queueClosed => "Send-Queue geschlossen"

inductive RegistrationFault where
  | ended
  | present (id : ConnectionId)
deriving DecidableEq

def RegistrationFault.message : RegistrationFault → String
  | .ended => "Registry wurde heruntergefahren"
  | .present id => "Verbindung " ++ id.text ++ " ist bereits angemeldet"

/-- A fault reported by the transport, in the transport's own words. -/
structure TransportFault where
  reason : String
deriving DecidableEq

/-- Why a text or ping was not written: the transport said so, or the time for it ran out. -/
inductive WriteFault where
  | reported (fault : TransportFault)
  | overdue (limit : Nat)
deriving DecidableEq

def WriteFault.message : WriteFault → String
  | .reported fault => fault.reason
  | .overdue limit => "Schreibfrist von " ++ Duration.text limit ++ " ueberschritten"

inductive ConnectionFault where
  | handshakeTimeout
  | readFailed (fault : TransportFault)
  | writeFailed (fault : WriteFault)
  | refused (fault : RegistrationFault)
  | removed
  | idleTimeout
deriving DecidableEq

def ConnectionFault.message : ConnectionFault → String
  | .handshakeTimeout => "Handshake-Zeitlimit ueberschritten"
  | .readFailed fault => "Lesefehler: " ++ fault.reason
  | .writeFailed fault => "Schreibfehler: " ++ fault.message
  | .refused fault => fault.message
  | .removed => "Verbindung wurde aus der Registry entfernt"
  | .idleTimeout => "Verbindungs-Timeout"

end ChatRelay
