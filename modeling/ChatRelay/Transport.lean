import ChatRelay.Fault

/-!
# Transports

A transport carries messages both ways between one client and the relay. Inbound items wait in the
order of their arrival. Writing a text, pinging and closing can each succeed at once, fail, or hang
until the client behaves differently.
-/

namespace ChatRelay

inductive Inbound where
  | text (text : String)
  /-- A frame without a payload of its own. -/
  | lifeSign
  /-- A frame of bytes: read, dropped, and never a life sign. -/
  | binary (size : Nat)
  | fault (fault : TransportFault)
  /-- The client has ended its stream; nothing comes after this. -/
  | streamEnd
deriving DecidableEq

inductive Outgoing where
  | text (text : String)
  | ping
deriving DecidableEq

/-- How an operation on a transport goes. -/
inductive Mode where
  | ok
  | fails (fault : TransportFault)
  | hangs
deriving DecidableEq

structure Transport where
  inbound : List Inbound := []
  /-- The client has not ended its stream. -/
  isOpen : Bool := true
  writing : Mode := .ok
  pinging : Mode := .ok
  closing : Mode := .ok
deriving DecidableEq

namespace Transport

/-- An item arrives behind all those that wait. -/
def arrive (t : Transport) (item : Inbound) : Transport :=
  { t with inbound := t.inbound ++ [item] }

def finish (t : Transport) : Transport :=
  { t.arrive .streamEnd with isOpen := false }

def mode (t : Transport) : Outgoing → Mode
  | .text _ => t.writing
  | .ping => t.pinging

end Transport

end ChatRelay
