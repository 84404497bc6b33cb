import ChatRelay.Fault
import ChatRelay.Journal

/-!
# Connections

The state of the task that serves one client. A task waits in the handshake for the client's name,
then goes round its loop until something ends it, and closes the transport at last.
-/

namespace ChatRelay

structure Session where
  name : String
  /-- When the last frame was read, or when the connection became active. -/
  lastSeen : Nat
  /-- When the next ping is due. -/
  tick : Nat
deriving DecidableEq

structure Write where
  item : Outgoing
  /-- The transport has been asked. -/
  begun : Bool := false
  deadline : Nat
deriving DecidableEq

inductive Outcome where
  | returned (fault : Option ConnectionFault)
  | aborted
  | panicked
deriving DecidableEq

def Outcome.event (peer : String) : Outcome → ConnectionEvent
  | .returned fault => .returned peer fault
  | .aborted => .aborted
  | .panicked => .panicked

inductive Phase where
  | connecting
  | handshake (deadline : Nat)
  /-- Registered, and waiting for whatever comes first. -/
  | active (session : Session)
  | writing (session : Session) (write : Write)
  | closing (result : Option ConnectionFault) (begun : Bool) (deadline : Nat)
  | ended (outcome : Outcome)
deriving DecidableEq

namespace Phase

def stage : Phase → Stage
  | .connecting => .connecting
  | .handshake _ => .handshake
  | .active _ => .active
  | .writing .. => .active
  | .closing .. => .closing
  | .ended _ => .closing

def isOver : Phase → Bool
  | .ended _ => true
  | _ => false

/-- The task is between its registration and its leaving. -/
def isServing : Phase → Bool
  | .active _ => true
  | .writing .. => true
  | _ => false

end Phase

structure Connection where
  id : ConnectionId
  peer : String
  transport : Transport := {}
  phase : Phase := .connecting
  holdsSlot : Bool := false
deriving DecidableEq

namespace Connection

/-- Someone still reads what the client sends. -/
def isListening (c : Connection) : Bool := c.transport.isOpen && !c.phase.isOver

/-- When the passing of time alone makes the task move, if ever. -/
def due? (c : Connection) : Option Nat :=
  match c.phase with
  | .handshake deadline => some deadline
  | .active session => some session.tick
  | .writing _ write => some write.deadline
  | .closing _ _ deadline => some deadline
  | _ => none

end Connection

end ChatRelay
