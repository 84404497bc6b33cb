import ChatRelay.Broadcast
import ChatRelay.Clock
import ChatRelay.Connection
import ChatRelay.Settings.Basic

/-!
# Tasks

The steps of the task that serves one connection. Several steps can be ready at once, and any of
them may come first. The queue of a connection has the key of the connection.
-/

namespace ChatRelay

inductive Branch where
  | start
  /-- The first inbound item is read. -/
  | read
  | handshakeDeadline
  /-- The first queued text is taken, or the end of the queue is noticed. -/
  | take
  | tick
  | shutdown
  /-- The transport is asked to write, or asked again after it hung. -/
  | write
  | writeDeadline
  /-- The transport is asked to close, or asked again after it hung. -/
  | close
  | closeDeadline
deriving DecidableEq

namespace Branch

/-- All steps, in the order in which a task looks at them. -/
def all : List Branch :=
  [.start, .read, .handshakeDeadline, .take, .tick, .write, .writeDeadline, .close, .closeDeadline,
    .shutdown]

end Branch

namespace RelayConfig

/-- The time between two pings; never none at all. -/
def period (config : RelayConfig) : Nat := max config.keepalive 1

/-- The room in an outgoing queue; never none at all. -/
def queueCapacity (config : RelayConfig) : Nat := max config.queueSize 1

end RelayConfig

/-- A tick that is seen later than this after it was due moves the ones after it. -/
def tickTolerance : Nat := 5

/-- When the tick after the one due at `due` is due, if that one is seen at `now`. -/
def nextTick (due now period : Nat) : Nat :=
  Clock.deadline (if now ≤ due + tickTolerance then due else now) period

/-- What a task can see of the relay around it. -/
structure Surroundings where
  now : Nat
  shutdown : Bool
  /-- Something is in the queue of the connection. -/
  hasPending : Bool
  /-- Some handle of the queue is left. -/
  queueHeld : Bool
deriving DecidableEq

namespace Connection

def ready (c : Connection) (s : Surroundings) : Branch → Bool
  | .start => c.phase = .connecting
  | .read => match c.phase with
    | .handshake _ => !c.transport.inbound.isEmpty
    | .active _ => !c.transport.inbound.isEmpty
    | _ => false
  | .handshakeDeadline => match c.phase with
    | .handshake deadline => c.transport.inbound.isEmpty && deadline ≤ s.now
    | _ => false
  | .take => match c.phase with
    | .active _ => s.hasPending || !s.queueHeld
    | _ => false
  | .tick => match c.phase with
    | .active session => session.tick ≤ s.now
    | _ => false
  | .shutdown => s.shutdown && match c.phase with
    | .handshake _ => true
    | .active _ => true
    | .writing .. => true
    | _ => false
  | .write => match c.phase with
    | .writing _ write => !write.begun || c.transport.mode write.item != .hangs
    | _ => false
  | .writeDeadline => match c.phase with
    | .writing _ write =>
      write.begun && c.transport.mode write.item == .hangs && write.deadline ≤ s.now
    | _ => false
  | .close => match c.phase with
    | .closing _ begun _ => !begun || c.transport.closing != .hangs
    | _ => false
  | .closeDeadline => match c.phase with
    | .closing _ begun deadline => begun && c.transport.closing == .hangs && deadline ≤ s.now
    | _ => false

def note (c : Connection) (hub : Hub) (event : ConnectionEvent) : Hub :=
  hub.note (.connection c.id event)

def move (c : Connection) (hub : Hub) (phase : Phase) : Hub × Connection :=
  (c.note hub (.moved c.phase.stage phase.stage), { c with phase })

/-- The task turns to closing, with a result. Its queue loses its reader. -/
def wrapUp (config : RelayConfig) (c : Connection) (hub : Hub) (key : QueueKey)
    (result : Option ConnectionFault) : Hub × Connection :=
  let hub := hub.dropReader key
  c.move hub (.closing result false (Clock.deadline hub.now config.writeTimeout))

/-- The connection leaves the registry before its transport is closed. -/
def leave (config : RelayConfig) (c : Connection) (hub : Hub) (key : QueueKey)
    (result : Option ConnectionFault) : Hub × Connection :=
  c.wrapUp config (hub.unregister c.id).2 key result

def conclude (c : Connection) (hub : Hub) (outcome : Outcome) : Hub × Connection :=
  (c.note hub (outcome.event c.peer), { c with phase := .ended outcome })

/-- The task dies wherever it stands; a registration does not outlive it. -/
def die (c : Connection) (hub : Hub) (key : QueueKey) (outcome : Outcome) : Hub × Connection :=
  let hub := if c.phase.isServing then (hub.unregister c.id).2 else hub
  c.conclude (hub.dropReader key) outcome

/-- The registered connection becomes active, if its first ping can be scheduled. -/
def activate (config : RelayConfig) (c : Connection) (hub : Hub) (key : QueueKey)
    (name : String) : Hub × Connection :=
  let now := hub.now
  let (hub, c) := c.move hub (.active ⟨name, now, now⟩)
  match Clock.after? now config.period with
  | some tick => (hub, { c with phase := .active ⟨name, now, tick⟩ })
  | none => c.die hub key .panicked

/-- The client has said its name: the connection is registered under it. A queue that is too large
cannot be made. -/
def introduce (config : RelayConfig) (c : Connection) (hub : Hub) (key : QueueKey)
    (name : String) : Hub × Connection :=
  let hub := c.note hub (.named name)
  if Queue.maxCapacity < config.queueCapacity then c.die hub key .panicked
  else match hub.register ⟨c.id, name, key⟩ with
    | .error fault => c.wrapUp config hub key (some (.refused fault))
    | .ok hub => c.activate config hub key name

def readName (config : RelayConfig) (c : Connection) (hub : Hub) (key : QueueKey) :
    Inbound → Hub × Connection
  | .text name => c.introduce config hub key name
  | .lifeSign => (hub, c)
  | .binary _ => (hub, c)
  | .fault fault => c.wrapUp config hub key (some (.readFailed fault))
  | .streamEnd => c.wrapUp config (c.note hub .leftBeforeName) key none

def readLine (config : RelayConfig) (c : Connection) (hub : Hub) (key : QueueKey)
    (session : Session) : Inbound → Hub × Connection
  | .text text =>
    let seen := { c with phase := .active { session with lastSeen := hub.now } }
    let hub := c.note hub (.received text.utf8ByteSize)
    ((hub.broadcast ⟨c.id, session.name, text⟩).1, seen)
  | .lifeSign => (hub, { c with phase := .active { session with lastSeen := hub.now } })
  | .binary _ => (hub, c)
  | .fault fault => c.leave config hub key (some (.readFailed fault))
  | .streamEnd => c.leave config (c.note hub .left) key none

/-- The first inbound item is taken off the transport and handled. -/
def read (config : RelayConfig) (c : Connection) (hub : Hub) (key : QueueKey) :
    Hub × Connection :=
  match c.transport.inbound with
  | [] => (hub, c)
  | item :: rest =>
    let rested := { c with transport := { c.transport with inbound := rest } }
    match c.phase with
    | .handshake _ => rested.readName config (c.note hub (.consumed item)) key item
    | .active session => rested.readLine config (c.note hub (.consumed item)) key session item
    | _ => (hub, c)

/-- A write is prepared; the transport has not been asked yet. -/
def prepare (config : RelayConfig) (c : Connection) (hub : Hub) (session : Session)
    (item : Outgoing) : Hub × Connection :=
  let write : Write := { item, deadline := Clock.deadline hub.now config.writeTimeout }
  (hub, { c with phase := .writing session write })

/-- The queue yields a text, or its end: that is a fault unless the registry has ended. -/
def take (config : RelayConfig) (c : Connection) (hub : Hub) (key : QueueKey)
    (session : Session) : Hub × Connection :=
  match hub.take? key with
  | some (text, hub) => c.prepare config (c.note hub (.taken text)) session (.text text)
  | none => c.leave config hub key (if hub.registry.ended then none else some .removed)

/-- A tick looks first whether the client has been silent for too long. -/
def handleTick (config : RelayConfig) (c : Connection) (hub : Hub) (key : QueueKey)
    (session : Session) : Hub × Connection :=
  let session := { session with tick := nextTick session.tick hub.now config.period }
  if config.idleTimeout < hub.now - session.lastSeen then
    c.leave config hub key (some .idleTimeout)
  else c.prepare config hub session .ping

def attemptWrite (config : RelayConfig) (c : Connection) (hub : Hub) (key : QueueKey)
    (session : Session) (write : Write) : Hub × Connection :=
  let hub := if write.begun then hub else c.note hub (.writeBegun write.item)
  match c.transport.mode write.item with
  | .ok => (c.note hub (.written write.item), { c with phase := .active session })
  | .fails fault =>
    c.leave config (c.note hub (.writeFailed write.item (.reported fault))) key
      (some (.writeFailed (.reported fault)))
  | .hangs => (hub, { c with phase := .writing session { write with begun := true } })

/-- The transport is asked to close. That it fails is no fault of the connection. -/
def attemptClose (c : Connection) (hub : Hub) (result : Option ConnectionFault) (begun : Bool)
    (deadline : Nat) : Hub × Connection :=
  let hub := if begun then hub else c.note hub .closeBegun
  match c.transport.closing with
  | .ok => c.conclude (c.note hub .closed) (.returned result)
  | .fails _ => c.conclude (c.note hub .closeFailed) (.returned result)
  | .hangs => (hub, { c with phase := .closing result true deadline })

/-- Performs a step. One that the phase does not know changes nothing. -/
def perform (config : RelayConfig) (c : Connection) (hub : Hub) (key : QueueKey) :
    Branch → Hub × Connection
  | .start => match c.phase with
    | .connecting =>
      let hub := c.note hub (.began c.peer)
      c.move hub (.handshake (Clock.deadline hub.now config.handshakeTimeout))
    | _ => (hub, c)
  | .read => c.read config hub key
  | .handshakeDeadline => match c.phase with
    | .handshake _ =>
      let hub := { hub with meters := hub.meters.increase .handshakeTimeouts 1 }
      c.wrapUp config hub key (some .handshakeTimeout)
    | _ => (hub, c)
  | .take => match c.phase with
    | .active session => c.take config hub key session
    | _ => (hub, c)
  | .tick => match c.phase with
    | .active session => c.handleTick config hub key session
    | _ => (hub, c)
  | .shutdown => match c.phase with
    | .handshake _ => c.wrapUp config (c.note hub .shutdownInHandshake) key none
    | .active _ => c.leave config (c.note hub .shutdownWhenIdle) key none
    | .writing .. => c.leave config (c.note hub .shutdownInWrite) key none
    | _ => (hub, c)
  | .write => match c.phase with
    | .writing session write => c.attemptWrite config hub key session write
    | _ => (hub, c)
  | .writeDeadline => match c.phase with
    | .writing _ write =>
      let fault := WriteFault.overdue config.writeTimeout
      c.leave config (c.note hub (.writeFailed write.item fault)) key (some (.writeFailed fault))
    | _ => (hub, c)
  | .close => match c.phase with
    | .closing result begun deadline => c.attemptClose hub result begun deadline
    | _ => (hub, c)
  | .closeDeadline => match c.phase with
    | .closing result _ _ => c.conclude (c.note hub .closeOverdue) (.returned result)
    | _ => (hub, c)

end Connection

end ChatRelay
