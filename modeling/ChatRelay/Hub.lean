import ChatRelay.Metrics
import ChatRelay.Queue
import ChatRelay.Registry

/-!
# The hub

What all connections share: the registry, the outgoing queues, the counter of identities, the
meters, the clock and the journal. Each operation here is one indivisible step.
-/

namespace ChatRelay

structure HubOptions where
  /-- The registry keeps the gauge of registered connections. -/
  registryMetered : Bool := true
  /-- Broadcasts are counted. -/
  broadcastMetered : Bool := true
  /-- Recipients see the sender's name in front of each line. -/
  showSender : Bool := false
deriving DecidableEq

structure Hub where
  options : HubOptions := {}
  registry : Registry := {}
  queues : Array Queue := #[]
  nextId : ConnectionId := .first
  meters : Meters := {}
  /-- Milliseconds on the clock. -/
  now : Nat := 0
  /-- What has happened, the latest first. -/
  journal : List Entry := []

namespace Hub

def note (h : Hub) (event : Event) : Hub :=
  { h with journal := ⟨h.now, event⟩ :: h.journal }

/-- The gauge follows the size of the registry, if the registry is metered. -/
def setGauge (h : Hub) : Hub :=
  if h.options.registryMetered then
    { h with meters := h.meters.setConnected (.ofNat h.registry.size) }
  else h

/-- Hands out an identity that was not handed out before. -/
def issueId (h : Hub) : ConnectionId × Hub :=
  (h.nextId, { h with nextId := h.nextId.next })

def openQueue (h : Hub) (capacity : Nat) : QueueKey × Hub :=
  (h.queues.size, { h with queues := h.queues.push { capacity } })

def register (h : Hub) (m : Member) : Except RegistrationFault Hub :=
  match h.registry.register m with
  | .error fault => .error fault
  | .ok registry =>
    let h := { h with registry }.setGauge
    .ok (h.note (.registered m.id m.name registry.size))

def unregister (h : Hub) (id : ConnectionId) : Bool × Hub :=
  match h.registry.find? id with
  | none => (false, h)
  | some m =>
    let registry := h.registry.unregister id
    let h := { h with registry }.setGauge
    (true, h.note (.unregistered id m.name registry.size))

def endRegistry (h : Hub) : Nat × Hub :=
  let removed := h.registry.size
  let h := { h with registry := h.registry.close }.setGauge
  (removed, h.note (.registryEnded removed))

def deliver (h : Hub) (m : Member) (text : String) : Except DeliveryFault Hub :=
  match h.queues[m.queue]? with
  | none => .error .queueClosed
  | some q => match q.offer text with
    | .error fault => .error fault
    | .ok q =>
      let h := { h with queues := h.queues.setIfInBounds m.queue q }
      .ok (h.note (.accepted m.queue text))

/-- The first text of a queue, taken out. -/
def take? (h : Hub) (key : QueueKey) : Option (String × Hub) :=
  match h.queues[key]? with
  | none => none
  | some q => match q.take? with
    | none => none
    | some (text, q) => some (text, { h with queues := h.queues.setIfInBounds key q })

def dropReader (h : Hub) (key : QueueKey) : Hub :=
  { h with queues := h.queues.modify key Queue.dropReader }

end Hub

end ChatRelay
