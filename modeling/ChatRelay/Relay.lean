import ChatRelay.Connection.Task
import ChatRelay.Labelled
import ChatRelay.Signal
import ChatRelay.Slots

/-!
# The relay

All connections together with what they share, and everything that can happen to them from outside.
Each operation is one step; none lets time pass, and none lets a task move.
-/

namespace ChatRelay

structure Relay where
  config : RelayConfig := {}
  hub : Hub := {}
  /-- In the order in which they were accepted; a connection's place here is its key. -/
  connections : Array Connection := #[]
  signal : Signal := {}
  slots : Slots
  /-- Accepted upgrades whose connection is not there yet. -/
  upgrades : Nat := 0
  /-- Snapshots of the registry that someone keeps. -/
  kept : Labelled (List Member) := []
  /-- The labels under which slots are reserved. -/
  reserved : List String := []

inductive UpgradeAnswer where
  | accepted
  | shuttingDown
  | full
deriving DecidableEq

namespace Relay

def ofConfig (config : RelayConfig) : Relay where
  config
  hub := { options := { showSender := config.showSender } }
  slots := { capacity := config.maxClients }

def forget (r : Relay) : Relay := { r with hub := { r.hub with journal := [] } }

/-- A client is connected: it gets an identity, and a queue of which no handle exists yet. -/
def connect (r : Relay) (peer : String) (transport : Transport) (holdsSlot : Bool) :
    ConnectionId × Relay :=
  let (id, hub) := r.hub.issueId
  let hub := { hub with meters := hub.meters.increase .connections 1 }
  let (_, hub) := hub.openQueue r.config.queueCapacity
  let connection : Connection := { id, peer, transport, holdsSlot }
  (id, { r with hub, connections := r.connections.push connection })

def modifyTransport (r : Relay) (key : Nat) (f : Transport → Transport) : Relay :=
  { r with connections := r.connections.modify key fun c => { c with transport := f c.transport } }

def arrive (r : Relay) (key : Nat) (item : Inbound) : Bool × Relay :=
  match r.connections[key]? with
  | none => (false, r)
  | some c =>
    if c.isListening then (true, r.modifyTransport key fun t => t.arrive item) else (false, r)

/-- A client ends its stream, and the answer is whether it had not done so before. -/
def hangUp (r : Relay) (key : Nat) : Bool × Relay :=
  match r.connections[key]? with
  | none => (false, r)
  | some c =>
    if c.transport.isOpen then (true, r.modifyTransport key Transport.finish) else (false, r)

/-- Stores what a step made of a connection. One that is over gives its slot back. -/
def update (r : Relay) (key : Nat) (hub : Hub) (c : Connection) : Relay :=
  if c.phase.isOver && c.holdsSlot then
    let c := { c with holdsSlot := false }
    { r with hub, connections := r.connections.setIfInBounds key c, slots := r.slots.release }
  else { r with hub, connections := r.connections.setIfInBounds key c }

def abort (r : Relay) (key : Nat) : Relay :=
  match r.connections[key]? with
  | none => r
  | some c =>
    if c.phase.isOver then r
    else
      let (hub, c) := c.die r.hub key .aborted
      r.update key hub c

def holds (r : Relay) (key : QueueKey) : Bool :=
  r.hub.registry.holds key || r.kept.any fun entry => entry.2.any fun m => m.queue == key

def surroundings (r : Relay) (key : Nat) : Surroundings where
  now := r.hub.now
  shutdown := r.signal.isSet
  hasPending := match r.hub.queues[key]? with
    | some q => !q.pending.isEmpty
    | none => false
  queueHeld := r.holds key

def ready (r : Relay) (key : Nat) (b : Branch) : Bool :=
  match r.connections[key]? with
  | some c => c.ready (r.surroundings key) b
  | none => false

def perform (r : Relay) (key : Nat) (b : Branch) : Relay :=
  match r.connections[key]? with
  | some c =>
    let (hub, c) := c.perform r.config r.hub key b
    r.update key hub c
  | none => r

def unregister (r : Relay) (id : ConnectionId) : Bool × Relay :=
  let (removed, hub) := r.hub.unregister id
  (removed, { r with hub })

def endRegistry (r : Relay) : Nat × Relay :=
  let (removed, hub) := r.hub.endRegistry
  (removed, { r with hub })

def broadcast (r : Relay) (message : Message) : Report × Relay :=
  let (hub, report) := r.hub.broadcast message
  (report, { r with hub })

/-- Sends a value of the shutdown signal; there is no answer without a sender. -/
def send? (r : Relay) (value : Bool) : Option Relay :=
  (r.signal.send? value).map fun signal => { r with signal }

/-- The sender of the signal goes, and the answer is whether it was there. -/
def dropSender (r : Relay) : Bool × Relay :=
  (r.signal.hasSender, { r with signal := r.signal.dropSender })

def keepSnapshot (r : Relay) (label : String) : List Member × Relay :=
  (r.hub.registry.members, { r with kept := r.kept.put label r.hub.registry.members })

def dropSnapshot (r : Relay) (label : String) : Bool × Relay :=
  ((r.kept.get? label).isSome, { r with kept := r.kept.erase label })

/-- Reserves a slot under a label, and tells whether one was free. A label holds one slot at most. -/
def reserve (r : Relay) (label : String) : Bool × Relay :=
  match r.slots.reserve? with
  | none => (false, r)
  | some slots =>
    if r.reserved.contains label then (true, r)
    else (true, { r with slots, reserved := label :: r.reserved })

/-- Gives the slot of a label back, and tells whether it had one. -/
def release (r : Relay) (label : String) : Bool × Relay :=
  if r.reserved.contains label then
    (true, { r with slots := r.slots.release, reserved := r.reserved.erase label })
  else (false, r)

/-- Answers a well-formed request for an upgrade. The signal is looked at before the slots. -/
def requestUpgrade (r : Relay) (peer : String) : UpgradeAnswer × Relay :=
  if r.signal.isSet then (.shuttingDown, r)
  else match r.slots.reserve? with
    | none => (.full, { r with hub := r.hub.note (.turnedAway peer r.slots.capacity) })
    | some slots => (.accepted, { r with slots, upgrades := r.upgrades + 1 })

/-- An accepted upgrade succeeds, and its connection begins with the slot. -/
def completeUpgrade (r : Relay) (peer : String) (transport : Transport) : ConnectionId × Relay :=
  { r with upgrades := r.upgrades - 1 }.connect peer transport true

/-- An accepted upgrade fails, and its slot is free again. -/
def failUpgrade (r : Relay) : Relay :=
  { r with upgrades := r.upgrades - 1, slots := r.slots.release }

end Relay

end ChatRelay
