import ChatRelay.Broadcast
import ChatRelay.Labelled

/-!
# The desk

A hub together with the handles, readers and snapshots that are held outside the registry, each
under a label. A queue is closed for its reader when no handle of it is left here, in the registry
or in a snapshot, and nothing is pending.
-/

namespace ChatRelay

structure Desk where
  hub : Hub
  handles : Labelled Member := []
  readers : Labelled QueueKey := []
  snapshots : Labelled (List Member) := []

inductive Reading where
  | text (text : String)
  | empty
  | closed
deriving DecidableEq

namespace Desk

/-- Whether a handle of the queue is left anywhere. -/
def holds (d : Desk) (key : QueueKey) : Bool :=
  d.hub.registry.holds key || d.handles.any (fun entry => entry.2.queue == key)
    || d.snapshots.any (fun entry => entry.2.any fun m => m.queue == key)

/-- A label that gets a new reader loses the old one. -/
def replaceReader (d : Desk) (label : String) (key : QueueKey) : Desk :=
  let hub := match d.readers.get? label with
    | some old => d.hub.dropReader old
    | none => d.hub
  { d with hub, readers := d.readers.put label key }

def issueId (d : Desk) : ConnectionId × Desk :=
  let (id, hub) := d.hub.issueId
  (id, { d with hub })

/-- A new queue with its reader and a first handle, both under one label. Without an identity of
the caller's choice the next one is handed out. -/
def create (d : Desk) (label name : String) (capacity : Nat) (id : Option ConnectionId) :
    ConnectionId × Desk :=
  let (key, hub) := d.hub.openQueue capacity
  let (id, hub) := match id with
    | some id => (id, hub)
    | none => hub.issueId
  let d := { d with hub }.replaceReader label key
  (id, { d with handles := d.handles.put label ⟨id, name, key⟩ })

/-- Moves a handle from its label into the registry; it is gone also when the registry refuses. -/
def register? (d : Desk) (label : String) : Option (Except RegistrationFault ConnectionId × Desk) :=
  (d.handles.get? label).map fun m =>
    let d := { d with handles := d.handles.erase label }
    match d.hub.register m with
    | .ok hub => (.ok m.id, { d with hub })
    | .error fault => (.error fault, d)

def copy? (d : Desk) (label target : String) : Option Desk :=
  (d.handles.get? label).map fun m => { d with handles := d.handles.put target m }

def discard (d : Desk) (label : String) : Bool × Desk :=
  ((d.handles.get? label).isSome, { d with handles := d.handles.erase label })

def unregister (d : Desk) (id : ConnectionId) : Bool × Desk :=
  let (removed, hub) := d.hub.unregister id
  (removed, { d with hub })

/-- A snapshot of the registry; it is kept if it gets a label. -/
def snapshot (d : Desk) (label : String) : List Member × Desk :=
  let members := d.hub.registry.members
  (members, if label.isEmpty then d else { d with snapshots := d.snapshots.put label members })

def dropSnapshot (d : Desk) (label : String) : Bool × Desk :=
  ((d.snapshots.get? label).isSome, { d with snapshots := d.snapshots.erase label })

def deliver (d : Desk) (m : Member) (text : String) : Except DeliveryFault Unit × Desk :=
  match d.hub.deliver m text with
  | .ok hub => (.ok (), { d with hub })
  | .error fault => (.error fault, d)

def deliverTo? (d : Desk) (label text : String) : Option (Except DeliveryFault Unit × Desk) :=
  (d.handles.get? label).map fun m => d.deliver m text

def deliverInSnapshot? (d : Desk) (label : String) (id : ConnectionId) (text : String) :
    Option (Except DeliveryFault Unit × Desk) :=
  ((d.snapshots.get? label).bind fun members => members.find? fun m => m.id == id).map fun m =>
    d.deliver m text

def broadcast (d : Desk) (message : Message) : Report × Desk :=
  let (hub, report) := d.hub.broadcast message
  (report, { d with hub })

def readOne (d : Desk) (key : QueueKey) : Reading × Desk :=
  match d.hub.take? key with
  | some (text, hub) => (.text text, { d with hub })
  | none => (if d.holds key then .empty else .closed, d)

/-- At most `n` reads, up to the first that yields no text. -/
def readMany (d : Desk) (key : QueueKey) : Nat → List Reading × Desk
  | 0 => ([], d)
  | n + 1 =>
    match d.readOne key with
    | (.text text, d) =>
      let (rest, d) := d.readMany key n
      (.text text :: rest, d)
    | (reading, d) => ([reading], d)

def read? (d : Desk) (label : String) (n : Nat) : Option (List Reading × Desk) :=
  (d.readers.get? label).map fun key => d.readMany key n

def dropReader (d : Desk) (label : String) : Bool × Desk :=
  match d.readers.get? label with
  | none => (false, d)
  | some key => (true, { d with hub := d.hub.dropReader key, readers := d.readers.erase label })

def endRegistry (d : Desk) : Nat × Desk :=
  let (removed, hub) := d.hub.endRegistry
  (removed, { d with hub })

end Desk

end ChatRelay
