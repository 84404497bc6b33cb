import ChatRelay.Broadcast
import ChatRelay.Proofs.Registry

/-!
# What the operations of the hub touch

Each operation changes a few parts of the hub and leaves the rest alone. Of the journal two things
are followed here: the story, which is what connections did and what was broadcast, and the texts
that each queue has accepted. Registrations are told by the registry itself.
-/

namespace ChatRelay

namespace Queue

def hasRoom (q : Queue) : Bool := q.hasReader && decide (q.pending.length < q.capacity)

def receive (text : String) (q : Queue) : Queue :=
  if q.hasRoom then { q with pending := q.pending ++ [text] } else q

theorem hasRoom_iff {q : Queue} :
    q.hasRoom = true ↔ q.hasReader = true ∧ q.pending.length < q.capacity := by
  simp [hasRoom]

theorem offer_of_room {q : Queue} (room : q.hasRoom = true) (text : String) :
    q.offer text = .ok (q.receive text) := by
  obtain ⟨reader, short⟩ := hasRoom_iff.mp room
  simp [offer, receive, room, reader, short]

theorem offer_of_noRoom {q : Queue} (full : q.hasRoom = false) (text : String) :
    ∃ fault, q.offer text = .error fault := by
  cases reader : q.hasReader with
  | false => exact ⟨.queueClosed, by simp [offer, reader]⟩
  | true =>
    have notShort : ¬ q.pending.length < q.capacity := by simpa [hasRoom, reader] using full
    exact ⟨.queueFull, by simp [offer, reader, notShort]⟩

end Queue

/-- An event that is a broadcast or concerns one connection alone. -/
def Event.isTold : Event → Bool
  | .broadcast .. => true
  | .connection .. => true
  | _ => false

def Event.acceptedBy? (key : QueueKey) : Event → Option String
  | .accepted queue text => if queue = key then some text else none
  | _ => none

namespace Hub

/-- The events of connections and the broadcasts, in the order of time. -/
def story (h : Hub) : List Event := (h.journal.reverse.map Entry.event).filter Event.isTold

/-- The texts that a queue has accepted, in the order of time. -/
def acceptedBy (h : Hub) (key : QueueKey) : List String :=
  (h.journal.reverse.map Entry.event).filterMap (Event.acceptedBy? key)

@[simp] theorem note_registry (h : Hub) (e : Event) : (h.note e).registry = h.registry := rfl

@[simp] theorem note_queues (h : Hub) (e : Event) : (h.note e).queues = h.queues := rfl

@[simp] theorem note_options (h : Hub) (e : Event) : (h.note e).options = h.options := rfl

@[simp] theorem note_now (h : Hub) (e : Event) : (h.note e).now = h.now := rfl

@[simp] theorem note_nextId (h : Hub) (e : Event) : (h.note e).nextId = h.nextId := rfl

theorem note_story (h : Hub) (e : Event) :
    (h.note e).story = h.story ++ [e].filter Event.isTold := by
  simp [story, note]

@[simp] theorem note_connection_story (h : Hub) (id : ConnectionId) (e : ConnectionEvent) :
    (h.note (.connection id e)).story = h.story ++ [.connection id e] := by
  simp [note_story, Event.isTold]

@[simp] theorem setGauge_registry (h : Hub) : h.setGauge.registry = h.registry := by
  unfold setGauge; split <;> rfl

@[simp] theorem setGauge_queues (h : Hub) : h.setGauge.queues = h.queues := by
  unfold setGauge; split <;> rfl

@[simp] theorem setGauge_options (h : Hub) : h.setGauge.options = h.options := by
  unfold setGauge; split <;> rfl

@[simp] theorem setGauge_now (h : Hub) : h.setGauge.now = h.now := by
  unfold setGauge; split <;> rfl

@[simp] theorem setGauge_nextId (h : Hub) : h.setGauge.nextId = h.nextId := by
  unfold setGauge; split <;> rfl

@[simp] theorem setGauge_story (h : Hub) : h.setGauge.story = h.story := by
  unfold setGauge; split <;> rfl

/-- What a successful registration does. -/
theorem register_eq_ok_iff {h h' : Hub} {m : Member} :
    h.register m = .ok h' ↔ ∃ registry, h.registry.register m = .ok registry ∧
      h' = { h with registry }.setGauge.note (.registered m.id m.name registry.size) := by
  cases done : h.registry.register m with
  | error fault => simp [register, done]
  | ok registry => simp [register, done, eq_comm]

theorem register_eq_error_iff {h : Hub} {m : Member} {fault : RegistrationFault} :
    h.register m = .error fault ↔ h.registry.register m = .error fault := by
  cases done : h.registry.register m with
  | error fault => simp [register, done]
  | ok registry => simp [register, done]

@[simp] theorem unregister_registry (h : Hub) (id : ConnectionId) :
    (h.unregister id).2.registry = h.registry.unregister id := by
  cases found : h.registry.find? id with
  | none => simp [unregister, found,
      Registry.unregister_of_absent (Registry.find?_eq_none_iff.mp found)]
  | some m => simp [unregister, found]

@[simp] theorem unregister_queues (h : Hub) (id : ConnectionId) :
    (h.unregister id).2.queues = h.queues := by
  cases found : h.registry.find? id <;> simp [unregister, found]

@[simp] theorem unregister_options (h : Hub) (id : ConnectionId) :
    (h.unregister id).2.options = h.options := by
  cases found : h.registry.find? id <;> simp [unregister, found]

@[simp] theorem unregister_now (h : Hub) (id : ConnectionId) :
    (h.unregister id).2.now = h.now := by
  cases found : h.registry.find? id <;> simp [unregister, found]

@[simp] theorem unregister_nextId (h : Hub) (id : ConnectionId) :
    (h.unregister id).2.nextId = h.nextId := by
  cases found : h.registry.find? id <;> simp [unregister, found]

@[simp] theorem unregister_story (h : Hub) (id : ConnectionId) :
    (h.unregister id).2.story = h.story := by
  cases found : h.registry.find? id with
  | none => simp [unregister, found]
  | some m =>
    simp only [unregister, found, note_story, setGauge_story]
    simp [Event.isTold, story]

@[simp] theorem endRegistry_registry (h : Hub) : h.endRegistry.2.registry = h.registry.close := by
  simp [endRegistry]

@[simp] theorem endRegistry_queues (h : Hub) : h.endRegistry.2.queues = h.queues := by
  simp [endRegistry]

@[simp] theorem endRegistry_options (h : Hub) : h.endRegistry.2.options = h.options := by
  simp [endRegistry]

@[simp] theorem endRegistry_now (h : Hub) : h.endRegistry.2.now = h.now := by
  simp [endRegistry]

@[simp] theorem endRegistry_nextId (h : Hub) : h.endRegistry.2.nextId = h.nextId := by
  simp [endRegistry]

@[simp] theorem endRegistry_story (h : Hub) : h.endRegistry.2.story = h.story := by
  simp only [endRegistry, note_story, setGauge_story]
  simp [Event.isTold, story]

@[simp] theorem dropReader_registry (h : Hub) (key : QueueKey) :
    (h.dropReader key).registry = h.registry := rfl

@[simp] theorem dropReader_queues (h : Hub) (key : QueueKey) :
    (h.dropReader key).queues = h.queues.modify key Queue.dropReader := rfl

@[simp] theorem dropReader_options (h : Hub) (key : QueueKey) :
    (h.dropReader key).options = h.options := rfl

@[simp] theorem dropReader_now (h : Hub) (key : QueueKey) : (h.dropReader key).now = h.now := rfl

@[simp] theorem dropReader_nextId (h : Hub) (key : QueueKey) :
    (h.dropReader key).nextId = h.nextId := rfl

@[simp] theorem dropReader_story (h : Hub) (key : QueueKey) :
    (h.dropReader key).story = h.story := rfl

def pending (h : Hub) (key : QueueKey) : List String := (h.queues[key]?).elim [] Queue.pending

theorem pending_of_queues {h h' : Hub} {key : QueueKey} (same : h'.queues[key]? = h.queues[key]?) :
    h'.pending key = h.pending key := by
  rw [pending, pending, same]

theorem note_acceptedBy (h : Hub) (e : Event) (key : QueueKey) :
    (h.note e).acceptedBy key = h.acceptedBy key ++ (e.acceptedBy? key).toList := by
  cases accepted : e.acceptedBy? key <;> simp [acceptedBy, note, accepted]

theorem note_acceptedBy_of_none (h : Hub) {e : Event} {key : QueueKey}
    (silent : e.acceptedBy? key = none) : (h.note e).acceptedBy key = h.acceptedBy key := by
  rw [note_acceptedBy, silent, Option.toList_none, List.append_nil]

@[simp] theorem withQueues_acceptedBy (h : Hub) (queues : Array Queue) (key : QueueKey) :
    { h with queues }.acceptedBy key = h.acceptedBy key := rfl

@[simp] theorem setGauge_acceptedBy (h : Hub) (key : QueueKey) :
    h.setGauge.acceptedBy key = h.acceptedBy key := by
  unfold setGauge
  split <;> rfl

theorem register_acceptedBy {h h' : Hub} {m : Member} (done : h.register m = .ok h')
    (key : QueueKey) : h'.acceptedBy key = h.acceptedBy key := by
  obtain ⟨registry, -, rfl⟩ := register_eq_ok_iff.mp done
  rw [note_acceptedBy_of_none _ rfl, setGauge_acceptedBy]
  rfl

@[simp] theorem unregister_acceptedBy (h : Hub) (id : ConnectionId) (key : QueueKey) :
    (h.unregister id).2.acceptedBy key = h.acceptedBy key := by
  cases found : h.registry.find? id with
  | none => simp [unregister, found]
  | some m =>
    simp only [unregister, found]
    rw [note_acceptedBy_of_none _ rfl, setGauge_acceptedBy]
    rfl

@[simp] theorem endRegistry_acceptedBy (h : Hub) (key : QueueKey) :
    h.endRegistry.2.acceptedBy key = h.acceptedBy key := by
  rw [endRegistry, note_acceptedBy_of_none _ rfl, setGauge_acceptedBy]
  rfl

@[simp] theorem dropReader_acceptedBy (h : Hub) (key k : QueueKey) :
    (h.dropReader key).acceptedBy k = h.acceptedBy k := rfl

/-- A delivery that succeeds changes one queue. -/
theorem eq_of_deliver_ok {h h' : Hub} {m : Member} {text : String}
    (done : h.deliver m text = .ok h') :
    ∃ q, h' = { h with queues := h.queues.setIfInBounds m.queue q }.note
      (.accepted m.queue text) := by
  cases found : h.queues[m.queue]? with
  | none => simp [deliver, found] at done
  | some q =>
    cases offered : q.offer text with
    | error fault => simp [deliver, found, offered] at done
    | ok q' => exact ⟨q', by simpa [deliver, found, offered, eq_comm] using done⟩

/-- A text that is read was the first one pending, and the others stay. -/
theorem take?_eq_some_iff {h h' : Hub} {key : QueueKey} {text : String} :
    h.take? key = some (text, h') ↔ ∃ q rest, h.queues[key]? = some q ∧ q.pending = text :: rest ∧
      h' = { h with queues := h.queues.setIfInBounds key { q with pending := rest } } := by
  cases hq : h.queues[key]? with
  | none => simp [take?, hq]
  | some q =>
    cases hp : q.pending with
    | nil => simp [take?, hq, Queue.take?, hp]
    | cons first rest =>
      simp only [take?, hq, Queue.take?, hp, Option.some.injEq, Prod.mk.injEq]
      constructor
      · rintro ⟨rfl, rfl⟩
        exact ⟨q, rest, rfl, hp, rfl⟩
      · rintro ⟨q', rest', rfl, same, rfl⟩
        simp_all

theorem take?_eq_none_iff {h : Hub} {key : QueueKey} :
    h.take? key = none ↔ h.pending key = [] := by
  rw [take?, pending]
  cases h.queues[key]? with
  | none => simp
  | some q => cases texts : q.pending <;> simp [Queue.take?, texts]

end Hub

end ChatRelay
