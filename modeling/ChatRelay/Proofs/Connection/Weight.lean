import ChatRelay.Proofs.Broadcast.Counts
import ChatRelay.Proofs.Connection.Timing
import ChatRelay.Relay.Schedule

/-!
# Every step makes lighter

A ready step of a task takes away more of its own weight than it adds to the queues: an inbound item
weighs more than the texts that it can become, a text in a queue more than the write that it
becomes, and a tick that is still to be seen more than the ping.
-/

namespace ChatRelay

theorem Clock.lt_deadline {length : Nat} (positive : 0 < length) (start : Nat) :
    start < deadline start length := by
  unfold deadline after? farFuture
  split <;> simp only [Option.getD_some, Option.getD_none] <;> omega

namespace Hub

theorem load_of_queues {h h' : Hub} (same : h'.queues = h.queues) : h'.load = h.load := by
  rw [load, load, same]

@[simp] theorem note_load (h : Hub) (e : Event) : (h.note e).load = h.load := rfl

@[simp] theorem unregister_load (h : Hub) (id : ConnectionId) :
    (h.unregister id).2.load = h.load :=
  load_of_queues (unregister_queues h id)

theorem register_load {h h' : Hub} {m : Member} (done : h.register m = .ok h') :
    h'.load = h.load := by
  obtain ⟨registry, -, rfl⟩ := register_eq_ok_iff.mp done
  exact load_of_queues (by simp)

theorem dropReader_load_le (h : Hub) (key : QueueKey) : (h.dropReader key).load ≤ h.load := by
  cases here : h.queues[key]? with
  | none => exact Nat.le_of_eq (load_of_queues (Connection.modify_of_none here _))
  | some q =>
    have dropped : (h.dropReader key).queues = h.queues.setIfInBounds key q.dropReader :=
      Connection.modify_of_some here _
    have replaced := sum_set (fun q => q.pending.length) here q.dropReader
    have empty : q.dropReader.pending.length = 0 := rfl
    rw [load, dropped, load]
    omega

theorem take?_load {h h' : Hub} {key : QueueKey} {text : String}
    (taken : h.take? key = some (text, h')) : h'.load + 1 = h.load := by
  obtain ⟨q, rest, here, pending, rfl⟩ := take?_eq_some_iff.mp taken
  have replaced := sum_set (fun q => q.pending.length) here { q with pending := rest }
  simp only [pending, List.length_cons] at replaced
  simp only [load]
  omega

/-- A broadcast puts no more texts into queues than there are members. -/
theorem broadcast_load_le (h : Hub) (message : Message) :
    (h.broadcast message).1.load ≤ h.load + h.registry.size := by
  have counted := broadcast_counted h message
  have most : (recipients h.registry.members message.sender).length ≤ h.registry.size :=
    List.length_filter_le _ _
  rw [broadcast_load]
  omega

end Hub

namespace Connection

def weight (item now : Nat) (c : Connection) : Nat :=
  item * c.transport.inbound.length + c.phase.weight + 4 * c.phase.ticksLeft now

section Pieces

variable (config : RelayConfig) (c : Connection) (hub : Hub) (key : QueueKey)

@[simp] theorem noteAll_load (events : List ConnectionEvent) :
    (c.noteAll hub events).load = hub.load :=
  Hub.load_of_queues (noteAll_queues c hub events)

theorem wrapUp_load_le (result : Option ConnectionFault) :
    (c.wrapUp config hub key result).1.load ≤ hub.load :=
  Hub.dropReader_load_le hub key

theorem die_load_le (outcome : Outcome) : (c.die hub key outcome).1.load ≤ hub.load := by
  unfold die
  split
  · exact Nat.le_trans (Hub.dropReader_load_le _ key) (Nat.le_of_eq (Hub.unregister_load _ _))
  · exact Hub.dropReader_load_le hub key

end Pieces

section Steps

variable {config : RelayConfig} {s : Surroundings} {c : Connection} {hub : Hub} {key : QueueKey}

theorem GivingUp.inbound {b : Branch} {meters : Meters} {c' : Connection}
    {remarks : List ConnectionEvent} {result : Option ConnectionFault}
    (h : GivingUp config s c hub key b meters c' remarks result) :
    c'.transport.inbound.length ≤ c.transport.inbound.length := by
  cases h <;> simp_all [reading]

theorem Leaving.inbound {b : Branch} {c' : Connection} {remarks : List ConnectionEvent}
    {result : Option ConnectionFault} (h : Leaving config s c hub key b c' remarks result) :
    c'.transport.inbound.length ≤ c.transport.inbound.length := by
  cases h <;> simp_all [reading]

/-- The tick after one that is seen is still to come, or is one of fewer. -/
theorem ticksLeft_next {session : Session} {now period : Nat} (due : session.tick ≤ now)
    (positive : 0 < period) :
    { session with tick := nextTick session.tick now period }.ticksLeft now <
      session.ticksLeft now := by
  have next : now < nextTick session.tick now period ∨
      session.tick < nextTick session.tick now period ∧ now ≤ session.tick + tickTolerance := by
    unfold nextTick
    split
    · exact Or.inr ⟨Clock.lt_deadline positive _, ‹_›⟩
    · exact Or.inl (Clock.lt_deadline positive _)
  generalize nextTick session.tick now period = tick at next
  simp only [Session.ticksLeft]
  split_ifs <;> omega

theorem weight_of_serving {phase : Phase} (h : phase.isServing = true) : 3 ≤ phase.weight := by
  cases phase with
  | active => exact Nat.le_refl 3
  | writing session write =>
    simp only [Phase.weight]
    split <;> omega
  | _ => cases h

/-- What the phase has before it, its ticks included. -/
def Phase.load (now : Nat) (phase : Phase) : Nat := phase.weight + 4 * phase.ticksLeft now

theorem weight_eq (item now : Nat) (c : Connection) :
    c.weight item now = item * c.transport.inbound.length + Phase.load now c.phase :=
  Nat.add_assoc _ _ _

section Compare

variable {next : Hub × Connection} {item now : Nat}

/-- The task goes on without reading. -/
theorem lighter_of_phase (load : next.1.load ≤ hub.load)
    (inbound : next.2.transport.inbound.length ≤ c.transport.inbound.length)
    (phase : Phase.load now next.2.phase < Phase.load now c.phase) :
    next.2.weight item now + 4 * next.1.load < c.weight item now + 4 * hub.load := by
  have items := Nat.mul_le_mul_left item inbound
  rw [weight_eq, weight_eq]
  omega

/-- The task reads an item, and puts no more texts into queues than the item weighs. -/
theorem lighter_of_read {read : Inbound} {rest : List Inbound}
    (inbound : c.transport.inbound = read :: rest) (left : next.2.transport.inbound = rest)
    (load : 4 * next.1.load < 4 * hub.load + item)
    (phase : Phase.load now next.2.phase ≤ Phase.load now c.phase) :
    next.2.weight item now + 4 * next.1.load < c.weight item now + 4 * hub.load := by
  have items : item * c.transport.inbound.length = item * rest.length + item := by
    rw [inbound, List.length_cons, Nat.mul_succ]
  rw [weight_eq, weight_eq, items, left]
  omega

end Compare

/-- Every ready step of a task takes weight away, whatever it puts into the queues. -/
theorem Transition.lighter {b : Branch} {next : Hub × Connection}
    (h : Transition config s c hub key b next) (ready : c.ready s b = true)
    (clock : s.now = hub.now) {size : Nat} (few : hub.registry.size ≤ size) :
    next.2.weight (4 * size + 1) hub.now + 4 * next.1.load <
      c.weight (4 * size + 1) hub.now + 4 * hub.load := by
  cases h with
  | start phase =>
    refine lighter_of_phase (Nat.le_refl _) (Nat.le_refl _) ?_
    rw [phase]
    exact Nat.lt_succ_self 4
  | ignore phase inbound =>
    exact lighter_of_read inbound rfl (by simp only [note, Hub.note_load]; omega) (Nat.le_refl _)
  | giveUp phase reason =>
    refine lighter_of_phase (Nat.le_trans (wrapUp_load_le _ _ _ _ _) ?_) reason.inbound ?_
    · rw [noteAll_load]
      exact Nat.le_refl _
    · rw [phase]
      exact (by decide : 2 < 4)
  | @enter deadline name rest hub' tick phase inbound small registered scheduled =>
    have load : hub'.load = hub.load := (Hub.register_load registered).trans (noteAll_load _ _ _)
    have later : hub'.now < tick := by
      rw [Clock.eq_deadline_of_after scheduled]
      exact Clock.lt_deadline config.period_pos _
    have now : hub'.now = hub.now := by
      obtain ⟨registry, -, rfl⟩ := Hub.register_eq_ok_iff.mp registered
      simp
    refine lighter_of_read inbound rfl (by simp only [note, Hub.note_load]; omega) ?_
    simp [Phase.load, phase, Phase.weight, Phase.ticksLeft, Session.ticksLeft, now ▸ later]
  | @enterLate deadline name rest hub' phase inbound small registered late =>
    have load : hub'.load = hub.load := (Hub.register_load registered).trans (noteAll_load _ _ _)
    have died := die_load_le { c.reading rest with phase := .active ⟨name, hub'.now, hub'.now⟩ }
      (c.note hub' (.moved .handshake .active)) key .panicked
    simp only [note, Hub.note_load] at died
    refine lighter_of_read inbound rfl ?_ (Nat.zero_le _)
    simp only [note]
    omega
  | @tooLarge deadline name rest phase inbound large =>
    have died := die_load_le (c.reading rest)
      (c.noteAll hub [.consumed (.text name), .named name]) key .panicked
    rw [noteAll_load] at died
    exact lighter_of_read inbound rfl (by omega) (Nat.zero_le _)
  | @line session text rest phase inbound =>
    have loaded := Hub.broadcast_load_le
      (c.noteAll hub [.consumed (.text text), .received text.utf8ByteSize])
      ⟨c.id, session.name, text⟩
    rw [noteAll_load, noteAll_registry] at loaded
    refine lighter_of_read inbound rfl ?_ ?_
    · dsimp only
      omega
    · rw [phase]
      exact Nat.le_refl _
  | sign phase inbound =>
    refine lighter_of_read inbound rfl (by simp only [note, Hub.note_load]; omega) ?_
    rw [phase]
    exact Nat.le_refl _
  | drop phase inbound =>
    exact lighter_of_read inbound rfl (by simp only [note, Hub.note_load]; omega) (Nat.le_refl _)
  | @take session text hub' phase taken =>
    have load := Hub.take?_load taken
    simp only [weight_eq, prepare, note, Hub.note_load, phase, Phase.load, Phase.weight,
      Phase.ticksLeft]
    rw [if_neg Bool.false_ne_true]
    omega
  | @ping session phase due heard =>
    have fewer := ticksLeft_next (clock ▸ due) config.period_pos
    refine lighter_of_phase (Nat.le_refl _) (Nat.le_refl _) ?_
    simp only [prepare, phase, Phase.load, Phase.weight, Phase.ticksLeft]
    rw [if_neg Bool.false_ne_true]
    omega
  | @written session write phase mode =>
    refine lighter_of_phase (Nat.le_of_eq (noteAll_load _ _ _)) (Nat.le_refl _) ?_
    simp only [phase, Phase.load, Phase.weight, Phase.ticksLeft]
    split <;> omega
  | @hang session write phase mode =>
    have new : write.begun = false := by simpa [Connection.ready, phase, mode] using ready
    refine lighter_of_phase (Nat.le_of_eq (noteAll_load _ _ _)) (Nat.le_refl _) ?_
    simp [phase, Phase.load, Phase.weight, Phase.ticksLeft, new]
  | @leave b c' remarks result reason =>
    have serving := weight_of_serving reason.serving.1
    refine lighter_of_phase (Nat.le_trans (wrapUp_load_le _ _ _ _ _) ?_) reason.inbound ?_
    · rw [Hub.unregister_load, noteAll_load]
    · have before : 3 ≤ Phase.load hub.now c.phase := Nat.le_trans serving (Nat.le_add_right _ _)
      exact Nat.lt_of_lt_of_le (Nat.lt_succ_self 2) before
  | @closeHang result begun deadline phase mode =>
    have new : begun = false := by simpa [Connection.ready, phase, mode] using ready
    refine lighter_of_phase (Nat.le_of_eq (noteAll_load _ _ _)) (Nat.le_refl _) ?_
    simp [phase, Phase.load, Phase.weight, Phase.ticksLeft, new]
  | @conclude result begun deadline b remarks phase closed =>
    refine lighter_of_phase (Nat.le_of_eq (noteAll_load _ _ _)) (Nat.le_refl _) ?_
    simp only [phase, Phase.load, Phase.weight, Phase.ticksLeft, conclude_phase]
    split <;> omega

end Steps

end Connection

end ChatRelay
