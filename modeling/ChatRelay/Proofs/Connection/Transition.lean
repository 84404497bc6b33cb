import ChatRelay.Connection.Task
import ChatRelay.Proofs.Hub

/-!
# What a step of a task can do

A ready step of a task is one of a few transitions, and each comes with its guards. The reasons to
turn to closing are listed apart, since what follows is the same for all of them: those of a task in
the handshake, which has no registration, and those of one that is registered.
-/

namespace ChatRelay

/-- What is noted when the transport is asked for a write: a write that hung is not noted again. -/
def Write.announcement (w : Write) : List ConnectionEvent :=
  if w.begun then [] else [.writeBegun w.item]

namespace Connection

def noteAll (c : Connection) (hub : Hub) (events : List ConnectionEvent) : Hub :=
  events.foldl c.note hub

section NoteAll

variable (c : Connection) (hub : Hub) (events : List ConnectionEvent)

@[simp] theorem noteAll_registry : (c.noteAll hub events).registry = hub.registry := by
  induction events generalizing hub with
  | nil => rfl
  | cons e rest ih => exact ih (c.note hub e)

@[simp] theorem noteAll_queues : (c.noteAll hub events).queues = hub.queues := by
  induction events generalizing hub with
  | nil => rfl
  | cons e rest ih => exact ih (c.note hub e)

@[simp] theorem noteAll_options : (c.noteAll hub events).options = hub.options := by
  induction events generalizing hub with
  | nil => rfl
  | cons e rest ih => exact ih (c.note hub e)

@[simp] theorem noteAll_now : (c.noteAll hub events).now = hub.now := by
  induction events generalizing hub with
  | nil => rfl
  | cons e rest ih => exact ih (c.note hub e)

@[simp] theorem noteAll_nextId : (c.noteAll hub events).nextId = hub.nextId := by
  induction events generalizing hub with
  | nil => rfl
  | cons e rest ih => exact ih (c.note hub e)

@[simp] theorem noteAll_acceptedBy (key : QueueKey) :
    (c.noteAll hub events).acceptedBy key = hub.acceptedBy key := by
  induction events generalizing hub with
  | nil => rfl
  | cons e rest ih => exact (ih (c.note hub e)).trans (Hub.note_acceptedBy_of_none hub rfl)

@[simp] theorem noteAll_story :
    (c.noteAll hub events).story = hub.story ++ events.map (Event.connection c.id) := by
  induction events generalizing hub with
  | nil => simp [noteAll]
  | cons e rest ih =>
    rw [noteAll, List.foldl_cons, ← noteAll, ih, note, Hub.note_connection_story]
    simp

end NoteAll

def reading (c : Connection) (rest : List Inbound) : Connection :=
  { c with transport := { c.transport with inbound := rest } }

/-- Why a task gives up its handshake: the meters, the transport, what is noted and the result. -/
inductive GivingUp (config : RelayConfig) (s : Surroundings) (c : Connection) (hub : Hub)
    (key : QueueKey) :
    Branch → Meters → Connection → List ConnectionEvent → Option ConnectionFault → Prop where
  | readFailed {fault rest} (inbound : c.transport.inbound = .fault fault :: rest) :
      GivingUp config s c hub key .read hub.meters (c.reading rest) [.consumed (.fault fault)]
        (some (.readFailed fault))
  | hungUp {rest} (inbound : c.transport.inbound = .streamEnd :: rest) :
      GivingUp config s c hub key .read hub.meters (c.reading rest)
        [.consumed .streamEnd, .leftBeforeName] none
  | refused {name rest fault} (inbound : c.transport.inbound = .text name :: rest)
      (small : config.queueCapacity ≤ Queue.maxCapacity)
      (refused : hub.registry.register ⟨c.id, name, key⟩ = .error fault) :
      GivingUp config s c hub key .read hub.meters (c.reading rest)
        [.consumed (.text name), .named name] (some (.refused fault))
  | overdue {deadline} (phase : c.phase = .handshake deadline) (silent : c.transport.inbound = [])
      (late : deadline ≤ s.now) :
      GivingUp config s c hub key .handshakeDeadline (hub.meters.increase .handshakeTimeouts 1) c []
        (some .handshakeTimeout)
  | shutdown (shutdown : s.shutdown = true) :
      GivingUp config s c hub key .shutdown hub.meters c [.shutdownInHandshake] none

inductive Leaving (config : RelayConfig) (s : Surroundings) (c : Connection) (hub : Hub)
    (key : QueueKey) :
    Branch → Connection → List ConnectionEvent → Option ConnectionFault → Prop where
  | readFailed {session fault rest} (phase : c.phase = .active session)
      (inbound : c.transport.inbound = .fault fault :: rest) :
      Leaving config s c hub key .read (c.reading rest) [.consumed (.fault fault)]
        (some (.readFailed fault))
  | hungUp {session rest} (phase : c.phase = .active session)
      (inbound : c.transport.inbound = .streamEnd :: rest) :
      Leaving config s c hub key .read (c.reading rest) [.consumed .streamEnd, .left] none
  | queueEnded {session} (phase : c.phase = .active session) (empty : hub.take? key = none)
      (noticed : s.hasPending = true ∨ s.queueHeld = false) :
      Leaving config s c hub key .take c [] (if hub.registry.ended then none else some .removed)
  | silent {session} (phase : c.phase = .active session) (due : session.tick ≤ s.now)
      (silent : config.idleTimeout < hub.now - session.lastSeen) :
      Leaving config s c hub key .tick c [] (some .idleTimeout)
  | shutdownWhenIdle {session} (phase : c.phase = .active session) (shutdown : s.shutdown = true) :
      Leaving config s c hub key .shutdown c [.shutdownWhenIdle] none
  | shutdownInWrite {session write} (phase : c.phase = .writing session write)
      (shutdown : s.shutdown = true) :
      Leaving config s c hub key .shutdown c [.shutdownInWrite] none
  | writeFailed {session write fault} (phase : c.phase = .writing session write)
      (mode : c.transport.mode write.item = .fails fault) :
      Leaving config s c hub key .write c
        (write.announcement ++ [.writeFailed write.item (.reported fault)])
        (some (.writeFailed (.reported fault)))
  | writeOverdue {session write} (phase : c.phase = .writing session write)
      (begun : write.begun = true) (mode : c.transport.mode write.item = .hangs)
      (late : write.deadline ≤ s.now) :
      Leaving config s c hub key .writeDeadline c
        [.writeFailed write.item (.overdue config.writeTimeout)]
        (some (.writeFailed (.overdue config.writeTimeout)))

/-- How a task ends its closing, and what is noted of it. -/
inductive Closed (s : Surroundings) (c : Connection) (begun : Bool) (deadline : Nat) :
    Branch → List ConnectionEvent → Prop where
  | done (mode : c.transport.closing = .ok) :
      Closed s c begun deadline .close ((if begun then [] else [.closeBegun]) ++ [.closed])
  | failed {fault} (mode : c.transport.closing = .fails fault) :
      Closed s c begun deadline .close ((if begun then [] else [.closeBegun]) ++ [.closeFailed])
  | overdue (asked : begun = true) (mode : c.transport.closing = .hangs)
      (late : deadline ≤ s.now) : Closed s c begun deadline .closeDeadline [.closeOverdue]

/-- The transitions of a task, by the step that it takes: what becomes of hub and connection. -/
inductive Transition (config : RelayConfig) (s : Surroundings) (c : Connection) (hub : Hub)
    (key : QueueKey) : Branch → Hub × Connection → Prop where
  | start (phase : c.phase = .connecting) :
      Transition config s c hub key .start (c.move (c.note hub (.began c.peer))
        (.handshake (Clock.deadline hub.now config.handshakeTimeout)))
  | ignore {deadline item rest} (phase : c.phase = .handshake deadline)
      (inbound : c.transport.inbound = item :: rest)
      (wordless : item = .lifeSign ∨ ∃ size, item = .binary size) :
      Transition config s c hub key .read (c.note hub (.consumed item), c.reading rest)
  | giveUp {deadline b meters c' remarks result} (phase : c.phase = .handshake deadline)
      (reason : GivingUp config s c hub key b meters c' remarks result) :
      Transition config s c hub key b
        (c'.wrapUp config (c.noteAll { hub with meters } remarks) key result)
  | enter {deadline name rest hub' tick} (phase : c.phase = .handshake deadline)
      (inbound : c.transport.inbound = .text name :: rest)
      (small : config.queueCapacity ≤ Queue.maxCapacity)
      (registered : (c.noteAll hub [.consumed (.text name), .named name]).register
        ⟨c.id, name, key⟩ = .ok hub')
      (scheduled : Clock.after? hub'.now config.period = some tick) :
      Transition config s c hub key .read (c.note hub' (.moved .handshake .active),
        { c.reading rest with phase := .active ⟨name, hub'.now, tick⟩ })
  /-- The first ping cannot be scheduled: the task panics, registered as it is. -/
  | enterLate {deadline name rest hub'} (phase : c.phase = .handshake deadline)
      (inbound : c.transport.inbound = .text name :: rest)
      (small : config.queueCapacity ≤ Queue.maxCapacity)
      (registered : (c.noteAll hub [.consumed (.text name), .named name]).register
        ⟨c.id, name, key⟩ = .ok hub')
      (late : Clock.after? hub'.now config.period = none) :
      Transition config s c hub key .read
        ({ c.reading rest with phase := .active ⟨name, hub'.now, hub'.now⟩ }.die
          (c.note hub' (.moved .handshake .active)) key .panicked)
  /-- The queue cannot be made: the task panics. -/
  | tooLarge {deadline name rest} (phase : c.phase = .handshake deadline)
      (inbound : c.transport.inbound = .text name :: rest)
      (large : Queue.maxCapacity < config.queueCapacity) :
      Transition config s c hub key .read ((c.reading rest).die
        (c.noteAll hub [.consumed (.text name), .named name]) key .panicked)
  | line {session text rest} (phase : c.phase = .active session)
      (inbound : c.transport.inbound = .text text :: rest) :
      Transition config s c hub key .read
        (((c.noteAll hub [.consumed (.text text), .received text.utf8ByteSize]).broadcast
          ⟨c.id, session.name, text⟩).1,
        { c.reading rest with phase := .active { session with lastSeen := hub.now } })
  | sign {session rest} (phase : c.phase = .active session)
      (inbound : c.transport.inbound = .lifeSign :: rest) :
      Transition config s c hub key .read (c.note hub (.consumed .lifeSign),
        { c.reading rest with phase := .active { session with lastSeen := hub.now } })
  | drop {session size rest} (phase : c.phase = .active session)
      (inbound : c.transport.inbound = .binary size :: rest) :
      Transition config s c hub key .read (c.note hub (.consumed (.binary size)), c.reading rest)
  | take {session text hub'} (phase : c.phase = .active session)
      (taken : hub.take? key = some (text, hub')) :
      Transition config s c hub key .take
        (c.prepare config (c.note hub' (.taken text)) session (.text text))
  | ping {session} (phase : c.phase = .active session) (due : session.tick ≤ s.now)
      (heard : hub.now - session.lastSeen ≤ config.idleTimeout) :
      Transition config s c hub key .tick (c.prepare config hub
        { session with tick := nextTick session.tick hub.now config.period } .ping)
  | written {session write} (phase : c.phase = .writing session write)
      (mode : c.transport.mode write.item = .ok) :
      Transition config s c hub key .write
        (c.noteAll hub (write.announcement ++ [.written write.item]),
        { c with phase := .active session })
  | hang {session write} (phase : c.phase = .writing session write)
      (mode : c.transport.mode write.item = .hangs) :
      Transition config s c hub key .write (c.noteAll hub write.announcement,
        { c with phase := .writing session { write with begun := true } })
  | leave {b c' remarks result} (reason : Leaving config s c hub key b c' remarks result) :
      Transition config s c hub key b (c'.leave config (c.noteAll hub remarks) key result)
  | closeHang {result begun deadline} (phase : c.phase = .closing result begun deadline)
      (mode : c.transport.closing = .hangs) :
      Transition config s c hub key .close (c.noteAll hub (if begun then [] else [.closeBegun]),
        { c with phase := .closing result true deadline })
  | conclude {result begun deadline b remarks} (phase : c.phase = .closing result begun deadline)
      (closed : Closed s c begun deadline b remarks) :
      Transition config s c hub key b (c.conclude (c.noteAll hub remarks) (.returned result))

section Perform

variable {config : RelayConfig} {s : Surroundings} {c : Connection} {hub : Hub} {key : QueueKey}

theorem introduce_transition {deadline : Nat} {name : String} {rest : List Inbound}
    (phase : c.phase = .handshake deadline) (inbound : c.transport.inbound = .text name :: rest) :
    Transition config s c hub key .read
      ((c.reading rest).introduce config (c.note hub (.consumed (.text name))) key name) := by
  have noted : (c.reading rest).note (c.note hub (.consumed (.text name))) (.named name) =
      c.noteAll hub [.consumed (.text name), .named name] := rfl
  unfold introduce
  dsimp only
  rw [noted]
  by_cases large : Queue.maxCapacity < config.queueCapacity
  · rw [if_pos large]
    exact .tooLarge phase inbound large
  · rw [if_neg large]
    have small : config.queueCapacity ≤ Queue.maxCapacity := by omega
    have same : (c.reading rest).id = c.id := rfl
    rw [same]
    cases registered : (c.noteAll hub [.consumed (.text name), .named name]).register
        ⟨c.id, name, key⟩ with
    | error fault =>
      have refused : hub.registry.register ⟨c.id, name, key⟩ = .error fault := by
        simpa using Hub.register_eq_error_iff.mp registered
      exact .giveUp phase (.refused inbound small refused)
    | ok hub' =>
      have moved : (c.reading rest).move hub' (.active ⟨name, hub'.now, hub'.now⟩) =
          (c.note hub' (.moved .handshake .active),
            { c.reading rest with phase := .active ⟨name, hub'.now, hub'.now⟩ }) := by
        simp [move, note, reading, phase, Phase.stage]
      simp only [activate, moved]
      cases scheduled : Clock.after? hub'.now config.period with
      | none => exact .enterLate phase inbound small registered scheduled
      | some tick => exact .enter phase inbound small registered scheduled

theorem read_of_handshake {deadline : Nat} {item : Inbound} {rest : List Inbound}
    (phase : c.phase = .handshake deadline) (inbound : c.transport.inbound = item :: rest) :
    c.read config hub key =
      (c.reading rest).readName config (c.note hub (.consumed item)) key item := by
  obtain ⟨id, peer, transport, _, holdsSlot⟩ := c
  dsimp only at phase inbound
  subst phase
  simp only [read, inbound]
  rfl

theorem read_of_active {session : Session} {item : Inbound} {rest : List Inbound}
    (phase : c.phase = .active session) (inbound : c.transport.inbound = item :: rest) :
    c.read config hub key =
      (c.reading rest).readLine config (c.note hub (.consumed item)) key session item := by
  obtain ⟨id, peer, transport, _, holdsSlot⟩ := c
  dsimp only at phase inbound
  subst phase
  simp only [read, inbound]
  rfl

theorem read_transition (ready : c.ready s .read = true) :
    Transition config s c hub key .read (c.read config hub key) := by
  cases inbound : c.transport.inbound with
  | nil => cases phase : c.phase <;> simp [Connection.ready, phase, inbound] at ready
  | cons item rest =>
    cases phase : c.phase with
    | handshake deadline =>
      rw [read_of_handshake phase inbound]
      cases item with
      | text name => exact introduce_transition phase inbound
      | lifeSign => exact .ignore phase inbound (Or.inl rfl)
      | binary size => exact .ignore phase inbound (Or.inr ⟨size, rfl⟩)
      | fault fault => exact .giveUp phase (.readFailed inbound)
      | streamEnd => exact .giveUp phase (.hungUp inbound)
    | active session =>
      rw [read_of_active phase inbound]
      cases item with
      | text text => exact .line phase inbound
      | lifeSign => exact .sign phase inbound
      | binary size => exact .drop phase inbound
      | fault fault => exact .leave (.readFailed phase inbound)
      | streamEnd => exact .leave (.hungUp phase inbound)
    | connecting => simp [Connection.ready, phase] at ready
    | writing session write => simp [Connection.ready, phase] at ready
    | closing result begun deadline => simp [Connection.ready, phase] at ready
    | ended outcome => simp [Connection.ready, phase] at ready

theorem attemptWrite_transition {session : Session} {write : Write}
    (phase : c.phase = .writing session write) :
    Transition config s c hub key .write (c.attemptWrite config hub key session write) := by
  have announced : (if write.begun then hub else c.note hub (.writeBegun write.item)) =
      c.noteAll hub write.announcement := by
    cases begun : write.begun <;> simp [Write.announcement, noteAll, begun]
  unfold attemptWrite
  dsimp only
  rw [announced]
  cases mode : c.transport.mode write.item with
  | ok => simpa [noteAll] using Transition.written phase mode
  | fails fault => simpa [noteAll] using Transition.leave (.writeFailed phase mode)
  | hangs => exact .hang phase mode

theorem attemptClose_transition {result : Option ConnectionFault} {begun : Bool} {deadline : Nat}
    (phase : c.phase = .closing result begun deadline) :
    Transition config s c hub key .close (c.attemptClose hub result begun deadline) := by
  have announced : (if begun then hub else c.note hub .closeBegun) =
      c.noteAll hub (if begun then [] else [.closeBegun]) := by
    cases begun <;> rfl
  unfold attemptClose
  dsimp only
  rw [announced]
  cases mode : c.transport.closing with
  | ok => simpa [noteAll] using Transition.conclude phase (.done mode)
  | fails fault => simpa [noteAll] using Transition.conclude phase (.failed mode)
  | hangs => exact .closeHang phase mode

/-- Every ready step is a transition. -/
theorem perform_transition (b : Branch) (ready : c.ready s b = true) :
    Transition config s c hub key b (c.perform config hub key b) := by
  cases b with
  | start =>
    have phase : c.phase = .connecting := by simpa [Connection.ready] using ready
    simp only [perform, phase]
    exact .start phase
  | read => exact read_transition ready
  | handshakeDeadline =>
    cases phase : c.phase with
    | handshake deadline =>
      simp only [Connection.ready, phase, Bool.and_eq_true, decide_eq_true_eq,
        List.isEmpty_iff] at ready
      simp only [perform, phase]
      exact .giveUp phase (.overdue phase ready.1 ready.2)
    | _ => simp [Connection.ready, phase] at ready
  | take =>
    cases phase : c.phase with
    | active session =>
      simp only [perform, phase, take]
      cases taken : hub.take? key with
      | none =>
        have noticed : s.hasPending = true ∨ s.queueHeld = false := by
          simpa [Connection.ready, phase] using ready
        exact .leave (.queueEnded phase taken noticed)
      | some next => exact .take phase taken
    | _ => simp [Connection.ready, phase] at ready
  | tick =>
    cases phase : c.phase with
    | active session =>
      have due : session.tick ≤ s.now := by simpa [Connection.ready, phase] using ready
      simp only [perform, phase, handleTick]
      split
      · rename_i silent
        exact .leave (.silent phase due silent)
      · rename_i heard
        exact .ping phase due (by omega)
    | _ => simp [Connection.ready, phase] at ready
  | shutdown =>
    have shutdown : s.shutdown = true := by
      simp only [Connection.ready, Bool.and_eq_true] at ready
      exact ready.1
    cases phase : c.phase with
    | handshake deadline =>
      simp only [perform, phase]
      exact .giveUp phase (.shutdown shutdown)
    | active session =>
      simp only [perform, phase]
      exact .leave (.shutdownWhenIdle phase shutdown)
    | writing session write =>
      simp only [perform, phase]
      exact .leave (.shutdownInWrite phase shutdown)
    | _ => simp [Connection.ready, phase] at ready
  | write =>
    cases phase : c.phase with
    | writing session write =>
      simp only [perform, phase]
      exact attemptWrite_transition phase
    | _ => simp [Connection.ready, phase] at ready
  | writeDeadline =>
    cases phase : c.phase with
    | writing session write =>
      simp only [Connection.ready, phase, Bool.and_eq_true, beq_iff_eq, decide_eq_true_eq] at ready
      simp only [perform, phase]
      exact .leave (.writeOverdue phase ready.1.1 ready.1.2 ready.2)
    | _ => simp [Connection.ready, phase] at ready
  | close =>
    cases phase : c.phase with
    | closing result begun deadline =>
      simp only [perform, phase]
      exact attemptClose_transition phase
    | _ => simp [Connection.ready, phase] at ready
  | closeDeadline =>
    cases phase : c.phase with
    | closing result begun deadline =>
      simp only [Connection.ready, phase, Bool.and_eq_true, beq_iff_eq, decide_eq_true_eq] at ready
      simp only [perform, phase]
      exact .conclude phase (.overdue ready.1.1 ready.1.2 ready.2)
    | _ => simp [Connection.ready, phase] at ready

end Perform

end Connection

end ChatRelay
