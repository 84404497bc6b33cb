import ChatRelay.Proofs.Connection.Intake
import ChatRelay.Proofs.Connection.Parting

/-!
# What decides a handshake

A handshake is decided by the first text, by a fault of the transport or the end of the stream, by
the shutdown signal or by its deadline. Whatever else is read in it changes neither what the task
waits for nor until when.
-/

namespace ChatRelay

namespace Clock

theorem le_deadline (now length : Nat) : now ≤ deadline now length := by
  unfold deadline after?
  split <;> simp

/-- A deadline that an instant can express comes after its length of time. -/
theorem deadline_eq {now length : Nat} (readable : now + length ≤ last) :
    deadline now length = now + length := by
  simp [deadline, after?, readable]

end Clock

def Inbound.decides : Inbound → Bool
  | .text _ => true
  | item => item.isEnd

theorem Inbound.decides_eq_false {item : Inbound} (wordless : item.text? = none)
    (goes : item.isEnd = false) : item.decides = false := by
  cases item with
  | text => cases wordless
  | _ => exact goes

namespace Connection

/-- What decides a handshake: the step of the task, what it reads with it, and where it stands then.
A text is the name under which the registration is tried. -/
inductive Decision (config : RelayConfig) (s : Surroundings) (c : Connection) (hub : Hub)
    (key : QueueKey) : Branch → Option Inbound → Phase → Prop where
  | registered {name registry tick} (small : config.queueCapacity ≤ Queue.maxCapacity)
      (done : hub.registry.register ⟨c.id, name, key⟩ = .ok registry)
      (scheduled : Clock.after? hub.now config.period = some tick) :
      Decision config s c hub key .read (some (.text name)) (.active ⟨name, hub.now, tick⟩)
  | refused {name fault} (small : config.queueCapacity ≤ Queue.maxCapacity)
      (refused : hub.registry.register ⟨c.id, name, key⟩ = .error fault) :
      Decision config s c hub key .read (some (.text name))
        (.closing (some (.refused fault)) false (Clock.deadline hub.now config.writeTimeout))
  /-- No instant can express the first ping of the registered connection. -/
  | unscheduled {name registry} (small : config.queueCapacity ≤ Queue.maxCapacity)
      (done : hub.registry.register ⟨c.id, name, key⟩ = .ok registry)
      (late : Clock.after? hub.now config.period = none) :
      Decision config s c hub key .read (some (.text name)) (.ended .panicked)
  /-- There is no queue with which the connection could be registered. -/
  | tooLarge {name} (large : Queue.maxCapacity < config.queueCapacity) :
      Decision config s c hub key .read (some (.text name)) (.ended .panicked)
  | readFailed {fault} : Decision config s c hub key .read (some (.fault fault))
      (.closing (some (.readFailed fault)) false (Clock.deadline hub.now config.writeTimeout))
  | hungUp : Decision config s c hub key .read (some .streamEnd)
      (.closing none false (Clock.deadline hub.now config.writeTimeout))
  | shutdown (set : s.shutdown = true) : Decision config s c hub key .shutdown none
      (.closing none false (Clock.deadline hub.now config.writeTimeout))
  | overdue {deadline} (phase : c.phase = .handshake deadline) (silent : c.transport.inbound = [])
      (late : deadline ≤ s.now) : Decision config s c hub key .handshakeDeadline none
        (.closing (some .handshakeTimeout) false (Clock.deadline hub.now config.writeTimeout))

section Steps

variable {config : RelayConfig} {s : Surroundings} {c : Connection} {hub : Hub} {key : QueueKey}

/-- A task whose registration succeeds does not turn to closing with the same step. -/
theorem Decision.verdict_eq_none {b : Branch} {item : Option Inbound} {phase : Phase}
    (h : Decision config s c hub key b item phase) {rest : List Inbound}
    (read : c.transport.inbound = item.toList ++ rest) (enrols : c.Enrols hub key b) :
    phase.verdict? = none := by
  obtain ⟨rfl, deadline, name, more, registry, -, inbound, done⟩ := enrols
  rw [inbound] at read
  cases h with
  | refused small refused =>
    obtain ⟨rfl, -⟩ : _ = name ∧ rest = more := by simpa [eq_comm] using read
    rw [done] at refused
    cases refused
  | readFailed => simp at read
  | hungUp => simp at read
  | _ => rfl

theorem GivingUp.decision {b : Branch} {meters : Meters} {c' : Connection}
    {remarks : List ConnectionEvent} {result : Option ConnectionFault}
    (h : GivingUp config s c hub key b meters c' remarks result) :
    ∃ item, Decision config s c hub key b item
        (.closing result false (Clock.deadline hub.now config.writeTimeout)) ∧
      c.transport.inbound = item.toList ++ c'.transport.inbound := by
  cases h with
  | readFailed inbound => exact ⟨_, .readFailed, inbound⟩
  | hungUp inbound => exact ⟨_, .hungUp, inbound⟩
  | refused inbound small refused => exact ⟨_, .refused small refused, inbound⟩
  | overdue phase silent late => exact ⟨_, .overdue phase silent late, rfl⟩
  | shutdown set => exact ⟨_, .shutdown set, rfl⟩

/-- A step in the handshake is its decision, and reads no more than what decides, or it leaves the
task where it is. -/
theorem Transition.decision {b : Branch} {next : Hub × Connection}
    (h : Transition config s c hub key b next) {deadline : Nat}
    (phase : c.phase = .handshake deadline) :
    next.2.phase = .handshake deadline ∨
      ∃ item, Decision config s c hub key b item next.2.phase ∧
        c.transport.inbound = item.toList ++ next.2.transport.inbound := by
  have now : ∀ {events : List ConnectionEvent} {m : Member} {hub' : Hub},
      (c.noteAll hub events).register m = .ok hub' → hub'.now = hub.now :=
    fun registered => ((own_noteAll c hub key _).register registered).now
  have joins : ∀ {events : List ConnectionEvent} {m : Member} {hub' : Hub},
      (c.noteAll hub events).register m = .ok hub' →
        ∃ registry, hub.registry.register m = .ok registry := by
    intro events m hub' registered
    obtain ⟨registry, done, -⟩ := Hub.register_eq_ok_iff.mp registered
    exact ⟨registry, by simpa using done⟩
  cases h with
  | ignore => exact Or.inl phase
  | giveUp _ reason =>
    obtain ⟨item, decision, read⟩ := reason.decision
    refine Or.inr ⟨item, ?_, read⟩
    rw [wrapUp_phase, noteAll_now]
    exact decision
  | enter _ inbound small registered scheduled =>
    obtain ⟨registry, done⟩ := joins registered
    rw [now registered] at scheduled ⊢
    exact Or.inr ⟨_, .registered small done scheduled, inbound⟩
  | enterLate _ inbound small registered late =>
    obtain ⟨registry, done⟩ := joins registered
    rw [now registered] at late
    exact Or.inr ⟨_, .unscheduled small done late, inbound⟩
  | tooLarge _ inbound large => exact Or.inr ⟨_, .tooLarge large, inbound⟩
  | leave reason =>
    have serving := reason.serving.1
    rw [phase] at serving
    cases serving
  | _ => simp_all

/-- A task that was told when its handshake begins until when it lasts. -/
theorem Transition.beginning {b : Branch} {next : Hub × Connection}
    (h : Transition config s c hub key b next) (phase : c.phase = .connecting) :
    next.2.phase = .handshake (Clock.deadline hub.now config.handshakeTimeout) := by
  cases h with
  | start => rfl
  | leave reason =>
    have serving := reason.serving.1
    rw [phase] at serving
    cases serving
  | ignore phase' => simp [phase] at phase'
  | drop phase' => simp [phase] at phase'
  | _ => simp_all

end Steps

end Connection

end ChatRelay
