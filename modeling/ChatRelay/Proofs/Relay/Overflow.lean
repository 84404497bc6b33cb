import ChatRelay.Proofs.Relay.Origins
import ChatRelay.Proofs.Settings.Limits

/-!
# Times beyond the end of the clock

The first ping of a connection is due at an instant that the clock must be able to tell, or else the
task panics although its connection was just registered. This is the only panic of a registered
task. All other deadlines are put off instead, and how long a client has been silent is told from
readings of the clock. Of loaded settings it is known how early this can happen.
-/

namespace ChatRelay

namespace Clock

theorem after?_eq_none_iff {now length : Nat} : after? now length = none ↔ last < now + length := by
  simp [after?]

/-- A moment that was set is one that the clock will tell, also if it had to be put off. -/
theorem IsSet.le_last {now length moment : Nat} (h : IsSet now length moment)
    (readable : now + farFuture ≤ last) : moment ≤ last := by
  obtain ⟨start, before, rfl⟩ := h
  unfold deadline after?
  split
  · assumption
  · exact Nat.le_trans (Nat.add_le_add_right before _) readable

end Clock

namespace Phase

/-- The next ping was set a period after a reading of the clock. -/
theorem Dated.tick {config : RelayConfig} {phase : Phase} {now : Nat} (d : phase.Dated config now)
    {session : Session} (found : phase.session? = some session) :
    Clock.IsSet now config.period session.tick := by
  cases phase with
  | active _ =>
    obtain rfl := Option.some.inj found
    exact d
  | writing _ _ =>
    obtain rfl := Option.some.inj found
    exact d.1
  | _ => cases found

end Phase

namespace Connection

section Steps

variable {config : RelayConfig} {s : Surroundings} {c : Connection} {hub : Hub} {key : QueueKey}
  {b : Branch} {next : Hub × Connection}

/-- Where a task is that has just registered its connection. -/
theorem Transition.enrolled (h : Transition config s c hub key b next) (enrols : c.Enrols hub key b)
    (small : config.queueCapacity ≤ Queue.maxCapacity) :
    ∃ name, next.2.phase = match Clock.after? hub.now config.period with
      | some tick => .active ⟨name, hub.now, tick⟩
      | none => .ended .panicked := by
  obtain ⟨rfl, deadline, name, rest, registry, phase, inbound, accepted⟩ := enrols
  have now : ∀ {events hub'} {m : Member}, (c.noteAll hub events).register m = .ok hub' →
      hub'.now = hub.now := fun registered => ((own_noteAll c hub key _).register registered).now
  cases h with
  | enter _ inbound' _ registered scheduled =>
    rw [← now registered, scheduled]
    exact ⟨_, rfl⟩
  | enterLate _ _ _ registered late =>
    rw [← now registered, late]
    exact ⟨name, rfl⟩
  | tooLarge _ _ large => omega
  | giveUp _ reason =>
    cases reason with
    | refused inbound' _ refused =>
      obtain ⟨⟨⟩, rfl⟩ := List.cons.inj (inbound.symm.trans inbound')
      rw [accepted] at refused
      cases refused
    | readFailed inbound' => cases inbound.symm.trans inbound'
    | hungUp inbound' => cases inbound.symm.trans inbound'
  | ignore _ inbound' wordless =>
    cases inbound.symm.trans inbound'
    simp at wordless
  | line phase' => cases phase.symm.trans phase'
  | sign phase' => cases phase.symm.trans phase'
  | drop phase' => cases phase.symm.trans phase'
  | leave reason =>
    have serving := reason.serving.1
    rw [phase] at serving
    cases serving
  | conclude phase' => cases phase.symm.trans phase'

/-- A task panics only while it reads its client's name: no queue is that large, or the connection
is registered and the clock cannot tell when its first ping is due. -/
theorem Transition.panicked (h : Transition config s c hub key b next)
    (before : c.phase ≠ .ended .panicked) (after : next.2.phase = .ended .panicked) :
    Queue.maxCapacity < config.queueCapacity ∨
      c.Enrols hub key b ∧ config.queueCapacity ≤ Queue.maxCapacity ∧
        Clock.after? hub.now config.period = none := by
  cases h with
  | enterLate phase inbound small registered late =>
    have now := ((own_noteAll c hub key _).register registered).now
    obtain ⟨registry, done, -⟩ := Hub.register_eq_ok_iff.mp registered
    rw [noteAll_registry] at done
    rw [now] at late
    exact Or.inr ⟨⟨rfl, _, _, _, _, phase, inbound, done⟩, small, late⟩
  | tooLarge _ _ large => exact Or.inl large
  | ignore => exact absurd after before
  | drop => exact absurd after before
  | _ => cases after

/-- A task remembers no later time than the present. -/
theorem Transition.lastSeen_le (h : Transition config s c hub key b next)
    (before : ∀ session, c.phase.session? = some session → session.lastSeen ≤ hub.now) :
    ∀ session, next.2.phase.session? = some session → session.lastSeen ≤ hub.now := by
  intro session after
  obtain ⟨told, story⟩ := h.outline.story
  rcases h.lastSeen after story with now | ⟨-, session₀, found, same⟩
  · exact Nat.le_of_eq now
  · exact same ▸ before session₀ found

/-- Whatever else a task waits for, the clock will tell when it is due. -/
theorem due_le_last {now moment : Nat} (d : c.phase.Dated config now)
    (due : c.due? = some moment) (busy : ∀ session, c.phase ≠ .active session)
    (readable : now + Clock.farFuture ≤ Clock.last) : moment ≤ Clock.last := by
  unfold due? at due
  cases phase : c.phase with
  | active session => exact absurd phase (busy session)
  | handshake deadline =>
    rw [phase] at d due
    obtain rfl := Option.some.inj due
    exact Clock.IsSet.le_last d readable
  | writing session write =>
    rw [phase] at d due
    obtain rfl := Option.some.inj due
    exact d.2.le_last readable
  | closing result begun deadline =>
    rw [phase] at d due
    obtain rfl := Option.some.inj due
    exact Clock.IsSet.le_last d readable
  | _ =>
    rw [phase] at due
    cases due

end Steps

end Connection

namespace Relay

def panicked (r : Relay) (key : Nat) : Bool :=
  (r.connections[key]?).any fun c => c.phase = .ended .panicked

theorem panicked_of_some {r : Relay} {key : Nat} {c : Connection}
    (here : r.connections[key]? = some c) :
    r.panicked key = true ↔ c.phase = .ended .panicked := by
  simp [panicked, here]

/-- The task registers its connection in the moment. Before that it has made the queue. -/
def Moment.Registers (s : Moment) (key : Nat) : Prop :=
  s.Admits key ∧ s.before.config.queueCapacity ≤ Queue.maxCapacity

/-- Where a task is that has just registered its connection. -/
theorem Moment.Registers.phase {s : Moment} {key : Nat} (registers : s.Registers key) :
    ∃ c name, s.after.connections[key]? = some c ∧
      c.phase = match Clock.after? s.before.hub.now s.before.config.period with
        | some tick => .active ⟨name, s.before.hub.now, tick⟩
        | none => .ended .panicked := by
  obtain ⟨admits, small⟩ := registers
  obtain ⟨act, c₀, -, -, -, -, here, -⟩ := id admits
  obtain ⟨c, there, -, met⟩ := act_met here s.action
  cases met with
  | waits silent out => exact absurd admits out
  | @acts b next acts transition hub phase =>
    rw [Moment.Admits, acts, admits_step here] at admits
    obtain ⟨name, entered⟩ := transition.enrolled admits small
    exact ⟨c, name, there, phase.trans entered⟩
  | dies aborts => cases act.symm.trans aborts

/-- What the arithmetic of times does to the task of a connection. -/
structure InTime (config : RelayConfig) (actions : List Action) (key : Nat) : Prop where
  /-- A task that registers its connection panics just if the clock cannot tell when the first ping
  is due. -/
  panics_iff : ∀ s ∈ history config actions, s.Registers key →
    (s.after.panicked key = true ↔ Clock.last < s.before.hub.now + config.keepalive)
  /-- Otherwise it serves its client, and the ping is due one period later. -/
  scheduled : ∀ s ∈ history config actions, s.Registers key →
    s.before.hub.now + config.keepalive ≤ Clock.last →
    ∃ c name, s.after.connections[key]? = some c ∧
      c.phase = .active ⟨name, s.before.hub.now, s.before.hub.now + config.keepalive⟩
  /-- It does not panic in the first two seconds of the clock. -/
  early : ∀ s ∈ history config actions, s.Registers key → s.before.hub.now < 2000 →
    s.after.panicked key = false
  /-- It has not panicked either, then or later, as long as the clock can tell a period more. -/
  lasting : ∀ s ∈ history config actions, s.Registers key →
    (run config actions).hub.now + config.keepalive ≤ Clock.last →
    (run config actions).panicked key = false
  /-- Each deadline of a task lies its length of time after a reading of the clock, or thirty years
  after it if no instant lies there. -/
  dated : ∀ c, (run config actions).connections[key]? = some c →
    c.phase.Dated config (run config actions).hub.now
  /-- The next ping is due within a period, as long as the clock can tell a period more. -/
  pinging : ∀ c session, (run config actions).connections[key]? = some c →
    c.phase.session? = some session →
    (run config actions).hub.now + config.keepalive ≤ Clock.last →
    session.tick ≤ (run config actions).hub.now + config.keepalive
  /-- Whatever else is due, the clock will tell when it is, also if it was put off. -/
  reached : ∀ c moment, (run config actions).connections[key]? = some c → c.due? = some moment →
    (∀ session, c.phase ≠ .active session) →
    (run config actions).hub.now + Clock.farFuture ≤ Clock.last → moment ≤ Clock.last
  /-- The client was not heard later than now. -/
  heard : ∀ c session, (run config actions).connections[key]? = some c →
    c.phase.session? = some session → session.lastSeen ≤ (run config actions).hub.now

section Runs

variable {config : RelayConfig} {actions : List Action} {key : Nat} {c : Connection}

theorem config_of_mem {s : Moment} (hs : s ∈ history config actions) :
    s.before.config = config := by
  obtain ⟨earlier, a, later, -, before, -⟩ := mem_history hs
  rw [before, run_config]

/-- A task that panicked had no room for its queue, or no time for its first ping. -/
theorem run_panicked (panicked : (run config actions).panicked key = true) :
    Queue.maxCapacity < config.queueCapacity ∨ ∃ s ∈ history config actions, s.Registers key ∧
      Clock.last < s.before.hub.now + config.period := by
  obtain ⟨c, here, phase⟩ : ∃ c, (run config actions).connections[key]? = some c ∧
      c.phase = .ended .panicked := by simpa [Relay.panicked, Option.any_eq_true] using panicked
  have since := since_of_phase (P := fun phase => phase = .ended .panicked) (by simp) (by simp)
    here phase
  obtain ⟨earlier, s, later, same, ⟨-, b, c₀, next, act, here₀, transition, before, after⟩, -⟩ :=
    since
  have hs : s ∈ history config actions := by simp [same]
  rcases transition.panicked before after with large | ⟨enrols, small, late⟩
  · exact Or.inl large
  · refine Or.inr ⟨s, hs, ⟨?_, ?_⟩, Clock.after?_eq_none_iff.mp late⟩
    · rw [Moment.Admits, act, admits_step here₀]
      exact enrols
    · rwa [config_of_mem hs]

/-- No task remembers a time that is still to come. -/
theorem run_heard (here : (run config actions).connections[key]? = some c) :
    ∀ session, c.phase.session? = some session →
      session.lastSeen ≤ (run config actions).hub.now := by
  induction actions using List.reverseRecOn generalizing c with
  | nil => simp [run, ofConfig] at here
  | append_singleton actions a ih =>
    rw [run_append] at here ⊢
    intro session found
    refine Nat.le_trans ?_ (now_le_act (run config actions) a)
    cases before : (run config actions).connections[key]? with
    | none =>
      rw [act_begins before here] at found
      cases found
    | some c₀ =>
      obtain ⟨c', here', -, went⟩ := act_went before a
      obtain rfl : c' = c := Option.some.inj (here'.symm.trans here)
      generalize c'.phase = phase at went found
      cases went with
      | still => exact ih before session found
      | step act transition => exact transition.lastSeen_le (ih before) session found
      | aborted => cases found

/-- In every run under loaded settings: the clock can tell all times that a task needs, except the
one of the first ping of a connection that is registered too near to the end of the clock. The task
of that connection panics. -/
theorem run_inTime {path : String} {content : FileContent} {s : Settings}
    (loaded : (Settings.load path content).1 = .ok s) (actions : List Action) (key : Nat) :
    InTime s.relayConfig actions key := by
  have accepted := Settings.load_accepted loaded
  have iff : ∀ m ∈ history s.relayConfig actions, m.Registers key →
      (m.after.panicked key = true ↔ Clock.last < m.before.hub.now + s.relayConfig.keepalive) := by
    intro m hm registers
    obtain ⟨c, name, there, phase⟩ := registers.phase
    rw [config_of_mem hm, accepted.period_eq] at phase
    rw [panicked_of_some there, phase, ← Clock.after?_eq_none_iff]
    cases Clock.after? m.before.hub.now s.relayConfig.keepalive <;> simp
  constructor
  case panics_iff => exact iff
  case scheduled =>
    intro m hm registers readable
    obtain ⟨c, name, there, phase⟩ := registers.phase
    rw [config_of_mem hm, accepted.period_eq, Clock.after?, if_pos readable] at phase
    exact ⟨c, name, there, phase⟩
  case early =>
    intro m hm registers early
    rw [← Bool.not_eq_true, iff m hm registers]
    exact Nat.not_lt.mpr (Settings.keepalive_early loaded early)
  case lasting =>
    intro m hm registers readable
    rw [← Bool.not_eq_true]
    intro panicked
    rcases run_panicked panicked with large | ⟨m', hm', -, late⟩
    · have small := registers.2
      rw [config_of_mem hm] at small
      omega
    · have past := now_le_run hm'
      rw [accepted.period_eq] at late
      omega
  case dated => exact fun c here => run_dated here
  case pinging =>
    intro c session here found readable
    have set := Phase.Dated.tick (run_dated here) found
    rw [accepted.period_eq] at set
    exact set.le (Nat.le_refl _) readable
  case reached =>
    exact fun c moment here due busy readable =>
      Connection.due_le_last (run_dated here) due busy readable
  case heard => exact fun c session here => run_heard here session

end Runs

/-- A document that puts pings as far apart as it can. -/
def farApart : String :=
  "[chat]\nkeepalive_sek = 9223372036854775806\nverbindungs_timeout_sek = 9223372036854775807\n"

def farApartSettings : Settings :=
  { chat := { keepalive := 9223372036854775806, idleTimeout := 9223372036854775807 } }

theorem farApart_loaded :
    (Settings.load "parlor.toml" (.text farApart)).1 = .ok farApartSettings := by
  decide +kernel

/-- Alice and Bob begin together, and Alice says her name just before two seconds have passed. -/
def inTime : List Action :=
  [.connect "a" {}, .connect "b" {}, .step 0 .start, .step 1 .start, .pass 1999,
    .arrive 0 (.text "alice")]

/-- Bob says his name when two seconds have passed. -/
def tooLate : List Action := inTime ++ [.step 0 .read, .pass 1, .arrive 1 (.text "bob")]

theorem alice_registers :
    (Moment.mk (run farApartSettings.relayConfig inTime) (.step 0 .read)).Registers 0 := by
  have alice : (run farApartSettings.relayConfig inTime).connections[0]? = some
      { id := ⟨1⟩, peer := "a", transport := { inbound := [.text "alice"] },
        phase := .handshake 10000 } := by decide +kernel
  have nobody : (run farApartSettings.relayConfig inTime).hub.registry = {} := by decide +kernel
  exact ⟨⟨rfl, _, _, _, _, _, alice, rfl, rfl, by rw [nobody]; rfl⟩, by decide +kernel⟩

theorem bob_registers :
    (Moment.mk (run farApartSettings.relayConfig tooLate) (.step 1 .read)).Registers 1 := by
  have bob : (run farApartSettings.relayConfig tooLate).connections[1]? = some
      { id := ⟨2⟩, peer := "b", transport := { inbound := [.text "bob"] },
        phase := .handshake 10000 } := by decide +kernel
  have alice : (run farApartSettings.relayConfig tooLate).hub.registry =
      { members := [⟨⟨1⟩, "alice", 0⟩] } := by decide +kernel
  exact ⟨⟨rfl, _, _, _, _, _, bob, rfl, rfl, by rw [alice]; rfl⟩, by decide +kernel⟩

theorem run_inTime_twoClients :
    let config := farApartSettings.relayConfig
    let actions := tooLate ++ [.step 1 .read]
    (Settings.load "parlor.toml" (.text farApart)).1 = .ok farApartSettings ∧
      (∃ s ∈ history config actions, s.Registers 0 ∧ s.before.hub.now = 1999) ∧
      (∃ s ∈ history config actions, s.Registers 1 ∧ s.before.hub.now = 2000) ∧
      (run config actions).panicked 0 = false ∧ (run config actions).panicked 1 = true ∧
      InTime config actions 0 ∧ InTime config actions 1 := by
  intro config actions
  have early : ⟨run config inTime, .step 0 .read⟩ ∈ history config actions :=
    moment_mem config inTime _ [.pass 1, .arrive 1 (.text "bob"), .step 1 .read]
  have late : ⟨run config tooLate, .step 1 .read⟩ ∈ history config actions :=
    moment_mem config tooLate _ []
  exact ⟨farApart_loaded, ⟨_, early, alice_registers, by decide +kernel⟩,
    ⟨_, late, bob_registers, by decide +kernel⟩, by decide +kernel, by decide +kernel,
    run_inTime farApart_loaded actions 0, run_inTime farApart_loaded actions 1⟩

/-- A task may panic although its connection was registered, under settings that were loaded. -/
theorem registered_panics :
    ¬ ∀ (path : String) (content : FileContent) (s : Settings),
      (Settings.load path content).1 = .ok s → ∀ (actions : List Action) (key : Nat),
        ∀ m ∈ history s.relayConfig actions, m.Registers key → m.after.panicked key = false := by
  intro claim
  have late : ⟨run farApartSettings.relayConfig tooLate, .step 1 .read⟩ ∈
      history farApartSettings.relayConfig (tooLate ++ [.step 1 .read]) := moment_mem _ tooLate _ []
  have survives := claim _ _ _ farApart_loaded _ 1 _ late bob_registers
  revert survives
  decide +kernel

end Relay

end ChatRelay
