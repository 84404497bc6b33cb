import ChatRelay.Proofs.Relay.Time

/-!
# A client that reads nothing

Nothing gets through to a client that does not read. Whatever it sends, the next ping is due within
a period; that ping, or a line before it, is not written in time; then the connection leaves, and
its transport is not closed in time either. So its task does not last.
-/

namespace ChatRelay

namespace Transport

/-- Nothing that is asked of the transport comes to an end. -/
def isStuck (t : Transport) : Bool :=
  t.writing == .hangs && t.pinging == .hangs && t.closing == .hangs

theorem mode_of_stuck {t : Transport} (h : t.isStuck = true) (item : Outgoing) :
    t.mode item = .hangs := by
  simp only [isStuck, Bool.and_eq_true, beq_iff_eq] at h
  cases item with
  | text line => exact h.1.1
  | ping => exact h.1.2

end Transport

namespace Phase

/-- How long a task can stay where it stands if nothing has got through since a time. -/
def Pressed (config : RelayConfig) (time now : Nat) : Phase → Prop
  | .active session => session.tick ≤ time + config.period ∧ now ≤ time + config.period
  | .writing _ write => write.deadline ≤ time + config.period + config.writeTimeout ∧
    now ≤ time + config.period + config.writeTimeout
  | .closing _ _ deadline =>
    Clock.IsSet (time + config.period + config.writeTimeout) config.writeTimeout deadline
  | .ended _ => True
  | _ => False

section Pressed

variable {config : RelayConfig} {time now : Nat} {phase : Phase}

theorem pressed_of_dated (dated : phase.Dated config time) (active : phase.stage = .active)
    (readable : time + config.period + config.writeTimeout ≤ Clock.last) :
    phase.Pressed config time time := by
  cases phase with
  | active session =>
    have due : session.tick ≤ time + config.period :=
      Clock.IsSet.le dated (Nat.le_refl _) (by omega)
    exact ⟨due, by omega⟩
  | writing session write =>
    have due : write.deadline ≤ time + config.period + config.writeTimeout :=
      dated.2.le (by omega) readable
    exact ⟨due, by omega⟩
  | _ => cases active

theorem Pressed.now_le (h : phase.Pressed config time now) (serving : phase.isServing = true) :
    now ≤ time + config.period + config.writeTimeout := by
  cases phase with
  | active session =>
    have soon := h.2
    omega
  | writing session write => exact h.2
  | _ => cases serving

end Pressed

end Phase

namespace Connection

variable {config : RelayConfig} {time : Nat} {c : Connection}

/-- Time passes until the task moves by itself, and no further. -/
theorem pressed_wait {now later : Nat} (h : c.phase.Pressed config time now)
    (punctual : ∀ due, c.due? = some due → later ≤ due) : c.phase.Pressed config time later := by
  cases phase : c.phase with
  | active session =>
    rw [phase] at h
    have before : later ≤ session.tick := punctual _ (by simp [due?, phase])
    exact ⟨h.1, Nat.le_trans before h.1⟩
  | writing session write =>
    rw [phase] at h
    have before : later ≤ write.deadline := punctual _ (by simp [due?, phase])
    exact ⟨h.1, Nat.le_trans before h.1⟩
  | _ =>
    rw [phase] at h
    exact h

/-- A step of a task whose transport is stuck brings it closer to its end. -/
theorem Transition.pressed {s : Surroundings} {hub : Hub} {key : QueueKey} {b : Branch}
    {next : Hub × Connection} (h : Transition config s c hub key b next)
    (stuck : c.transport.isStuck = true)
    (readable : time + config.period + config.writeTimeout ≤ Clock.last)
    (p : c.phase.Pressed config time hub.now) : next.2.phase.Pressed config time hub.now := by
  -- A write that begins now, with its deadline.
  have begins : hub.now ≤ time + config.period →
      Clock.deadline hub.now config.writeTimeout ≤
        time + config.period + config.writeTimeout := by
    intro soon
    exact (Clock.isSet_deadline _ _).le (Nat.add_le_add_right soon _) readable
  cases h with
  | start phase => rw [phase] at p; cases p
  | ignore phase => rw [phase] at p; cases p
  | giveUp phase => rw [phase] at p; cases p
  | enter phase => rw [phase] at p; cases p
  | enterLate phase => rw [phase] at p; cases p
  | tooLarge phase => rw [phase] at p; cases p
  | line phase => rw [phase] at p; exact p
  | sign phase => rw [phase] at p; exact p
  | drop phase => exact p
  | @take session text hub' phase taken =>
    have now : hub'.now = hub.now := ((own_noteAll c hub key []).take taken).now
    rw [phase] at p
    have within := begins p.2
    rw [← now] at within
    exact ⟨within, by have soon := p.2; omega⟩
  | ping phase =>
    rw [phase] at p
    exact ⟨begins p.2, by have soon := p.2; omega⟩
  | written phase mode => rw [Transport.mode_of_stuck stuck] at mode; cases mode
  | hang phase => rw [phase] at p; exact p
  | leave reason =>
    rw [leave_eq, wrapUp_phase, Hub.unregister_now, noteAll_now]
    exact ⟨hub.now, p.now_le reason.serving.1, rfl⟩
  | closeHang phase => rw [phase] at p; exact p
  | conclude => trivial

/-- A task that has nothing to do any more before time passes is closing after a period and the time
for a write. -/
theorem Resting.left {s : Surroundings} (resting : c.Resting s)
    (p : c.phase.Pressed config time s.now)
    (late : time + config.period + config.writeTimeout ≤ s.now) : c.phase.isServing = false := by
  cases resting with
  | handshake phase => rw [phase]; rfl
  | active phase unset silent nothing held early =>
    rw [phase] at p
    have due := p.1
    omega
  | writing phase unset begun hangs early =>
    rw [phase] at p
    have due := p.1
    omega
  | closing phase => rw [phase]; rfl
  | ended phase => rw [phase]; rfl

/-- It is over after the time for another write. -/
theorem Resting.isOver {s : Surroundings} (resting : c.Resting s)
    (p : c.phase.Pressed config time s.now)
    (late : time + config.period + 2 * config.writeTimeout ≤ s.now)
    (readable : s.now ≤ Clock.last) : c.phase.isOver = true := by
  cases resting with
  | handshake phase => rw [phase] at p; cases p
  | active phase unset silent nothing held early =>
    rw [phase] at p
    have due := p.1
    omega
  | writing phase unset begun hangs early =>
    rw [phase] at p
    have due := p.1
    omega
  | @closing result deadline phase hangs early =>
    rw [phase] at p
    have due : deadline ≤ s.now := Clock.IsSet.le p (by omega) readable
    omega
  | ended phase => rw [phase]; rfl

end Connection

namespace Relay

def due? (r : Relay) (key : Nat) : Option Nat := (r.connections[key]?).bind Connection.due?

def isStuck (r : Relay) (key : Nat) : Bool :=
  (r.connections[key]?).any fun c => c.transport.isStuck

/-- Time passes no further than to the moment at which the task of a connection moves by itself. -/
def Moment.Punctual (s : Moment) (key : Nat) : Prop :=
  ∀ due ∈ s.before.due? key, 0 < s.action.span → s.after.hub.now ≤ due

instance (s : Moment) (key : Nat) : Decidable (s.Punctual key) :=
  inferInstanceAs (Decidable (∀ due ∈ s.before.due? key, 0 < s.action.span → s.after.hub.now ≤ due))

section Runs

variable {config : RelayConfig} {actions more : List Action} {key : Nat} {c : Connection}

theorem pressed_later (here : (run config actions).connections[key]? = some c)
    (active : c.phase.stage = .active) (stuck : c.transport.isStuck = true)
    (stays : ∀ s ∈ historyFrom (run config actions) more, s.after.isStuck key = true)
    (punctual : ∀ s ∈ historyFrom (run config actions) more, s.Punctual key)
    (readable : (run config actions).hub.now + config.period + config.writeTimeout ≤ Clock.last) :
    ∃ c', (run config (actions ++ more)).connections[key]? = some c' ∧ c'.id = c.id ∧
      c'.phase.Pressed config (run config actions).hub.now
        (run config (actions ++ more)).hub.now := by
  have start := Phase.pressed_of_dated (run_dated here) active readable
  have last : ∃ c', (run config (actions ++ more)).connections[key]? = some c' ∧ c'.id = c.id ∧
      c'.transport.isStuck = true ∧ c'.phase.Pressed config (run config actions).hub.now
        (run config (actions ++ more)).hub.now := by
    refine run_later (P := fun r => ∃ c', r.connections[key]? = some c' ∧ c'.id = c.id ∧
      c'.transport.isStuck = true ∧ c'.phase.Pressed config (run config actions).hub.now r.hub.now)
      ⟨c, here, rfl, stuck, start⟩ ?_
    rintro ⟨before, a⟩ hs ⟨c₁, here₁, id, stuck, p⟩
    obtain ⟨earlier, rfl⟩ := reached_of_mem hs
    obtain ⟨c₂, here₂, same, went⟩ := act_went here₁ a
    have stuck₂ : c₂.transport.isStuck = true := by
      have stays := stays _ hs
      simpa [isStuck, Moment.after, here₂] using stays
    refine ⟨c₂, here₂, same.trans id, stuck₂, ?_⟩
    have punctual := punctual _ hs
    have now : (Moment.mk (run config earlier) a).after.hub.now =
        (run config earlier).hub.now + a.span := act_now _ a
    generalize c₂.phase = phase at went ⊢
    cases went with
    | still =>
      by_cases passes : 0 < a.span
      · refine Connection.pressed_wait p ?_
        intro due waits
        exact punctual due (by simp [due?, here₁, waits]) passes
      · rw [now, Nat.eq_zero_of_not_pos passes]
        exact p
    | @step b next act transition =>
      rw [run_config] at transition
      rw [now, act]
      exact transition.pressed stuck readable p
    | aborted => trivial
  obtain ⟨c', here', id, -, p⟩ := last
  exact ⟨c', here', id, p⟩

/-- A connection whose client reads nothing is not registered any more after a period and the time
for a write, and its task is over after the time for another write, if by then it has taken all
steps that were due. -/
theorem run_stuck (few : (run config (actions ++ more)).connections.size ≤ UInt64.size)
    (here : (run config actions).connections[key]? = some c) (active : c.phase.stage = .active)
    (stuck : c.transport.isStuck = true)
    (stays : ∀ s ∈ historyFrom (run config actions) more, s.after.isStuck key = true)
    (punctual : ∀ s ∈ historyFrom (run config actions) more, s.Punctual key)
    (unready : ∀ b, (run config (actions ++ more)).ready key b = false)
    (readable : (run config (actions ++ more)).hub.now ≤ Clock.last) :
    ((run config actions).hub.now + config.period + config.writeTimeout ≤
        (run config (actions ++ more)).hub.now →
      (run config (actions ++ more)).hub.registry.contains c.id = false) ∧
    ((run config actions).hub.now + config.period + 2 * config.writeTimeout ≤
        (run config (actions ++ more)).hub.now →
      ∃ c', (run config (actions ++ more)).connections[key]? = some c' ∧ c'.id = c.id ∧
        c'.phase.isOver = true) := by
  constructor
  · intro late
    obtain ⟨c', here', same, p⟩ := pressed_later here active stuck stays punctual (by omega)
    rw [← same]
    exact (run_sound config (actions ++ more)).absent few here'
      ((resting_of_unready unready here').left p late)
  · intro late
    obtain ⟨c', here', same, p⟩ := pressed_later here active stuck stays punctual (by omega)
    exact ⟨c', here', same, (resting_of_unready unready here').isOver p late readable⟩

end Runs

/-- Alice's client reads nothing, but it still sends. -/
def deafClient : List Action :=
  [.connect "a" { inbound := [.text "alice"] }, .setModes 0 .hangs .hangs .hangs, .step 0 .start,
    .pass 1000, .step 0 .read]

/-- Half a minute passes before the ping, and then twice the time for a write. -/
def deafClientLater : List Action :=
  [.pass 25000, .arrive 0 (.text "hello?"), .step 0 .read, .pass 5000, .step 0 .tick,
    .step 0 .write, .pass 10000, .step 0 .writeDeadline, .step 0 .close, .pass 10000,
    .step 0 .closeDeadline]

theorem run_stuck_deafClient :
    let before := run {} deafClient
    let after := run {} (deafClient ++ deafClientLater)
    after.connections.size ≤ UInt64.size ∧ before.hub.now = 1000 ∧ after.hub.now = 51000 ∧
      (∀ s ∈ historyFrom before deafClientLater, s.after.isStuck 0 = true) ∧
      (∀ s ∈ historyFrom before deafClientLater, s.Punctual 0) ∧
      (∀ b, after.ready 0 b = false) ∧
      ∃ alice, before.connections[0]? = some alice ∧ alice.phase.stage = .active ∧
        alice.transport.isStuck = true ∧ before.hub.registry.contains alice.id = true ∧
        after.hub.registry.contains alice.id = false ∧
        ∃ alice', after.connections[0]? = some alice' ∧ alice'.id = alice.id ∧
          alice'.phase.isOver = true := by
  have few : (run {} (deafClient ++ deafClientLater)).connections.size ≤ UInt64.size := by
    decide +kernel
  have stays : ∀ s ∈ historyFrom (run {} deafClient) deafClientLater, s.after.isStuck 0 = true := by
    decide +kernel
  have punctual : ∀ s ∈ historyFrom (run {} deafClient) deafClientLater, s.Punctual 0 := by
    decide +kernel
  have unready : ∀ b, (run {} (deafClient ++ deafClientLater)).ready 0 b = false := by
    intro b
    cases b <;> decide +kernel
  have alice : (run {} deafClient).connections[0]? = some
      { id := ⟨1⟩, peer := "a",
        transport := { writing := .hangs, pinging := .hangs, closing := .hangs },
        phase := .active ⟨"alice", 1000, 31000⟩ } := by decide +kernel
  have ends := run_stuck few alice rfl rfl stays punctual unready (by decide +kernel)
  exact ⟨few, by decide +kernel, by decide +kernel, stays, punctual, unready, _, alice, rfl, rfl,
    by decide +kernel, ends.1 (by decide +kernel), ends.2 (by decide +kernel)⟩

end Relay

end ChatRelay
