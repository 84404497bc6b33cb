import ChatRelay.Proofs.Relay.Slots
import ChatRelay.Proofs.Relay.Time

/-!
# After the shutdown signal

Once the signal is set, every task turns to closing before time passes, whatever it was doing; and a
task that closes waits for its transport no longer than for a write. So all tasks are soon over.
-/

namespace ChatRelay

namespace Relay

/-- Time passes only when no task can take a step. -/
def Moment.Idle (s : Moment) : Prop := 0 < s.action.span → s.before.isQuiet = true

instance (s : Moment) : Decidable s.Idle :=
  inferInstanceAs (Decidable (0 < s.action.span → s.before.isQuiet = true))

/-- Under the signal, a task of which no step is ready closes its transport or is over. -/
theorem closing_of_resting {s : Surroundings} {c : Connection} (resting : c.Resting s)
    (set : s.shutdown = true) : c.phase.stage = .closing := by
  cases resting with
  | handshake phase unset => rw [set] at unset; cases unset
  | active phase unset => rw [set] at unset; cases unset
  | writing phase unset => rw [set] at unset; cases unset
  | closing phase => rw [phase]; rfl
  | ended phase => rw [phase]; rfl

/-- Where a task stands that was there when the signal was set, at a time: after that it closes its
transport, and its deadline was set by then. -/
structure Winding (config : RelayConfig) (time : Nat) (key : Nat) (id : ConnectionId) (r : Relay)
    (c : Connection) : Prop where
  here : r.connections[key]? = some c
  id : c.id = id
  closing : time < r.hub.now → c.phase.stage = .closing ∧ c.phase.Dated config time

section Runs

variable {config : RelayConfig} {time key : Nat} {id : ConnectionId} {r : Relay} {c : Connection}

/-- In a quiet relay under the signal, the task closes its transport since the signal was set. -/
theorem Winding.closing_of_quiet {actions : List Action}
    (h : Winding config time key id (run config actions) c)
    (set : (run config actions).signal.isSet = true) (quiet : (run config actions).isQuiet = true) :
    c.phase.stage = .closing ∧ c.phase.Dated config time := by
  by_cases after : time < (run config actions).hub.now
  · exact h.closing after
  · exact ⟨closing_of_resting (resting_of_quiet quiet h.here) set,
      (run_dated h.here).later (by omega)⟩

theorem Winding.act {actions : List Action}
    (h : Winding config time key id (run config actions) c)
    (set : (run config actions).signal.isSet = true) {a : Action}
    (idle : (Moment.mk (run config actions) a).Idle) :
    ∃ c', Winding config time key id ((run config actions).act a) c' := by
  obtain ⟨c', here', same, went⟩ := act_went h.here a
  refine ⟨c', here', same.trans h.id, ?_⟩
  intro after
  have closing : c.phase.stage = .closing ∧ c.phase.Dated config time := by
    by_cases before : time < (run config actions).hub.now
    · exact h.closing before
    · rw [act_now] at after
      exact h.closing_of_quiet set (idle (by show 0 < a.span; omega))
  generalize c'.phase = phase at went ⊢
  cases went with
  | still => exact closing
  | step act transition =>
    rw [run_config] at transition
    exact transition.closing closing.1 closing.2
  | aborted => exact ⟨rfl, trivial⟩

/-- A task that closes its transport since then is over once a write would have had its time. -/
theorem over_of_closing {s : Surroundings} (resting : c.Resting s)
    (closing : c.phase.stage = .closing) (dated : c.phase.Dated config time)
    (late : time + config.writeTimeout ≤ s.now) (readable : s.now ≤ Clock.last) :
    c.phase.isOver = true := by
  cases resting with
  | handshake phase => rw [phase] at closing; cases closing
  | active phase => rw [phase] at closing; cases closing
  | writing phase => rw [phase] at closing; cases closing
  | @closing result deadline phase hangs early =>
    rw [phase] at dated
    have due : deadline ≤ s.now := Clock.IsSet.le dated late readable
    omega
  | ended phase => rw [phase]; rfl

/-- Every task that is there when the signal is set ends as long as nobody takes the signal back and
time passes only when no step is ready. -/
theorem winding_later {actions more : List Action}
    (here : (run config actions).connections[key]? = some c)
    (set : (run config actions).signal.isSet = true)
    (kept : ∀ s ∈ historyFrom (run config actions) more, s.action ≠ .send false)
    (idle : ∀ s ∈ historyFrom (run config actions) more, s.Idle) :
    (run config (actions ++ more)).signal.isSet = true ∧
      ∃ c', Winding config (run config actions).hub.now key c.id
        (run config (actions ++ more)) c' := by
  refine run_later (P := fun r => r.signal.isSet = true ∧
    ∃ c', Winding config (run config actions).hub.now key c.id r c') ⟨set, c, here, rfl, ?_⟩ ?_
  · intro after
    exact absurd after (Nat.lt_irrefl _)
  · rintro ⟨before, a⟩ hs ⟨set, c', winding⟩
    obtain ⟨earlier, rfl⟩ := reached_of_mem hs
    exact ⟨(act_effect _ a).isSet (kept _ hs) set, winding.act set (idle _ hs)⟩

end Runs

/-- What is left of the tasks of an earlier moment: they are over, and hold nothing any more. -/
structure Cleared (before after : Relay) : Prop where
  ended : ∀ (key : Nat) (c : Connection), before.connections[key]? = some c →
    ∃ c', after.connections[key]? = some c' ∧ c'.id = c.id ∧ c'.phase.isOver = true ∧
      c'.holdsSlot = false
  unregistered : ∀ (key : Nat) (c : Connection), before.connections[key]? = some c →
    after.hub.registry.contains c.id = false
  /-- The slots that are taken are those of upgrades, of labels and of later connections. -/
  slots : after.slots.taken = after.upgrades + after.reserved.length +
    Connection.holders (after.connections.toList.drop before.connections.size)

section Theorem

variable {config : RelayConfig} {actions more : List Action}

/-- All tasks that were there when the shutdown signal was set are over as soon as a write would
have had its time, if by then all steps that were due are taken. -/
theorem run_shutdown
    (few : (run config (actions ++ more)).connections.size ≤ UInt64.size)
    (set : (run config actions).signal.isSet = true)
    (kept : ∀ s ∈ historyFrom (run config actions) more, s.action ≠ .send false)
    (idle : ∀ s ∈ historyFrom (run config actions) more, s.Idle)
    (quiet : (run config (actions ++ more)).isQuiet = true)
    (late : (run config actions).hub.now + config.writeTimeout ≤
      (run config (actions ++ more)).hub.now)
    (readable : (run config (actions ++ more)).hub.now ≤ Clock.last) :
    Cleared (run config actions) (run config (actions ++ more)) := by
  have accounted := run_accounted config (actions ++ more)
  have ended : ∀ (key : Nat) (c : Connection), (run config actions).connections[key]? = some c →
      ∃ c', (run config (actions ++ more)).connections[key]? = some c' ∧ c'.id = c.id ∧
        c'.phase.isOver = true ∧ c'.holdsSlot = false := by
    intro key c here
    obtain ⟨set, c', winding⟩ := winding_later here set kept idle
    obtain ⟨closing, dated⟩ := winding.closing_of_quiet set quiet
    have isOver := over_of_closing (resting_of_quiet quiet winding.here) closing dated late readable
    have among := List.mem_of_getElem? (Array.getElem?_toList ▸ winding.here)
    exact ⟨c', winding.here, winding.id, isOver, accounted.free c' among isOver⟩
  refine ⟨ended, ?_, ?_⟩
  · intro key c here
    obtain ⟨c', here', same, isOver, -⟩ := ended key c here
    rw [← same]
    exact (run_sound config (actions ++ more)).absent few here' (Phase.idle_of_isOver isOver)
  · have none : Connection.holders
        ((run config (actions ++ more)).connections.toList.take
          (run config actions).connections.size) = 0 := by
      rw [Connection.holders, List.countP_eq_zero]
      intro c hc
      obtain ⟨key, below, rfl⟩ := List.mem_take_iff_getElem.mp hc
      obtain ⟨c', here', -, -, free⟩ := ended key _ (Array.getElem?_eq_getElem (by omega))
      obtain ⟨_, same⟩ := Array.getElem?_eq_some_iff.mp here'
      simp [same, free]
    have split := List.take_append_drop (run config actions).connections.size
      (run config (actions ++ more)).connections.toList
    have taken := accounted.taken
    rw [← split, Connection.holders, List.countP_append] at taken
    simp only [Connection.holders] at none ⊢
    omega

end Theorem

/-- When the signal is set, Alice has not said her name, Bob is idle, Carol's transport hangs in a
write and Dave's in its closing. -/
def fourClients : List Action :=
  [.requestUpgrade "a", .requestUpgrade "b", .requestUpgrade "c", .requestUpgrade "d",
    .completeUpgrade "a" {}, .completeUpgrade "b" { inbound := [.text "bob"] },
    .completeUpgrade "c" { inbound := [.text "carol"], writing := .hangs, closing := .hangs },
    .completeUpgrade "d" { inbound := [.streamEnd], closing := .hangs },
    .step 0 .start, .step 1 .start, .step 2 .start, .step 3 .start, .step 1 .read, .step 2 .read,
    .step 3 .read, .step 3 .close, .arrive 1 (.text "hi"), .step 1 .read, .step 2 .take,
    .step 2 .write, .pass 2000, .send true]

/-- What happens then; a line of Bob is never read. -/
def fourEnds : List Action :=
  [.arrive 1 (.text "bye"), .step 0 .shutdown, .step 1 .shutdown, .step 2 .shutdown, .step 0 .close,
    .step 1 .close, .step 2 .close, .pass 8000, .step 3 .closeDeadline, .pass 2000,
    .step 2 .closeDeadline]

theorem run_shutdown_fourClients :
    let before := run {} fourClients
    let after := run {} (fourClients ++ fourEnds)
    after.connections.size ≤ UInt64.size ∧ before.signal.isSet = true ∧
      (∀ s ∈ historyFrom before fourEnds, s.action ≠ .send false) ∧
      (∀ s ∈ historyFrom before fourEnds, s.Idle) ∧ after.isQuiet = true ∧
      before.hub.now = 2000 ∧ after.hub.now = 12000 ∧
      before.connections.toList.map (fun c => c.phase.stage) =
        [.handshake, .active, .active, .closing] ∧
      before.slots.taken = 4 ∧ after.slots.taken = 0 ∧ Cleared before after := by
  have few : (run {} (fourClients ++ fourEnds)).connections.size ≤ UInt64.size := by
    decide +kernel
  have set : (run {} fourClients).signal.isSet = true := by decide +kernel
  have kept : ∀ s ∈ historyFrom (run {} fourClients) fourEnds, s.action ≠ .send false := by
    simp [fourEnds, historyFrom]
  have idle : ∀ s ∈ historyFrom (run {} fourClients) fourEnds, s.Idle := by decide +kernel
  have quiet : (run {} (fourClients ++ fourEnds)).isQuiet = true := by decide +kernel
  exact ⟨few, set, kept, idle, quiet, by decide +kernel, by decide +kernel, by decide +kernel,
    by decide +kernel, by decide +kernel,
    run_shutdown few set kept idle quiet (by decide +kernel) (by decide +kernel)⟩

end Relay

end ChatRelay
