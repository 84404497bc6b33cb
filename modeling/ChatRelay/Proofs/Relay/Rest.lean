import ChatRelay.Proofs.Relay.Settling

/-!
# Every order of steps comes to rest

The tasks can be polled in any order, and each can take any step that is ready. Whatever the order,
it ends: a step makes the relay lighter, and who can take no step is at rest. A task does not go
round its loop for nothing, either: each step reads an inbound item, takes a text out of the queue
or uses a tick that is due, or it takes the task to a phase that has less before it.
-/

namespace ChatRelay

namespace Connection

/-- What a step of a task uses up: the hub and the connection before and after it. -/
inductive Headway (key : QueueKey) (hub : Hub) (c : Connection) (next : Hub × Connection) :
    Prop where
  | read {item : Inbound} (inbound : c.transport.inbound = item :: next.2.transport.inbound)
  | take {q : Queue} {text : String} {rest : List String} (here : hub.queues[key]? = some q)
      (first : q.pending = text :: rest)
      (left : next.1.queues = hub.queues.setIfInBounds key { q with pending := rest })
  | tick {session session' : Session} {write : Write} (active : c.phase = .active session)
      (due : session.tick ≤ hub.now) (pinging : next.2.phase = .writing session' write)
      (later : session.tick < session'.tick)
  | phase (less : next.2.phase.weight < c.phase.weight)

variable {config : RelayConfig} {s : Surroundings} {c : Connection} {hub : Hub} {key : QueueKey}

theorem lt_nextTick (config : RelayConfig) (due now : Nat) (reached : due ≤ now) :
    due < nextTick due now config.period := by
  unfold nextTick
  split
  · exact Clock.lt_deadline config.period_pos due
  · exact Nat.lt_of_le_of_lt reached (Clock.lt_deadline config.period_pos now)

theorem Transition.headway {b : Branch} {next : Hub × Connection}
    (h : Transition config s c hub key b next) (ready : c.ready s b = true)
    (clock : s.now = hub.now) : Headway key hub c next := by
  cases h with
  | start phase => exact .phase (by simp [move, phase, Phase.weight])
  | ignore phase inbound => exact .read inbound
  | giveUp phase reason => exact .phase (by simp [wrapUp, move, phase, Phase.weight])
  | enter phase inbound => exact .read inbound
  | enterLate phase inbound => exact .read inbound
  | tooLarge phase inbound => exact .read inbound
  | line phase inbound => exact .read inbound
  | sign phase inbound => exact .read inbound
  | drop phase inbound => exact .read inbound
  | take phase taken =>
    obtain ⟨q, rest, here, first, rfl⟩ := Hub.take?_eq_some_iff.mp taken
    exact .take here first rfl
  | @ping session phase due heard =>
    exact .tick phase (clock ▸ due) rfl (lt_nextTick config _ _ (clock ▸ due))
  | @written session write phase mode =>
    refine .phase ?_
    simp only [phase, Phase.weight]
    split <;> omega
  | @hang session write phase mode =>
    have new : write.begun = false := by simpa [Connection.ready, phase, mode] using ready
    exact .phase (by simp [phase, Phase.weight, new])
  | @leave b c' remarks result reason =>
    have serving := weight_of_serving reason.serving.1
    exact .phase (Nat.lt_of_lt_of_le (Nat.lt_succ_self 2) serving)
  | @closeHang result begun deadline phase mode =>
    have new : begun = false := by simpa [Connection.ready, phase, mode] using ready
    exact .phase (by simp [phase, Phase.weight, new])
  | @conclude result begun deadline b remarks phase closed =>
    refine .phase ?_
    simp only [phase, Phase.weight, conclude_phase]
    split <;> omega

end Connection

namespace Relay

def performAll : Relay → List (Nat × Branch) → Relay
  | r, [] => r
  | r, (key, b) :: rest => (r.perform key b).performAll rest

def permits : Relay → List (Nat × Branch) → Bool
  | _, [] => true
  | r, (key, b) :: rest => r.ready key b && (r.perform key b).permits rest

section Schedules

variable {r : Relay} {key : Nat} {b : Branch}

theorem performAll_append (r : Relay) (schedule more : List (Nat × Branch)) :
    r.performAll (schedule ++ more) = (r.performAll schedule).performAll more := by
  induction schedule generalizing r with
  | nil => rfl
  | cons step rest ih => exact ih _

theorem permits_append (r : Relay) (schedule more : List (Nat × Branch)) :
    r.permits (schedule ++ more) =
      (r.permits schedule && (r.performAll schedule).permits more) := by
  induction schedule generalizing r with
  | nil => rfl
  | cons step rest ih =>
    rw [List.cons_append, permits, permits, performAll, ih, Bool.and_assoc]

@[simp] theorem permits_singleton : r.permits [(key, b)] = r.ready key b := Bool.and_true _

/-- What ready steps keep holds after a schedule. -/
theorem performAll_keeps {P : Relay → Prop}
    (step : ∀ r key b, r.ready key b = true → P r → P (r.perform key b)) (start : P r)
    {schedule : List (Nat × Branch)} (permitted : r.permits schedule = true) :
    P (r.performAll schedule) := by
  induction schedule generalizing r with
  | nil => exact start
  | cons first rest ih =>
    obtain ⟨key, b⟩ := first
    obtain ⟨ready, permitted⟩ := Bool.and_eq_true_iff.mp permitted
    exact ih (step r key b ready start) permitted

theorem Sound.perform (h : r.Sound) (ready : r.ready key b = true) : (r.perform key b).Sound :=
  act_step ready ▸ h.act _

theorem Sound.performAll (h : r.Sound) {schedule : List (Nat × Branch)}
    (permitted : r.permits schedule = true) : (r.performAll schedule).Sound :=
  performAll_keeps (fun _ _ _ ready sound => sound.perform ready) h permitted

/-- What the steps of a schedule have taken away, and they are no more than that. -/
theorem length_add_weight_le (h : r.Sound) {schedule : List (Nat × Branch)}
    (permitted : r.permits schedule = true) :
    schedule.length + (r.performAll schedule).weight ≤ r.weight := by
  induction schedule generalizing r with
  | nil => exact Nat.le_of_eq (Nat.zero_add _)
  | cons first rest ih =>
    obtain ⟨key, b⟩ := first
    obtain ⟨ready, permitted⟩ := Bool.and_eq_true_iff.mp permitted
    have lighter := weight_perform_lt h ready
    have more := ih (h.perform ready) permitted
    simp only [List.length_cons, Relay.performAll]
    omega

theorem perform_headway (ready : r.ready key b = true) :
    ∃ c c', r.connections[key]? = some c ∧ (r.perform key b).connections[key]? = some c' ∧
      Connection.Headway key r.hub c ((r.perform key b).hub, c') := by
  obtain ⟨c, next, here, transition, done⟩ := perform_of_ready ready
  have able : c.ready (r.surroundings key) b = true := by simpa [Relay.ready, here] using ready
  have inBounds := (Array.getElem?_eq_some_iff.mp here).1
  obtain ⟨stored, connections, phase, transport⟩ : ∃ stored : Connection,
      (r.update key next.1 next.2).connections = r.connections.setIfInBounds key stored ∧
        stored.phase = next.2.phase ∧ stored.transport = next.2.transport :=
    ⟨_, update_connections r key next.1 next.2, rfl, rfl⟩
  refine ⟨c, stored, here, by simp [done, connections, inBounds], ?_⟩
  rw [done, update_hub]
  cases transition.headway able rfl with
  | read inbound => exact .read (by rw [inbound, transport])
  | take here first left => exact .take here first left
  | tick active due pinging later => exact .tick active due (phase.trans pinging) later
  | phase less => exact .phase (by rw [phase]; exact less)

/-- The steps that a relay takes to settle are a schedule. -/
theorem settleWithin_schedule (r : Relay) (steps : Nat) :
    ∃ schedule, r.permits schedule = true ∧ r.settleWithin steps = r.performAll schedule := by
  induction steps generalizing r with
  | zero => exact ⟨[], rfl, rfl⟩
  | succ steps ih =>
    cases next : r.next? with
    | none => exact ⟨[], rfl, by simp [settleWithin, next, Relay.performAll]⟩
    | some found =>
      obtain ⟨key, b⟩ := found
      obtain ⟨schedule, permitted, settled⟩ := ih (r.perform key b)
      refine ⟨(key, b) :: schedule, ?_, ?_⟩
      · simp [permits, ready_of_next next, permitted]
      · simp [settleWithin, next, settled, Relay.performAll]

end Schedules

/-- The tasks of the relay come to rest in every order, while the clock stands still. -/
structure ComesToRest (r : Relay) : Prop where
  bounded : ∀ schedule, r.permits schedule = true → schedule.length ≤ r.weight
  /-- No task can move for ever. -/
  finite : ∀ steps : Nat → Nat × Branch, ∃ n, r.permits ((List.range n).map steps) = false
  /-- A schedule cannot go on when the relay is at rest, and only then. -/
  complete : ∀ schedule, r.permits schedule = true →
    ((r.performAll schedule).isQuiet = true ↔ ∀ step, r.permits (schedule ++ [step]) = false)
  /-- However a schedule has begun, it can be completed. -/
  reached : ∀ schedule, r.permits schedule = true →
    ∃ more, r.permits (schedule ++ more) = true ∧
      (r.performAll (schedule ++ more)).isQuiet = true
  clock : ∀ schedule, r.permits schedule = true → (r.performAll schedule).hub.now = r.hub.now
  headway : ∀ schedule key b, r.permits (schedule ++ [(key, b)]) = true →
    ∃ c c', (r.performAll schedule).connections[key]? = some c ∧
      (r.performAll (schedule ++ [(key, b)])).connections[key]? = some c' ∧
      Connection.Headway key (r.performAll schedule).hub c
        ((r.performAll (schedule ++ [(key, b)])).hub, c')

theorem Sound.comesToRest {r : Relay} (h : r.Sound) : r.ComesToRest := by
  have bounded (schedule : List (Nat × Branch)) (permitted : r.permits schedule = true) :
      schedule.length ≤ r.weight :=
    Nat.le_trans (Nat.le_add_right _ _) (length_add_weight_le h permitted)
  constructor
  case bounded => exact bounded
  case finite =>
    intro steps
    refine ⟨r.weight + 1, ?_⟩
    rw [← Bool.not_eq_true]
    intro permitted
    have short := bounded _ permitted
    rw [List.length_map, List.length_range] at short
    omega
  case complete =>
    intro schedule permitted
    have goesOn (step : Nat × Branch) :
        r.permits (schedule ++ [step]) = (r.performAll schedule).ready step.1 step.2 := by
      rw [permits_append, permitted, Bool.true_and, permits_singleton]
    simp only [goesOn, isQuiet_iff, Prod.forall]
  case reached =>
    intro schedule permitted
    obtain ⟨more, goesOn, settled⟩ :=
      settleWithin_schedule (r.performAll schedule) (r.performAll schedule).weight
    refine ⟨more, by rw [permits_append, permitted, goesOn, Bool.true_and], ?_⟩
    rw [performAll_append, ← settled]
    exact settle_isQuiet (h.performAll permitted)
  case clock =>
    intro schedule permitted
    exact performAll_keeps (P := fun s => s.hub.now = r.hub.now)
      (fun _ _ _ ready now => (perform_now ready).trans now) rfl permitted
  case headway =>
    intro schedule key b permitted
    rw [permits_append, Bool.and_eq_true, permits_singleton] at permitted
    rw [performAll_append]
    exact perform_headway permitted.2

/-- Wherever a run has come to, the tasks come to rest from there. -/
theorem run_comesToRest (config : RelayConfig) (actions : List Action) :
    (run config actions).ComesToRest :=
  (run_sound config actions).comesToRest

end Relay

end ChatRelay
