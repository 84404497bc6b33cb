import ChatRelay.Proofs.Connection.Journal
import ChatRelay.Proofs.Relay.Gauge
import ChatRelay.Proofs.Relay.Isolation
import ChatRelay.Proofs.Relay.Rest
import ChatRelay.Proofs.Relay.Slots

/-!
# Tasks that have no choice

If no task has a choice between two steps and nothing is left to read, then the tasks do not get in
each other's way: what two of them do comes to the same in either order. So all schedules that are
complete lead to the same relay.
-/

namespace ChatRelay

namespace Connection

/-- At most one step of the task is ready, and it reads nothing. When that step is taken, this is
so again. -/
def Single (c : Connection) (s : Surroundings) : Prop :=
  match c.phase with
  | .connecting => False
  | .handshake deadline =>
    c.transport.inbound = [] ∧ (s.shutdown = true → s.now < deadline)
  | .active session =>
    c.transport.inbound = [] ∧ s.now ≤ session.tick ∧
      (s.shutdown = true ∨ session.tick = s.now → s.hasPending = false ∧ s.queueHeld = true) ∧
      ¬ (s.shutdown = true ∧ session.tick = s.now)
  | .writing session _ =>
    c.transport.inbound = [] ∧ s.shutdown = false ∧ s.now < session.tick
  | .closing .. => True
  | .ended _ => True

/-- The step that such a task can take, if any. -/
def turn (c : Connection) (s : Surroundings) : Branch :=
  match c.phase with
  | .connecting => .start
  | .handshake _ => if s.shutdown then .shutdown else .handshakeDeadline
  | .active session =>
    if s.shutdown then .shutdown else if session.tick ≤ s.now then .tick else .take
  | .writing _ write =>
    if !write.begun || c.transport.mode write.item != .hangs then .write else .writeDeadline
  | .closing _ begun _ =>
    if !begun || c.transport.closing != .hangs then .close else .closeDeadline
  | .ended _ => .start

section Single

variable {config : RelayConfig} {s s' : Surroundings} {c : Connection} {hub : Hub}
  {key : QueueKey} {b : Branch}

theorem Single.turn (single : c.Single s) (ready : c.ready s b = true) : b = c.turn s := by
  cases phase : c.phase with
  | connecting => simp [Single, phase] at single
  | handshake deadline =>
    obtain ⟨silent, early⟩ : c.transport.inbound = [] ∧ (s.shutdown = true → s.now < deadline) := by
      simpa [Single, phase] using single
    cases shut : s.shutdown with
    | true =>
      cases b <;> simp_all [Connection.ready, Connection.turn]
      omega
    | false => cases b <;> simp_all [Connection.ready, Connection.turn]
  | active session =>
    simp only [Single, phase] at single
    obtain ⟨silent, early, idle, alone⟩ := single
    cases shut : s.shutdown with
    | true =>
      cases b <;> simp_all [Connection.ready, Connection.turn]
      omega
    | false =>
      by_cases due : session.tick ≤ s.now
      · have same : session.tick = s.now := Nat.le_antisymm due early
        cases b <;> simp_all [Connection.ready, Connection.turn]
      · cases b <;> simp_all [Connection.ready, Connection.turn]
  | writing session write =>
    simp only [Single, phase] at single
    obtain ⟨silent, running, early⟩ := single
    cases b <;> simp_all [Connection.ready, Connection.turn]
  | closing result begun deadline =>
    cases b <;> simp_all [Connection.ready, Connection.turn]
  | ended outcome => cases b <;> simp [Connection.ready, phase] at ready

theorem Single.readless (single : c.Single s) (ready : c.ready s b = true) : b ≠ .read := by
  rintro rfl
  have := single.turn ready
  unfold Connection.turn at this
  split at this <;> (try split at this) <;> (try split at this) <;> cases this

/-- A task without a choice has none behind its step, whatever happened to its queue. -/
theorem Transition.single {next : Hub × Connection} (h : Transition config s c hub key b next)
    (single : c.Single s) (ready : c.ready s b = true) (clock : s.now = hub.now)
    (now : s'.now = s.now) (shutdown : s'.shutdown = s.shutdown) : next.2.Single s' := by
  have readless := single.readless ready
  cases h with
  | start phase => simp [Single, phase] at single
  | ignore => exact absurd rfl readless
  | enter => exact absurd rfl readless
  | enterLate => exact absurd rfl readless
  | tooLarge => exact absurd rfl readless
  | line => exact absurd rfl readless
  | sign => exact absurd rfl readless
  | drop => exact absurd rfl readless
  | giveUp phase reason => trivial
  | @take session text hub' phase taken =>
    simp only [Single, phase] at single
    obtain ⟨silent, early, idle, -⟩ := single
    have noticed : s.hasPending = true ∨ s.queueHeld = false := by
      simpa [Connection.ready, phase] using ready
    have free : ¬ (s.shutdown = true ∨ session.tick = s.now) := by
      intro busy
      obtain ⟨empty, held⟩ := idle busy
      rcases noticed with pending | closed
      · rw [empty] at pending
        cases pending
      · rw [held] at closed
        cases closed
    have later : s.now < session.tick :=
      Nat.lt_of_le_of_ne early fun same => free (Or.inr same.symm)
    simp only [Single, prepare, now, shutdown]
    exact ⟨silent, by simpa using fun shut => free (Or.inl shut), later⟩
  | @ping session phase due heard =>
    simp only [Single, phase] at single
    obtain ⟨silent, early, -, alone⟩ := single
    have same : session.tick = s.now := Nat.le_antisymm due early
    have later : s.now < nextTick session.tick hub.now config.period := by
      rw [← same]
      exact lt_nextTick config _ _ (clock ▸ due)
    simp only [Single, prepare, now, shutdown]
    exact ⟨silent, by simpa [same] using alone, later⟩
  | @written session write phase mode =>
    simp only [Single, phase] at single
    obtain ⟨silent, running, early⟩ := single
    have apart : session.tick ≠ s.now := Nat.ne_of_gt early
    simp [Single, now, shutdown, running, silent, apart, Nat.le_of_lt early]
  | @hang session write phase mode =>
    simp only [Single, phase] at single
    simpa only [Single, now, shutdown] using single
  | leave reason => trivial
  | closeHang phase mode => trivial
  | conclude phase closed => trivial

/-- A task without a choice has nothing to say. -/
theorem Transition.hushed {next : Hub × Connection} (h : Transition config s c hub key b next)
    (single : c.Single s) {told : List Event} (story : next.1.story = hub.story ++ told) :
    messagesOf told = [] := by
  have same {told' : List Event} (story' : next.1.story = hub.story ++ told') : told = told' :=
    List.append_cancel_left (story.symm.trans story')
  cases h.intake with
  | nothing story' quiet =>
    rw [same story']
    exact quiet.messages
  | item _ _ story' quiet =>
    rw [same story']
    exact quiet.messages
  | name _ _ story' quiet =>
    rw [same story']
    exact quiet.messages
  | line phase inbound =>
    simp only [Single, phase] at single
    rw [single.1] at inbound
    cases inbound

end Single

end Connection

namespace Hub

theorem diary_onTop (h : Hub) (past : List Entry) (id : ConnectionId) :
    (h.onTop past).diary id = h.diary id ++ past.filter fun entry => entry.event.isOf id :=
  List.filter_append ..

end Hub

namespace Relay

/-- The relays are the same but for the order in which different connections have done something,
and for the lines about the registry. -/
structure Same (r r' : Relay) : Prop where
  state : r.forget = r'.forget
  /-- Each connection has done the same, in the same order and at the same times. -/
  diaries : ∀ id, r.hub.diary id = r'.hub.diary id

namespace Same

variable {r r' r'' : Relay}

theorem refl (r : Relay) : Same r r := ⟨rfl, fun _ => rfl⟩

theorem symm (same : Same r r') : Same r' r := ⟨same.state.symm, fun id => (same.diaries id).symm⟩

theorem trans (first : Same r r') (second : Same r' r'') : Same r r'' :=
  ⟨first.state.trans second.state, fun id => (first.diaries id).trans (second.diaries id)⟩

theorem ready (same : Same r r') (key : Nat) (b : Branch) : r.ready key b = r'.ready key b := by
  have seen (r : Relay) : r.ready key b = r.forget.ready key b := rfl
  rw [seen r, same.state, ← seen r']

theorem isQuiet (same : Same r r') : r.isQuiet = r'.isQuiet := by
  rw [Bool.eq_iff_iff, isQuiet_iff, isQuiet_iff]
  simp only [same.ready]

end Same

theorem update_onTop (r : Relay) (key : Nat) (next : Hub × Connection) (past : List Entry) :
    (r.update key (Connection.onTop next past).1 (Connection.onTop next past).2).forget =
      (r.forget.update key next.1 next.2).forget := by
  cases ended : next.2.phase.isOver && next.2.holdsSlot <;>
    simp only [Relay.update, Connection.onTop, ended] <;> rfl

/-- What a step does is read off the relay without its journal. -/
theorem perform_forget (r : Relay) (key : Nat) {b : Branch} (readless : b ≠ .read) :
    (r.perform key b).forget = (r.forget.perform key b).forget ∧
      (r.perform key b).hub = (r.forget.perform key b).hub.onTop r.hub.journal := by
  have whole : r.hub = r.forget.hub.onTop r.hub.journal := rfl
  cases here : r.connections[key]? with
  | none =>
    have there : r.forget.connections[key]? = none := here
    simp only [perform, here, there]
    exact ⟨rfl, whole⟩
  | some c =>
    have there : r.forget.connections[key]? = some c := here
    have performed : c.perform r.config r.hub key b =
        Connection.onTop (c.perform r.config r.forget.hub key b) r.hub.journal := by
      conv_lhs => rw [whole]
      exact Connection.perform_onTop _ _ _ _ _ readless
    simp only [perform, here, there, performed, update_hub]
    exact ⟨update_onTop _ _ _ _, rfl⟩

theorem Same.perform {r r' : Relay} (same : Same r r') (key : Nat) {b : Branch}
    (readless : b ≠ .read) : Same (r.perform key b) (r'.perform key b) := by
  obtain ⟨state, hub⟩ := perform_forget r key readless
  obtain ⟨state', hub'⟩ := perform_forget r' key readless
  constructor
  · rw [state, state', same.state]
  · intro id
    have past : r.hub.diary id = r'.hub.diary id := same.diaries id
    rw [hub, hub', same.state, Hub.diary_onTop, Hub.diary_onTop]
    exact congrArg _ past

theorem connections_of_alike {r r' : Relay} {d k : Nat} (apart : k ≠ d) (one : Alike d r r')
    (other : Alike k r r') : r.connections = r'.connections := by
  apply Array.ext_getElem?
  intro i
  by_cases own : i = d
  · exact other.connections i fun same => apart (same.symm.trans own)
  · exact one.connections i own

theorem queues_of_alike {r r' : Relay} {d k : Nat} (apart : k ≠ d) (one : Alike d r r')
    (other : Alike k r r') : r.hub.queues = r'.hub.queues := by
  apply Array.ext_getElem?
  intro i
  by_cases own : i = d
  · exact other.hub.queues i fun same => apart (same.symm.trans own)
  · exact one.hub.queues i own

/-- Who is the same for everybody but one, and for everybody but another, is the same. -/
theorem same_of_alike {r r' : Relay} {d k : Nat} (apart : k ≠ d)
    (distinct : ConnectionId.nth k ≠ .nth d) (one : Alike d r r') (other : Alike k r r')
    (members : r.hub.registry.members = r'.hub.registry.members)
    (meters : r.hub.meters = r'.hub.meters) (slots : r.slots = r'.slots)
    (upgrades : r.upgrades = r'.upgrades) (kept : r.kept = r'.kept)
    (reserved : r.reserved = r'.reserved) : Same r r' := by
  constructor
  · have registry : r.hub.registry = r'.hub.registry := by
      have whole (g : Registry) : g = ⟨g.members, g.ended⟩ := rfl
      rw [whole r.hub.registry, members, one.hub.ended, ← whole]
    simp only [forget, Relay.mk.injEq, Hub.mk.injEq]
    exact ⟨one.config, ⟨one.hub.options, registry, queues_of_alike apart one other,
      one.hub.nextId, meters, one.hub.now, trivial⟩, connections_of_alike apart one other,
      one.signal, slots, upgrades, kept, reserved⟩
  · intro id
    by_cases own : id = .nth d
    · exact other.hub.diary fun same => distinct (same.symm.trans own)
    · exact one.hub.diary own

structure Regular (r : Relay) : Prop where
  sound : r.Sound
  accounted : r.Accounted
  gauged : r.hub.Gauged
  few : r.connections.size ≤ UInt64.size

theorem Regular.act {r : Relay} (h : r.Regular) {a : Action}
    (size : (r.act a).connections.size = r.connections.size) : (r.act a).Regular where
  sound := h.sound.act a
  accounted := h.accounted.effect (act_effect r a)
  gauged := gauged_effect h.gauged (act_effect r a)
  few := by
    rw [size]
    exact h.few

theorem Regular.perform {r : Relay} (h : r.Regular) {key : Nat} {b : Branch}
    (ready : r.ready key b = true) : (r.perform key b).Regular := by
  rw [← act_step ready]
  exact h.act (by rw [act_step ready, perform_size ready])

theorem run_regular {config : RelayConfig} {actions : List Action}
    (few : (run config actions).connections.size ≤ UInt64.size) : (run config actions).Regular :=
  ⟨run_sound config actions, run_accounted config actions, run_hub_gauged config actions, few⟩

/-- No task has a choice. -/
structure Untangled (r : Relay) : Prop extends Regular r where
  single : ∀ (key : Nat) (c : Connection), r.connections[key]? = some c →
    c.Single (r.surroundings key)

section Untangled

variable {r : Relay} {key k : Nat} {b b' : Branch}

theorem Untangled.of_ready (u : r.Untangled) (ready : r.ready key b = true) :
    ∃ c, r.connections[key]? = some c ∧ c.Single (r.surroundings key) ∧
      c.ready (r.surroundings key) b = true := by
  obtain ⟨c, -, here, -⟩ := perform_of_ready ready
  exact ⟨c, here, u.single key c here, by simpa [Relay.ready, here] using ready⟩

theorem Untangled.readless (u : r.Untangled) (ready : r.ready key b = true) : b ≠ .read := by
  obtain ⟨c, -, single, able⟩ := u.of_ready ready
  exact single.readless able

theorem Untangled.only (u : r.Untangled) (ready : r.ready key b = true)
    (ready' : r.ready key b' = true) : b = b' := by
  obtain ⟨c, here, single, able⟩ := u.of_ready ready
  have able' : c.ready (r.surroundings key) b' = true := by simpa [Relay.ready, here] using ready'
  rw [single.turn able, single.turn able']

theorem Untangled.numbered (u : r.Untangled) (ready : r.ready key b = true) :
    key < UInt64.size := by
  obtain ⟨c, here, -⟩ := u.of_ready ready
  exact Nat.lt_of_lt_of_le (Array.getElem?_eq_some_iff.mp here).1 u.few

/-- A step is nobody else's business. -/
theorem Untangled.alike (u : r.Untangled) (ready : r.ready key b = true) :
    Alike key (r.perform key b) r := by
  have own : (Action.step key b).isFor key = true := by simp [Action.isFor, Action.target?]
  have silent : messagesOf ((Moment.mk r (.step key b)).own key) = [] := by
    obtain ⟨c, next, here, transition, done⟩ := perform_of_ready ready
    obtain ⟨told, story⟩ := transition.outline.story
    have news : (Moment.mk r (.step key b)).news = told :=
      Moment.news_eq (by rw [Moment.after, act_step ready, done, update_hub, story])
    have mine : (Moment.mk r (.step key b)).own key = told := (if_pos rfl).trans news
    rw [mine]
    exact transition.hushed (u.single key c here) story
  rw [← act_step ready]
  exact Alike.act_own u.sound u.few (u.numbered ready) own silent

theorem Untangled.perform (u : r.Untangled) (ready : r.ready key b = true) :
    (r.perform key b).Untangled where
  toRegular := u.toRegular.perform ready
  single := by
    intro k c' there
    by_cases same : k = key
    · subst same
      obtain ⟨c, next, here, transition, done⟩ := perform_of_ready ready
      have able : c.ready (r.surroundings k) b = true := by simpa [Relay.ready, here] using ready
      have now : ((r.perform k b).surroundings k).now = (r.surroundings k).now := perform_now ready
      have shutdown : ((r.perform k b).surroundings k).shutdown = (r.surroundings k).shutdown := by
        simp [Relay.surroundings, done]
      have single := transition.single (u.single k c here) able rfl now shutdown
      rw [done, update_here here] at there
      rw [← Option.some.inj there]
      exact single
    · have alike := u.alike ready
      rw [alike.connections k same] at there
      rw [alike.surroundings same]
      exact u.single k c' there

/-- The step of one task leaves the step of another ready. -/
theorem Untangled.still_ready (u : r.Untangled) (apart : k ≠ key) (ready : r.ready key b = true)
    (ready' : r.ready k b' = true) : (r.perform key b).ready k b' = true := by
  rw [(u.alike ready).ready apart]
  exact ready'

/-- After the steps of two tasks, all that the tasks of others see is what one of the steps left. -/
theorem Untangled.alike_both (u : r.Untangled) (apart : k ≠ key) (ready : r.ready key b = true)
    (ready' : r.ready k b' = true) :
    Alike key ((r.perform key b).perform k b') ((r.perform k b').perform key b) := by
  have early := u.still_ready apart ready ready'
  have late := u.still_ready apart.symm ready' ready
  have after := u.perform ready
  have numbered := u.numbered ready
  have first := (u.alike ready).step apart (after.sound.seats after.few numbered)
    (u.sound.seats u.few numbered)
    (fun c here => after.sound.id_ne after.few numbered apart here) b'
  rw [act_step early, act_step ready'] at first
  exact first.trans ((u.perform ready').alike late).symm

theorem perform_counts (ready : r.ready key b = true) (readless : b ≠ .read) :
    (r.perform key b).hub.meters.counts =
      if b = .handshakeDeadline then r.hub.meters.counts.increase .handshakeTimeouts 1
      else r.hub.meters.counts := by
  obtain ⟨c, next, here, transition, done⟩ := perform_of_ready ready
  rw [done, update_hub]
  cases transition.counted with
  | spoke read => exact absurd read readless
  | timedOut late _ _ meters => rw [if_pos late, meters]
  | silent _ timely meters => rw [if_neg timely, meters]

/-- What no task touches. -/
theorem perform_apart (r : Relay) (key : Nat) (b : Branch) :
    (r.perform key b).kept = r.kept ∧ (r.perform key b).upgrades = r.upgrades ∧
      (r.perform key b).reserved = r.reserved ∧
      (r.perform key b).slots.capacity = r.slots.capacity := by
  unfold Relay.perform
  split
  · unfold Relay.update
    dsimp only
    split <;> exact ⟨rfl, rfl, rfl, rfl⟩
  · exact ⟨rfl, rfl, rfl, rfl⟩

/-- The steps of two tasks come to the same in either order. -/
theorem Untangled.diamond (u : r.Untangled) (apart : k ≠ key) (ready : r.ready key b = true)
    (ready' : r.ready k b' = true) :
    Same ((r.perform key b).perform k b') ((r.perform k b').perform key b) := by
  have early := u.still_ready apart ready ready'
  have late := u.still_ready apart.symm ready' ready
  have one := u.alike_both apart ready ready'
  have other := (u.alike_both apart.symm ready' ready).symm
  have left := (u.perform ready).perform early
  have right := (u.perform ready').perform late
  have members := left.sound.ascending.members_ext right.sound.ascending fun m => by
    by_cases own : m.queue = key
    · exact other.hub.mem_iff fun same => apart (same.symm.trans own)
    · exact one.hub.mem_iff own
  have counts : ((r.perform key b).perform k b').hub.meters.counts =
      ((r.perform k b').perform key b).hub.meters.counts := by
    have readless := u.readless ready
    have readless' := u.readless ready'
    rw [perform_counts early readless', perform_counts ready readless,
      perform_counts late readless, perform_counts ready' readless']
    split <;> split <;> rfl
  have untouched (key k : Nat) (b b' : Branch) :
      ((r.perform key b).perform k b').kept = r.kept ∧
        ((r.perform key b).perform k b').upgrades = r.upgrades ∧
        ((r.perform key b).perform k b').reserved = r.reserved ∧
        ((r.perform key b).perform k b').slots.capacity = r.slots.capacity := by
    obtain ⟨kept, upgrades, reserved, capacity⟩ := perform_apart r key b
    obtain ⟨kept', upgrades', reserved', capacity'⟩ := perform_apart (r.perform key b) k b'
    exact ⟨kept'.trans kept, upgrades'.trans upgrades, reserved'.trans reserved,
      capacity'.trans capacity⟩
  obtain ⟨kept, upgrades, reserved, capacity⟩ := untouched key k b b'
  obtain ⟨kept', upgrades', reserved', capacity'⟩ := untouched k key b' b
  have distinct : ConnectionId.nth k ≠ .nth key := fun same =>
    apart (ConnectionId.nth_inj (u.numbered ready') (u.numbered ready) same)
  refine same_of_alike apart distinct one other members ?_ ?_
    (upgrades.trans upgrades'.symm) (kept.trans kept'.symm) (reserved.trans reserved'.symm)
  · refine Meters.eq_of_counts counts ?_
    rw [left.gauged.shown, right.gauged.shown, Registry.size, Registry.size, members]
  · have connections := connections_of_alike apart one other
    have taken := left.accounted.taken
    rw [upgrades, reserved, connections, ← upgrades', ← reserved',
      ← right.accounted.taken] at taken
    have whole (t : Slots) : t = ⟨t.capacity, t.taken⟩ := rfl
    rw [whole (Relay.slots _), capacity, taken, ← capacity', ← whole]

theorem Sound.completion (h : r.Sound) :
    ∃ schedule, r.permits schedule = true ∧ (r.performAll schedule).isQuiet = true :=
  h.comesToRest.reached [] rfl

theorem permits_of_quiet (quiet : r.isQuiet = true) {schedule : List (Nat × Branch)}
    (permitted : r.permits schedule = true) : schedule = [] := by
  cases schedule with
  | nil => rfl
  | cons step rest =>
    obtain ⟨key, b⟩ := step
    have ready := (Bool.and_eq_true_iff.mp permitted).1
    rw [isQuiet_iff.mp quiet key b] at ready
    cases ready

/-- All complete schedules lead to the same relay. The induction is on the weight of the relay: two
schedules that begin with different tasks are compared with two that take both of these steps
first. -/
theorem Untangled.unique {r' : Relay} (u : r.Untangled) (same : Same r r')
    {schedule schedule' : List (Nat × Branch)} (permitted : r.permits schedule = true)
    (permitted' : r'.permits schedule' = true) (quiet : (r.performAll schedule).isQuiet = true)
    (quiet' : (r'.performAll schedule').isQuiet = true) :
    Same (r.performAll schedule) (r'.performAll schedule') := by
  induction weighs : r.weight using Nat.strong_induction_on
    generalizing r r' schedule schedule' with
  | h weight ih =>
    subst weighs
    cases schedule with
    | nil =>
      have rest : r'.isQuiet = true := same.isQuiet ▸ quiet
      rw [permits_of_quiet rest permitted']
      exact same
    | cons first after =>
      obtain ⟨key, b⟩ := first
      obtain ⟨ready, permitted⟩ := Bool.and_eq_true_iff.mp permitted
      cases schedule' with
      | nil =>
        rw [isQuiet_iff.mp (same.isQuiet.trans quiet') key b] at ready
        cases ready
      | cons first' after' =>
        obtain ⟨k, b'⟩ := first'
        obtain ⟨ready', permitted'⟩ := Bool.and_eq_true_iff.mp permitted'
        rw [← same.ready] at ready'
        have one := u.perform ready
        have two := u.perform ready'
        have lighter := weight_perform_lt u.sound ready
        have lighter' := weight_perform_lt u.sound ready'
        have stepped := same.perform k (u.readless ready')
        by_cases own : k = key
        · subst own
          obtain rfl := u.only ready ready'
          exact ih _ lighter one stepped permitted permitted' quiet quiet' rfl
        · have early := u.still_ready own ready ready'
          have late := u.still_ready (Ne.symm own) ready' ready
          have both := one.perform early
          have both' := two.perform late
          have lightest := weight_perform_lt one.sound early
          obtain ⟨more, goesOn, rest⟩ := both.sound.completion
          obtain ⟨more', goesOn', rest'⟩ := both'.sound.completion
          have left := ih _ lighter one (.refl _) permitted
            (show Relay.permits _ ((k, b') :: more) = true by simp [permits, early, goesOn])
            quiet rest rfl
          have middle := ih _ (lightest.trans lighter) both (u.diamond own ready ready') goesOn
            goesOn' rest rest' rfl
          have right := ih _ lighter' two stepped
            (show Relay.permits _ ((key, b) :: more') = true by simp [permits, late, goesOn'])
            permitted' rest' quiet' rfl
          exact (left.trans middle).trans right

end Untangled

end Relay

end ChatRelay
