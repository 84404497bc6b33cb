import ChatRelay.Proofs.Relay.Delivery
import ChatRelay.Proofs.Relay.Time
import ChatRelay.Proofs.Relay.Untangled

/-!
# The order of steps makes no difference

A relay at rest, at which no write hangs, is told one thing from outside, or time passes until
something is due. Then no task has a choice. The one exception is a task for which an item has
arrived; it reads this item before anybody else can take a step. So the order in which the tasks
move from there makes no difference.
-/

namespace ChatRelay

namespace Connection

section Resting

variable {config : RelayConfig} {s s' : Surroundings} {c : Connection} {hub : Hub}
  {key : QueueKey} {b : Branch}

/-- Whatever happens to its queue, a task at rest does not get a choice. -/
theorem Resting.single (rest : c.Resting s) (idle : c.isHanging = false) (now : s'.now = s.now)
    (shutdown : s'.shutdown = s.shutdown) : c.Single s' := by
  cases rest with
  | handshake phase unset silent early => simp [Single, phase, silent, shutdown, unset]
  | @active session phase unset silent nothing held early =>
    have apart : session.tick ≠ s.now := Nat.ne_of_gt early
    simp [Single, phase, silent, now, shutdown, unset, apart, Nat.le_of_lt early]
  | writing phase unset begun hangs => simp [isHanging, phase, begun, hangs] at idle
  | closing phase => simp [Single, phase]
  | ended phase => simp [Single, phase]

/-- Nor does it get one by the signal. -/
theorem Resting.single_shutdown (rest : c.Resting s) (idle : c.isHanging = false) (value : Bool) :
    c.Single { s with shutdown := value } := by
  cases rest with
  | handshake phase unset silent early => simp [Single, phase, silent, early]
  | @active session phase unset silent nothing held early =>
    have apart : session.tick ≠ s.now := Nat.ne_of_gt early
    simp [Single, phase, silent, nothing, held, apart, Nat.le_of_lt early]
  | writing phase unset begun hangs => simp [isHanging, phase, begun, hangs] at idle
  | closing phase => simp [Single, phase]
  | ended phase => simp [Single, phase]

/-- Nor by the passing of time, up to the moment at which something is due. -/
theorem Resting.single_pass (rest : c.Resting s) (idle : c.isHanging = false) {t : Nat}
    (soonest : ∀ due, c.due? = some due → s.now < due → t ≤ due) :
    c.Single { s with now := t } := by
  cases rest with
  | handshake phase unset silent early => simp [Single, phase, silent, unset]
  | @active session phase unset silent nothing held early =>
    have later : t ≤ session.tick := soonest _ (by simp [due?, phase]) early
    simp [Single, phase, silent, unset, nothing, held, later]
  | writing phase unset begun hangs => simp [isHanging, phase, begun, hangs] at idle
  | closing phase => simp [Single, phase]
  | ended phase => simp [Single, phase]

/-- A task at rest that gets an item can do nothing but read it. -/
theorem Resting.ready_arrived (rest : c.Resting s) {transport : Transport}
    (modes : transport.writing = c.transport.writing ∧ transport.pinging = c.transport.pinging ∧
      transport.closing = c.transport.closing)
    (ready : { c with transport }.ready s b = true) : b = .read := by
  obtain ⟨writing, pinging, closing⟩ := modes
  cases rest with
  | handshake phase unset silent early =>
    cases b <;> simp_all [Connection.ready]
    omega
  | active phase unset silent nothing held early =>
    cases b <;> simp_all [Connection.ready]
    omega
  | @writing session write phase unset begun hangs early =>
    have same : transport.mode write.item = .hangs := by
      rw [← hangs]
      cases write.item <;> simp [Transport.mode, writing, pinging]
    cases b <;> simp_all [Connection.ready]
    omega
  | closing phase hangs early =>
    cases b <;> simp_all [Connection.ready]
    omega
  | ended phase => cases b <;> simp [Connection.ready, phase] at ready

theorem Resting.of_handshake (rest : c.Resting s) {deadline : Nat}
    (phase : c.phase = .handshake deadline) : s.shutdown = false ∧ c.transport.inbound = [] := by
  cases rest with
  | handshake _ unset silent => exact ⟨unset, silent⟩
  | active other | writing other | closing other | ended other =>
    rw [phase] at other
    cases other

theorem Resting.of_active (rest : c.Resting s) {session : Session}
    (phase : c.phase = .active session) :
    s.shutdown = false ∧ c.transport.inbound = [] ∧ s.now < session.tick := by
  cases rest with
  | active same unset silent _ _ early =>
    rw [phase] at same
    cases same
    exact ⟨unset, silent, early⟩
  | handshake other | writing other | closing other | ended other =>
    rw [phase] at other
    cases other

/-- When it has read the item, it has no choice. -/
theorem Resting.single_read (rest : c.Resting s) {transport : Transport} {item : Inbound}
    (arrived : transport.inbound = c.transport.inbound ++ [item]) {next : Hub × Connection}
    (h : Transition config s { c with transport } hub key .read next)
    (clock : s.now = hub.now) (now : s'.now = s.now) (shutdown : s'.shutdown = s.shutdown) :
    next.2.Single s' := by
  have last {first : Inbound} {more : List Inbound} (silent : c.transport.inbound = [])
      (inbound : transport.inbound = first :: more) : more = [] := by
    rw [arrived, silent] at inbound
    exact (List.cons.inj inbound).2.symm
  have waiting {session : Session} {c' : Connection} (phase : c'.phase = .active session)
      (unset : s.shutdown = false) (silent : c'.transport.inbound = [])
      (early : s.now < session.tick) : c'.Single s' := by
    have apart : session.tick ≠ s.now := Nat.ne_of_gt early
    simp [Single, phase, silent, now, shutdown, unset, apart, Nat.le_of_lt early]
  cases h with
  | ignore phase inbound =>
    obtain ⟨unset, silent⟩ := rest.of_handshake phase
    have phase : c.phase = _ := phase
    simp [Single, reading, phase, last silent inbound, shutdown, unset]
  | giveUp => trivial
  | @enter deadline name more hub' tick phase inbound small registered scheduled =>
    obtain ⟨unset, silent⟩ := rest.of_handshake phase
    refine waiting rfl unset (last silent inbound) ?_
    have later : hub'.now < tick := by
      rw [Clock.eq_deadline_of_after scheduled]
      exact Clock.lt_deadline config.period_pos _
    have same : hub'.now = hub.now := by
      obtain ⟨registry, -, rfl⟩ := Hub.register_eq_ok_iff.mp registered
      simp
    rw [clock, ← same]
    exact later
  | enterLate => trivial
  | tooLarge => trivial
  | line phase inbound =>
    obtain ⟨unset, silent, early⟩ := rest.of_active phase
    exact waiting rfl unset (last silent inbound) early
  | sign phase inbound =>
    obtain ⟨unset, silent, early⟩ := rest.of_active phase
    exact waiting rfl unset (last silent inbound) early
  | drop phase inbound =>
    obtain ⟨unset, silent, early⟩ := rest.of_active phase
    exact waiting phase unset (last silent inbound) early
  | leave => trivial
  | conclude phase closed => cases closed

end Resting

end Connection

namespace Relay

/-- One thing is told to the relay from outside, or time passes until something is due. -/
def Action.isStimulus (r : Relay) : Action → Bool
  | .arrive .. | .hangUp _ | .abort _ | .unregister _ | .endRegistry | .send _ => true
  | .pass length => r.nextDue? = some (r.hub.now + length)
  | _ => false

def Confluent (r : Relay) : Prop :=
  ∀ schedule schedule', r.permits schedule = true → r.permits schedule' = true →
    (r.performAll schedule).isQuiet = true → (r.performAll schedule').isQuiet = true →
    Same (r.performAll schedule) (r.performAll schedule')

section Confluent

variable {r : Relay} {key : Nat} {b : Branch}

theorem Untangled.confluent (u : r.Untangled) : r.Confluent :=
  fun _ _ permitted permitted' quiet quiet' =>
    u.unique (.refl r) permitted permitted' quiet quiet'

/-- If there is one step at most that can be the first, it is the others that count. -/
theorem confluent_of_only (only : ∀ k b', r.ready k b' = true → k = key ∧ b' = b)
    (next : r.ready key b = true → (r.perform key b).Confluent) : r.Confluent := by
  intro schedule schedule' permitted permitted' quiet quiet'
  cases ready : r.ready key b with
  | false =>
    have rest : r.isQuiet = true := isQuiet_iff.mpr fun k b' => by
      rw [← Bool.not_eq_true]
      intro other
      obtain ⟨rfl, rfl⟩ := only k b' other
      rw [other] at ready
      cases ready
    rw [permits_of_quiet rest permitted, permits_of_quiet rest permitted']
    exact .refl _
  | true =>
    -- A schedule that is complete begins with this step.
    have begins {schedule : List (Nat × Branch)} (permitted : r.permits schedule = true)
        (quiet : (r.performAll schedule).isQuiet = true) : ∃ after,
        schedule = (key, b) :: after ∧ (r.perform key b).permits after = true := by
      cases schedule with
      | nil =>
        have unready : r.ready key b = false := isQuiet_iff.mp quiet key b
        rw [unready] at ready
        cases ready
      | cons first after =>
        obtain ⟨k, b'⟩ := first
        obtain ⟨able, goesOn⟩ := Bool.and_eq_true_iff.mp permitted
        obtain ⟨rfl, rfl⟩ := only k b' able
        exact ⟨after, rfl, goesOn⟩
    obtain ⟨after, rfl, goesOn⟩ := begins permitted quiet
    obtain ⟨after', rfl, goesOn'⟩ := begins permitted' quiet'
    exact next ready after after' goesOn goesOn' quiet quiet'

end Confluent

section Stimulus

variable {r : Relay} {key : Nat}

section Rest

variable (quiet : r.isQuiet = true)

include quiet

/-- An item that arrives can only be read. -/
theorem only_read {f : Transport → Transport}
    (modes : ∀ t, (f t).writing = t.writing ∧ (f t).pinging = t.pinging ∧
      (f t).closing = t.closing) :
    ∀ k b, (r.modifyTransport key f).ready k b = true → k = key ∧ b = .read := by
  intro k b ready
  by_cases own : k = key
  · subst own
    cases here : r.connections[k]? with
    | none =>
      have there : (r.modifyTransport k f).connections[k]? = none := by
        simp [modifyTransport, Array.getElem?_modify, here]
      simp [Relay.ready, there] at ready
    | some c =>
      rw [Relay.ready, modifyTransport_here here] at ready
      exact ⟨rfl, (resting_of_quiet quiet here).ready_arrived (modes _) ready⟩
  · have same : (r.modifyTransport key f).ready k b = r.ready k b := by
      rw [Relay.ready, modifyTransport_elsewhere own]
      rfl
    rw [same, isQuiet_iff.mp quiet k b] at ready
    cases ready

variable (idle : ∀ c ∈ r.connections, c.isHanging = false)

include idle

/-- When the item is read, nobody has a choice. -/
theorem single_behind_read {f : Transport → Transport} {item : Inbound}
    (arrived : ∀ t, (f t).inbound = t.inbound ++ [item])
    (ready : (r.modifyTransport key f).ready key .read = true) {k : Nat} {c : Connection}
    (here : ((r.modifyTransport key f).perform key .read).connections[k]? = some c) :
    c.Single (((r.modifyTransport key f).perform key .read).surroundings k) := by
  have now : ((r.modifyTransport key f).perform key .read).hub.now = r.hub.now :=
    perform_now ready
  obtain ⟨c', next, there, transition, done⟩ := perform_of_ready ready
  have shutdown : ((r.modifyTransport key f).perform key .read).signal = r.signal := by
    rw [done, update_signal]
    rfl
  have clock : (((r.modifyTransport key f).perform key .read).surroundings k).now =
      (r.surroundings k).now := now
  have signal : (((r.modifyTransport key f).perform key .read).surroundings k).shutdown =
      (r.surroundings k).shutdown := congrArg Signal.isSet shutdown
  by_cases own : k = key
  · subst own
    cases before : r.connections[k]? with
    | none => simp [modifyTransport, Array.getElem?_modify, before] at there
    | some c₀ =>
      rw [modifyTransport_here before] at there
      cases there
      have single := (resting_of_quiet quiet before).single_read (arrived _) transition rfl clock
        signal
      rw [done, update_here (modifyTransport_here before f)] at here
      rw [← Option.some.inj here]
      exact single
  · rw [done, update_elsewhere own, modifyTransport_elsewhere own] at here
    exact (resting_of_quiet quiet here).single (idle c (Array.mem_of_getElem? here)) clock signal

/-- What an item does that arrives. -/
theorem Regular.confluent_arrived (h : r.Regular) {a : Action} {f : Transport → Transport}
    {item : Inbound} (after : r.act a = r.modifyTransport key f)
    (modes : ∀ t, (f t).writing = t.writing ∧ (f t).pinging = t.pinging ∧
      (f t).closing = t.closing)
    (arrived : ∀ t, (f t).inbound = t.inbound ++ [item]) : (r.act a).Confluent := by
  have size : (r.act a).connections.size = r.connections.size := by
    simp [after, modifyTransport]
  have regular := h.act size
  rw [after] at regular ⊢
  refine confluent_of_only (only_read quiet modes) fun ready => Untangled.confluent ?_
  exact ⟨regular.perform ready,
    fun k c here => single_behind_read quiet idle arrived ready here⟩

/-- What changes neither tasks nor clock nor signal. -/
theorem Regular.confluent_calm (h : r.Regular) {a : Action}
    (connections : (r.act a).connections = r.connections)
    (now : (r.act a).hub.now = r.hub.now) (signal : (r.act a).signal = r.signal) :
    (r.act a).Confluent := by
  refine Untangled.confluent ⟨h.act (by rw [connections]), fun k c here => ?_⟩
  rw [connections] at here
  exact (resting_of_quiet quiet here).single (idle c (Array.mem_of_getElem? here)) now
    (congrArg Signal.isSet signal)

theorem Regular.confluent_abort (h : r.Regular) {c : Connection}
    (here : r.connections[key]? = some c)
    (after : r.act (.abort key) =
      r.update key (c.die r.hub key .aborted).1 (c.die r.hub key .aborted).2) :
    (r.act (.abort key)).Confluent := by
  refine Untangled.confluent ⟨h.act (by rw [after, update_size]), fun k c' there => ?_⟩
  rw [after] at there ⊢
  by_cases own : k = key
  · subst own
    rw [update_here here] at there
    rw [← Option.some.inj there]
    trivial
  · rw [update_elsewhere own] at there
    have now : (c.die r.hub key .aborted).1.now = r.hub.now :=
      (@Connection.outline_die c r.hub key .aborted).frame.2.2.2.1
    refine (resting_of_quiet quiet there).single (idle c' (Array.mem_of_getElem? there)) ?_ ?_
    · simpa [Relay.surroundings, update_hub] using now
    · simp [Relay.surroundings]

theorem Regular.confluent (h : r.Regular) {a : Action} (stimulus : a.isStimulus r = true) :
    (r.act a).Confluent := by
  have effect := act_effect r a
  generalize after : r.act a = r' at effect
  rw [← after]
  cases effect with
  | nothing => exact h.confluent_calm quiet idle (by rw [after]) (by rw [after]) (by rw [after])
  | arrive => exact h.confluent_arrived quiet idle after (fun _ => ⟨rfl, rfl, rfl⟩) fun _ => rfl
  | hangUp => exact h.confluent_arrived quiet idle after (fun _ => ⟨rfl, rfl, rfl⟩) fun _ => rfl
  | abort here alive => exact h.confluent_abort quiet idle here after
  | unregister => exact h.confluent_calm quiet idle rfl (Hub.unregister_now r.hub _) rfl
  | endRegistry => exact h.confluent_calm quiet idle rfl (Hub.endRegistry_now r.hub) rfl
  | @send value signal sent =>
    refine Untangled.confluent ⟨h.act (by rw [after]), fun k c here => ?_⟩
    rw [after] at here ⊢
    exact (resting_of_quiet quiet here).single_shutdown (idle c (Array.mem_of_getElem? here))
      signal.isSet
  | @pass length =>
    have next : r.nextDue? = some (r.hub.now + length) := by
      simpa [Action.isStimulus] using stimulus
    refine Untangled.confluent ⟨h.act (by rw [after]; rfl), fun k c here => ?_⟩
    rw [after] at here ⊢
    exact (resting_of_quiet quiet here).single_pass (idle c (Array.mem_of_getElem? here))
      fun due waits later => nextDue_le next (Array.mem_of_getElem? here) waits later
  | _ => cases stimulus

end Rest

end Stimulus

/-- A relay at rest, at which no write hangs, is told one thing, or something falls due. However the
tasks are polled and whatever they choose then, they come to rest, and always at the same relay. -/
theorem run_confluent {config : RelayConfig} {actions : List Action} {a : Action}
    (few : (run config actions).connections.size ≤ UInt64.size)
    (quiet : (run config actions).isQuiet = true)
    (idle : ∀ c ∈ (run config actions).connections, c.isHanging = false)
    (stimulus : a.isStimulus (run config actions) = true) :
    ((run config actions).act a).ComesToRest ∧
      ∀ schedule, ((run config actions).act a).permits schedule = true →
        (((run config actions).act a).performAll schedule).isQuiet = true →
        Same (((run config actions).act a).performAll schedule)
          ((run config actions).act a).settle := by
  have sound : ((run config actions).act a).Sound := (run_sound config actions).act a
  refine ⟨sound.comesToRest, fun schedule permitted rest => ?_⟩
  obtain ⟨settling, permitted', settled⟩ := settleWithin_schedule ((run config actions).act a) _
  have confluent := (run_regular few).confluent quiet idle stimulus
  have same := confluent schedule settling permitted permitted' rest
  rw [← settled] at same
  exact same (settle_isQuiet sound)

/-- Three clients are registered, and the third does not take what is written to it. -/
def threeGuests : List Action :=
  [.connect "a" {}, .connect "b" {}, .connect "c" { writing := .fails ⟨"reset"⟩ },
    .step 0 .start, .step 1 .start, .step 2 .start, .arrive 0 (.text "alice"),
    .arrive 1 (.text "bob"), .arrive 2 (.text "carol"), .step 0 .read, .step 1 .read,
    .step 2 .read]

theorem run_confluent_threeGuests :
    let r := (run {} threeGuests).act (.arrive 0 (.text "hi"))
    let one := [(0, .read), (1, .take), (1, .write), (2, .take), (2, .write), (2, .close)]
    let other := [(0, .read), (2, .take), (2, .write), (1, .take), (2, .close), (1, .write)]
    r.permits one = true ∧ r.permits other = true ∧
      (r.performAll one).hub.registry.size = 2 ∧ Same (r.performAll one) r.settle ∧
      Same (r.performAll other) r.settle := by
  have agree := (@run_confluent {} threeGuests (.arrive 0 (.text "hi")) (by decide) (by decide)
    (by decide) rfl).2
  exact ⟨by decide, by decide, by decide, agree _ (by decide) (by decide),
    agree _ (by decide) (by decide)⟩

end Relay

end ChatRelay
