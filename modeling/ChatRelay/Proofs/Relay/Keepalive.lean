import ChatRelay.Proofs.Connection.Keepalive
import ChatRelay.Proofs.Relay.Patience
import ChatRelay.Proofs.Relay.Release

/-!
# When pings begin, and when a silent client is cut

The task of a connection that has become active pings exactly one period later, and again after each
further period, as long as the connection lasts. At the first of these instants at which its client
has been silent for longer than the timeout it ends the connection instead. The instants count from
the moment at which the connection became active, whatever arrives and is sent meanwhile. A client
is heard with each text and each life sign that its task reads; frames of bytes are dropped.
-/

namespace ChatRelay

namespace Relay

/-- The times at which the task of a connection read texts and life signs. -/
def hearTimes (key : Nat) (history : List Moment) : List Nat :=
  history.flatMap fun s => hearsAt s.before.hub.now (s.own key)

theorem hearTimes_eq_nil {key : Nat} {history : List Moment}
    (silent : (own key history).any Event.isHearing = false) : hearTimes key history = [] := by
  rw [hearTimes, List.flatMap_eq_nil_iff]
  intro s hs
  rw [own, List.any_flatMap, List.any_eq_false] at silent
  exact if_neg (silent s hs)

/-- When the client of a connection was heard last; if it was not heard, the time of the start. -/
def lastHeard (start key : Nat) (history : List Moment) : Nat :=
  (hearTimes key history).getLastD start

def Moment.Pings (s : Moment) (key : Nat) : Prop := (s.own key).any Event.isPing = true

/-- The task of a connection ends it for its client's silence. -/
def Moment.Cuts (s : Moment) (key : Nat) : Prop :=
  s.before.serves key = true ∧ ∃ c, s.after.connections[key]? = some c ∧
    c.phase.fault? = some .idleTimeout

/-- The task of a connection has kept to its schedule since the connection became active. -/
def Scheduled (config : RelayConfig) (entry more : List Action) (key : Nat) : Prop :=
  ∃ c, (run config (entry ++ more)).connections[key]? = some c ∧
    c.phase.OnSchedule config (run config entry).hub.now (run config (entry ++ more)).hub.now
      (pingTimes key (historyFrom (run config entry) more))
      (hearTimes key (historyFrom (run config entry) more))
      (signTimes key (historyFrom (run config entry) more)) c.hasSign

section Runs

variable {config : RelayConfig} {actions entry more : List Action} {key : Nat}

/-- A ping begins when the transport is asked for it, and was ahead before. -/
theorem ahead_of_pings {s : Moment} (hs : s ∈ history config actions) (pings : s.Pings key) :
    ∃ c session write, s.before.connections[key]? = some c ∧ c.phase = .writing session write ∧
      write.pingAhead s.before.hub.now = [s.before.hub.now] := by
  have begun : .writeBegun .ping ∈ s.dealings key := by
    obtain ⟨e, he, ping⟩ := List.any_eq_true.mp pings
    refine List.mem_filterMap.mpr ⟨e, he, ?_⟩
    unfold Event.isPing at ping
    split at ping
    · rfl
    · cases ping
  obtain ⟨c, here, allowed⟩ := allows_of_dealing hs begun
  obtain ⟨session, write, phase⟩ : ∃ session write, c.phase = .writing session write := by
    cases phase : c.phase <;> simp_all [Phase.Allows]
  obtain ⟨c', here', -, met⟩ := act_met here s.action
  cases met with
  | waits silent => simp [Moment.Pings, silent] at pings
  | @acts b next act transition hub =>
    obtain ⟨told, story⟩ := transition.outline.story
    have own : s.own key = told := own_of_story (by rw [act]; rfl) (by rw [hub, story])
    exact ⟨c, session, write, here, phase, transition.pinging phase story (own ▸ pings) _⟩
  | dies act phase told => simp [Moment.Pings, told, Event.isPing] at pings

/-- A task that turned to closing pings no more. -/
theorem unpinged_of_closing (late : 4 ≤ (run config actions).rank key) :
    pingTimes key (historyFrom (run config actions) more) = [] := by
  rw [pingTimes, List.flatMap_eq_nil_iff]
  intro s hs
  by_cases pings : s.Pings key
  · have within : s ∈ history config (actions ++ more) := by
      rw [history_add]
      exact List.mem_append_right _ hs
    obtain ⟨c, session, write, here, phase, -⟩ := ahead_of_pings within pings
    have still := rank_le_of_mem hs key
    rw [rank_of_some (task?_of_some here), phase] at still
    exact absurd (Nat.le_trans late still) (by simp [Phase.rank])
  · exact if_neg pings

/-- A task that ends its connection for its client's silence looks at a tick, and tells no more. -/
theorem Moment.Cuts.silence {s : Moment} (h : s.Cuts key) :
    s.action = .step key .tick ∧ 4 ≤ s.after.rank key ∧ ∃ c session,
      s.before.connections[key]? = some c ∧ c.phase = .active session ∧
      session.tick ≤ s.before.hub.now ∧
      s.before.config.idleTimeout < s.before.hub.now - session.lastSeen ∧
      s.own key = [.connection c.id (.moved .active .closing)] := by
  obtain ⟨serving, c', here', fault⟩ := h
  obtain ⟨c, here, serving⟩ := connection_of_serves serving
  obtain ⟨c₁, there, -, met⟩ := act_met here s.action
  obtain rfl : c₁ = c' := Option.some.inj (there.symm.trans here')
  have late : 4 ≤ s.after.rank key := by
    rw [rank_of_some (task?_of_some here')]
    cases phase : c₁.phase <;> simp_all [Phase.fault?, Phase.rank]
  cases met with
  | waits silent out phase =>
    rw [phase] at fault
    cases same : c.phase <;> simp_all [Phase.fault?, Phase.isServing]
  | @acts b next act transition hub phase =>
    rw [phase] at fault
    rcases transition.parting (Phase.verdict_of_fault fault) with
      ⟨before, -⟩ | ⟨c'', remarks, parting, story⟩
    · cases same : c.phase <;> simp_all [Phase.verdict?, Phase.isServing]
    · obtain ⟨rfl, rfl, session, active, due, silent⟩ := parting.silence rfl
      have own : s.own key = _ := own_of_story (by rw [act]; rfl) (by rw [hub, story])
      exact ⟨act, late, c, session, here, active, due, silent, by rw [own, active]; rfl⟩
  | dies act phase =>
    rw [phase] at fault
    cases fault

/-- A task that was registered and serves its client has just become active. -/
theorem active_of_admits {r : Relay} (admits : r.Admits (.step key .read) key)
    (serving : (r.act (.step key .read)).serves key = true) :
    ∃ c name, (r.act (.step key .read)).connections[key]? = some c ∧
      c.phase = .active ⟨name, r.hub.now, r.hub.now + r.config.period⟩ := by
  have waiting := admits.waiting
  obtain ⟨c₀, -, -, -, -, here₀, -⟩ := admits.2
  obtain ⟨c, here, -, met⟩ := act_met here₀ (.step key .read)
  rw [serves_of_some here] at serving
  rw [serves_of_some here₀] at waiting
  cases met with
  | waits silent out => exact absurd admits out
  | acts act transition hub phase =>
    rw [phase] at serving
    obtain ⟨name, active⟩ := transition.entering waiting serving
    exact ⟨c, name, here, phase.trans active⟩
  | dies act => cases act

/-- What becomes of a task in a moment that is on its schedule and keeps up with time. -/
theorem Met.onSchedule {r : Relay} {c c' : Connection} {a : Action} {start : Nat}
    {pings heard signs : List Nat} (met : Met r key c a c') (same : r.config = config)
    (here : r.connections[key]? = some c) (prompt : (Moment.mk r a).Prompt key)
    (readable : r.hub.now + config.period ≤ Clock.last)
    (p : c.phase.OnSchedule config start r.hub.now pings heard signs c.hasSign) :
    c'.phase.OnSchedule config start (r.hub.now + a.span)
      (pings ++ pingsAt r.hub.now ((Moment.mk r a).own key))
      (heard ++ hearsAt r.hub.now ((Moment.mk r a).own key))
      (signs ++ if ((Moment.mk r a).arrived key).any Inbound.isSign then [r.hub.now] else [])
      c'.hasSign := by
  cases met with
  | waits silent out phase inbound =>
    have q := Connection.onSchedule_arrive p phase inbound
    have none : pingsAt r.hub.now [] = [] ∧ hearsAt r.hub.now [] = [] := ⟨rfl, rfl⟩
    rw [silent, none.1, none.2, List.append_nil, List.append_nil]
    by_cases passes : 0 < a.span
    · have nothing : (Moment.mk r a).arrived key = [] := by
        cases a <;> first | rfl | exact absurd passes (Nat.lt_irrefl 0)
      have free : c.isFree (r.hub.now + a.span) = true := by
        have free := prompt passes c here
        rwa [Moment.after, act_now] at free
      rw [nothing, List.append_nil] at inbound
      refine Connection.onSchedule_pass q (Nat.le_add_right _ _) ?_
      rwa [Connection.isFree, phase, inbound]
    · rw [Nat.eq_zero_of_not_pos passes]
      exact q
  | @acts b next act transition hub phase transport =>
    subst act
    rw [same] at transition
    obtain ⟨told, story⟩ := transition.outline.story
    have own : (Moment.mk r (.step key b)).own key = told :=
      own_of_story rfl (by rw [hub, story])
    have sign := Connection.hasSign_of_transport transport
    rw [own, phase, sign]
    simp only [Moment.arrived, List.any_nil, Bool.false_eq_true, if_false, List.append_nil]
    exact transition.onSchedule rfl story readable p
  | dies act phase told transport =>
    subst act
    rw [phase, told]
    obtain ⟨count, begun, reached⟩ := Connection.onSchedule_over p
    exact ⟨count, by simpa [pingsAt, Event.isPing] using begun, reached⟩

/-- The task is on its schedule as long as it lasts, if it keeps up with time. -/
theorem run_scheduled {c₀ : Connection} {name : String}
    (entered : (run config entry).connections[key]? = some c₀)
    (active : c₀.phase = .active ⟨name, (run config entry).hub.now,
      (run config entry).hub.now + config.period⟩)
    (prompt : ∀ s ∈ historyFrom (run config entry) more, s.Prompt key)
    (readable : (run config (entry ++ more)).hub.now + config.period ≤ Clock.last) :
    Scheduled config entry more key := by
  induction more using List.reverseRecOn with
  | nil =>
    rw [Scheduled, List.append_nil]
    refine ⟨c₀, entered, ?_⟩
    rw [active]
    exact ⟨0, rfl, .enter name _⟩
  | append_singleton more a ih =>
    have now : (run config (entry ++ (more ++ [a]))).hub.now =
        (run config (entry ++ more)).hub.now + a.span := by
      rw [← List.append_assoc, run_append, act_now]
    rw [historyFrom_concat] at prompt
    obtain ⟨c, here, p⟩ := ih (fun s hs => prompt s (List.mem_append_left _ hs)) (by omega)
    obtain ⟨c', here', -, met⟩ := act_met here a
    have after := met.onSchedule (run_config config _) here
      (prompt _ (List.mem_append_right _ (List.mem_singleton.mpr rfl))) (by omega) p
    refine ⟨c', by rw [← List.append_assoc, run_append]; exact here', ?_⟩
    rw [historyFrom_concat, now]
    simpa [pingTimes, hearTimes, signTimes] using after

end Runs

/-- How pings and the end of a silent connection lie in time, counted from the moment at which the
connection became active. -/
structure Keepalive (config : RelayConfig) (entry more : List Action) (key : Nat) : Prop where
  /-- Pings begin at the instants of the schedule, one after the other, and at no other time. -/
  pings : pingTimes key (historyFrom (run config entry) more) <+:
    instants (run config entry).hub.now config.period
      (((run config (entry ++ more)).hub.now - (run config entry).hub.now) / config.period)
  /-- Whenever the connection waits for the next tick, a ping has begun at each instant up to now. -/
  lasting : ∀ c session, (run config (entry ++ more)).connections[key]? = some c →
    c.phase = .active session → (run config (entry ++ more)).ready key .tick = false →
    pingTimes key (historyFrom (run config entry) more) =
      instants (run config entry).hub.now config.period
        (((run config (entry ++ more)).hub.now - (run config entry).hub.now) / config.period) ∧
    (run config (entry ++ more)).hub.now <
      lastHeard (run config entry).hub.now key (historyFrom (run config entry) more) +
        config.idleTimeout + config.period
  /-- The connection of a client that was silent for a period beyond the timeout is gone. -/
  within : (run config (entry ++ more)).serves key = true →
    (run config (entry ++ more)).hub.now ≤
      lastHeard (run config entry).hub.now key (historyFrom (run config entry) more) +
        config.idleTimeout + config.period
  /-- A ping begins only for a client that was heard within the timeout. -/
  heard : ∀ earlier a later, more = earlier ++ a :: later →
    (Moment.mk (run config (entry ++ earlier)) a).Pings key →
    (run config (entry ++ earlier)).hub.now ≤
      lastHeard (run config entry).hub.now key (historyFrom (run config entry) earlier) +
        config.idleTimeout
  /-- A tick ends the connection just if the client has been silent for longer than that. -/
  decided : ∀ earlier later, more = earlier ++ .step key .tick :: later →
    (run config (entry ++ earlier)).ready key .tick = true →
    ((Moment.mk (run config (entry ++ earlier)) (.step key .tick)).Cuts key ↔
      lastHeard (run config entry).hub.now key (historyFrom (run config entry) earlier) +
        config.idleTimeout < (run config (entry ++ earlier)).hub.now)
  /-- The connection is ended at an instant of the schedule at which no ping begins, after pings at
  all instants before, and not before the client was silent for longer than the timeout. -/
  cut : ∀ earlier a later, more = earlier ++ a :: later →
    (Moment.mk (run config (entry ++ earlier)) a).Cuts key →
    ∃ n, (run config (entry ++ earlier)).hub.now =
        (run config entry).hub.now + (n + 1) * config.period ∧
      pingTimes key (historyFrom (run config entry) more) =
        instants (run config entry).hub.now config.period n ∧
      lastHeard (run config entry).hub.now key (historyFrom (run config entry) earlier) +
        config.idleTimeout < (run config (entry ++ earlier)).hub.now ∧
      (run config (entry ++ earlier)).hub.now ≤
        lastHeard (run config entry).hub.now key (historyFrom (run config entry) earlier) +
          config.idleTimeout + config.period
  /-- As long as the connection lasts, what the client sends is read when it arrives. -/
  attentive : (run config (entry ++ more)).serves key = true → ∀ time,
    (run config entry).hub.now < time → time < (run config (entry ++ more)).hub.now →
    (time ∈ hearTimes key (historyFrom (run config entry) more) ↔
      time ∈ signTimes key (historyFrom (run config entry) more))

namespace Scheduled

variable {config : RelayConfig} {entry more : List Action} {key : Nat}
  (h : Scheduled config entry more key)

include h

/-- What is known of a task that serves its client: how often it has looked after it. -/
theorem of_serving (serves : (run config (entry ++ more)).serves key = true) :
    ∃ (session : Session) (count : Nat) (waiting : Bool),
      session.OnSchedule config (run config entry).hub.now (run config (entry ++ more)).hub.now count
        (hearTimes key (historyFrom (run config entry) more))
        (signTimes key (historyFrom (run config entry) more)) waiting := by
  obtain ⟨c, here, p⟩ := h
  rw [serves_of_some here] at serves
  cases phase : c.phase with
  | active session =>
    rw [phase] at p
    obtain ⟨count, -, q⟩ := p
    exact ⟨session, count, c.hasSign, q⟩
  | writing session write =>
    rw [phase] at p
    obtain ⟨count, -, q⟩ := p
    exact ⟨session, count, c.hasSign, q⟩
  | _ => simp [phase, Phase.isServing] at serves

/-- What is known of a task that is active: it has pinged whenever it has looked. -/
theorem of_active {c : Connection} {session : Session}
    (here : (run config (entry ++ more)).connections[key]? = some c)
    (phase : c.phase = .active session) :
    ∃ count, pingTimes key (historyFrom (run config entry) more) =
        instants (run config entry).hub.now config.period count ∧
      session.OnSchedule config (run config entry).hub.now (run config (entry ++ more)).hub.now count
        (hearTimes key (historyFrom (run config entry) more))
        (signTimes key (historyFrom (run config entry) more)) c.hasSign := by
  obtain ⟨c', here', p⟩ := h
  obtain rfl : c' = c := Option.some.inj (here'.symm.trans here)
  rwa [phase] at p

/-- No ping lies off the schedule. -/
theorem pings : pingTimes key (historyFrom (run config entry) more) <+:
    instants (run config entry).hub.now config.period
      (((run config (entry ++ more)).hub.now - (run config entry).hub.now) / config.period) := by
  obtain ⟨c, -, p⟩ := h
  obtain ⟨count, begun, reached⟩ := Connection.onSchedule_over p
  rw [begun]
  refine instants_prefix ((Nat.le_div_iff_mul_le config.period_pos).mpr ?_)
  omega

/-- A task that waits for the next tick has pinged at all instants before. -/
theorem lasting {c : Connection} {session : Session}
    (here : (run config (entry ++ more)).connections[key]? = some c)
    (phase : c.phase = .active session)
    (waits : (run config (entry ++ more)).ready key .tick = false) :
    pingTimes key (historyFrom (run config entry) more) =
        instants (run config entry).hub.now config.period
          (((run config (entry ++ more)).hub.now - (run config entry).hub.now) / config.period) ∧
      (run config (entry ++ more)).hub.now <
        lastHeard (run config entry).hub.now key (historyFrom (run config entry) more) +
          config.idleTimeout + config.period := by
  obtain ⟨count, begun, q⟩ := h.of_active here phase
  have ahead : (run config (entry ++ more)).hub.now < session.tick := by
    simp only [Relay.ready, here, Connection.ready, phase, surroundings] at waits
    exact Nat.lt_of_not_le (of_decide_eq_false waits)
  have soon := q.tick_le
  rw [q.seen] at soon
  exact ⟨by rw [begun, q.count_eq ahead], Nat.lt_of_lt_of_le ahead soon⟩

theorem within (serves : (run config (entry ++ more)).serves key = true) :
    (run config (entry ++ more)).hub.now ≤
      lastHeard (run config entry).hub.now key (historyFrom (run config entry) more) +
        config.idleTimeout + config.period := by
  obtain ⟨session, count, waiting, q⟩ := h.of_serving serves
  have soon := q.tick_le
  rw [q.seen] at soon
  exact Nat.le_trans q.early soon

theorem attentive (serves : (run config (entry ++ more)).serves key = true) {time : Nat}
    (after : (run config entry).hub.now < time)
    (past : time < (run config (entry ++ more)).hub.now) :
    time ∈ hearTimes key (historyFrom (run config entry) more) ↔
      time ∈ signTimes key (historyFrom (run config entry) more) := by
  obtain ⟨session, count, waiting, q⟩ := h.of_serving serves
  constructor
  · intro heard
    exact (q.arrived time heard).resolve_left (by omega)
  · intro arrived
    rcases q.read time arrived with read | ⟨now, -⟩
    · exact read
    · omega

/-- When the task begins a ping, it had heard its client within the timeout. -/
theorem heard {a : Action} (pings : (Moment.mk (run config (entry ++ more)) a).Pings key) :
    (run config (entry ++ more)).hub.now ≤
      lastHeard (run config entry).hub.now key (historyFrom (run config entry) more) +
        config.idleTimeout := by
  obtain ⟨c, here, p⟩ := h
  obtain ⟨c', session, write, here', phase, ahead⟩ :=
    ahead_of_pings (moment_mem config (entry ++ more) a []) pings
  obtain rfl : c = c' := Option.some.inj (here.symm.trans here')
  rw [phase] at p
  obtain ⟨count, begun, q⟩ := p
  dsimp only at ahead
  rw [ahead] at begun
  obtain ⟨-, -, -, now⟩ := instants_eq_concat begun
  have lately := q.lately
  rwa [← now, q.seen] at lately

/-- At a tick the task ends the connection just if the client has been silent for too long. -/
theorem decided (ready : (run config (entry ++ more)).ready key .tick = true) :
    (Moment.mk (run config (entry ++ more)) (.step key .tick)).Cuts key ↔
      lastHeard (run config entry).hub.now key (historyFrom (run config entry) more) +
        config.idleTimeout < (run config (entry ++ more)).hub.now := by
  obtain ⟨c, next, here, transition, done⟩ := perform_of_ready ready
  obtain ⟨session, phase⟩ : ∃ session, c.phase = .active session := by
    cases phase : c.phase <;> simp_all [Relay.ready, Connection.ready]
  obtain ⟨count, -, q⟩ := h.of_active here phase
  have past := q.past
  rw [lastHeard, ← q.seen]
  constructor
  · intro cuts
    obtain ⟨-, -, c', session', here', phase', -, silent, -⟩ := cuts.silence
    obtain rfl : c = c' := Option.some.inj (here.symm.trans here')
    obtain rfl : session = session' := Phase.active.inj (phase.symm.trans phase')
    rw [run_config] at silent
    dsimp only at silent
    omega
  · intro late
    rw [run_config] at transition
    refine ⟨by rw [serves_of_some here, phase]; rfl,
      { next.2 with holdsSlot := next.2.holdsSlot && !next.2.phase.isOver }, ?_,
      transition.silenced phase (by omega)⟩
    rw [Moment.after, act, if_pos ready, done, update_here here]

/-- The task ends the connection at an instant of its schedule, and pings no more. -/
theorem cut {a : Action} (later : List Action)
    (cuts : (Moment.mk (run config (entry ++ more)) a).Cuts key) :
    ∃ n, (run config (entry ++ more)).hub.now =
        (run config entry).hub.now + (n + 1) * config.period ∧
      pingTimes key (historyFrom (run config entry) (more ++ a :: later)) =
        instants (run config entry).hub.now config.period n ∧
      lastHeard (run config entry).hub.now key (historyFrom (run config entry) more) +
        config.idleTimeout < (run config (entry ++ more)).hub.now ∧
      (run config (entry ++ more)).hub.now ≤
        lastHeard (run config entry).hub.now key (historyFrom (run config entry) more) +
          config.idleTimeout + config.period := by
  obtain ⟨-, closing, c, session, here, phase, due, silent, told⟩ := cuts.silence
  obtain ⟨count, begun, q⟩ := h.of_active here phase
  dsimp only at due silent
  rw [run_config] at silent
  have now : (run config (entry ++ more)).hub.now = session.tick := Nat.le_antisymm q.early due
  have soon := q.tick_le
  rw [lastHeard, ← q.seen]
  refine ⟨count, now.trans q.tick, ?_, by omega, by omega⟩
  have after : pingTimes key (historyFrom (run config (entry ++ more ++ [a])) later) = [] :=
    unpinged_of_closing (by rw [run_append]; exact closing)
  rw [pingTimes] at after begun ⊢
  rw [historyFrom_split, List.flatMap_append, List.flatMap_cons, after, told, begun]
  simp [pingsAt, Event.isPing]

end Scheduled

section Theorem

variable {config : RelayConfig} {before more : List Action} {key : Nat}

/-- In every run, from the moment at which a connection became active: its task pings in each period
once, at its end, and ends the connection at the first such instant at which its client has been
silent for longer than the timeout, unless something else ends it before. No write or ping keeps the
task from what it has to do, and the clock can be read for one period more. -/
theorem run_keepalive (admitted : (run config before).Admits (.step key .read) key)
    (serving : (run config (before ++ [.step key .read])).serves key = true)
    (prompt : ∀ s ∈ historyFrom (run config (before ++ [.step key .read])) more, s.Prompt key)
    (readable : (run config (before ++ [.step key .read] ++ more)).hub.now + config.period ≤
      Clock.last) : Keepalive config (before ++ [.step key .read]) more key := by
  obtain ⟨c₀, name, entered, active⟩ := active_of_admits admitted (by rwa [← run_append])
  have start : (run config (before ++ [.step key .read])).hub.now = (run config before).hub.now := by
    rw [run_append, act_now]
    rfl
  rw [← run_append] at entered
  rw [run_config, ← start] at active
  generalize before ++ [.step key .read] = entry at *
  have scheduled : ∀ earlier, earlier <+: more → Scheduled config entry earlier key := by
    rintro earlier ⟨later, rfl⟩
    have past := now_le_more config (entry ++ earlier) later
    rw [List.append_assoc] at past
    refine run_scheduled entered active (fun s hs => prompt s ?_) (by omega)
    rw [historyFrom_append]
    exact List.mem_append_left _ hs
  have whole := scheduled more (List.prefix_refl _)
  constructor
  case pings => exact whole.pings
  case lasting => exact fun c session here phase waits => whole.lasting here phase waits
  case within => exact whole.within
  case heard => exact fun earlier a later split => (scheduled earlier ⟨_, split.symm⟩).heard
  case decided => exact fun earlier later split => (scheduled earlier ⟨_, split.symm⟩).decided
  case cut =>
    rintro earlier a later rfl cuts
    exact (scheduled earlier (List.prefix_append _ _)).cut later cuts
  case attentive => exact fun serves time after past => whole.attentive serves after past

end Theorem

/-- Bob is registered after a second. -/
def registeredLate : List Action :=
  [.connect "b" { inbound := [.lifeSign, .text "bob"] }, .step 0 .start, .step 0 .read, .pass 1000]

/-- His client sends a line and a life sign, and nothing after four seconds: that is not too long ago
at seven seconds, but at nine. -/
def quietLater : List Action :=
  [.pass 1000, .arrive 0 (.text "hi"), .step 0 .read, .broadcast ⟨⟨9⟩, "dave", "one"⟩,
    .step 0 .take, .step 0 .write, .pass 1000, .step 0 .tick, .step 0 .write, .pass 1000,
    .arrive 0 .lifeSign, .step 0 .read, .pass 1000, .step 0 .tick, .step 0 .write, .pass 2000,
    .step 0 .tick, .step 0 .write, .pass 2000, .step 0 .tick, .step 0 .close, .pass 5000]

theorem run_keepalive_quietLater :
    let config : RelayConfig := { keepalive := 2000, idleTimeout := 3000 }
    let entry := registeredLate ++ [.step 0 .read]
    (run config registeredLate).Admits (.step 0 .read) 0 ∧
      (run config entry).serves 0 = true ∧ (run config entry).hub.now = 1000 ∧
      (∀ s ∈ historyFrom (run config entry) quietLater, s.Prompt 0) ∧
      pingTimes 0 (historyFrom (run config entry) quietLater) = [3000, 5000, 7000] ∧
      hearTimes 0 (historyFrom (run config entry) quietLater) = [2000, 4000] ∧
      (∃ bob, (run config (entry ++ quietLater)).connections[0]? = some bob ∧
        bob.phase = .ended (.returned (some .idleTimeout))) ∧
      Keepalive config entry quietLater 0 := by
  intro config entry
  have bob : (run config registeredLate).connections[0]? = some
      { id := ⟨1⟩, peer := "b", transport := { inbound := [.text "bob"] },
        phase := .handshake 10000 } := by decide +kernel
  have cut : (run config (entry ++ quietLater)).connections[0]? = some
      { id := ⟨1⟩, peer := "b", phase := .ended (.returned (some .idleTimeout)) } := by
    decide +kernel
  have free : (run config registeredLate).hub.registry = {} := by decide +kernel
  have admitted : (run config registeredLate).Admits (.step 0 .read) 0 :=
    ⟨rfl, _, _, _, _, _, bob, rfl, rfl, by rw [free]; rfl⟩
  have serving : (run config entry).serves 0 = true := by decide +kernel
  have prompt : ∀ s ∈ historyFrom (run config entry) quietLater, s.Prompt 0 := by decide +kernel
  exact ⟨admitted, serving, by decide +kernel, prompt, by decide +kernel, by decide +kernel,
    ⟨_, cut, rfl⟩, run_keepalive admitted serving prompt (by decide +kernel)⟩

end Relay

end ChatRelay
