import ChatRelay.Proofs.Connection.Effect

/-!
# Tasks and the clock

Each moment for which a task waits was set when something began, a fixed length of time ahead. A
task of which no step is ready waits for such a moment that is still to come, for the transport or
for somebody else; nothing that is due is left undone.
-/

namespace ChatRelay

namespace Clock

/-- A moment that was set by now, a length of time ahead. -/
def IsSet (now length moment : Nat) : Prop := ∃ start, start ≤ now ∧ moment = deadline start length

theorem isSet_deadline (now length : Nat) : IsSet now length (deadline now length) :=
  ⟨now, Nat.le_refl now, rfl⟩

theorem IsSet.later {now later length moment : Nat} (h : IsSet now length moment)
    (past : now ≤ later) : IsSet later length moment := by
  obtain ⟨start, before, rfl⟩ := h
  exact ⟨start, Nat.le_trans before past, rfl⟩

/-- As long as the clock can be read, what was set comes after its length of time. -/
theorem IsSet.le {now length moment limit : Nat} (h : IsSet now length moment)
    (within : now + length ≤ limit) (readable : limit ≤ last) : moment ≤ limit := by
  obtain ⟨start, before, rfl⟩ := h
  have sum : start + length ≤ last := by omega
  simp only [deadline, after?, if_pos sum, Option.getD_some]
  omega

theorem eq_deadline_of_after {now length moment : Nat} (h : after? now length = some moment) :
    moment = deadline now length := by
  simp [deadline, h]

end Clock

theorem RelayConfig.period_pos (config : RelayConfig) : 0 < config.period :=
  Nat.lt_of_lt_of_le Nat.one_pos (Nat.le_max_right _ _)

/-- The tick after one that is seen when it is due, or later, is set by then. -/
theorem isSet_nextTick {due now : Nat} (seen : due ≤ now) (period : Nat) :
    Clock.IsSet now period (nextTick due now period) := by
  refine ⟨_, ?_, rfl⟩
  split
  · exact seen
  · exact Nat.le_refl now

namespace Phase

/-- Whatever the task waits for was set by now, with the length of time that the settings give. -/
def Dated (config : RelayConfig) (now : Nat) : Phase → Prop
  | .handshake deadline => Clock.IsSet now config.handshakeTimeout deadline
  | .active session => Clock.IsSet now config.period session.tick
  | .writing session write =>
    Clock.IsSet now config.period session.tick ∧ Clock.IsSet now config.writeTimeout write.deadline
  | .closing _ _ deadline => Clock.IsSet now config.writeTimeout deadline
  | _ => True

theorem Dated.later {config : RelayConfig} {phase : Phase} {now later : Nat}
    (h : phase.Dated config now) (past : now ≤ later) : phase.Dated config later := by
  cases phase with
  | connecting => trivial
  | handshake deadline => exact Clock.IsSet.later h past
  | active session => exact Clock.IsSet.later h past
  | writing session write => exact ⟨h.1.later past, h.2.later past⟩
  | closing result begun deadline => exact Clock.IsSet.later h past
  | ended outcome => trivial

end Phase

namespace Connection

section Dates

variable {config : RelayConfig} {s : Surroundings} {c : Connection} {hub : Hub} {key : QueueKey}

theorem wrapUp_phase (c : Connection) (hub : Hub) (result : Option ConnectionFault) :
    (c.wrapUp config hub key result).2.phase =
      .closing result false (Clock.deadline hub.now config.writeTimeout) := rfl

/-- What a task sets, it sets at the moment of its step. -/
theorem Transition.dated {b : Branch} {next : Hub × Connection}
    (h : Transition config s c hub key b next) (clock : s.now = hub.now)
    (d : c.phase.Dated config hub.now) : next.2.phase.Dated config hub.now := by
  cases h with
  | start => exact Clock.isSet_deadline _ _
  | ignore => exact d
  | giveUp =>
    rw [wrapUp_phase, noteAll_now]
    exact Clock.isSet_deadline _ _
  | @enter deadline name rest hub' tick phase inbound small registered scheduled =>
    have now : hub'.now = hub.now := ((own_noteAll c hub key _).register registered).now
    rw [Clock.eq_deadline_of_after scheduled, now]
    exact Clock.isSet_deadline _ _
  | enterLate => trivial
  | tooLarge => trivial
  | line phase =>
    rw [phase] at d
    exact d
  | sign phase =>
    rw [phase] at d
    exact d
  | drop => exact d
  | @take session text hub' phase taken =>
    have now : hub'.now = hub.now := ((own_noteAll c hub key []).take taken).now
    rw [phase] at d
    refine ⟨d, ?_⟩
    rw [← now]
    exact Clock.isSet_deadline _ _
  | ping phase due =>
    exact ⟨isSet_nextTick (clock ▸ due) _, Clock.isSet_deadline _ _⟩
  | written phase =>
    rw [phase] at d
    exact d.1
  | hang phase =>
    rw [phase] at d
    exact d
  | leave =>
    rw [leave_eq, wrapUp_phase, Hub.unregister_now, noteAll_now]
    exact Clock.isSet_deadline _ _
  | closeHang phase =>
    rw [phase] at d
    exact d
  | conclude => trivial

/-- A task that turned to closing stays there, and its deadline stays what it was. -/
theorem Transition.closing {b : Branch} {next : Hub × Connection}
    (h : Transition config s c hub key b next) (closing : c.phase.stage = .closing) {now : Nat}
    (d : c.phase.Dated config now) :
    next.2.phase.stage = .closing ∧ next.2.phase.Dated config now := by
  cases h with
  | closeHang phase =>
    rw [phase] at d
    exact ⟨rfl, d⟩
  | conclude => exact ⟨rfl, trivial⟩
  | leave reason =>
    have serving := reason.serving.1
    cases phase : c.phase <;> simp_all [Phase.stage, Phase.isServing]
  | _ => simp_all [Phase.stage]

end Dates

/-- What a task waits for of which no step is ready. -/
inductive Resting (s : Surroundings) (c : Connection) : Prop where
  | handshake {deadline} (phase : c.phase = .handshake deadline) (unset : s.shutdown = false)
      (silent : c.transport.inbound = []) (early : s.now < deadline)
  | active {session} (phase : c.phase = .active session) (unset : s.shutdown = false)
      (silent : c.transport.inbound = []) (nothing : s.hasPending = false)
      (held : s.queueHeld = true) (early : s.now < session.tick)
  | writing {session write} (phase : c.phase = .writing session write) (unset : s.shutdown = false)
      (begun : write.begun = true) (hangs : c.transport.mode write.item = .hangs)
      (early : s.now < write.deadline)
  | closing {result deadline} (phase : c.phase = .closing result true deadline)
      (hangs : c.transport.closing = .hangs) (early : s.now < deadline)
  | ended {outcome} (phase : c.phase = .ended outcome)

theorem resting_of_unready {s : Surroundings} {c : Connection}
    (unready : ∀ b, c.ready s b = false) : Resting s c := by
  cases phase : c.phase with
  | connecting => simpa [ready, phase] using unready .start
  | handshake deadline =>
    have unset := unready .shutdown
    have silent := unready .read
    have early := unready .handshakeDeadline
    simp only [ready, phase, Bool.and_true, Bool.not_eq_false', List.isEmpty_iff] at unset silent
    simp only [ready, phase, silent, List.isEmpty_nil, Bool.true_and, decide_eq_false_iff_not,
      Nat.not_le] at early
    exact .handshake phase unset silent early
  | active session =>
    have unset := unready .shutdown
    have silent := unready .read
    have nothing := unready .take
    have early := unready .tick
    simp only [ready, phase, Bool.and_true, Bool.not_eq_false', List.isEmpty_iff,
      Bool.or_eq_false_iff, decide_eq_false_iff_not, Nat.not_le] at unset silent nothing early
    exact .active phase unset silent nothing.1 nothing.2 early
  | writing session write =>
    have unset := unready .shutdown
    have hanging := unready .write
    have early := unready .writeDeadline
    simp only [ready, phase, Bool.and_true, Bool.or_eq_false_iff, Bool.not_eq_false',
      bne_eq_false_iff_eq] at unset hanging
    simp only [ready, phase, hanging, beq_self_eq_true, Bool.true_and, decide_eq_false_iff_not,
      Nat.not_le] at early
    exact .writing phase unset hanging.1 hanging.2 early
  | closing result begun deadline =>
    have hanging := unready .close
    have early := unready .closeDeadline
    simp only [ready, phase, Bool.or_eq_false_iff, Bool.not_eq_false', bne_eq_false_iff_eq]
      at hanging
    obtain ⟨rfl, hangs⟩ := hanging
    simp only [ready, phase, hangs, beq_self_eq_true, Bool.true_and, decide_eq_false_iff_not,
      Nat.not_le] at early
    exact .closing phase hangs early
  | ended outcome => exact .ended phase

end Connection

end ChatRelay
