import ChatRelay.Proofs.Connection.Patience

/-!
# How a task parts

A task gets its result with the step with which it turns to closing, and keeps it until it returns.
What it tells after that step concerns neither its client nor the others.
-/

namespace ChatRelay

namespace Phase

/-- With what result a task closes its transport or has returned. -/
def verdict? : Phase → Option (Option ConnectionFault)
  | .closing result _ _ => some result
  | .ended (.returned result) => some result
  | _ => none

theorem verdict_of_fault {phase : Phase} {fault : ConnectionFault}
    (h : phase.fault? = some fault) : phase.verdict? = some (some fault) := by
  unfold fault? at h
  split at h
  · exact congrArg some h
  · exact congrArg some h
  · cases h

end Phase

/-- The event belongs to the closing of a transport and to what comes after it. -/
def ConnectionEvent.isFarewell : ConnectionEvent → Bool
  | .moved _ after => after = .closing
  | .closeBegun => true
  | .closed => true
  | .closeFailed => true
  | .closeOverdue => true
  | .returned .. => true
  | _ => false

namespace Connection

/-- The reason for which a task turns to closing, in the handshake or as a registered one. -/
inductive Parting (config : RelayConfig) (s : Surroundings) (c : Connection) (hub : Hub)
    (key : QueueKey) (b : Branch) (c' : Connection) (remarks : List ConnectionEvent)
    (result : Option ConnectionFault) : Prop where
  | gaveUp {deadline meters} (phase : c.phase = .handshake deadline)
      (reason : GivingUp config s c hub key b meters c' remarks result)
  | left (reason : Leaving config s c hub key b c' remarks result)

section Steps

variable {config : RelayConfig} {s : Surroundings} {c : Connection} {hub : Hub} {key : QueueKey}

theorem GivingUp.story {b : Branch} {meters : Meters} {c' : Connection}
    {remarks : List ConnectionEvent} {result : Option ConnectionFault}
    (h : GivingUp config s c hub key b meters c' remarks result) :
    (c'.wrapUp config (c.noteAll { hub with meters } remarks) key result).1.story = hub.story ++
      (remarks ++ [ConnectionEvent.moved c.phase.stage .closing]).map (Event.connection c.id) := by
  rw [wrapUp_story, noteAll_story, h.same.1, h.same.2, List.map_append, List.append_assoc]
  rfl

theorem Leaving.story {b : Branch} {c' : Connection} {remarks : List ConnectionEvent}
    {result : Option ConnectionFault} (h : Leaving config s c hub key b c' remarks result) :
    (c'.leave config (c.noteAll hub remarks) key result).1.story = hub.story ++
      (remarks ++ [ConnectionEvent.moved c.phase.stage .closing]).map (Event.connection c.id) := by
  rw [leave_eq, wrapUp_story, Hub.unregister_story, noteAll_story, h.serving.2.1, h.serving.2.2,
    List.map_append, List.append_assoc]
  rfl

/-- A task that has a result after a step had it before, or parts with the step. -/
theorem Transition.parting {b : Branch} {next : Hub × Connection}
    (h : Transition config s c hub key b next) {result : Option ConnectionFault}
    (parted : next.2.phase.verdict? = some result) :
    (c.phase.verdict? = some result ∧ ∃ farewell : List ConnectionEvent,
        (∀ e ∈ farewell, e.isFarewell = true) ∧
        next.1.story = hub.story ++ farewell.map (Event.connection c.id)) ∨
      ∃ (c' : Connection) (remarks : List ConnectionEvent),
        Parting config s c hub key b c' remarks result ∧ next.1.story = hub.story ++
          (remarks ++ [ConnectionEvent.moved c.phase.stage .closing]).map
            (Event.connection c.id) := by
  cases h with
  | @giveUp deadline b meters c' remarks result' phase reason =>
    obtain rfl : result' = result := Option.some.inj parted
    exact Or.inr ⟨c', remarks, .gaveUp phase reason, reason.story⟩
  | @leave b c' remarks result' reason =>
    obtain rfl : result' = result := Option.some.inj parted
    exact Or.inr ⟨c', remarks, .left reason, reason.story⟩
  | @closeHang result' begun deadline phase mode =>
    refine Or.inl ⟨by rw [phase]; exact parted, _, ?_, noteAll_story c hub _⟩
    cases begun <;> simp [ConnectionEvent.isFarewell]
  | @conclude result' begun deadline b remarks phase closed =>
    refine Or.inl ⟨by rw [phase]; exact parted, remarks ++ [.returned c.peer result'], ?_, ?_⟩
    · have closing : ∀ e ∈ remarks, e.isFarewell = true := by
        cases closed <;> cases begun <;> simp [ConnectionEvent.isFarewell]
      simpa [ConnectionEvent.isFarewell, or_imp, forall_and] using closing
    · rw [conclude_story, noteAll_story, List.map_append, List.append_assoc]
      rfl
  | ignore phase =>
    rw [reading_phase, phase] at parted
    cases parted
  | drop phase =>
    rw [reading_phase, phase] at parted
    cases parted
  | _ => cases parted

/-- A task that parts has no result yet. -/
theorem Parting.verdict_eq_none {b : Branch} {c' : Connection} {remarks : List ConnectionEvent}
    {result : Option ConnectionFault} (h : Parting config s c hub key b c' remarks result) :
    c.phase.verdict? = none := by
  cases h with
  | gaveUp phase => rw [phase]; rfl
  | left reason =>
    have serving := reason.serving.1
    cases phase : c.phase <;> simp_all [Phase.isServing, Phase.verdict?]

/-- A task parts for its client's silence only at a tick, and only after the timeout. -/
theorem Parting.silence {b : Branch} {c' : Connection} {remarks : List ConnectionEvent}
    {result : Option ConnectionFault} (h : Parting config s c hub key b c' remarks result)
    (silence : result = some .idleTimeout) :
    b = .tick ∧ remarks = [] ∧ ∃ session, c.phase = .active session ∧ session.tick ≤ s.now ∧
      config.idleTimeout < hub.now - session.lastSeen := by
  cases h with
  | gaveUp phase reason => cases reason <;> cases silence
  | left reason =>
    cases reason with
    | silent phase due late => exact ⟨rfl, rfl, _, phase, due, late⟩
    | queueEnded =>
      split at silence <;> cases silence
    | _ => cases silence

/-- A tick ends the connection of a client that has been silent for longer than the timeout. -/
theorem Transition.silenced {next : Hub × Connection}
    (h : Transition config s c hub key .tick next) {session : Session}
    (phase : c.phase = .active session) (late : config.idleTimeout < hub.now - session.lastSeen) :
    next.2.phase.fault? = some .idleTimeout := by
  cases h with
  | giveUp _ reason => cases reason
  | @ping session' phase' due heard =>
    obtain rfl := Phase.active.inj (phase'.symm.trans phase)
    exact absurd late (Nat.not_lt.mpr heard)
  | leave reason =>
    cases reason
    rfl
  | conclude _ closed => cases closed

end Steps

end Connection

end ChatRelay
