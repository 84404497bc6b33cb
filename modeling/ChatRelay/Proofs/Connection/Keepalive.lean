import ChatRelay.Proofs.Connection.Parting
import ChatRelay.Proofs.Connection.Timing

/-!
# The schedule of the pings

A task that keeps up with time looks after its client once in every period, counted from the moment
at which it became active. Whatever it reads and writes in between does not move the schedule; it
only moves the time at which the client was heard last.
-/

namespace ChatRelay

def Event.isHearing : Event → Bool
  | .connection _ (.consumed item) => item.isSign
  | _ => false

/-- The time of a moment, if a sign of the client was read in it. -/
def hearsAt (now : Nat) (told : List Event) : List Nat :=
  if told.any Event.isHearing then [now] else []

/-- The first instants of a schedule, each a period after the one before. -/
def instants (start period count : Nat) : List Nat :=
  (List.range count).map fun n => start + (n + 1) * period

section Instants

variable {start period count : Nat}

theorem instants_succ (start period count : Nat) :
    instants start period (count + 1) =
      instants start period count ++ [start + (count + 1) * period] := by
  simp [instants, List.range_succ]

/-- The last instant, and those before it. -/
theorem instants_eq_concat {times : List Nat} {last : Nat}
    (h : times ++ [last] = instants start period count) :
    ∃ before, count = before + 1 ∧ times = instants start period before ∧
      last = start + count * period := by
  cases count with
  | zero => simp [instants] at h
  | succ before =>
    rw [instants_succ] at h
    obtain ⟨same, rfl⟩ := List.append_singleton_inj.mp h
    exact ⟨before, rfl, same, rfl⟩

theorem instants_prefix {more : Nat} (h : count ≤ more) :
    instants start period count <+: instants start period more := by
  induction more with
  | zero =>
    obtain rfl := Nat.le_zero.mp h
    exact List.prefix_refl _
  | succ more ih =>
    rcases Nat.lt_or_eq_of_le h with before | rfl
    · rw [instants_succ]
      exact (ih (Nat.le_of_lt_succ before)).trans (List.prefix_append _ _)
    · exact List.prefix_refl _

end Instants

/-- An active task on its schedule, when it has looked after its client a number of times: what it
has heard, and what has arrived since it became active. -/
structure Session.OnSchedule (config : RelayConfig) (start now count : Nat)
    (heard signs : List Nat) (waiting : Bool) (session : Session) : Prop where
  seen : session.lastSeen = heard.getLastD start
  begun : start ≤ session.lastSeen
  past : session.lastSeen ≤ now
  tick : session.tick = start + (count + 1) * config.period
  reached : start + count * config.period ≤ now
  early : now ≤ session.tick
  /-- When the task looked last, the client had been heard within the timeout. -/
  lately : start + count * config.period ≤ session.lastSeen + config.idleTimeout
  arrived : ∀ time ∈ heard, time = start ∨ time ∈ signs
  /-- Each sign is read at the time at which it arrives. -/
  read : ∀ time ∈ signs, time ∈ heard ∨ time = now ∧ waiting = true
  fresh : waiting = true → now = start ∨ now ∈ signs

namespace Session.OnSchedule

variable {config : RelayConfig} {start now count : Nat} {heard signs : List Nat} {waiting : Bool}
  {session : Session}

/-- A task that became active has the whole period before it. -/
theorem enter (name : String) (waiting : Bool) :
    ({ name, lastSeen := now, tick := now + config.period } : Session).OnSchedule config now now 0
      [] [] waiting where
  seen := rfl
  begun := Nat.le_refl now
  past := Nat.le_refl now
  tick := by simp
  reached := by simp
  early := Nat.le_add_right _ _
  lately := by simp
  arrived := by simp
  read := by simp
  fresh _ := Or.inl rfl

/-- Items arrive, and perhaps a sign is among them. -/
theorem arrive (h : session.OnSchedule config start now count heard signs waiting) (sign : Bool) :
    session.OnSchedule config start now count heard (signs ++ if sign then [now] else [])
      (waiting || sign) := by
  refine { h with arrived := ?_, read := ?_, fresh := ?_ }
  · intro time ht
    exact (h.arrived time ht).imp_right (List.mem_append_left _)
  · intro time ht
    rcases List.mem_append.mp ht with old | new
    · rcases h.read time old with read | ⟨same, waits⟩
      · exact Or.inl read
      · exact Or.inr ⟨same, by rw [waits, Bool.true_or]⟩
    · cases sign with
      | false => cases new
      | true => exact Or.inr ⟨List.mem_singleton.mp new, Bool.or_true _⟩
  · intro waits
    cases sign with
    | false =>
      rw [Bool.or_false] at waits
      exact (h.fresh waits).imp_right (List.mem_append_left _)
    | true => exact Or.inr (List.mem_append_right _ (List.mem_singleton.mpr rfl))

/-- Time passes when nothing waits, and no further than to the next tick. -/
theorem pass (h : session.OnSchedule config start now count heard signs waiting)
    (unread : waiting = false) {later : Nat} (past : now ≤ later) (early : later ≤ session.tick) :
    session.OnSchedule config start later count heard signs waiting := by
  refine { h with
    past := Nat.le_trans h.past past, reached := Nat.le_trans h.reached past, early
    read := ?_, fresh := ?_ }
  · intro time ht
    rcases h.read time ht with read | ⟨-, waits⟩
    · exact Or.inl read
    · rw [unread] at waits
      cases waits
  · rw [unread]
    exact fun waits => by cases waits

/-- A sign that waits is read. -/
theorem hear (h : session.OnSchedule config start now count heard signs true) (waiting' : Bool) :
    ({ session with lastSeen := now } : Session).OnSchedule config start now count (heard ++ [now])
      signs waiting' := by
  have begun := h.begun
  have past := h.past
  have lately := h.lately
  refine { h with
    seen := by simp, begun := Nat.le_trans begun past, past := Nat.le_refl now
    lately := by dsimp only; omega
    arrived := ?_, read := ?_, fresh := fun _ => h.fresh rfl }
  · intro time ht
    rcases List.mem_append.mp ht with old | new
    · exact h.arrived time old
    · rw [List.mem_singleton.mp new]
      exact h.fresh rfl
  · intro time ht
    rcases h.read time ht with read | ⟨same, -⟩
    · exact Or.inl (List.mem_append_left _ read)
    · exact Or.inl (List.mem_append_right _ (List.mem_singleton.mpr same))

/-- The task looks after its client when that is due, and it was heard within the timeout. -/
theorem look (h : session.OnSchedule config start now count heard signs waiting)
    (due : session.tick ≤ now) (readable : now + config.period ≤ Clock.last)
    (lately : now - session.lastSeen ≤ config.idleTimeout) :
    ({ session with tick := nextTick session.tick now config.period } : Session).OnSchedule config
      start now (count + 1) heard signs waiting := by
  obtain rfl : session.tick = now := Nat.le_antisymm due h.early
  have next : nextTick session.tick session.tick config.period =
      session.tick + config.period := by
    simp [nextTick, Clock.deadline, Clock.after?, readable]
  rw [next]
  refine { h with tick := ?_, reached := ?_, early := Nat.le_add_right _ _, lately := ?_ }
  · calc session.tick + config.period
      _ = start + (count + 1) * config.period + config.period := by rw [h.tick]
      _ = start + (count + 1 + 1) * config.period := by rw [Nat.succ_mul (count + 1)]; omega
  · exact Nat.le_of_eq h.tick.symm
  · have tick := h.tick
    dsimp only
    omega

/-- The instants up to now are those at which the task has looked, if no tick is due. -/
theorem count_eq (h : session.OnSchedule config start now count heard signs waiting)
    (ahead : now < session.tick) : (now - start) / config.period = count := by
  have reached := h.reached
  rw [h.tick] at ahead
  refine Nat.div_eq_of_lt_le ?_ ?_ <;> omega

/-- A client is cut before it was silent for longer than a period beyond the timeout. -/
theorem tick_le (h : session.OnSchedule config start now count heard signs waiting) :
    session.tick ≤ session.lastSeen + config.idleTimeout + config.period := by
  have lately := h.lately
  have tick := h.tick
  rw [Nat.succ_mul] at tick
  omega

end Session.OnSchedule

namespace Phase

/-- Where a task stands that keeps up with its schedule, and the pings that it has begun. -/
def OnSchedule (config : RelayConfig) (start now : Nat) (pings heard signs : List Nat)
    (waiting : Bool) : Phase → Prop
  | .connecting => False
  | .handshake _ => False
  | .active session => ∃ count, pings = instants start config.period count ∧
    session.OnSchedule config start now count heard signs waiting
  | .writing session write => ∃ count,
    pings ++ write.pingAhead now = instants start config.period count ∧
    session.OnSchedule config start now count heard signs waiting
  | _ => ∃ count, pings = instants start config.period count ∧ start + count * config.period ≤ now

end Phase

namespace Write

/-- A ping that is ahead begins when the transport is asked. -/
theorem pingAhead_eq (w : Write) (id : ConnectionId) (now : Nat) {after : List ConnectionEvent}
    (silent : ∀ e ∈ after, (Event.connection id e).isPing = false) :
    pingsAt now ((w.announcement ++ after).map (Event.connection id)) = w.pingAhead now := by
  have nothing : (after.map (Event.connection id)).any Event.isPing = false := by
    simpa using silent
  obtain ⟨item, begun, deadline⟩ := w
  rw [pingsAt, List.map_append, List.any_append, nothing, Bool.or_false]
  cases item <;> cases begun <;> simp [announcement, pingAhead, Event.isPing]

theorem announcement_unheard (w : Write) (id : ConnectionId) :
    (w.announcement.map (Event.connection id)).any Event.isHearing = false := by
  unfold announcement
  split <;> rfl

/-- No sign of the client is read in a write. -/
theorem unheard (w : Write) (id : ConnectionId) (now : Nat) {after : List ConnectionEvent}
    (silent : ∀ e ∈ after, (Event.connection id e).isHearing = false) :
    hearsAt now ((w.announcement ++ after).map (Event.connection id)) = [] := by
  have nothing : (after.map (Event.connection id)).any Event.isHearing = false := by
    simpa using silent
  rw [hearsAt, List.map_append, List.any_append, nothing, w.announcement_unheard]
  rfl

end Write

namespace Connection

section Waiting

variable {config : RelayConfig} {start now : Nat} {c c' : Connection}
  {pings heard signs : List Nat}

/-- More arrives for a task that does not move. -/
theorem onSchedule_arrive
    (p : c.phase.OnSchedule config start now pings heard signs c.hasSign)
    (phase : c'.phase = c.phase) {more : List Inbound}
    (inbound : c'.transport.inbound = c.transport.inbound ++ more) :
    c'.phase.OnSchedule config start now pings heard
      (signs ++ if more.any Inbound.isSign then [now] else []) c'.hasSign := by
  have waits := hasSign_arrive inbound
  rw [waits, phase]
  cases same : c.phase with
  | active session =>
    rw [same] at p
    obtain ⟨count, begun, h⟩ := p
    exact ⟨count, begun, h.arrive _⟩
  | writing session write =>
    rw [same] at p
    obtain ⟨count, begun, h⟩ := p
    exact ⟨count, begun, h.arrive _⟩
  | _ =>
    rw [same] at p
    exact p

/-- Time passes for a task that it does not keep from anything. -/
theorem onSchedule_pass
    (p : c.phase.OnSchedule config start now pings heard signs c.hasSign) {later : Nat}
    (past : now ≤ later) (free : c.isFree later = true) :
    c.phase.OnSchedule config start later pings heard signs c.hasSign := by
  cases phase : c.phase with
  | active session =>
    rw [phase] at p
    obtain ⟨count, begun, h⟩ := p
    simp only [isFree, phase, Bool.and_eq_true, List.isEmpty_iff, decide_eq_true_eq] at free
    exact ⟨count, begun, h.pass (by rw [hasSign, free.1]; rfl) past free.2⟩
  | writing session write => simp [isFree, phase] at free
  | connecting =>
    rw [phase] at p
    exact p
  | handshake deadline =>
    rw [phase] at p
    exact p
  | closing result begun deadline =>
    rw [phase] at p
    obtain ⟨count, begun, reached⟩ := p
    exact ⟨count, begun, Nat.le_trans reached past⟩
  | ended outcome =>
    rw [phase] at p
    obtain ⟨count, begun, reached⟩ := p
    exact ⟨count, begun, Nat.le_trans reached past⟩

/-- A task may end anywhere, and has begun no other ping then. -/
theorem onSchedule_over
    (p : c.phase.OnSchedule config start now pings heard signs c.hasSign) :
    ∃ count, pings = instants start config.period count ∧
      start + count * config.period ≤ now := by
  cases phase : c.phase with
  | active session =>
    rw [phase] at p
    obtain ⟨count, begun, h⟩ := p
    exact ⟨count, begun, h.reached⟩
  | writing session write =>
    rw [phase] at p
    obtain ⟨count, begun, h⟩ := p
    have reached := h.reached
    unfold Write.pingAhead at begun
    split at begun
    · obtain ⟨before, rfl, same, -⟩ := instants_eq_concat begun
      rw [Nat.succ_mul] at reached
      exact ⟨before, same, by omega⟩
    · rw [List.append_nil] at begun
      exact ⟨count, begun, reached⟩
  | connecting =>
    rw [phase] at p
    cases p
  | handshake deadline =>
    rw [phase] at p
    cases p
  | _ =>
    rw [phase] at p
    exact p

end Waiting

section Steps

variable {config : RelayConfig} {s : Surroundings} {c : Connection} {hub : Hub} {key : QueueKey}
  {start : Nat} {pings heard signs : List Nat}

/-- A task that leaves has begun no ping but the one that was ahead. -/
theorem Leaving.onSchedule {b : Branch} {c' : Connection} {remarks : List ConnectionEvent}
    {result : Option ConnectionFault} (h : Leaving config s c hub key b c' remarks result)
    (p : c.phase.OnSchedule config start hub.now pings heard signs c.hasSign) :
    ∃ count, pings ++ pingsAt hub.now (remarks.map (Event.connection c.id)) =
      instants start config.period count ∧ start + count * config.period ≤ hub.now := by
  have whole := onSchedule_over p
  cases h with
  | @writeFailed session write fault phase mode =>
    rw [phase] at p
    obtain ⟨count, begun, h⟩ := p
    exact ⟨count, by rw [Write.pingAhead_eq _ _ _ (by simp [Event.isPing]), begun], h.reached⟩
  | _ => simpa [pingsAt, Event.isPing] using whole

/-- A task that is registered looks after its client for the first time a period later. -/
theorem Transition.entering {b : Branch} {next : Hub × Connection}
    (h : Transition config s c hub key b next) (waiting : c.phase.isServing = false)
    (serving : next.2.phase.isServing = true) :
    ∃ name, next.2.phase = .active ⟨name, hub.now, hub.now + config.period⟩ := by
  cases h with
  | @enter deadline name rest hub' tick phase inbound small registered scheduled =>
    have now : hub'.now = hub.now := ((own_noteAll c hub key _).register registered).now
    rw [now, Clock.after?] at scheduled
    split at scheduled
    · exact ⟨name, by rw [now, Option.some.inj scheduled]⟩
    · cases scheduled
  | leave reason => simp [reason.serving.1] at waiting
  | ignore phase => simp [phase, Phase.isServing] at serving
  | drop phase => simp [phase, Phase.isServing] at waiting
  | giveUp => simp [wrapUp, move, Phase.isServing] at serving
  | conclude => simp [Phase.isServing] at serving
  | _ => simp_all [Phase.isServing, move]

/-- A step of a task keeps it on its schedule. -/
theorem Transition.onSchedule {b : Branch} {next : Hub × Connection}
    (h : Transition config s c hub key b next) (clock : s.now = hub.now) {told : List Event}
    (story : next.1.story = hub.story ++ told) (readable : hub.now + config.period ≤ Clock.last)
    (p : c.phase.OnSchedule config start hub.now pings heard signs c.hasSign) :
    next.2.phase.OnSchedule config start hub.now (pings ++ pingsAt hub.now told)
      (heard ++ hearsAt hub.now told) signs next.2.hasSign := by
  have known : ∀ {told' : List Event}, next.1.story = hub.story ++ told' → told' = told :=
    fun same => List.append_cancel_left (same.symm.trans story)
  cases h with
  | start phase => rw [phase] at p; cases p
  | ignore phase => rw [phase] at p; cases p
  | giveUp phase => rw [phase] at p; cases p
  | enter phase => rw [phase] at p; cases p
  | enterLate phase => rw [phase] at p; cases p
  | tooLarge phase => rw [phase] at p; cases p
  | @line session text rest phase inbound =>
    rw [phase, hasSign, inbound] at p
    obtain ⟨count, begun, h⟩ := p
    obtain rfl := known (by rw [(Hub.broadcast_frame _ _).2.2.2, noteAll_story, List.append_assoc])
    exact ⟨count, by simpa [pingsAt, Event.isPing] using begun, h.hear _⟩
  | @sign session rest phase inbound =>
    rw [phase, hasSign, inbound] at p
    obtain ⟨count, begun, h⟩ := p
    obtain rfl := known (own_noteAll c hub key [.consumed .lifeSign]).story
    exact ⟨count, by simpa [pingsAt, Event.isPing] using begun, h.hear _⟩
  | @drop session size rest phase inbound =>
    obtain rfl := known (own_noteAll c hub key [.consumed (.binary size)]).story
    rw [hasSign_drop inbound, reading_phase]
    simpa [pingsAt, hearsAt, Event.isPing, Event.isHearing, Inbound.isSign] using p
  | @take session text hub' phase taken =>
    rw [phase] at p
    obtain ⟨count, begun, h⟩ := p
    obtain rfl := known (((own_noteAll c hub key []).take taken).note (.taken text)).story
    have unheard : hearsAt hub.now (([] ++ [ConnectionEvent.taken text]).map
        (Event.connection c.id)) = [] := rfl
    rw [unheard, List.append_nil]
    exact ⟨count, by simpa [pingsAt, Event.isPing, Write.pingAhead, prepare] using begun, h⟩
  | ping phase due lately =>
    rw [phase] at p
    obtain ⟨count, begun, h⟩ := p
    obtain rfl := known (own_noteAll c hub key []).story
    have now : hub.now = start + (count + 1) * config.period :=
      (Nat.le_antisymm (clock ▸ due) h.early).symm.trans h.tick
    have unheard : hearsAt hub.now (([] : List ConnectionEvent).map (Event.connection c.id)) = [] :=
      rfl
    rw [unheard, List.append_nil]
    refine ⟨count + 1, ?_, h.look (clock ▸ due) readable lately⟩
    rw [instants_succ, ← now, ← begun]
    simp [pingsAt, Write.pingAhead]
  | @written session write phase mode =>
    rw [phase] at p
    obtain ⟨count, begun, h⟩ := p
    obtain rfl := known (noteAll_story c hub _)
    rw [Write.pingAhead_eq _ _ _ (by simp [Event.isPing]),
      Write.unheard _ _ _ (by simp [Event.isHearing]), List.append_nil]
    exact ⟨count, begun, h⟩
  | @hang session write phase mode =>
    rw [phase] at p
    obtain ⟨count, begun, h⟩ := p
    have asked : (c.noteAll hub write.announcement).story =
        hub.story ++ (write.announcement ++ []).map (Event.connection c.id) := by
      rw [List.append_nil]
      exact noteAll_story c hub _
    obtain rfl := known asked
    rw [Write.pingAhead_eq _ _ _ (by simp), Write.unheard _ _ _ (by simp), List.append_nil, begun]
    exact ⟨count, by simp [Write.pingAhead], h⟩
  | @leave b c' remarks result reason =>
    obtain ⟨count, begun, reached⟩ := reason.onSchedule p
    obtain rfl := known reason.story
    refine ⟨count, ?_, reached⟩
    rw [← begun]
    simp [pingsAt, Event.isPing]
  | @closeHang result begun deadline phase mode =>
    rw [phase] at p
    obtain rfl := known (noteAll_story c hub _)
    obtain ⟨count, pinged, reached⟩ := p
    refine ⟨count, ?_, reached⟩
    rw [← pinged]
    cases begun <;> simp [pingsAt, Event.isPing]
  | @conclude result begun deadline b remarks phase closed =>
    rw [phase] at p
    obtain rfl := known (by rw [conclude_story, noteAll_story, List.append_assoc])
    obtain ⟨count, pinged, reached⟩ := p
    refine ⟨count, ?_, reached⟩
    rw [← pinged]
    cases closed <;> cases begun <;> simp [pingsAt, Event.isPing, Outcome.event]

/-- A ping begins only when it is ahead. -/
theorem Transition.pinging {b : Branch} {next : Hub × Connection}
    (h : Transition config s c hub key b next) {session : Session} {write : Write}
    (phase : c.phase = .writing session write) {told : List Event}
    (story : next.1.story = hub.story ++ told) (pings : told.any Event.isPing = true) (now : Nat) :
    write.pingAhead now = [now] := by
  have asked : ∀ after : List ConnectionEvent,
      (∀ e ∈ after, (Event.connection c.id e).isPing = false) →
      next.1.story = hub.story ++ (write.announcement ++ after).map (Event.connection c.id) →
      write.pingAhead now = [now] := by
    intro after silent known
    obtain rfl := List.append_cancel_left (story.symm.trans known)
    rw [← write.pingAhead_eq c.id now silent, pingsAt, if_pos pings]
  cases h with
  | @written session' write' phase' mode =>
    obtain ⟨rfl, rfl⟩ := Phase.writing.inj (phase'.symm.trans phase)
    exact asked _ (by simp [Event.isPing]) (noteAll_story c hub _)
  | @hang session' write' phase' mode =>
    obtain ⟨rfl, rfl⟩ := Phase.writing.inj (phase'.symm.trans phase)
    exact asked [] (by simp) (by rw [List.append_nil]; exact noteAll_story c hub _)
  | @leave b c' remarks result reason =>
    have known := reason.story
    cases reason with
    | @writeFailed session' write' fault phase' mode =>
      obtain ⟨rfl, rfl⟩ := Phase.writing.inj (phase'.symm.trans phase)
      rw [List.append_assoc] at known
      exact asked _ (by simp [Event.isPing]) known
    | _ =>
      obtain rfl := List.append_cancel_left (story.symm.trans known)
      simp [Event.isPing] at pings
  | _ => simp_all

end Steps

end Connection

end ChatRelay
