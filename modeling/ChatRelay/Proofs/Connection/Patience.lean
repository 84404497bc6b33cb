import ChatRelay.Proofs.Connection.Timing

/-!
# Patience with a silent client

At each tick a task looks for how long its client has been silent, and only then it pings. What the
look can find follows from two things: no more than a period lies between one ping and the next, and
whatever has arrived is read before time passes.
-/

namespace ChatRelay

namespace Inbound

/-- The item shows that the client is there. -/
def isSign : Inbound → Bool
  | .text _ => true
  | .lifeSign => true
  | _ => false

end Inbound

def Event.isPing : Event → Bool
  | .connection _ (.writeBegun .ping) => true
  | _ => false

/-- The time of a moment, if a ping began in it. -/
def pingsAt (now : Nat) (told : List Event) : List Nat :=
  if told.any Event.isPing then [now] else []

/-- The time of a moment, if the next thing to do in it is to begin a ping. -/
def Write.pingAhead (w : Write) (now : Nat) : List Nat :=
  if w.item = .ping ∧ w.begun = false then [now] else []

/-- A ping that is announced is no longer ahead. -/
theorem Write.pingAhead_subset (w : Write) (id : ConnectionId) (now : Nat) (more : List Event) :
    w.pingAhead now ⊆ pingsAt now (w.announcement.map (Event.connection id) ++ more) := by
  obtain ⟨item, begun, deadline⟩ := w
  cases item <;> cases begun <;>
    simp [pingAhead, announcement, pingsAt, Event.isPing]

/-- What an active task knows of its client: it remembers the last sign that it read, none other
waits that is older than now, and the pings were as frequent as the settings say. -/
structure Session.Heeds (config : RelayConfig) (now : Nat) (pings signs : List Nat) (waiting : Bool)
    (session : Session) : Prop where
  past : session.lastSeen ≤ now
  punctual : now ≤ session.tick
  heard : ∀ sign ∈ signs, sign ≤ session.lastSeen ∨ sign = now ∧ waiting = true
  /-- At any time before the next tick, a ping has begun within the last period. -/
  pinged : ∀ time, session.lastSeen + config.period ≤ time → time < session.tick →
    time ≤ Clock.last → ∃ ping ∈ pings, ping ≤ time ∧ time < ping + config.period

/-- A client that was just registered was heard just now. -/
theorem Session.heeds_enter {config : RelayConfig} {now : Nat} {pings signs : List Nat}
    (name : String) (past : ∀ sign ∈ signs, sign ≤ now) (waiting : Bool) :
    ({ name, lastSeen := now, tick := now + config.period } : Session).Heeds config now pings signs
      waiting where
  past := Nat.le_refl now
  punctual := Nat.le_add_right _ _
  heard sign hs := Or.inl (past sign hs)
  pinged _ late early _ := absurd early (Nat.not_lt.mpr late)

namespace Session.Heeds

variable {config : RelayConfig} {now : Nat} {pings signs : List Nat} {waiting : Bool}
  {session : Session}

theorem mono (h : session.Heeds config now pings signs waiting) {pings' : List Nat}
    (more : pings ⊆ pings') : session.Heeds config now pings' signs waiting where
  past := h.past
  punctual := h.punctual
  heard := h.heard
  pinged := by
    intro time late early readable
    obtain ⟨ping, hp, within⟩ := h.pinged time late early readable
    exact ⟨ping, more hp, within⟩

/-- Items arrive, and perhaps a sign is among them. -/
theorem arrive (h : session.Heeds config now pings signs waiting) (sign : Bool) :
    session.Heeds config now pings (signs ++ if sign then [now] else []) (waiting || sign) where
  past := h.past
  punctual := h.punctual
  heard := by
    intro time ht
    rcases List.mem_append.mp ht with old | new
    · rcases h.heard time old with seen | ⟨same, waits⟩
      · exact Or.inl seen
      · exact Or.inr ⟨same, by rw [waits, Bool.true_or]⟩
    · cases sign with
      | false => cases new
      | true => exact Or.inr ⟨List.mem_singleton.mp new, Bool.or_true _⟩
  pinged := h.pinged

/-- Time passes when nothing waits, and no further than to the next tick. -/
theorem pass (h : session.Heeds config now pings signs waiting) (unread : waiting = false)
    {later : Nat} (past : now ≤ later) (early : later ≤ session.tick) :
    session.Heeds config later pings signs waiting where
  past := Nat.le_trans h.past past
  punctual := early
  heard := by
    intro sign hs
    rcases h.heard sign hs with seen | ⟨-, waits⟩
    · exact Or.inl seen
    · rw [unread] at waits
      cases waits
  pinged := h.pinged

/-- A sign is read. -/
theorem read (h : session.Heeds config now pings signs waiting) (past : ∀ sign ∈ signs, sign ≤ now)
    (waiting' : Bool) :
    ({ session with lastSeen := now } : Session).Heeds config now pings signs waiting' where
  past := Nat.le_refl now
  punctual := h.punctual
  heard sign hs := Or.inl (past sign hs)
  pinged := by
    intro time late early readable
    have seen := h.past
    exact h.pinged time (by dsimp only at late; omega) early readable

/-- A ping is prepared when it is due. -/
theorem tick (h : session.Heeds config now pings signs waiting) (due : session.tick ≤ now)
    (w : Write) (ping : w.item = .ping) (ahead : w.begun = false) :
    ({ session with tick := nextTick session.tick now config.period } : Session).Heeds config now
      (pings ++ w.pingAhead now) signs waiting := by
  obtain rfl : session.tick = now := Nat.le_antisymm due h.punctual
  have begins : w.pingAhead session.tick = [session.tick] := by simp [Write.pingAhead, ping, ahead]
  have next : nextTick session.tick session.tick config.period =
      Clock.deadline session.tick config.period := by simp [nextTick]
  constructor
  case past => exact h.past
  case punctual =>
    rw [next, Clock.deadline, Clock.after?]
    split <;> simp
  case heard => exact h.heard
  case pinged =>
    intro time late early readable
    by_cases before : time < session.tick
    · obtain ⟨ping, hp, within⟩ := h.pinged time late before readable
      exact ⟨ping, List.mem_append_left _ hp, within⟩
    · refine ⟨session.tick, by rw [begins]; simp, Nat.le_of_not_lt before, ?_⟩
      -- Where the next tick cannot be set a period ahead, the clock ends before that period does.
      rw [next, Clock.deadline, Clock.after?] at early
      split at early
      · exact early
      · omega

/-- If every ping is answered within the time that is left of the timeout, the client was heard
within the timeout at every tick. -/
theorem heard_lately (h : session.Heeds config now pings signs waiting) (due : session.tick ≤ now)
    (shorter : config.period < config.idleTimeout) (readable : now ≤ Clock.last)
    (answered : ∀ ping ∈ pings, ping + (config.idleTimeout - config.period) < now →
      ∃ sign ∈ signs, ping ≤ sign ∧ sign ≤ ping + (config.idleTimeout - config.period)) :
    now - session.lastSeen ≤ config.idleTimeout := by
  by_contra silent
  have tick := h.punctual
  -- The last ping for whose answer the time is over, and the client has been silent since before it.
  obtain ⟨ping, hp, began, last⟩ := h.pinged (now - (config.idleTimeout - config.period) - 1)
    (by omega) (by omega) (by omega)
  obtain ⟨sign, hs, after, within⟩ := answered ping hp (by omega)
  rcases h.heard sign hs with seen | ⟨rfl, -⟩ <;> omega

end Session.Heeds

namespace Phase

def fault? : Phase → Option ConnectionFault
  | .closing result _ _ => result
  | .ended (.returned result) => result
  | _ => none

/-- Where a task stands whose client answers its pings. -/
def Patient (config : RelayConfig) (now : Nat) (pings signs : List Nat) (waiting : Bool)
    (phase : Phase) : Prop :=
  phase.fault? ≠ some .idleTimeout ∧
    match phase with
    | .active session => session.Heeds config now pings signs waiting
    | .writing session write =>
      session.Heeds config now (pings ++ write.pingAhead now) signs waiting
    | _ => True

theorem Patient.mono {config : RelayConfig} {now : Nat} {pings signs : List Nat} {waiting : Bool}
    {phase : Phase} (p : phase.Patient config now pings signs waiting) {pings' : List Nat}
    (more : pings ⊆ pings') : phase.Patient config now pings' signs waiting := by
  refine ⟨p.1, ?_⟩
  cases phase with
  | active session => exact p.2.mono more
  | writing session write =>
    exact p.2.mono (List.append_subset.mpr
      ⟨List.subset_append_of_subset_left _ more, List.subset_append_right _ _⟩)
  | _ => trivial

end Phase

namespace Connection

def hasSign (c : Connection) : Bool := c.transport.inbound.any Inbound.isSign

theorem hasSign_of_transport {c c' : Connection} (same : c'.transport = c.transport) :
    c'.hasSign = c.hasSign := by
  rw [hasSign, same]
  rfl

theorem hasSign_arrive {c c' : Connection} {more : List Inbound}
    (inbound : c'.transport.inbound = c.transport.inbound ++ more) :
    c'.hasSign = (c.hasSign || more.any Inbound.isSign) := by
  rw [hasSign, inbound, List.any_append]
  rfl

/-- A frame of bytes is no sign of the client. -/
theorem hasSign_drop {c : Connection} {size : Nat} {rest : List Inbound}
    (inbound : c.transport.inbound = .binary size :: rest) :
    (c.reading rest).hasSign = c.hasSign := by
  simp [hasSign, reading, inbound, Inbound.isSign]

/-- Time can pass up to a moment without keeping the task from anything: no write is under way,
nothing waits to be read, and no tick is due before. -/
def isFree (c : Connection) (later : Nat) : Bool :=
  match c.phase with
  | .active session => c.transport.inbound.isEmpty && later ≤ session.tick
  | .writing .. => false
  | _ => true

section Waiting

variable {config : RelayConfig} {now : Nat} {c c' : Connection} {pings signs : List Nat}

/-- More arrives for a task that does not move. -/
theorem patient_arrive (p : c.phase.Patient config now pings signs c.hasSign)
    (phase : c'.phase = c.phase) {more : List Inbound}
    (inbound : c'.transport.inbound = c.transport.inbound ++ more) :
    c'.phase.Patient config now pings
      (signs ++ if more.any Inbound.isSign then [now] else []) c'.hasSign := by
  have waits := hasSign_arrive inbound
  rw [waits, phase]
  refine ⟨p.1, ?_⟩
  cases same : c.phase with
  | active session =>
    rw [same] at p
    exact p.2.arrive _
  | writing session write =>
    rw [same] at p
    exact p.2.arrive _
  | _ => trivial

/-- Time passes for a task that it does not keep from anything. -/
theorem patient_pass (p : c.phase.Patient config now pings signs c.hasSign) {later : Nat}
    (past : now ≤ later) (free : c.isFree later = true) :
    c.phase.Patient config later pings signs c.hasSign := by
  refine ⟨p.1, ?_⟩
  cases phase : c.phase with
  | active session =>
    rw [phase] at p
    simp only [isFree, phase, Bool.and_eq_true, List.isEmpty_iff, decide_eq_true_eq] at free
    exact p.2.pass (by rw [hasSign, free.1]; rfl) past free.2
  | writing session write => simp [isFree, phase] at free
  | _ => trivial

end Waiting

section Steps

variable {config : RelayConfig} {s : Surroundings} {c : Connection} {hub : Hub} {key : QueueKey}
  {pings signs : List Nat}

/-- Unless the client is silent for too long, a task has other reasons to leave. -/
theorem Leaving.other {b : Branch} {c' : Connection} {remarks : List ConnectionEvent}
    {result : Option ConnectionFault} (h : Leaving config s c hub key b c' remarks result)
    (lately : ∀ session, c.phase = .active session → session.tick ≤ s.now →
      hub.now - session.lastSeen ≤ config.idleTimeout) : result ≠ some .idleTimeout := by
  cases h with
  | silent phase due silent => exact absurd (lately _ phase due) (Nat.not_le_of_lt silent)
  | queueEnded => cases hub.registry.ended <;> simp
  | _ => simp

theorem GivingUp.other {b : Branch} {meters : Meters} {c' : Connection}
    {remarks : List ConnectionEvent} {result : Option ConnectionFault}
    (h : GivingUp config s c hub key b meters c' remarks result) :
    result ≠ some .idleTimeout := by
  cases h <;> simp

/-- No step of a task whose client answers the pings brings it to the timeout. -/
theorem Transition.patient {b : Branch} {next : Hub × Connection}
    (h : Transition config s c hub key b next) (clock : s.now = hub.now) {told : List Event}
    (story : next.1.story = hub.story ++ told) (shorter : config.period < config.idleTimeout)
    (readable : hub.now ≤ Clock.last) (past : ∀ sign ∈ signs, sign ≤ hub.now)
    (answered : ∀ ping ∈ pings, ping + (config.idleTimeout - config.period) < hub.now →
      ∃ sign ∈ signs, ping ≤ sign ∧ sign ≤ ping + (config.idleTimeout - config.period))
    (p : c.phase.Patient config hub.now pings signs c.hasSign) :
    next.2.phase.Patient config hub.now (pings ++ pingsAt hub.now told) signs next.2.hasSign := by
  have more : pings ⊆ pings ++ pingsAt hub.now told := List.subset_append_left _ _
  -- The ping that is ahead in a write is told when the transport is asked.
  have asked : ∀ (w : Write) (after : List ConnectionEvent),
      next.1.story = hub.story ++ (w.announcement ++ after).map (Event.connection c.id) →
      pings ++ w.pingAhead hub.now ⊆ pings ++ pingsAt hub.now told := by
    intro w after known
    obtain rfl := List.append_cancel_left (story.symm.trans known)
    rw [List.map_append]
    exact List.append_subset.mpr ⟨List.subset_append_left _ _,
      List.Subset.trans (w.pingAhead_subset c.id hub.now _) (List.subset_append_right _ _)⟩
  cases h with
  | start => exact ⟨by simp [move, Phase.fault?], trivial⟩
  | ignore phase =>
    rw [reading_phase, phase]
    exact ⟨by simp [Phase.fault?], trivial⟩
  | giveUp phase reason => exact ⟨reason.other, trivial⟩
  | @enter deadline name rest hub' tick phase inbound small registered scheduled =>
    have now : hub'.now = hub.now := ((own_noteAll c hub key _).register registered).now
    have due : tick = hub.now + config.period := by
      rw [now, Clock.after?] at scheduled
      split at scheduled
      · exact (Option.some.inj scheduled).symm
      · cases scheduled
    refine ⟨by simp [Phase.fault?], ?_⟩
    dsimp only
    rw [now, due]
    exact Session.heeds_enter name past _
  | enterLate => exact ⟨by simp [Phase.fault?], trivial⟩
  | tooLarge => exact ⟨by simp [Phase.fault?], trivial⟩
  | line phase inbound =>
    rw [phase] at p
    exact ⟨by simp [Phase.fault?], (p.2.mono more).read past _⟩
  | sign phase inbound =>
    rw [phase] at p
    exact ⟨by simp [Phase.fault?], (p.2.mono more).read past _⟩
  | @drop session size rest phase inbound =>
    rw [hasSign_drop inbound, reading_phase, phase]
    rw [phase] at p
    exact ⟨p.1, p.2.mono more⟩
  | @take session text hub' phase taken =>
    rw [phase] at p
    exact ⟨by simp [prepare, Phase.fault?],
      p.2.mono (List.subset_append_of_subset_left _ more)⟩
  | ping phase due heard =>
    rw [phase] at p
    exact ⟨by simp [prepare, Phase.fault?], (p.2.mono more).tick (clock ▸ due) _ rfl rfl⟩
  | @written session write phase mode =>
    rw [phase] at p
    exact ⟨by simp [Phase.fault?], p.2.mono (asked write _ (noteAll_story c hub _))⟩
  | @hang session write phase mode =>
    rw [phase] at p
    refine ⟨by simp [Phase.fault?], p.2.mono (List.Subset.trans (asked write [] ?_) ?_)⟩
    · rw [List.append_nil]
      exact noteAll_story c hub _
    · exact List.subset_append_left _ _
  | leave reason =>
    refine ⟨reason.other ?_, trivial⟩
    intro session phase due
    rw [phase] at p
    exact p.2.heard_lately (clock ▸ due) shorter readable answered
  | closeHang phase =>
    rw [phase] at p
    exact ⟨p.1, trivial⟩
  | conclude phase =>
    rw [phase] at p
    exact ⟨p.1, trivial⟩

end Steps

end Connection

end ChatRelay
