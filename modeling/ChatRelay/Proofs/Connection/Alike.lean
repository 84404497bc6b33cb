import ChatRelay.Proofs.Broadcast.Alike
import ChatRelay.Proofs.Connection.Intake

/-!
# Steps at hubs that differ in one peer

The task of anybody but the peer does the same at two hubs that are alike but for the peer. What the
peer's own task does, short of a message, leaves the hub as it was for everybody else.
-/

namespace ChatRelay

namespace Connection

/-- The same connection at hubs that are alike but for a peer. -/
def Agree (d : QueueKey) (id : ConnectionId) (x y : Hub × Connection) : Prop :=
  x.1.Alike d id y.1 ∧ x.2 = y.2

section Agree

variable {d : QueueKey} {id : ConnectionId} {h h' : Hub} (alike : h.Alike d id h')
  (config : RelayConfig) (c : Connection) {key : QueueKey}

include alike

theorem Agree.note (e : ConnectionEvent) : (c.note h e).Alike d id (c.note h' e) :=
  Hub.Alike.note alike _

theorem Agree.move (phase : Phase) : Agree d id (c.move h phase) (c.move h' phase) :=
  ⟨Agree.note alike c _, rfl⟩

theorem Agree.wrapUp (key : QueueKey) (result : Option ConnectionFault) :
    Agree d id (c.wrapUp config h key result) (c.wrapUp config h' key result) := by
  have dropped := alike.dropReader key
  unfold Connection.wrapUp
  dsimp only
  rw [dropped.now]
  exact Agree.move dropped c _

theorem Agree.leave (key : QueueKey) (result : Option ConnectionFault) :
    Agree d id (c.leave config h key result) (c.leave config h' key result) :=
  Agree.wrapUp (alike.unregister c.id) config c key result

theorem Agree.conclude (outcome : Outcome) :
    Agree d id (c.conclude h outcome) (c.conclude h' outcome) :=
  ⟨Agree.note alike c _, rfl⟩

theorem Agree.die (key : QueueKey) (outcome : Outcome) :
    Agree d id (c.die h key outcome) (c.die h' key outcome) := by
  unfold Connection.die
  split
  · exact Agree.conclude ((alike.unregister c.id).dropReader key) c outcome
  · exact Agree.conclude (alike.dropReader key) c outcome

theorem Agree.activate (key : QueueKey) (name : String) :
    Agree d id (c.activate config h key name) (c.activate config h' key name) := by
  have moved := Agree.move alike c (.active ⟨name, h.now, h.now⟩)
  unfold Connection.activate
  rw [← alike.now]
  dsimp only
  cases Clock.after? h.now config.period with
  | none => exact Agree.die moved.1 _ key .panicked
  | some tick => exact ⟨moved.1, rfl⟩

theorem Agree.prepare (session : Session) (item : Outgoing) :
    Agree d id (c.prepare config h session item) (c.prepare config h' session item) :=
  ⟨alike, by simp only [Connection.prepare, alike.now]⟩

theorem Agree.handleTick (key : QueueKey) (session : Session) :
    Agree d id (c.handleTick config h key session) (c.handleTick config h' key session) := by
  unfold Connection.handleTick
  rw [← alike.now]
  dsimp only
  split
  · exact Agree.leave alike config c key _
  · exact Agree.prepare alike config c _ _

theorem Agree.attemptWrite (key : QueueKey) (session : Session) (write : Write) :
    Agree d id (c.attemptWrite config h key session write)
      (c.attemptWrite config h' key session write) := by
  have begun : (if write.begun then h else c.note h (.writeBegun write.item)).Alike d id
      (if write.begun then h' else c.note h' (.writeBegun write.item)) := by
    split
    · exact alike
    · exact Agree.note alike c _
  unfold Connection.attemptWrite
  dsimp only
  split
  · exact ⟨Agree.note begun c _, rfl⟩
  · exact Agree.leave (Agree.note begun c _) config c key _
  · exact ⟨begun, rfl⟩

theorem Agree.attemptClose (result : Option ConnectionFault) (begun : Bool) (deadline : Nat) :
    Agree d id (c.attemptClose h result begun deadline)
      (c.attemptClose h' result begun deadline) := by
  have asked : (if begun then h else c.note h .closeBegun).Alike d id
      (if begun then h' else c.note h' .closeBegun) := by
    split
    · exact alike
    · exact Agree.note alike c _
  unfold Connection.attemptClose
  dsimp only
  split
  · exact Agree.conclude (Agree.note asked c _) c _
  · exact Agree.conclude (Agree.note asked c _) c _
  · exact ⟨asked, rfl⟩

variable (apart : key ≠ d)

include apart

theorem Agree.take (session : Session) :
    Agree d id (c.take config h key session) (c.take config h' key session) := by
  unfold Connection.take
  rcases alike.take? apart with ⟨empty, empty'⟩ | ⟨text, h₁, h₁', taken, taken', after⟩
  · rw [empty, empty', alike.ended]
    exact Agree.leave alike config c key _
  · rw [taken, taken']
    exact Agree.prepare (Agree.note after c _) config c _ _

variable (seats : h.registry.Seats d id) (seats' : h'.registry.Seats d id) (other : c.id ≠ id)

include seats seats' other

theorem Agree.introduce (name : String) :
    Agree d id (c.introduce config h key name) (c.introduce config h' key name) := by
  have named := Agree.note alike c (.named name)
  unfold Connection.introduce
  dsimp only
  split
  · exact Agree.die named c key .panicked
  · rcases named.register seats seats' (m := ⟨c.id, name, key⟩) apart other with
      ⟨fault, refused, refused'⟩ | ⟨h₁, h₁', done, done', after⟩
    · rw [refused, refused']
      exact Agree.wrapUp named config c key _
    · rw [done, done']
      exact Agree.activate after config c key name

theorem Agree.readName (item : Inbound) :
    Agree d id (c.readName config h key item) (c.readName config h' key item) := by
  cases item with
  | text name => exact Agree.introduce alike config c apart seats seats' other name
  | lifeSign => exact ⟨alike, rfl⟩
  | binary size => exact ⟨alike, rfl⟩
  | fault fault => exact Agree.wrapUp alike config c key _
  | streamEnd => exact Agree.wrapUp (Agree.note alike c _) config c key _

omit apart other

theorem Agree.readLine (key : QueueKey) (session : Session) (item : Inbound) :
    Agree d id (c.readLine config h key session item)
      (c.readLine config h' key session item) := by
  cases item with
  | text text =>
    have noted := Agree.note alike c (.received text.utf8ByteSize)
    refine ⟨noted.broadcast seats seats' _, ?_⟩
    simp only [Connection.readLine, alike.now]
  | lifeSign => exact ⟨alike, by simp only [Connection.readLine, alike.now]⟩
  | binary size => exact ⟨alike, rfl⟩
  | fault fault => exact Agree.leave alike config c key _
  | streamEnd => exact Agree.leave (Agree.note alike c _) config c key _

include apart other

theorem Agree.read : Agree d id (c.read config h key) (c.read config h' key) := by
  unfold Connection.read
  split
  · exact ⟨alike, rfl⟩
  · rename_i item rest _
    have read := Agree.note alike c (.consumed item)
    dsimp only
    split
    · exact Agree.readName read config (c.reading rest) apart seats seats' other item
    · exact Agree.readLine read config (c.reading rest) seats seats' key _ item
    · exact ⟨alike, rfl⟩

/-- A task that is not the peer's does the same at both hubs. -/
theorem Agree.perform (b : Branch) :
    Agree d id (c.perform config h key b) (c.perform config h' key b) := by
  cases b with
  | start =>
    simp only [Connection.perform]
    split
    · have began := Agree.note alike c (.began c.peer)
      rw [began.now]
      exact Agree.move began c _
    · exact ⟨alike, rfl⟩
  | read => exact Agree.read alike config c apart seats seats' other
  | handshakeDeadline =>
    simp only [Connection.perform]
    split
    · exact Agree.wrapUp (alike.withMeters _ _) config c key _
    · exact ⟨alike, rfl⟩
  | take =>
    simp only [Connection.perform]
    split
    · exact Agree.take alike config c apart _
    · exact ⟨alike, rfl⟩
  | tick =>
    simp only [Connection.perform]
    split
    · exact Agree.handleTick alike config c key _
    · exact ⟨alike, rfl⟩
  | shutdown =>
    simp only [Connection.perform]
    split
    · exact Agree.wrapUp (Agree.note alike c _) config c key _
    · exact Agree.leave (Agree.note alike c _) config c key _
    · exact Agree.leave (Agree.note alike c _) config c key _
    · exact ⟨alike, rfl⟩
  | write =>
    simp only [Connection.perform]
    split
    · exact Agree.attemptWrite alike config c key _ _
    · exact ⟨alike, rfl⟩
  | writeDeadline =>
    simp only [Connection.perform]
    split
    · exact Agree.leave (Agree.note alike c _) config c key _
    · exact ⟨alike, rfl⟩
  | close =>
    simp only [Connection.perform]
    split
    · exact Agree.attemptClose alike c _ _ _
    · exact ⟨alike, rfl⟩
  | closeDeadline =>
    simp only [Connection.perform]
    split
    · exact Agree.conclude (Agree.note alike c _) c _
    · exact ⟨alike, rfl⟩

end Agree

section Pieces

variable (config : RelayConfig) (c : Connection) (hub : Hub) (key : QueueKey)
  (result : Option ConnectionFault) (outcome : Outcome)

@[simp] theorem note_elsewhere (e : ConnectionEvent) :
    (c.note hub e).elsewhere c.id = hub.elsewhere c.id :=
  Hub.note_elsewhere_of_neg _ _ (by simp [Event.isElsewhere])

@[simp] theorem noteAll_elsewhere (events : List ConnectionEvent) :
    (c.noteAll hub events).elsewhere c.id = hub.elsewhere c.id := by
  induction events generalizing hub with
  | nil => rfl
  | cons e rest ih => exact (ih (c.note hub e)).trans (note_elsewhere c hub e)

@[simp] theorem wrapUp_elsewhere :
    (c.wrapUp config hub key result).1.elsewhere c.id = hub.elsewhere c.id := by
  simp [wrapUp, move]

@[simp] theorem leave_elsewhere :
    (c.leave config hub key result).1.elsewhere c.id = hub.elsewhere c.id := by
  simp [leave]

@[simp] theorem conclude_elsewhere :
    (c.conclude hub outcome).1.elsewhere c.id = hub.elsewhere c.id := by
  simp [conclude]

@[simp] theorem die_elsewhere :
    (c.die hub key outcome).1.elsewhere c.id = hub.elsewhere c.id := by
  unfold die
  split <;> simp

end Pieces

section Own

variable {config : RelayConfig} {s : Surroundings} {c : Connection} {hub : Hub} {key : QueueKey}

theorem Transition.elsewhere {b : Branch} {next : Hub × Connection}
    (h : Transition config s c hub key b next) :
    next.1.elsewhere c.id = hub.elsewhere c.id := by
  cases h with
  | start => simp [move]
  | ignore => simp
  | @giveUp deadline b meters c' remarks result phase reason =>
    rw [← reason.same.1, wrapUp_elsewhere, reason.same.1, noteAll_elsewhere]
    rfl
  | enter phase inbound small registered =>
    rw [note_elsewhere, Hub.register_elsewhere _ registered, noteAll_elsewhere]
  | @enterLate deadline name rest hub' phase inbound small registered =>
    let active : Connection := { c.reading rest with phase := .active ⟨name, hub'.now, hub'.now⟩ }
    calc (active.die (c.note hub' (.moved .handshake .active)) key .panicked).1.elsewhere c.id
      _ = (c.note hub' (.moved .handshake .active)).elsewhere c.id := die_elsewhere active _ _ _
      _ = hub'.elsewhere c.id := note_elsewhere _ _ _
      _ = (c.noteAll hub _).elsewhere c.id := Hub.register_elsewhere _ registered
      _ = hub.elsewhere c.id := noteAll_elsewhere _ _ _
  | @tooLarge deadline name rest =>
    exact (die_elsewhere (c.reading rest) _ _ _).trans (noteAll_elsewhere _ _ _)
  | line => rw [Hub.broadcast_elsewhere, noteAll_elsewhere]
  | sign => exact note_elsewhere _ _ _
  | drop => exact note_elsewhere _ _ _
  | take phase taken => exact (note_elsewhere _ _ _).trans (Hub.take?_elsewhere _ taken)
  | ping => rfl
  | written => exact noteAll_elsewhere _ _ _
  | hang => exact noteAll_elsewhere _ _ _
  | @leave b c' remarks result reason =>
    rw [← reason.serving.2.1, leave_elsewhere, reason.serving.2.1, noteAll_elsewhere]
  | closeHang => exact noteAll_elsewhere _ _ _
  | conclude => exact (conclude_elsewhere _ _ _).trans (noteAll_elsewhere _ _ _)

/-- What a task does to the hub, short of a message, is unseen by everybody else. -/
theorem Outline.alike {next : Hub × Connection} (h : Outline c hub key next)
    (seats : hub.registry.Seats key c.id)
    (silent : ∀ told, next.1.story = hub.story ++ told → messagesOf told = [])
    (elsewhere : next.1.elsewhere c.id = hub.elsewhere c.id) :
    next.1.Alike key c.id hub := by
  have alike {events : List ConnectionEvent} (own : Own c.id key hub events next.1)
      (ended : next.1.registry.ended = hub.registry.ended)
      (others : next.1.registry.others key = hub.registry.others key) :
      next.1.Alike key c.id hub :=
    ⟨own.options, own.now, own.nextId, ended, others, own.size, own.elsewhere, elsewhere⟩
  cases h with
  | stay _ own _ registry => exact alike own (by rw [registry]) (by rw [registry])
  | join _ own _ _ registry =>
    obtain ⟨-, -, joined⟩ := Registry.register_eq_ok_iff.mp registry
    refine alike own (by rw [joined]) ?_
    rw [joined]
    exact Registry.filter_insertById_of_neg (by simp) _
  | part _ own _ _ registry =>
    have left := Hub.Alike.unregister_own seats
    refine alike own (by rw [registry]; rfl) ?_
    rw [registry, ← left.others, Hub.unregister_registry]
  | @speak events hub₁ message _ own _ _ _ _ _ spoken =>
    have said := silent (events.map (Event.connection c.id) ++
      [.broadcast message (hub₁.broadcast message).2.delivered
        (hub₁.broadcast message).2.failed]) (by
      rw [spoken, (Hub.broadcast_frame hub₁ message).2.2.2, own.story, List.append_assoc])
    rw [messagesOf_append] at said
    cases (List.append_eq_nil_iff.mp said).2

end Own

end Connection

end ChatRelay
