import ChatRelay.Proofs.Broadcast.Journal
import ChatRelay.Proofs.Connection.Effect

/-!
# What a step does not look at

No step of a task looks at what was noted before, and none but the reading of an item looks at what
its client has sent. So a step does the same at a hub whose journal tells the past in another way,
and for a connection for which other items wait; a reading does so if the same item comes first.
What is noted is told there too, unless it is that a binary frame was read.
-/

namespace ChatRelay

namespace Inbound

def isBinary : Inbound → Bool
  | .binary _ => true
  | _ => false

end Inbound

namespace Connection

/-- The connection with other items waiting. -/
def await (g : List Inbound → List Inbound) (c : Connection) : Connection :=
  { c with transport := { c.transport with inbound := g c.transport.inbound } }

/-- What a step made of hub and connection, with another account of the past and other items. -/
def retell (f : List Entry → List Entry) (g : List Inbound → List Inbound)
    (next : Hub × Connection) : Hub × Connection :=
  (next.1.retell f, next.2.await g)

section Retell

variable {f : List Entry → List Entry} (faithful : Hub.Faithful f)
  (g : List Inbound → List Inbound) (config : RelayConfig) (c : Connection) (hub : Hub)
  (key : QueueKey)

include faithful

theorem note_retell {e : ConnectionEvent} (told : (Event.connection c.id e).isBinary = false) :
    (c.await g).note (hub.retell f) e = (c.note hub e).retell f :=
  Hub.note_retell faithful hub told

theorem move_retell (phase : Phase) :
    (c.await g).move (hub.retell f) phase = retell f g (c.move hub phase) := by
  have noted := note_retell faithful g c hub (e := .moved c.phase.stage phase.stage) rfl
  exact congrArg (·, ({ c with phase } : Connection).await g) noted

theorem wrapUp_retell (result : Option ConnectionFault) :
    (c.await g).wrapUp config (hub.retell f) key result =
      retell f g (c.wrapUp config hub key result) :=
  move_retell faithful g c (hub.dropReader key) _

theorem leave_retell (result : Option ConnectionFault) :
    (c.await g).leave config (hub.retell f) key result =
      retell f g (c.leave config hub key result) := by
  have gone : ((hub.retell f).unregister c.id).2 = (hub.unregister c.id).2.retell f :=
    congrArg Prod.snd (Hub.unregister_retell faithful hub c.id)
  have left := wrapUp_retell faithful g config c (hub.unregister c.id).2 key result
  rw [← gone] at left
  exact left

theorem conclude_retell (outcome : Outcome) :
    (c.await g).conclude (hub.retell f) outcome = retell f g (c.conclude hub outcome) := by
  have noted := note_retell faithful g c hub (e := outcome.event c.peer)
    (by cases outcome <;> rfl)
  exact congrArg (·, ({ c with phase := .ended outcome } : Connection).await g) noted

theorem die_retell (outcome : Outcome) :
    (c.await g).die (hub.retell f) key outcome = retell f g (c.die hub key outcome) := by
  have gone : (if c.phase.isServing then ((hub.retell f).unregister c.id).2 else hub.retell f) =
      (if c.phase.isServing then (hub.unregister c.id).2 else hub).retell f := by
    split
    · exact congrArg Prod.snd (Hub.unregister_retell faithful hub c.id)
    · rfl
  have concluded := conclude_retell faithful g c
    ((if c.phase.isServing then (hub.unregister c.id).2 else hub).dropReader key) outcome
  unfold die
  dsimp only
  rw [← concluded]
  exact congrArg (fun h : Hub => (c.await g).conclude (h.dropReader key) outcome) gone

theorem activate_retell (name : String) :
    (c.await g).activate config (hub.retell f) key name =
      retell f g (c.activate config hub key name) := by
  have moved := move_retell faithful g c hub (.active ⟨name, hub.now, hub.now⟩)
  have now : (hub.retell f).now = hub.now := rfl
  unfold activate
  dsimp only
  rw [now, moved]
  cases Clock.after? hub.now config.period with
  | some tick => rfl
  | none => exact die_retell faithful g _ _ key .panicked

theorem introduce_retell (name : String) :
    (c.await g).introduce config (hub.retell f) key name =
      retell f g (c.introduce config hub key name) := by
  have noted := note_retell faithful g c hub (e := .named name) rfl
  have same : (c.await g).id = c.id := rfl
  unfold introduce
  dsimp only
  rw [noted, same, Hub.register_retell faithful]
  split
  · exact die_retell faithful g c _ key .panicked
  · cases (c.note hub (.named name)).register ⟨c.id, name, key⟩ with
    | error fault => exact wrapUp_retell faithful g config c _ key _
    | ok hub' => exact activate_retell faithful g config c hub' key name

theorem readName_retell (item : Inbound) :
    (c.await g).readName config (hub.retell f) key item =
      retell f g (c.readName config hub key item) := by
  cases item with
  | text name => exact introduce_retell faithful g config c hub key name
  | lifeSign => rfl
  | binary size => rfl
  | fault fault => exact wrapUp_retell faithful g config c hub key _
  | streamEnd =>
    have noted := note_retell faithful g c hub (e := .leftBeforeName) rfl
    simp only [readName, noted]
    exact wrapUp_retell faithful g config c _ key _

theorem readLine_retell (session : Session) (item : Inbound) :
    (c.await g).readLine config (hub.retell f) key session item =
      retell f g (c.readLine config hub key session item) := by
  cases item with
  | text text =>
    have noted := note_retell faithful g c hub (e := .received text.utf8ByteSize) rfl
    have said := Hub.broadcast_retell faithful (c.note hub (.received text.utf8ByteSize))
      ⟨c.id, session.name, text⟩
    have same : (c.await g).id = c.id := rfl
    simp only [readLine, noted, same, said]
    rfl
  | lifeSign => rfl
  | binary size => rfl
  | fault fault => exact leave_retell faithful g config c hub key _
  | streamEnd =>
    have noted := note_retell faithful g c hub (e := .left) rfl
    simp only [readLine, noted]
    exact leave_retell faithful g config c _ key _

/-- The item that is read comes first among the other items too. -/
theorem read_retell {item : Inbound} {rest : List Inbound}
    (inbound : c.transport.inbound = item :: rest) (first : g (item :: rest) = item :: g rest)
    (plain : item.isBinary = false) :
    (c.await g).read config (hub.retell f) key = retell f g (c.read config hub key) := by
  have told : (Event.connection c.id (.consumed item)).isBinary = false := by
    cases item <;> first | rfl | cases plain
  have noted := note_retell faithful g c hub told
  have waits : (c.await g).transport.inbound = item :: g rest :=
    (congrArg g inbound).trans first
  cases phase : c.phase with
  | handshake deadline =>
    have phase' : (c.await g).phase = .handshake deadline := phase
    rw [read_of_handshake phase' waits, read_of_handshake phase inbound, noted]
    exact readName_retell faithful g config (c.reading rest) _ key item
  | active session =>
    have phase' : (c.await g).phase = .active session := phase
    rw [read_of_active phase' waits, read_of_active phase inbound, noted]
    exact readLine_retell faithful g config (c.reading rest) _ key session item
  | _ =>
    have phase' : (c.await g).phase = c.phase := rfl
    simp only [read, waits, inbound, phase', phase]
    rfl

theorem take_retell (session : Session) :
    (c.await g).take config (hub.retell f) key session =
      retell f g (c.take config hub key session) := by
  unfold take
  rw [Hub.take?_retell]
  cases hub.take? key with
  | none => exact leave_retell faithful g config c hub key _
  | some taken =>
    have noted := note_retell faithful g c taken.2 (e := .taken taken.1) rfl
    dsimp only [Option.map_some]
    rw [noted]
    rfl

theorem handleTick_retell (session : Session) :
    (c.await g).handleTick config (hub.retell f) key session =
      retell f g (c.handleTick config hub key session) := by
  have now : (hub.retell f).now = hub.now := rfl
  unfold handleTick
  dsimp only
  rw [now]
  split
  · exact leave_retell faithful g config c hub key _
  · rfl

theorem attemptWrite_retell (session : Session) (write : Write) :
    (c.await g).attemptWrite config (hub.retell f) key session write =
      retell f g (c.attemptWrite config hub key session write) := by
  have asked : (if write.begun then hub.retell f
      else (c.await g).note (hub.retell f) (.writeBegun write.item)) =
        (if write.begun then hub else c.note hub (.writeBegun write.item)).retell f := by
    split
    · rfl
    · exact note_retell faithful g c hub rfl
  have same : (c.await g).transport.mode write.item = c.transport.mode write.item := by
    cases write.item <;> rfl
  unfold attemptWrite
  dsimp only
  rw [asked, same]
  cases c.transport.mode write.item with
  | ok =>
    dsimp only
    rw [note_retell faithful g c _ rfl]
    rfl
  | fails fault =>
    dsimp only
    rw [note_retell faithful g c _ rfl]
    exact leave_retell faithful g config c _ key _
  | hangs => rfl

theorem attemptClose_retell (result : Option ConnectionFault) (begun : Bool) (deadline : Nat) :
    (c.await g).attemptClose (hub.retell f) result begun deadline =
      retell f g (c.attemptClose hub result begun deadline) := by
  have asked : (if begun then hub.retell f
      else (c.await g).note (hub.retell f) .closeBegun) =
        (if begun then hub else c.note hub .closeBegun).retell f := by
    split
    · rfl
    · exact note_retell faithful g c hub rfl
  have same : (c.await g).transport.closing = c.transport.closing := rfl
  unfold attemptClose
  dsimp only
  rw [asked, same]
  cases c.transport.closing with
  | ok =>
    dsimp only
    rw [note_retell faithful g c _ rfl]
    exact conclude_retell faithful g c _ _
  | fails fault =>
    dsimp only
    rw [note_retell faithful g c _ rfl]
    exact conclude_retell faithful g c _ _
  | hangs => rfl

theorem perform_retell {b : Branch}
    (legible : b = .read → ∃ item rest, c.transport.inbound = item :: rest ∧
      g (item :: rest) = item :: g rest ∧ item.isBinary = false) :
    (c.await g).perform config (hub.retell f) key b =
      retell f g (c.perform config hub key b) := by
  have same : (c.await g).phase = c.phase := rfl
  have noted {e : ConnectionEvent} (told : (Event.connection c.id e).isBinary = false) :
      (c.await g).note (hub.retell f) e = (c.note hub e).retell f :=
    note_retell faithful g c hub told
  cases b with
  | start =>
    cases phase : c.phase <;> simp only [perform, same, phase]
    case connecting =>
      have began : (c.await g).note (hub.retell f) (.began (c.await g).peer) =
          (c.note hub (.began c.peer)).retell f := noted rfl
      rw [began]
      exact move_retell faithful g c _ _
    all_goals rfl
  | read =>
    obtain ⟨item, rest, inbound, first, plain⟩ := legible rfl
    exact read_retell faithful g config c hub key inbound first plain
  | handshakeDeadline =>
    cases phase : c.phase <;> simp only [perform, same, phase]
    case handshake =>
      exact wrapUp_retell faithful g config c
        { hub with meters := hub.meters.increase .handshakeTimeouts 1 } key _
    all_goals rfl
  | take =>
    cases phase : c.phase <;> simp only [perform, same, phase]
    case active => exact take_retell faithful g config c hub key _
    all_goals rfl
  | tick =>
    cases phase : c.phase <;> simp only [perform, same, phase]
    case active => exact handleTick_retell faithful g config c hub key _
    all_goals rfl
  | shutdown =>
    cases phase : c.phase <;> simp only [perform, same, phase]
    case handshake =>
      rw [noted rfl]
      exact wrapUp_retell faithful g config c _ key _
    case active =>
      rw [noted rfl]
      exact leave_retell faithful g config c _ key _
    case writing =>
      rw [noted rfl]
      exact leave_retell faithful g config c _ key _
    all_goals rfl
  | write =>
    cases phase : c.phase <;> simp only [perform, same, phase]
    case writing => exact attemptWrite_retell faithful g config c hub key _ _
    all_goals rfl
  | writeDeadline =>
    cases phase : c.phase <;> simp only [perform, same, phase]
    case writing =>
      rw [noted rfl]
      exact leave_retell faithful g config c _ key _
    all_goals rfl
  | close =>
    cases phase : c.phase <;> simp only [perform, same, phase]
    case closing => exact attemptClose_retell faithful g c hub _ _ _
    all_goals rfl
  | closeDeadline =>
    cases phase : c.phase <;> simp only [perform, same, phase]
    case closing =>
      rw [noted rfl]
      exact conclude_retell faithful g c _ _
    all_goals rfl

end Retell

end Connection

/-- The hub with a history of its own behind it. -/
def Hub.onTop (h : Hub) (past : List Entry) : Hub := { h with journal := h.journal ++ past }

namespace Connection

/-- What a step made of hub and connection, with a history behind it. -/
def onTop (next : Hub × Connection) (past : List Entry) : Hub × Connection :=
  (next.1.onTop past, next.2)

/-- What a step notes comes on top of whatever was noted before. -/
theorem perform_onTop (config : RelayConfig) (c : Connection) (hub : Hub) (past : List Entry)
    (key : QueueKey) {b : Branch} (readless : b ≠ .read) :
    c.perform config (hub.onTop past) key b = onTop (c.perform config hub key b) past := by
  have faithful : Hub.Faithful fun journal => journal ++ past := fun _ _ _ => rfl
  exact perform_retell faithful (fun items => items) config c hub key fun same => absurd same readless

end Connection

end ChatRelay
