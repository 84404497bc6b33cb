import ChatRelay.Proofs.Connection.Keepalive

/-!
# Where what a task waits for comes from

A task sets the deadline of its handshake when that begins, and the deadline of a write when it takes
up what it writes. When it heard its client last it notes with each sign that it reads, and first
when it becomes active.
-/

namespace ChatRelay

/-- A length of time has passed since its start. A deadline that no instant can express is put far
into the future instead. -/
def Clock.HasPassed (start length now : Nat) : Prop :=
  deadline start length ≤ now ∧ (start + length ≤ last → start + length ≤ now)

theorem Clock.hasPassed_of_le {start length now : Nat} (reached : deadline start length ≤ now) :
    HasPassed start length now := by
  refine ⟨reached, fun readable => ?_⟩
  rwa [deadline, after?, if_pos readable] at reached

def Phase.session? : Phase → Option Session
  | .active session => some session
  | .writing session _ => some session
  | _ => none

namespace Connection

section Steps

variable {config : RelayConfig} {s : Surroundings} {c : Connection} {hub : Hub} {key : QueueKey}
  {b : Branch} {next : Hub × Connection}

/-- A task that is in its handshake was in it before, or has just begun it. -/
theorem Transition.handshaking (h : Transition config s c hub key b next) {deadline : Nat}
    (phase : next.2.phase = .handshake deadline) :
    c.phase = .handshake deadline ∨ b = .start ∧ c.phase = .connecting ∧
      deadline = Clock.deadline hub.now config.handshakeTimeout := by
  cases h with
  | start before => exact Or.inr ⟨rfl, before, (Phase.handshake.inj phase).symm⟩
  | ignore => exact Or.inl phase
  | drop => exact Or.inl phase
  | _ => cases phase

/-- A task that writes something was about it before, or has just taken it up. -/
theorem Transition.taking (h : Transition config s c hub key b next) {session : Session}
    {write : Write} (phase : next.2.phase = .writing session write) :
    (∃ before, c.phase = .writing session before ∧ before.item = write.item ∧
        before.deadline = write.deadline) ∨
      (∃ session, c.phase = .active session) ∧
        write.deadline = Clock.deadline hub.now config.writeTimeout := by
  cases h with
  | @take session' text hub' active taken =>
    have now : hub'.now = hub.now := ((own_noteAll c hub key []).take taken).now
    obtain ⟨-, rfl⟩ := Phase.writing.inj phase
    refine Or.inr ⟨⟨_, active⟩, ?_⟩
    rw [← now]
    rfl
  | ping active =>
    obtain ⟨-, rfl⟩ := Phase.writing.inj phase
    exact Or.inr ⟨⟨_, active⟩, rfl⟩
  | hang before =>
    obtain ⟨rfl, rfl⟩ := Phase.writing.inj phase
    exact Or.inl ⟨_, before, rfl, rfl⟩
  | ignore before => exact Or.inl ⟨write, phase, rfl, rfl⟩
  | drop before => exact Or.inl ⟨write, phase, rfl, rfl⟩
  | _ => cases phase

/-- What a task remembers of its client is of now, or is what it remembered and no sign is read. -/
theorem Transition.lastSeen (h : Transition config s c hub key b next) {session' : Session}
    (after : next.2.phase.session? = some session') {told : List Event}
    (story : next.1.story = hub.story ++ told) :
    session'.lastSeen = hub.now ∨ told.any Event.isHearing = false ∧
      ∃ session, c.phase.session? = some session ∧ session'.lastSeen = session.lastSeen := by
  have unheard : ∀ {session : Session} {events : List Event}, c.phase.session? = some session →
      session'.lastSeen = session.lastSeen → next.1.story = hub.story ++ events →
      events.any Event.isHearing = false →
      session'.lastSeen = hub.now ∨ told.any Event.isHearing = false ∧
        ∃ session, c.phase.session? = some session ∧ session'.lastSeen = session.lastSeen := by
    intro session events before same known silent
    obtain rfl := List.append_cancel_left (story.symm.trans known)
    exact Or.inr ⟨silent, session, before, same⟩
  cases h with
  | enter phase inbound small registered =>
    obtain rfl := Option.some.inj after
    exact Or.inl ((own_noteAll c hub key _).register registered).now
  | line =>
    obtain rfl := Option.some.inj after
    exact Or.inl rfl
  | sign =>
    obtain rfl := Option.some.inj after
    exact Or.inl rfl
  | drop phase inbound => exact unheard after rfl (noteAll_story c hub [.consumed _]) rfl
  | @take session text hub' phase taken =>
    have before : c.phase.session? = some session := by rw [phase]; rfl
    have noted := ((own_noteAll c hub key []).take taken).note (.taken text)
    obtain rfl := Option.some.inj after
    exact unheard before rfl noted.story rfl
  | @ping session phase =>
    have before : c.phase.session? = some session := by rw [phase]; rfl
    obtain rfl := Option.some.inj after
    exact unheard before rfl (List.append_nil _).symm rfl
  | @written session write phase =>
    have before : c.phase.session? = some session := by rw [phase]; rfl
    obtain rfl := Option.some.inj after
    refine unheard before rfl (noteAll_story c hub _) ?_
    rw [List.map_append, List.any_append, write.announcement_unheard]
    rfl
  | @hang session write phase =>
    have before : c.phase.session? = some session := by rw [phase]; rfl
    obtain rfl := Option.some.inj after
    exact unheard before rfl (noteAll_story c hub _) (write.announcement_unheard _)
  | ignore phase =>
    rw [reading_phase, phase] at after
    cases after
  | _ => cases after

end Steps

end Connection

end ChatRelay
