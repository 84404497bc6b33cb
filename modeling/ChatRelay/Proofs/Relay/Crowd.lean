import ChatRelay.Proofs.Broadcast.Interleaved
import ChatRelay.Proofs.Relay.Membership

/-!
# The relay with broadcasts under way

In a run of the relay a broadcast is one step. In a crowd it is taken apart into its snapshot, its
offers and its removals, and between two of these anybody can come in: other tasks, other
broadcasts, and whoever uses the relay from outside. Only the task that sends the line does nothing
else meanwhile. A run of the relay is one of a crowd in which nobody comes in between.

A task leaves the registry and lets go of its queue in one step. To others who come in between the
two it looks as if its identity had been unregistered from outside.
-/

namespace ChatRelay

structure Speech where
  /-- The connection whose task sends the line; none if the broadcast comes from outside. -/
  speaker : Option Nat
  snapshot : List Member
  round : Round
  /-- Those that could not take the text and are not removed yet. -/
  refused : List Member := []

namespace Speech

def start (h : Hub) (speaker : Option Nat) (message : Message) : Speech :=
  let snapshot := h.registry.members
  let recipients := Hub.recipients snapshot message.sender
  -- Nobody asks here which of its broadcasts it is.
  { speaker, snapshot, round := { message, number := 0, progress := .offering recipients } }

/-- The broadcast still has its snapshot, and a handle of the queue in it. -/
def holds (p : Speech) (key : QueueKey) : Bool :=
  match p.round.progress with
  | .offering _ => p.snapshot.any fun m => m.queue == key
  | .removing _ => false

/-- Who is still to be removed after the next step. -/
def refusedNext (p : Speech) (h : Hub) : List Member :=
  match p.round.progress with
  | .offering (m :: _) =>
    if (h.deliver m (h.rendered p.round.message)).isOk then p.refused else p.refused ++ [m]
  | .offering [] => p.refused
  | .removing _ => p.refused.tail

/-- The next step of a broadcast, as every sender takes it. After the last one there is no
broadcast any more. -/
def advance (p : Speech) (h : Hub) : Hub × Option Speech :=
  let sender := p.round.message.sender
  let next := ({ hub := h } : Senders).advance sender p.round
  (next.hub, (next.rounds sender).map fun round => { p with round, refused := p.refusedNext h })

section Advance

variable {p : Speech} (h : Hub)

theorem advance_offer {m : Member} {rest : List Member}
    (progress : p.round.progress = .offering (m :: rest)) :
    let done := h.deliverTo p.round.message.sender (h.rendered p.round.message) p.round.report m
    p.advance h = (done.1, some { p with
      round := { p.round with report := done.2, progress := .offering rest }
      refused := if h.hasRoomFor m then p.refused else p.refused ++ [m] }) := by
  simp [advance, Senders.advance, Senders.offerTo, Senders.setRound, refusedNext, progress,
    Hub.deliver_isOk]

theorem advance_drop (progress : p.round.progress = .offering []) :
    p.advance h = (h, some { p with
      round := { p.round with progress := .removing p.round.report.failed } }) := by
  simp [advance, Senders.advance, Senders.setRound, refusedNext, progress]

theorem advance_remove {id : ConnectionId} {rest : List ConnectionId}
    (progress : p.round.progress = .removing (id :: rest)) :
    p.advance h = ((h.unregister id).2, some { p with
      round := { p.round with progress := .removing rest }, refused := p.refused.tail }) := by
  simp [advance, Senders.advance, Senders.setRound, refusedNext, progress]

theorem advance_finish (progress : p.round.progress = .removing []) :
    p.advance h = (h.account p.round.message p.round.report, none) := by
  simp [advance, Senders.advance, Senders.setRound, progress]

end Advance

end Speech

namespace Relay

/-- The line that a task reads next, and the relay once it is read and not sent yet. -/
def hear? (r : Relay) (key : Nat) : Option (Relay × Message) :=
  match r.connections[key]? with
  | none => none
  | some c => match c.phase, c.transport.inbound with
    | .active session, .text text :: rest =>
      let hub := c.noteAll r.hub [.consumed (.text text), .received text.utf8ByteSize]
      let seen := { c.reading rest with phase := .active { session with lastSeen := r.hub.now } }
      some (r.update key hub seen, ⟨c.id, session.name, text⟩)
    | _, _ => none

/-- The broadcast that an action begins with: the relay before its snapshot, whose it is, and what
it says. -/
def opening? (r : Relay) : Action → Option (Relay × Option Nat × Message)
  | .broadcast message => some (r, none, message)
  | .step key .read => (r.hear? key).map fun heard => (heard.1, some key, heard.2)
  | _ => none

end Relay

/-- The relay and the broadcasts under way, in the order in which they began. -/
structure Crowd where
  relay : Relay
  speeches : List Speech := []

namespace Crowd

inductive Action where
  /-- Something happens to the relay. A broadcast only begins with it. -/
  | act (a : Relay.Action)
  /-- The broadcast at a place takes its next step. -/
  | proceed (place : Nat)

def isSpeaking (s : Crowd) (key : Nat) : Bool := s.speeches.any fun p => p.speaker == some key

def holds (s : Crowd) (key : QueueKey) : Bool := s.speeches.any fun p => p.holds key

/-- A task that sends a line does nothing else, and none comes to the end of a queue that a snapshot
keeps open. -/
def permits (s : Crowd) : Relay.Action → Bool
  | .abort key => !s.isSpeaking key
  | .step key .take =>
    !s.isSpeaking key && ((s.relay.surroundings key).hasPending || !s.holds key)
  | .step key _ => !s.isSpeaking key
  | _ => true

def speak (s : Crowd) (speaker : Option Nat) (message : Message) : Crowd :=
  { s with speeches := s.speeches ++ [.start s.relay.hub speaker message] }

def proceed (s : Crowd) (place : Nat) : Crowd :=
  match s.speeches[place]? with
  | none => s
  | some p => match p.advance s.relay.hub with
    | (hub, some next) =>
      { relay := { s.relay with hub }, speeches := s.speeches.set place next }
    | (hub, none) => { relay := { s.relay with hub }, speeches := s.speeches.eraseIdx place }

/-- A step that nobody can take changes nothing. -/
def act (s : Crowd) : Action → Crowd
  | .act a =>
    if s.permits a then
      match s.relay.opening? a with
      | some (relay, speaker, message) => { s with relay }.speak speaker message
      | none => { s with relay := s.relay.act a }
    else s
  | .proceed place => s.proceed place

def run (config : RelayConfig) (actions : List Action) : Crowd :=
  actions.foldl act { relay := .ofConfig config }

theorem run_append (config : RelayConfig) (actions : List Action) (a : Action) :
    run config (actions ++ [a]) = (run config actions).act a := by
  simp [run]

theorem proceed_relay {s : Crowd} {place : Nat} {p : Speech}
    (there : s.speeches[place]? = some p) :
    (s.proceed place).relay = { s.relay with hub := (p.advance s.relay.hub).1 } := by
  cases step : p.advance s.relay.hub with
  | mk hub next => cases next <;> simp [proceed, there, step]

/-- What each action makes of the crowd: nothing if nobody can take it; otherwise the relay moves on,
a broadcast begins, or one of those under way takes its next step. -/
inductive Move (s : Crowd) : Action → Crowd → Prop where
  | stay {a} : Move s a s
  | happen {a} (silent : s.relay.opening? a = none) :
      Move s (.act a) { s with relay := s.relay.act a }
  | speak {a relay speaker message}
      (opens : s.relay.opening? a = some (relay, speaker, message)) :
      Move s (.act a) ({ s with relay }.speak speaker message)
  | proceed {place p s'} (there : s.speeches[place]? = some p)
      (relay : s'.relay = { s.relay with hub := (p.advance s.relay.hub).1 })
      (speeches : ∀ q ∈ s'.speeches, q ∈ s.speeches ∨ (p.advance s.relay.hub).2 = some q) :
      Move s (.proceed place) s'

theorem act_move (s : Crowd) (a : Action) : Move s a (s.act a) := by
  cases a with
  | act a =>
    simp only [act]
    split
    · split
      · rename_i opens
        exact .speak opens
      · rename_i silent
        exact .happen silent
    · exact .stay
  | proceed place =>
    cases there : s.speeches[place]? with
    | none =>
      have same : s.act (.proceed place) = s := by simp [act, proceed, there]
      rw [same]
      exact .stay
    | some p =>
      refine .proceed there (proceed_relay there) ?_
      cases step : p.advance s.relay.hub with
      | mk hub next =>
        intro q hq
        cases next with
        | none =>
          simp only [act, proceed, there, step] at hq
          exact Or.inl (List.mem_of_mem_eraseIdx hq)
        | some next =>
          simp only [act, proceed, there, step] at hq
          exact (List.mem_or_eq_of_mem_set hq).imp_right (congrArg some ·.symm)

end Crowd

namespace Relay

section Opening

variable {r r' : Relay} {key : Nat} {a : Action} {speaker : Option Nat} {message : Message}

theorem hear?_eq_some (heard : r.hear? key = some (r', message)) :
    ∃ c session text rest, r.connections[key]? = some c ∧ c.phase = .active session ∧
      c.transport.inbound = .text text :: rest ∧
      r' = r.update key (c.noteAll r.hub [.consumed (.text text), .received text.utf8ByteSize])
        { c.reading rest with phase := .active { session with lastSeen := r.hub.now } } ∧
      message = ⟨c.id, session.name, text⟩ := by
  cases here : r.connections[key]? with
  | none => simp [hear?, here] at heard
  | some c =>
    simp only [hear?, here] at heard
    split at heard
    · rename_i session text rest phase inbound
      simp only [Option.some.injEq, Prod.mk.injEq] at heard
      exact ⟨c, session, text, rest, rfl, phase, inbound, heard.1.symm, heard.2.symm⟩
    · cases heard

theorem hear?_of_line {c : Connection} (here : r.connections[key]? = some c) {session : Session}
    (phase : c.phase = .active session) {text : String} {rest : List Inbound}
    (inbound : c.transport.inbound = .text text :: rest) : r.hear? key ≠ none := by
  simp [hear?, here, phase, inbound]

/-- Before its snapshot a broadcast from outside has changed nothing, and a task has read the line:
it is as active as it was, and no registration has changed. -/
theorem opening_cases (opens : r.opening? a = some (r', speaker, message)) :
    r' = r ∨ ∃ key c next session, r.connections[key]? = some c ∧
      r' = r.update key next.1 next.2 ∧ Connection.Outline c r.hub key next ∧
      next.1.registry = r.hub.registry ∧ next.2.phase = .active session := by
  unfold opening? at opens
  split at opens
  · simp only [Option.some.injEq, Prod.mk.injEq] at opens
    exact Or.inl opens.1.symm
  · rename_i key
    obtain ⟨⟨heard, line⟩, heard', same⟩ := Option.map_eq_some_iff.mp opens
    simp only [Prod.mk.injEq] at same
    obtain ⟨rfl, -, rfl⟩ := same
    obtain ⟨c, session, text, rest, here, phase, -, rfl, -⟩ := hear?_eq_some heard'
    have own := Connection.own_noteAll c r.hub key
      [.consumed (.text text), .received text.utf8ByteSize]
    exact Or.inr ⟨key, c, (_, _), _, here, rfl, .stay rfl own (by rw [phase]; rfl) rfl, rfl, rfl⟩
  · cases opens

theorem opening_frame (opens : r.opening? a = some (r', speaker, message)) :
    r'.hub.registry = r.hub.registry ∧ r'.kept = r.kept ∧
      r'.connections.size = r.connections.size := by
  rcases opening_cases opens with rfl | ⟨key, c, next, session, -, rfl, -, registry, -⟩
  · exact ⟨rfl, rfl, rfl⟩
  · exact ⟨by rw [update_hub, registry], by simp, by simp⟩

theorem Sound.opening (h : r.Sound) (opens : r.opening? a = some (r', speaker, message)) :
    r'.Sound := by
  rcases opening_cases opens with rfl | ⟨key, c, next, session, here, rfl, outline, -, -⟩
  · exact h
  · exact h.update here outline

theorem update_withHub (r : Relay) (key : Nat) (hub hub' : Hub) (c : Connection) :
    { r.update key hub c with hub := hub' } = r.update key hub' c := by
  unfold update
  split <;> rfl

/-- To read a line is to begin a broadcast and to go through with it at once. -/
theorem act_of_opening (opens : r.opening? a = some (r', speaker, message)) :
    r.act a = { r' with hub := (r'.hub.broadcast message).1 } := by
  unfold opening? at opens
  split at opens
  · simp only [Option.some.injEq, Prod.mk.injEq] at opens
    obtain ⟨rfl, -, rfl⟩ := opens
    rfl
  · rename_i key
    obtain ⟨⟨heard, line⟩, heard', same⟩ := Option.map_eq_some_iff.mp opens
    simp only [Prod.mk.injEq] at same
    obtain ⟨rfl, -, rfl⟩ := same
    obtain ⟨c, session, text, rest, here, phase, inbound, rfl, rfl⟩ := hear?_eq_some heard'
    have ready : r.ready key .read = true := by
      simp [ready, Connection.ready, here, phase, inbound]
    rw [act, if_pos ready, update_withHub, update_hub]
    simp only [perform, here, Connection.perform, Connection.read_of_active phase inbound]
    rfl
  · cases opens

end Opening

end Relay

namespace Crowd

/-- Some sequence of actions leads from one crowd to the other. -/
def Leads (s s' : Crowd) : Prop := ∃ actions : List Action, actions.foldl act s = s'

theorem Leads.cons {s s' : Crowd} (a : Action) (rest : (s.act a).Leads s') : s.Leads s' := by
  obtain ⟨actions, done⟩ := rest
  exact ⟨a :: actions, done⟩

theorem Leads.trans {s s' s'' : Crowd} (first : s.Leads s') (second : s'.Leads s'') :
    s.Leads s'' := by
  obtain ⟨actions, rfl⟩ := first
  obtain ⟨more, rfl⟩ := second
  exact ⟨actions ++ more, List.foldl_append⟩

/-- The crowd in which one broadcast is under way. -/
def lone (r : Relay) (hub : Hub) (p : Speech) : Crowd :=
  { relay := { r with hub }, speeches := [p] }

section Alone

variable (r : Relay) {p : Speech}

theorem act_lone (hub : Hub) : (lone r hub p).act (.proceed 0) =
    { relay := { r with hub := (p.advance hub).1 }, speeches := (p.advance hub).2.toList } := by
  cases step : p.advance hub with
  | mk hub' next =>
    cases next with
    | none => simp [lone, act, proceed, step]
    | some next => simp [lone, act, proceed, step]

/-- All offers are made, one after the other. -/
theorem lone_offers {rest : List Member} (hub : Hub)
    (progress : p.round.progress = .offering rest) :
    let done := hub.deliverAll p.round.message.sender (hub.rendered p.round.message)
      p.round.report rest
    ∃ refused, (lone r hub p).Leads (lone r done.1 { p with
      round := { p.round with report := done.2, progress := .offering [] }, refused }) := by
  induction rest generalizing hub p with
  | nil =>
    refine ⟨p.refused, [], ?_⟩
    rw [Hub.deliverAll, ← progress]
    rfl
  | cons m rest ih =>
    have step := Speech.advance_offer hub progress
    have next := act_lone r (p := p) hub
    rw [step] at next
    have same : (hub.deliverTo p.round.message.sender (hub.rendered p.round.message)
        p.round.report m).1.rendered p.round.message = hub.rendered p.round.message :=
      Hub.rendered_of_options (Hub.deliverTo_frame _ _ _ _ _).2.1 _
    obtain ⟨refused, leads⟩ := @ih { p with
      round := { p.round with
        report := (hub.deliverTo p.round.message.sender (hub.rendered p.round.message)
          p.round.report m).2
        progress := .offering rest }
      refused := if hub.hasRoomFor m then p.refused else p.refused ++ [m] }
      (hub.deliverTo p.round.message.sender (hub.rendered p.round.message) p.round.report m).1 rfl
    dsimp only at leads
    rw [same] at leads
    refine ⟨refused, .cons (.proceed 0) ?_⟩
    rw [next]
    exact leads

/-- All removals are made, one after the other. -/
theorem lone_removals {rest : List ConnectionId} (hub : Hub)
    (progress : p.round.progress = .removing rest) :
    ∃ refused, (lone r hub p).Leads (lone r (hub.unregisterAll rest) { p with
      round := { p.round with progress := .removing [] }, refused }) := by
  induction rest generalizing hub p with
  | nil =>
    refine ⟨p.refused, [], ?_⟩
    rw [← progress]
    rfl
  | cons id rest ih =>
    have step := Speech.advance_remove hub progress
    have next := act_lone r (p := p) hub
    rw [step] at next
    obtain ⟨refused, leads⟩ := @ih { p with
      round := { p.round with progress := .removing rest }, refused := p.refused.tail }
      (hub.unregister id).2 rfl
    refine ⟨refused, .cons (.proceed 0) ?_⟩
    rw [next]
    exact leads

theorem lone_broadcast (speaker : Option Nat) (message : Message) :
    (lone r r.hub (.start r.hub speaker message)).Leads
      { relay := { r with hub := (r.hub.broadcast message).1 } } := by
  obtain ⟨refused, offers⟩ := @lone_offers r (.start r.hub speaker message) _ r.hub rfl
  refine offers.trans (.cons (.proceed 0) ?_)
  rw [act_lone, Speech.advance_drop _ rfl]
  let report := (r.hub.fanOut message).2
  obtain ⟨refused, removals⟩ := @lone_removals r ⟨speaker, r.hub.registry.members,
    ⟨message, 0, report, .removing report.failed⟩, refused⟩ _ (r.hub.fanOut message).1 rfl
  refine removals.trans (.cons (.proceed 0) ?_)
  rw [act_lone, Speech.advance_finish _ rfl]
  exact ⟨[], rfl⟩

end Alone

/-- Every run of the relay is one of a crowd. -/
theorem relay_run (config : RelayConfig) (actions : List Relay.Action) :
    ∃ steps, run config steps = { relay := Relay.run config actions } := by
  induction actions using List.reverseRecOn with
  | nil => exact ⟨[], rfl⟩
  | append_singleton actions a ih =>
    obtain ⟨steps, done⟩ := ih
    have leads : Leads { relay := Relay.run config actions }
        { relay := Relay.run config (actions ++ [a]) } := by
      have permitted : permits { relay := Relay.run config actions } a = true := by
        unfold permits
        split <;> simp [isSpeaking, holds]
      rw [Relay.run_append]
      refine .cons (.act a) ?_
      simp only [act, permitted, if_true]
      cases opens : (Relay.run config actions).opening? a with
      | none => exact ⟨[], rfl⟩
      | some opening =>
        obtain ⟨r', speaker, message⟩ := opening
        rw [Relay.act_of_opening opens]
        exact lone_broadcast r' speaker message
    obtain ⟨more, rest⟩ := leads
    exact ⟨steps ++ more, by rw [run, List.foldl_append, ← run, done, rest]⟩

end Crowd

end ChatRelay
