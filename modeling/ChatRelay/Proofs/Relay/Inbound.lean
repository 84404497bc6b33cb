import ChatRelay.Proofs.Connection.Intake
import ChatRelay.Proofs.Relay.Chronicle
import ChatRelay.Proofs.Relay.Reckoning

/-!
# What becomes of what arrives

Every inbound item is read once, in the order of arrival, until the task of its connection ends. The
first text names the client, and each text behind it is sent once, under this name and the identity
of the connection, provided that the registration under the name succeeded.
-/

namespace ChatRelay

namespace Relay

def Action.target? : Action → Option Nat
  | .arrive key _ => some key
  | .hangUp key => some key
  | .setModes key .. => some key
  | .abort key => some key
  | .step key _ => some key
  | _ => none

theorem Action.actor_of_target {a : Action} {key : Nat} (h : a.actor? = some key) :
    a.target? = some key := by
  cases a <;> simp_all [actor?, target?]

/-- What arrives for a connection in a moment: what is there when it begins, an item that somebody
reads, or the first end of the stream. -/
def Moment.arrived (key : Nat) (s : Moment) : List Inbound :=
  match s.action with
  | .connect _ transport =>
    if key = s.before.connections.size then transport.inbound else []
  | .completeUpgrade _ transport =>
    if s.before.upgrades ≠ 0 ∧ key = s.before.connections.size then transport.inbound else []
  | .arrive k item => if k = key ∧ (s.before.arrive k item).1 then [item] else []
  | .hangUp k => if k = key ∧ (s.before.hangUp k).1 then [.streamEnd] else []
  | _ => []

/-- All that has arrived for a connection, read or not. -/
def arrived (key : Nat) (history : List Moment) : List Inbound :=
  history.flatMap (Moment.arrived key)

def consumed (key : Nat) (history : List Moment) : List Inbound := itemsOf (own key history)

def sent (key : Nat) (history : List Moment) : List Message := messagesOf (own key history)

def Admitted (key : Nat) (history : List Moment) : Prop := ∃ s ∈ history, s.Admits key

section Append

variable (key : Nat) (history : List Moment) (s : Moment)

theorem arrived_append : arrived key (history ++ [s]) = arrived key history ++ s.arrived key := by
  simp [arrived]

theorem own_append : own key (history ++ [s]) = own key history ++ s.own key := by
  simp [own]

theorem admitted_append : Admitted key (history ++ [s]) ↔ Admitted key history ∨ s.Admits key := by
  simp [Admitted, or_and_right, exists_or]

end Append

section Connections

variable {r : Relay} {a : Action} {key : Nat}

/-- What is stored of a connection is what a step made of it, without its slot if it is over. -/
theorem update_connections (r : Relay) (key : Nat) (hub : Hub) (c : Connection) :
    (r.update key hub c).connections = r.connections.setIfInBounds key
      { c with holdsSlot := c.holdsSlot && !c.phase.isOver } := by
  unfold update
  split
  · rename_i ended
    rw [(Bool.and_eq_true_iff.mp ended).1]
    simp
  · rename_i going
    have same : (c.holdsSlot && !c.phase.isOver) = c.holdsSlot := by
      cases ended : c.phase.isOver <;> simp_all
    rw [same]

theorem update_here {c : Connection} (here : r.connections[key]? = some c) (hub : Hub)
    (c' : Connection) : (r.update key hub c').connections[key]? =
      some { c' with holdsSlot := c'.holdsSlot && !c'.phase.isOver } := by
  have inBounds := (Array.getElem?_eq_some_iff.mp here).1
  simp [update_connections, inBounds]

theorem update_elsewhere {k : Nat} (apart : k ≠ key) (hub : Hub) (c : Connection) :
    (r.update key hub c).connections[k]? = r.connections[k]? := by
  simp [update_connections, Ne.symm apart]

theorem modifyTransport_here {c : Connection} (here : r.connections[key]? = some c)
    (f : Transport → Transport) : (r.modifyTransport key f).connections[key]? =
      some { c with transport := f c.transport } := by
  simp [modifyTransport, Array.getElem?_modify, here]

theorem modifyTransport_elsewhere {k : Nat} (apart : k ≠ key) (f : Transport → Transport) :
    (r.modifyTransport key f).connections[k]? = r.connections[k]? :=
  Connection.modify_elsewhere _ apart

theorem modifyTransport_absent (absent : r.connections[key]? = none) (f : Transport → Transport) :
    r.modifyTransport key f = r := by
  rw [modifyTransport, Connection.modify_of_none absent]

/-- An action that is not addressed to a connection leaves it as it is, unless it begins it. -/
theorem Effect.connection_other {r' : Relay} (effect : Effect r a r')
    (other : a.target? ≠ some key) (old : r.begins a = false) :
    r'.connections[key]? = r.connections[key]? := by
  cases effect with
  | connect => cases old
  | completeUpgrade waiting => simp [begins, waiting] at old
  | arrive => exact modifyTransport_elsewhere (fun same => other (by rw [same]; rfl)) _
  | hangUp => exact modifyTransport_elsewhere (fun same => other (by rw [same]; rfl)) _
  | setModes => exact modifyTransport_elsewhere (fun same => other (by rw [same]; rfl)) _
  | abort => exact update_elsewhere (fun same => other (by rw [same]; rfl)) _ _
  | step => exact update_elsewhere (fun same => other (by rw [same]; rfl)) _ _
  | _ => rfl

/-- With the action a connection begins. -/
theorem connection_begun (new : r.begins a = true) : ∃ c : Connection,
    (r.act a).connections = r.connections.push c ∧ c.phase = .connecting ∧
      ∀ key, (Moment.mk r a).arrived key =
        if key = r.connections.size then c.transport.inbound else [] := by
  cases a with
  | connect peer transport => exact ⟨_, rfl, rfl, fun key => rfl⟩
  | completeUpgrade peer transport =>
    have waiting : r.upgrades ≠ 0 := by simpa [begins] using new
    refine ⟨{ id := r.hub.nextId, peer, transport, holdsSlot := true }, ?_, rfl, ?_⟩
    · simp only [act, if_neg waiting]
      rfl
    · simp [Moment.arrived, waiting]
  | _ => cases new

theorem arrived_other (other : a.target? ≠ some key) (old : r.begins a = false) :
    (Moment.mk r a).arrived key = [] := by
  cases a with
  | connect => cases old
  | completeUpgrade => simp_all [begins, Moment.arrived]
  | arrive k item => exact if_neg fun here => other (by rw [here.1]; rfl)
  | hangUp k => exact if_neg fun here => other (by rw [here.1]; rfl)
  | _ => rfl

/-- An act that is addressed to a connection is one of its task, or of none. -/
theorem actor?_eq_none (own : a.target? = some key) (other : a.actor? ≠ some key) :
    a.actor? = none := by
  cases a <;> simp_all [Action.actor?, Action.target?]

/-- What is addressed to a connection and is no act of its task does nothing, or changes the
transport, behind whose items it puts what arrives. -/
theorem act_transport (own : a.target? = some key) (idle : a.actor? = none) :
    r.act a = r ∧ (Moment.mk r a).arrived key = [] ∨
      ∃ c f, r.connections[key]? = some c ∧ r.act a = r.modifyTransport key f ∧
        (f c.transport).inbound = c.transport.inbound ++ (Moment.mk r a).arrived key := by
  cases a with
  | arrive k item =>
    obtain rfl : k = key := by simpa [Action.target?] using own
    cases here : r.connections[k]? with
    | none => exact Or.inl ⟨by simp [act, arrive, here], by simp [Moment.arrived, arrive, here]⟩
    | some c =>
      cases listening : c.isListening with
      | false =>
        exact Or.inl ⟨by simp [act, arrive, here, listening],
          by simp [Moment.arrived, arrive, here, listening]⟩
      | true =>
        exact Or.inr ⟨c, fun t => t.arrive item, rfl, by simp [act, arrive, here, listening],
          by simp [Transport.arrive, Moment.arrived, arrive, here, listening]⟩
  | hangUp k =>
    obtain rfl : k = key := by simpa [Action.target?] using own
    cases here : r.connections[k]? with
    | none => exact Or.inl ⟨by simp [act, hangUp, here], by simp [Moment.arrived, hangUp, here]⟩
    | some c =>
      cases going : c.transport.isOpen with
      | false =>
        exact Or.inl ⟨by simp [act, hangUp, here, going],
          by simp [Moment.arrived, hangUp, here, going]⟩
      | true =>
        exact Or.inr ⟨c, Transport.finish, rfl, by simp [act, hangUp, here, going],
          by simp [Transport.finish, Transport.arrive, Moment.arrived, hangUp, here, going]⟩
  | setModes k writing pinging closing =>
    obtain rfl : k = key := by simpa [Action.target?] using own
    have after : r.act (.setModes k writing pinging closing) =
        r.modifyTransport k fun t => { t with writing, pinging, closing } := rfl
    cases here : r.connections[k]? with
    | none => exact Or.inl ⟨by rw [after, modifyTransport_absent here], rfl⟩
    | some c => exact Or.inr ⟨c, _, rfl, after, (List.append_nil _).symm⟩
  | abort => cases idle
  | step => cases idle
  | _ => cases own

theorem admits_step {c : Connection} (here : r.connections[key]? = some c) (b : Branch) :
    r.Admits (.step key b) key ↔ c.Enrols r.hub key b := by
  simp [Admits, Connection.Enrols, here]

/-- A name that is read was there to be read. -/
theorem ready_of_admits {b : Branch} (h : r.Admits (.step key b) key) : r.ready key b = true := by
  obtain ⟨same, c, deadline, name, rest, registry, here, phase, inbound, -⟩ := h
  obtain rfl : b = .read := by simpa using same
  simp [Relay.ready, here, Connection.ready, phase, inbound]

theorem actor_of_admits (h : r.Admits a key) : a.actor? = some key := by
  rw [h.1]
  rfl

/-- What becomes of a connection in an action: it waits, behind whose items there may be more then,
or its task takes a step or is aborted. -/
inductive Met (r : Relay) (key : Nat) (c : Connection) (a : Action) (c' : Connection) : Prop where
  | waits (silent : (Moment.mk r a).own key = []) (out : ¬ r.Admits a key)
      (phase : c'.phase = c.phase)
      (inbound : c'.transport.inbound = c.transport.inbound ++ (Moment.mk r a).arrived key)
  | acts {b next} (act : a = .step key b)
      (transition : Connection.Transition r.config (r.surroundings key) c r.hub key b next)
      (hub : (r.act a).hub = next.1) (phase : c'.phase = next.2.phase)
      (transport : c'.transport = next.2.transport)
  | dies (act : a = .abort key) (phase : c'.phase = .ended .aborted)
      (told : (Moment.mk r a).own key = [.connection c.id .aborted])
      (transport : c'.transport = c.transport)

/-- What an act of its task adds to the story, the task has told. -/
theorem own_of_story (acts : a.actor? = some key) {told : List Event}
    (story : (r.act a).hub.story = r.hub.story ++ told) : (Moment.mk r a).own key = told := by
  rw [Moment.own, if_pos acts]
  exact Moment.news_eq story

/-- What changes nothing tells nothing. -/
theorem own_of_still (still : r.act a = r) : (Moment.mk r a).own key = [] := by
  rw [Moment.own]
  split
  · exact Moment.news_eq (by rw [Moment.after, still, List.append_nil])
  · rfl

theorem step_met {c : Connection} (here : r.connections[key]? = some c) (b : Branch) :
    ∃ c', (r.act (.step key b)).connections[key]? = some c' ∧ c'.id = c.id ∧
      Met r key c (.step key b) c' := by
  by_cases ready : r.ready key b = true
  · obtain ⟨c₀, next, here₀, transition, done⟩ := perform_of_ready ready
    obtain rfl : c₀ = c := Option.some.inj (here₀.symm.trans here)
    have after : r.act (.step key b) = r.update key next.1 next.2 := by simp [act, ready, done]
    exact ⟨{ next.2 with holdsSlot := next.2.holdsSlot && !next.2.phase.isOver },
      by rw [after, update_here here], transition.outline.frame.1,
      .acts rfl transition (by rw [after, update_hub]) rfl rfl⟩
  · have still : r.act (.step key b) = r := by simp [act, ready]
    exact ⟨c, by rw [still, here], rfl,
      .waits (own_of_still still) (fun admits => ready (ready_of_admits admits)) rfl
        (by simp [Moment.arrived])⟩

theorem abort_met {c : Connection} (here : r.connections[key]? = some c) :
    ∃ c', (r.act (.abort key)).connections[key]? = some c' ∧ c'.id = c.id ∧
      Met r key c (.abort key) c' := by
  have out : ¬ r.Admits (.abort key) key := fun admits => by cases admits.1
  cases gone : c.phase.isOver with
  | true =>
    have still : r.act (.abort key) = r := by simp [act, Relay.abort, here, gone]
    exact ⟨c, by rw [still, here], rfl,
      .waits (own_of_still still) out rfl (by simp [Moment.arrived])⟩
  | false =>
    have after : r.act (.abort key) = r.update key (c.die r.hub key .aborted).1
        (c.die r.hub key .aborted).2 := by simp [act, Relay.abort, here, gone]
    have told : (Moment.mk r (.abort key)).own key = [.connection c.id .aborted] :=
      own_of_story rfl (by rw [after, update_hub, Connection.die_story]; rfl)
    exact ⟨{ (c.die r.hub key .aborted).2 with holdsSlot := false },
      by rw [after, update_here here]; simp [Connection.die, Phase.isOver], rfl,
      .dies rfl rfl told rfl⟩

theorem act_met {c : Connection} (here : r.connections[key]? = some c) (a : Action) :
    ∃ c', (r.act a).connections[key]? = some c' ∧ c'.id = c.id ∧ Met r key c a c' := by
  by_cases actor : a.actor? = some key
  · cases a with
    | step k b =>
      obtain rfl : k = key := by simpa [Action.actor?] using actor
      exact step_met here b
    | abort k =>
      obtain rfl : k = key := by simpa [Action.actor?] using actor
      exact abort_met here
    | _ => cases actor
  have silent : (Moment.mk r a).own key = [] := if_neg actor
  have out : ¬ r.Admits a key := fun admits => actor (actor_of_admits admits)
  by_cases own : a.target? = some key
  · rcases act_transport own (actor?_eq_none own actor) with
      ⟨still, none⟩ | ⟨c₀, f, here₀, after, more⟩
    · exact ⟨c, by rw [still, here], rfl,
        .waits silent out rfl (by rw [none, List.append_nil])⟩
    · obtain rfl : c₀ = c := Option.some.inj (here₀.symm.trans here)
      exact ⟨{ c₀ with transport := f c₀.transport }, by rw [after, modifyTransport_here here],
        rfl, .waits silent out rfl more⟩
  · cases new : r.begins a with
    | false =>
      refine ⟨c, ?_, rfl,
        .waits silent out rfl (by rw [arrived_other own new, List.append_nil])⟩
      rw [(act_effect r a).connection_other own new, here]
    | true =>
      obtain ⟨c₀, pushed, -, there⟩ := connection_begun new
      have before : key ≠ r.connections.size :=
        Nat.ne_of_lt (Array.getElem?_eq_some_iff.mp here).1
      refine ⟨c, by rw [pushed, Array.getElem?_push, if_neg before, here], rfl,
        .waits silent out rfl ?_⟩
      rw [there, if_neg before, List.append_nil]

/-- At a place where no connection is nothing happens, unless a connection begins there. -/
theorem act_absent (absent : r.connections[key]? = none) (a : Action) :
    (Moment.mk r a).own key = [] ∧
      ((r.act a).connections[key]? = none ∧ (Moment.mk r a).arrived key = [] ∨
        ∃ c, (r.act a).connections[key]? = some c ∧ c.phase = .connecting ∧
          c.transport.inbound = (Moment.mk r a).arrived key) := by
  cases new : r.begins a with
  | true =>
    obtain ⟨c, pushed, phase, there⟩ := connection_begun new
    have idle : a.actor? ≠ some key := by cases a <;> simp_all [Action.actor?, begins]
    refine ⟨if_neg idle, ?_⟩
    by_cases last : key = r.connections.size
    · exact Or.inr ⟨c, by simp [pushed, last], phase, by rw [there, if_pos last]⟩
    · exact Or.inl ⟨by rw [pushed, Array.getElem?_push, if_neg last, absent],
        by rw [there, if_neg last]⟩
  | false =>
    by_cases own : a.target? = some key
    · have still : r.act a = r ∧ (Moment.mk r a).arrived key = [] := by
        by_cases actor : a.actor? = some key
        · cases a with
          | step k b =>
            obtain rfl : k = key := by simpa [Action.actor?] using actor
            exact ⟨by simp [act, Relay.ready, absent], rfl⟩
          | abort k =>
            obtain rfl : k = key := by simpa [Action.actor?] using actor
            exact ⟨by simp [act, Relay.abort, absent], rfl⟩
          | _ => cases actor
        · rcases act_transport own (actor?_eq_none own actor) with still | ⟨c, f, here, -⟩
          · exact still
          · rw [absent] at here
            cases here
      exact ⟨own_of_still still.1, Or.inl ⟨by rw [still.1, absent], still.2⟩⟩
    · refine ⟨if_neg fun actor => own (Action.actor_of_target actor), Or.inl ⟨?_, ?_⟩⟩
      · rw [(act_effect r a).connection_other own new, absent]
      · exact arrived_other own new

end Connections

/-- What has arrived for a connection was read or waits, and what was read is entered. -/
def Recorded (connection : Option Connection) (arrived : List Inbound) (told : List Event)
    (admitted : Prop) : Prop :=
  match connection with
  | none => arrived = [] ∧ told = [] ∧ ¬ admitted
  | some c => arrived = itemsOf told ++ c.transport.inbound ∧ Ledger c.id admitted c.phase told

theorem Recorded.act {r : Relay} {key : Nat} {arrived : List Inbound} {told : List Event}
    {admitted : Prop} (h : Recorded r.connections[key]? arrived told admitted) (a : Action) :
    Recorded (r.act a).connections[key]? (arrived ++ (Moment.mk r a).arrived key)
      (told ++ (Moment.mk r a).own key) (admitted ∨ r.Admits a key) := by
  cases here : r.connections[key]? with
  | none =>
    rw [here] at h
    obtain ⟨rfl, rfl, out⟩ := h
    have still_out : ¬ r.Admits a key := by
      rintro ⟨-, c, deadline, name, rest, registry, there, -⟩
      rw [here] at there
      cases there
    obtain ⟨silent, ⟨absent, none⟩ | ⟨c, begun, phase, there⟩⟩ := act_absent here a
    · rw [absent, none, silent]
      exact ⟨rfl, rfl, fun admits => admits.elim out still_out⟩
    · rw [begun, silent, or_iff_left still_out, ← there]
      refine ⟨rfl, ?_⟩
      rw [phase, eq_false out]
      exact ledger_start c.id
  | some c =>
    rw [here] at h
    obtain ⟨waits, ledger⟩ := h
    obtain ⟨c', here', id, met⟩ := act_met here a
    rw [here', waits]
    cases met with
    | waits silent out phase inbound =>
      rw [silent, or_iff_left out, List.append_nil, List.append_assoc, ← inbound]
      refine ⟨rfl, ?_⟩
      rw [id, phase]
      exact ledger
    | @acts b next act transition hub phase transport =>
      subst act
      obtain ⟨more, story, inbound, entered⟩ := transition.intake.ledger transition.rank_le ledger
      have own : (Moment.mk r (.step key b)).own key = more :=
        own_of_story rfl (by rw [hub, story])
      rw [own, admits_step here]
      refine ⟨?_, ?_⟩
      · have none : (Moment.mk r (.step key b)).arrived key = [] := rfl
        rw [none, itemsOf_append, transport, inbound, List.append_nil, List.append_assoc]
      · rw [id, phase]
        exact entered
    | dies act phase own transport =>
      subst act
      have out : ¬ r.Admits (.abort key) key := fun admits => by cases admits.1
      rw [own, or_iff_left out]
      refine ⟨?_, ?_⟩
      · rw [itemsOf_append, transport]
        simp [itemsOf, Event.item?, Moment.arrived]
      · rw [id, phase]
        have most : c.phase.rank ≤ 5 := by cases c.phase <;> simp [Phase.rank]
        exact ledger.keep ⟨rfl, rfl, rfl⟩ most fun name found => by cases found

def Ledgered (r : Relay) (key : Nat) (history : List Moment) : Prop :=
  Recorded r.connections[key]? (arrived key history) (own key history) (Admitted key history)

section Ledgered

variable {r : Relay} {key : Nat} {history : List Moment}

theorem ledgered_of_some {c : Connection} (here : r.connections[key]? = some c) :
    Ledgered r key history ↔ arrived key history = consumed key history ++ c.transport.inbound ∧
      Ledger c.id (Admitted key history) c.phase (own key history) := by
  rw [Ledgered, here]
  rfl

theorem ledgered_of_none (absent : r.connections[key]? = none) :
    Ledgered r key history ↔
      arrived key history = [] ∧ own key history = [] ∧ ¬ Admitted key history := by
  rw [Ledgered, absent]
  rfl

end Ledgered

theorem run_ledgered (config : RelayConfig) (actions : List Action) (key : Nat) :
    Ledgered (run config actions) key (history config actions) := by
  induction actions using List.reverseRecOn with
  | nil => simp [Ledgered, Recorded, run, ofConfig, history, historyFrom, arrived, own, Admitted]
  | append_singleton actions a ih =>
    rw [run_append, history_append, Ledgered, arrived_append, own_append, admitted_append]
    exact Recorded.act ih a

def Titled (r : Relay) : Prop :=
  ∀ m ∈ r.hub.registry.members, ∀ id phase, r.task? m.queue = some (id, phase) →
    phase.name? = some m.name

section Names

variable {r r' : Relay}

theorem Titled.shrink (h : Titled r)
    (members : ∀ m ∈ r'.hub.registry.members, m ∈ r.hub.registry.members)
    (tasks : ∀ key, r'.task? key = r.task? key) : Titled r' := by
  intro m hm id phase here
  rw [tasks] at here
  exact h m (members m hm) id phase here

/-- A task takes a step, or dies. -/
theorem Titled.update (h : Titled r) {key : Nat} {c : Connection}
    (here : r.connections[key]? = some c) {next : Hub × Connection}
    (sound : (r.update key next.1 next.2).Sound)
    (newcomers : ∀ m ∈ next.1.registry.members, m ∈ r.hub.registry.members ∨
      m.queue = key ∧ next.2.phase.name? = some m.name)
    (names : ∀ name, c.phase.name? = some name → next.2.phase.isServing = true →
      next.2.phase.name? = some name) : Titled (r.update key next.1 next.2) := by
  intro m hm id phase there
  obtain ⟨-, serving⟩ := sound.member hm there
  rw [update_hub] at hm
  rw [task?_update next.1 next.2 here] at there
  rcases newcomers m hm with old | ⟨same, named⟩
  · split at there
    · rename_i this
      obtain ⟨rfl, rfl⟩ := Prod.mk.inj (Option.some.inj there)
      exact names m.name (h m old c.id c.phase (by rw [this, task?_of_some here])) serving
    · exact h m old id phase there
  · rw [if_pos same] at there
    obtain ⟨rfl, rfl⟩ := Prod.mk.inj (Option.some.inj there)
    exact named

theorem Titled.change (h : Titled r) (sound : r.Sound) {a : Action} (change : Change r a r') :
    Titled r' := by
  have sound' := sound.change change
  cases change with
  | calm _ calm => exact h.shrink (by rw [calm.registry]; exact fun m hm => hm) calm.tasks
  | @connect a upgrades peer transport slot =>
    intro m hm id phase there
    rw [task?_connect, if_neg (Nat.ne_of_lt (sound.member_id hm).2)] at there
    exact h m hm id phase there
  | step here transition =>
    exact h.update here sound' transition.newcomer transition.intake.title
  | abort here alive =>
    refine h.update here sound' ?_ (fun name _ serving => by cases serving)
    intro m hm
    rw [Connection.die_registry] at hm
    split at hm
    · exact Or.inl (Registry.mem_unregister.mp hm).1
    · exact Or.inl hm
  | unregister =>
    refine h.shrink (fun m hm => ?_) fun key => rfl
    rw [Hub.unregister_registry] at hm
    exact (Registry.mem_unregister.mp hm).1
  | endRegistry => exact h.shrink (by simp [Registry.close]) fun key => rfl
  | broadcast =>
    refine h.shrink (fun m hm => ?_) fun key => rfl
    rw [Hub.broadcast_registry] at hm
    exact (Registry.mem_without.mp hm).1

theorem run_titled (config : RelayConfig) (actions : List Action) :
    Titled (run config actions) := by
  induction actions using List.reverseRecOn with
  | nil => simp [Titled, run, ofConfig]
  | append_singleton actions a ih =>
    rw [run_append]
    exact ih.change (run_sound config actions) (act_change _ a)

end Names

structure Attended (config : RelayConfig) (actions : List Action) (key : Nat) (c : Connection) :
    Prop where
  /-- What was read is the beginning of what has arrived; the rest waits. -/
  arrived : arrived key (history config actions) =
    consumed key (history config actions) ++ c.transport.inbound
  /-- The first text that was read is the client's name, and nothing else is. -/
  named : namesOf (own key (history config actions)) =
    (texts (consumed key (history config actions))).take 1
  registered : ∀ m ∈ (run config actions).hub.registry.members, m.queue = key →
    (texts (consumed key (history config actions))).head? = some m.name
  /-- Each text behind the name is sent once. -/
  sent : Admitted key (history config actions) →
    sent key (history config actions) = speech c.id (consumed key (history config actions))
  silent : ¬ Admitted key (history config actions) → Relay.sent key (history config actions) = []
  /-- Nothing is read behind a fault or the end of the stream. -/
  final : (consumed key (history config actions)).Pairwise fun item _ => item.isEnd = false
  /-- A task that was active and came to the end of the stream has sent all that was before it. -/
  whole : ∀ earlier, earlier <+: actions → (run config earlier).stage? key = some .active →
    .streamEnd ∈ consumed key (history config actions) →
    Relay.sent key (history config actions) =
      speech c.id ((Relay.arrived key (history config actions)).takeWhile (· ≠ .streamEnd))

section Attended

variable {config : RelayConfig} {actions : List Action} {key : Nat} {c : Connection}

/-- Who was ever active was registered. -/
theorem admitted_of_active {earlier : List Action} (within : earlier <+: actions)
    (active : (run config earlier).stage? key = some .active) :
    Admitted key (history config actions) := by
  obtain ⟨more, rfl⟩ := within
  cases there : (run config earlier).connections[key]? with
  | none => simp [stage?, there] at active
  | some c =>
    obtain ⟨-, ledger⟩ := (ledgered_of_some there).mp (run_ledgered config earlier key)
    have named : ∃ name, c.phase.name? = some name := by
      cases phase : c.phase <;> simp_all [stage?, Phase.stage, Phase.name?]
    obtain ⟨name, named⟩ := named
    obtain ⟨s, hs, admits⟩ := (ledger.serving name named).1
    refine ⟨s, ?_, admits⟩
    rw [history_add]
    exact List.mem_append_left _ hs

/-- The items before the end of the stream, if that was read. -/
theorem takeWhile_end {items rest : List Inbound} (ended : .streamEnd ∈ items)
    (final : items.Pairwise fun item _ => item.isEnd = false) :
    ∃ before, items = before ++ [.streamEnd] ∧
      (items ++ rest).takeWhile (· ≠ .streamEnd) = before := by
  obtain ⟨before, after, rfl⟩ := List.append_of_mem ended
  obtain ⟨-, tail, going⟩ := List.pairwise_append.mp final
  have last : after = [] := by
    cases after with
    | nil => rfl
    | cons next more => cases (List.pairwise_cons.mp tail).1 next List.mem_cons_self
  subst last
  refine ⟨before, rfl, ?_⟩
  have all : ∀ item ∈ before, decide (item ≠ .streamEnd) = true := by
    intro item hi
    have goes := going item hi .streamEnd List.mem_cons_self
    rw [decide_eq_true_iff]
    rintro rfl
    cases goes
  rw [List.append_assoc, List.takeWhile_append_of_pos all]
  simp

/-- Whatever has arrived for a connection is used once, or not at all because the task ended. -/
theorem run_attended (here : (run config actions).connections[key]? = some c) :
    Attended config actions key c := by
  obtain ⟨waits, ledger⟩ := (ledgered_of_some here).mp (run_ledgered config actions key)
  constructor
  case arrived => exact waits
  case named => exact ledger.names
  case registered =>
    intro m hm same
    have task := task?_of_some here
    rw [← same] at task
    exact (ledger.serving m.name (run_titled config actions m hm _ _ task)).2
  case sent => exact ledger.sent
  case silent => exact ledger.silent
  case final => exact ledger.final
  case whole =>
    intro earlier within active ended
    obtain ⟨before, split, same⟩ := takeWhile_end ended ledger.final
    have said : Relay.sent key (history config actions) =
        speech c.id (consumed key (history config actions)) :=
      ledger.sent (admitted_of_active within active)
    rw [said, waits, same, split, speech_wordless rfl]

end Attended

/-- Alice says two lines and goes; Bob comes when nobody can be registered any more. -/
def lateComer : List Action :=
  [.connect "a" { inbound := [.lifeSign, .text "alice", .text "hi"] },
    .connect "b" { inbound := [.text "bob", .text "late"] }, .step 0 .start, .step 0 .read,
    .step 0 .read, .step 0 .read, .arrive 0 .lifeSign, .arrive 0 (.text "bye"), .hangUp 0,
    .step 0 .read, .step 0 .read, .step 0 .read, .endRegistry, .step 1 .start, .step 1 .read]

theorem run_attended_lateComer :
    let history := history {} lateComer
    (∃ alice, (run {} lateComer).connections[0]? = some alice ∧
      sent 0 history = [⟨⟨1⟩, "alice", "hi"⟩, ⟨⟨1⟩, "alice", "bye"⟩] ∧
      Attended {} lateComer 0 alice) ∧
      ∃ bob, (run {} lateComer).connections[1]? = some bob ∧
        consumed 1 history = [.text "bob"] ∧ sent 1 history = [] ∧
        Attended {} lateComer 1 bob := by
  have alice : (run {} lateComer).connections[0]? = some
      { id := ⟨1⟩, peer := "a", transport := { isOpen := false },
        phase := .closing none false 10000 } := by decide +kernel
  have bob : (run {} lateComer).connections[1]? = some
      { id := ⟨2⟩, peer := "b", transport := { inbound := [.text "late"] },
        phase := .closing (some (.refused .ended)) false 10000 } := by decide +kernel
  exact ⟨⟨_, alice, by decide +kernel, run_attended alice⟩,
    _, bob, by decide +kernel, by decide +kernel, run_attended bob⟩

end Relay

end ChatRelay
