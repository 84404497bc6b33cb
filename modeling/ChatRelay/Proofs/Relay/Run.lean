import ChatRelay.Proofs.Connection.Effect
import ChatRelay.Relay.Schedule
import Mathlib.Data.List.Induction

/-!
# Runs of the relay

A run is any sequence of actions: clients come, send and go, transports change how they behave,
tasks take ready steps in any order, time passes in any portions, and the relay is used and shut
down from outside. What the schedules of the relay do is such a run.
-/

namespace ChatRelay

namespace Relay

inductive Action where
  | connect (peer : String) (transport : Transport)
  | arrive (key : Nat) (item : Inbound)
  | hangUp (key : Nat)
  | setModes (key : Nat) (writing pinging closing : Mode)
  | abort (key : Nat)
  /-- A task takes a step. -/
  | step (key : Nat) (b : Branch)
  | unregister (id : ConnectionId)
  | endRegistry
  | broadcast (message : Message)
  | send (value : Bool)
  | dropSender
  | keepSnapshot (label : String)
  | dropSnapshot (label : String)
  | reserve (label : String)
  | release (label : String)
  | requestUpgrade (peer : String)
  | completeUpgrade (peer : String) (transport : Transport)
  | failUpgrade
  | pass (length : Nat)

/-- The place of the connection whose task acts, or is aborted. -/
def Action.actor? : Action → Option Nat
  | .step key _ => some key
  | .abort key => some key
  | _ => none

def Action.isRemoval : Action → Bool
  | .unregister _ => true
  | .endRegistry => true
  | _ => false

def Action.span : Action → Nat
  | .pass length => length
  | _ => 0

/-- The relay after an action; one that cannot happen changes nothing. -/
def act (r : Relay) : Action → Relay
  | .connect peer transport => (r.connect peer transport false).2
  | .arrive key item => (r.arrive key item).2
  | .hangUp key => (r.hangUp key).2
  | .setModes key writing pinging closing =>
    r.modifyTransport key fun t => { t with writing, pinging, closing }
  | .abort key => r.abort key
  | .step key b => if r.ready key b then r.perform key b else r
  | .unregister id => (r.unregister id).2
  | .endRegistry => r.endRegistry.2
  | .broadcast message => (r.broadcast message).2
  | .send value => (r.send? value).getD r
  | .dropSender => r.dropSender.2
  | .keepSnapshot label => (r.keepSnapshot label).2
  | .dropSnapshot label => (r.dropSnapshot label).2
  | .reserve label => (r.reserve label).2
  | .release label => (r.release label).2
  | .requestUpgrade peer => (r.requestUpgrade peer).2
  | .completeUpgrade peer transport =>
    if r.upgrades = 0 then r else (r.completeUpgrade peer transport).2
  | .failUpgrade => if r.upgrades = 0 then r else r.failUpgrade
  | .pass length => r.withClock (r.hub.now + length)

def run (config : RelayConfig) (actions : List Action) : Relay :=
  actions.foldl act (ofConfig config)

structure Moment where
  before : Relay
  action : Action

namespace Moment

def after (s : Moment) : Relay := s.before.act s.action

def news (s : Moment) : List Event := s.after.hub.story.drop s.before.hub.story.length

theorem news_eq {s : Moment} {told : List Event}
    (h : s.after.hub.story = s.before.hub.story ++ told) : s.news = told := by
  rw [news, h, List.drop_left]

end Moment

def historyFrom : Relay → List Action → List Moment
  | _, [] => []
  | r, a :: rest => ⟨r, a⟩ :: historyFrom (r.act a) rest

def history (config : RelayConfig) (actions : List Action) : List Moment :=
  historyFrom (ofConfig config) actions

theorem historyFrom_append (r : Relay) (actions more : List Action) :
    historyFrom r (actions ++ more) =
      historyFrom r actions ++ historyFrom (actions.foldl act r) more := by
  induction actions generalizing r with
  | nil => rfl
  | cons first rest ih => simp [historyFrom, ih]

theorem run_append (config : RelayConfig) (actions : List Action) (a : Action) :
    run config (actions ++ [a]) = (run config actions).act a := by
  simp [run]

theorem history_append (config : RelayConfig) (actions : List Action) (a : Action) :
    history config (actions ++ [a]) = history config actions ++ [⟨run config actions, a⟩] :=
  historyFrom_append _ _ _

theorem history_add (config : RelayConfig) (actions more : List Action) :
    history config (actions ++ more) =
      history config actions ++ historyFrom (run config actions) more :=
  historyFrom_append _ _ _

/-- The moment of an action, with what is before and after it. -/
theorem history_split (config : RelayConfig) (earlier : List Action) (a : Action)
    (later : List Action) : history config (earlier ++ a :: later) = history config earlier ++
      ⟨run config earlier, a⟩ :: historyFrom (run config (earlier ++ [a])) later := by
  rw [history_add, run_append]
  rfl

theorem moment_mem (config : RelayConfig) (earlier : List Action) (a : Action)
    (later : List Action) : ⟨run config earlier, a⟩ ∈ history config (earlier ++ a :: later) := by
  rw [history_split]
  exact List.mem_append_right _ List.mem_cons_self

theorem update_hub (r : Relay) (key : Nat) (hub : Hub) (c : Connection) :
    (r.update key hub c).hub = hub := by
  unfold update
  split <;> rfl

/-- A ready step is a transition of the task. -/
theorem perform_of_ready {r : Relay} {key : Nat} {b : Branch} (ready : r.ready key b = true) :
    ∃ c next, r.connections[key]? = some c ∧
      Connection.Transition r.config (r.surroundings key) c r.hub key b next ∧
      r.perform key b = r.update key next.1 next.2 := by
  cases here : r.connections[key]? with
  | none => simp [Relay.ready, here] at ready
  | some c =>
    have ready : c.ready (r.surroundings key) b = true := by simpa [Relay.ready, here] using ready
    exact ⟨c, _, rfl, Connection.perform_transition b ready, by simp [perform, here]⟩

/-- What each action makes of the relay, if it can happen. -/
inductive Effect (r : Relay) : Action → Relay → Prop where
  | nothing {a} (mild : a.isRemoval = false) (still : a.span = 0) : Effect r a r
  | connect {peer transport} :
      Effect r (.connect peer transport) (r.connect peer transport false).2
  | arrive {key item c} (here : r.connections[key]? = some c) (listening : c.isListening = true) :
      Effect r (.arrive key item) (r.modifyTransport key fun t => t.arrive item)
  | hangUp {key c} (here : r.connections[key]? = some c) (going : c.transport.isOpen = true) :
      Effect r (.hangUp key) (r.modifyTransport key Transport.finish)
  | setModes {key writing pinging closing} :
      Effect r (.setModes key writing pinging closing)
        (r.modifyTransport key fun t => { t with writing, pinging, closing })
  | abort {key c} (here : r.connections[key]? = some c) (alive : c.phase.isOver = false) :
      Effect r (.abort key)
        (r.update key (c.die r.hub key .aborted).1 (c.die r.hub key .aborted).2)
  | step {key b c next} (here : r.connections[key]? = some c)
      (transition : Connection.Transition r.config (r.surroundings key) c r.hub key b next) :
      Effect r (.step key b) (r.update key next.1 next.2)
  | unregister {id} : Effect r (.unregister id) { r with hub := (r.hub.unregister id).2 }
  | endRegistry : Effect r .endRegistry { r with hub := r.hub.endRegistry.2 }
  | broadcast {message} :
      Effect r (.broadcast message) { r with hub := (r.hub.broadcast message).1 }
  | send {value signal} (sent : r.signal.send? value = some signal) :
      Effect r (.send value) { r with signal }
  | dropSender : Effect r .dropSender { r with signal := r.signal.dropSender }
  | keepSnapshot {label} : Effect r (.keepSnapshot label)
      { r with kept := r.kept.put label r.hub.registry.members }
  | dropSnapshot {label} : Effect r (.dropSnapshot label) { r with kept := r.kept.erase label }
  | reserve {label slots} (free : r.slots.reserve? = some slots)
      (new : r.reserved.contains label = false) :
      Effect r (.reserve label) { r with slots, reserved := label :: r.reserved }
  | release {label} (reserved : r.reserved.contains label = true) :
      Effect r (.release label)
        { r with slots := r.slots.release, reserved := r.reserved.erase label }
  | turnAway {peer} (unset : r.signal.isSet = false) (full : r.slots.reserve? = none) :
      Effect r (.requestUpgrade peer)
        { r with hub := r.hub.note (.turnedAway peer r.slots.capacity) }
  | accept {peer slots} (unset : r.signal.isSet = false) (free : r.slots.reserve? = some slots) :
      Effect r (.requestUpgrade peer) { r with slots, upgrades := r.upgrades + 1 }
  | completeUpgrade {peer transport} (waiting : r.upgrades ≠ 0) :
      Effect r (.completeUpgrade peer transport)
        ({ r with upgrades := r.upgrades - 1 }.connect peer transport true).2
  | failUpgrade (waiting : r.upgrades ≠ 0) :
      Effect r .failUpgrade { r with upgrades := r.upgrades - 1, slots := r.slots.release }
  | pass {length} : Effect r (.pass length) (r.withClock (r.hub.now + length))

theorem act_effect (r : Relay) (a : Action) : Effect r a (r.act a) := by
  cases a with
  | connect peer transport => exact .connect
  | arrive key item =>
    simp only [act, arrive]
    cases here : r.connections[key]? with
    | none => exact .nothing rfl rfl
    | some c =>
      cases listening : c.isListening with
      | true => simpa [listening] using Effect.arrive here listening
      | false => simpa [listening] using Effect.nothing rfl rfl
  | hangUp key =>
    simp only [act, hangUp]
    cases here : r.connections[key]? with
    | none => exact .nothing rfl rfl
    | some c =>
      cases going : c.transport.isOpen with
      | true => simpa [going] using Effect.hangUp here going
      | false => simpa [going] using Effect.nothing rfl rfl
  | setModes key writing pinging closing => exact .setModes
  | abort key =>
    simp only [act, Relay.abort]
    cases here : r.connections[key]? with
    | none => exact .nothing rfl rfl
    | some c =>
      cases dead : c.phase.isOver with
      | true => simpa [dead] using Effect.nothing rfl rfl
      | false => simpa [dead] using Effect.abort here dead
  | step key b =>
    by_cases ready : r.ready key b = true
    · obtain ⟨c, next, here, transition, done⟩ := perform_of_ready ready
      simpa [act, ready, done] using Effect.step here transition
    · simpa [act, ready] using Effect.nothing rfl rfl
  | unregister id => exact .unregister
  | endRegistry => exact .endRegistry
  | broadcast message => exact .broadcast
  | send value =>
    simp only [act, send?]
    cases sent : r.signal.send? value with
    | none => exact .nothing rfl rfl
    | some signal => exact .send sent
  | dropSender => exact .dropSender
  | keepSnapshot label => exact .keepSnapshot
  | dropSnapshot label => exact .dropSnapshot
  | reserve label =>
    simp only [act, reserve]
    cases free : r.slots.reserve? with
    | none => exact .nothing rfl rfl
    | some slots =>
      cases new : r.reserved.contains label with
      | true => simpa [new] using Effect.nothing rfl rfl
      | false => simpa [new] using Effect.reserve free new
  | release label =>
    simp only [act, release]
    split
    · rename_i reserved
      exact .release reserved
    · exact .nothing rfl rfl
  | requestUpgrade peer =>
    simp only [act, requestUpgrade]
    cases unset : r.signal.isSet with
    | true => exact .nothing rfl rfl
    | false =>
      cases free : r.slots.reserve? with
      | none => exact .turnAway unset free
      | some slots => exact .accept unset free
  | completeUpgrade peer transport =>
    simp only [act, completeUpgrade]
    split
    · exact .nothing rfl rfl
    · rename_i waiting
      exact .completeUpgrade waiting
  | failUpgrade =>
    simp only [act, failUpgrade]
    split
    · exact .nothing rfl rfl
    · rename_i waiting
      exact .failUpgrade waiting
  | pass length => exact .pass

/-- Who a task serves and where it stands. -/
def task? (r : Relay) (key : Nat) : Option (ConnectionId × Phase) :=
  (r.connections[key]?).map fun c => (c.id, c.phase)

theorem task?_eq_some {r : Relay} {key : Nat} {id : ConnectionId} {phase : Phase} :
    r.task? key = some (id, phase) ↔
      ∃ c, r.connections[key]? = some c ∧ c.id = id ∧ c.phase = phase := by
  simp [task?]

theorem task?_of_some {r : Relay} {key : Nat} {c : Connection}
    (here : r.connections[key]? = some c) : r.task? key = some (c.id, c.phase) := by
  simp [task?, here]

theorem task?_lt {r : Relay} {key : Nat} {id : ConnectionId} {phase : Phase}
    (h : r.task? key = some (id, phase)) : key < r.connections.size := by
  obtain ⟨c, here, -, -⟩ := task?_eq_some.mp h
  exact (Array.getElem?_eq_some_iff.mp here).1

/-- Nobody in the relay notices the change, apart from the clock, the transports and the signal. -/
structure Calm (r r' : Relay) : Prop where
  config : r'.config = r.config
  registry : r'.hub.registry = r.hub.registry
  queues : r'.hub.queues = r.hub.queues
  options : r'.hub.options = r.hub.options
  nextId : r'.hub.nextId = r.hub.nextId
  story : r'.hub.story = r.hub.story
  size : r'.connections.size = r.connections.size
  tasks : ∀ key, r'.task? key = r.task? key

theorem calm_of_eq {r r' : Relay} (config : r'.config = r.config) (hub : r'.hub = r.hub)
    (connections : r'.connections = r.connections) : Calm r r' := by
  constructor <;> simp [task?, config, hub, connections]

theorem calm_refl (r : Relay) : Calm r r := calm_of_eq rfl rfl rfl

theorem calm_modifyTransport (r : Relay) (key : Nat) (f : Transport → Transport) :
    Calm r (r.modifyTransport key f) := by
  refine ⟨rfl, rfl, rfl, rfl, rfl, rfl, by simp [modifyTransport], ?_⟩
  intro k
  simp only [task?, modifyTransport, Array.getElem?_modify]
  split
  · cases r.connections[k]? <;> rfl
  · rfl

inductive Change (r : Relay) : Action → Relay → Prop where
  | calm {a r'} (mild : a.isRemoval = false) (calm : Calm r r') : Change r a r'
  | connect {a upgrades peer transport slot} (mild : a.isRemoval = false)
      (nobody : a.actor? = none) :
      Change r a ({ r with upgrades }.connect peer transport slot).2
  | step {key b c next} (here : r.connections[key]? = some c)
      (transition : Connection.Transition r.config (r.surroundings key) c r.hub key b next) :
      Change r (.step key b) (r.update key next.1 next.2)
  | abort {key c} (here : r.connections[key]? = some c) (alive : c.phase.isOver = false) :
      Change r (.abort key)
        (r.update key (c.die r.hub key .aborted).1 (c.die r.hub key .aborted).2)
  | unregister {id} : Change r (.unregister id) { r with hub := (r.hub.unregister id).2 }
  | endRegistry : Change r .endRegistry { r with hub := r.hub.endRegistry.2 }
  | broadcast {message} :
      Change r (.broadcast message) { r with hub := (r.hub.broadcast message).1 }

theorem Effect.change {r r' : Relay} {a : Action} (effect : Effect r a r') : Change r a r' := by
  cases effect with
  | nothing mild still => exact .calm mild (calm_refl r)
  | connect => exact .connect rfl rfl
  | arrive => exact .calm rfl (calm_modifyTransport r _ _)
  | hangUp => exact .calm rfl (calm_modifyTransport r _ _)
  | setModes => exact .calm rfl (calm_modifyTransport r _ _)
  | abort here alive => exact .abort here alive
  | step here transition => exact .step here transition
  | unregister => exact .unregister
  | endRegistry => exact .endRegistry
  | broadcast => exact .broadcast
  | turnAway =>
    refine .calm rfl ⟨rfl, rfl, rfl, rfl, rfl, ?_, rfl, fun _ => rfl⟩
    simp [Hub.note_story, Event.isTold]
  | completeUpgrade => exact .connect rfl rfl
  | pass => exact .calm rfl ⟨rfl, rfl, rfl, rfl, rfl, rfl, rfl, fun _ => rfl⟩
  | _ => exact .calm rfl (calm_of_eq rfl rfl rfl)

theorem act_change (r : Relay) (a : Action) : Change r a (r.act a) := (act_effect r a).change

theorem perform_now {r : Relay} {key : Nat} {b : Branch} (ready : r.ready key b = true) :
    (r.perform key b).hub.now = r.hub.now := by
  obtain ⟨c, next, -, transition, done⟩ := perform_of_ready ready
  rw [done, update_hub, transition.outline.frame.2.2.2.1]

theorem ready_of_next {r : Relay} {key : Nat} {b : Branch} (h : r.next? = some (key, b)) :
    r.ready key b = true := by
  obtain ⟨k, -, found⟩ := List.exists_of_findSome?_eq_some h
  obtain ⟨b', first, same⟩ := Option.map_eq_some_iff.mp found
  cases same
  simpa using List.find?_some first

theorem not_ready_of_quiet {r : Relay} (quiet : r.isQuiet = true) {key : Nat}
    (inBounds : key < r.connections.size) (b : Branch) : r.ready key b = false := by
  have none := Option.isNone_iff_eq_none.mp quiet
  have here := List.findSome?_eq_none_iff.mp none key (List.mem_range.mpr inBounds)
  have unready := List.find?_eq_none.mp (Option.map_eq_none_iff.mp here) b
  simpa using unready (by cases b <;> decide)

theorem settleWithin_run (r : Relay) (steps : Nat) :
    (∃ actions : List Action, r.settleWithin steps = actions.foldl act r) ∧
      (r.settleWithin steps).hub.now = r.hub.now := by
  induction steps generalizing r with
  | zero => exact ⟨⟨[], rfl⟩, rfl⟩
  | succ steps ih =>
    cases next : r.next? with
    | none => exact ⟨⟨[], by simp [settleWithin, next]⟩, by simp [settleWithin, next]⟩
    | some step =>
      obtain ⟨key, b⟩ := step
      have ready := ready_of_next next
      obtain ⟨⟨actions, done⟩, now⟩ := ih (r.perform key b)
      refine ⟨⟨.step key b :: actions, ?_⟩, ?_⟩
      · simp [settleWithin, next, done, act, ready]
      · simp [settleWithin, next, now, perform_now ready]

theorem withClock_run {r : Relay} {now : Nat} (later : r.hub.now ≤ now) :
    r.withClock now = r.act (.pass (now - r.hub.now)) := by
  rw [act, Nat.add_sub_cancel' later]

theorem settle_run {r : Relay} {t : Nat} (later : r.hub.now ≤ t) :
    (∃ actions : List Action, (r.withClock t).settle = actions.foldl act r) ∧
      (r.withClock t).settle.hub.now = t := by
  obtain ⟨⟨actions, done⟩, now⟩ := settleWithin_run (r.withClock t) (r.withClock t).weight
  exact ⟨⟨.pass (t - r.hub.now) :: actions, by rw [settle, done, withClock_run later]; rfl⟩, now⟩

theorem now_lt_of_nextDue {r : Relay} {t : Nat} (h : r.nextDue? = some t) : r.hub.now < t := by
  have found := List.min?_mem h
  simpa using (List.mem_filter.mp found).2

theorem runUntil_run {limit : Nat} {r : Relay} (later : r.hub.now ≤ limit) (moments : Nat) :
    ∃ actions : List Action, runUntil limit moments r = actions.foldl act r := by
  induction moments generalizing r with
  | zero => exact (settle_run later).1
  | succ moments ih =>
    have idle : ∃ actions : List Action, r.withClock limit = actions.foldl act r :=
      ⟨[.pass (limit - r.hub.now)], withClock_run later⟩
    cases next : r.nextDue? with
    | none => simpa [runUntil, next] using idle
    | some t =>
      by_cases within : t ≤ limit
      · obtain ⟨⟨first, settled⟩, now⟩ := settle_run (Nat.le_of_lt (now_lt_of_nextDue next))
        obtain ⟨rest, done⟩ := ih (r := (r.withClock t).settle) (by rw [now]; exact within)
        refine ⟨first ++ rest, ?_⟩
        rw [List.foldl_append, ← settled, ← done]
        simp [runUntil, next, within]
      · simpa [runUntil, next, within] using idle

/-- To let the tasks move for a length of time is to take ready steps and to let time pass. -/
theorem advance_run (r : Relay) (length : Nat) :
    ∃ actions : List Action, r.advance length = actions.foldl act r :=
  runUntil_run (Nat.le_add_right _ _) _

end Relay

end ChatRelay
