import ChatRelay.ChatServer
import ChatRelay.Proofs.Relay.Inbound
import ChatRelay.Proofs.Relay.Slots

/-!
# Who is let in

Clients come to the chat server by upgrades alone. An accepted upgrade has a slot from then on until
it fails or the task of its connection is over, however that ends; then the slot is free again,
once. No client is turned away as long as a slot is free, unless the server is being shut down.
-/

namespace ChatRelay

/-- A task that takes a step is not over. -/
theorem Connection.Transition.going {config : RelayConfig} {s : Surroundings} {c : Connection}
    {hub : Hub} {key : QueueKey} {b : Branch} {next : Hub × Connection}
    (h : Transition config s c hub key b next) : c.phase.isOver = false := by
  cases h with
  | leave reason =>
    have serving := reason.serving.1
    cases phase : c.phase <;> simp_all [Phase.isServing, Phase.isOver]
  | _ => simp_all [Phase.isOver]

namespace Relay

/-- The action begins a connection or takes a slot without an upgrade. -/
def Action.bypasses : Action → Bool
  | .connect .. => true
  | .reserve _ => true
  | _ => false

def alive (r : Relay) : Nat := r.connections.toList.countP fun c => !c.phase.isOver

def isOver (r : Relay) (key : Nat) : Bool := (r.connections[key]?).any fun c => c.phase.isOver

namespace Moment

def accepts (s : Moment) : Bool :=
  match s.action with
  | .requestUpgrade peer => (s.before.requestUpgrade peer).1 = .accepted
  | _ => false

def completes (s : Moment) : Bool :=
  match s.action with
  | .completeUpgrade .. => s.before.upgrades != 0
  | _ => false

def fails (s : Moment) : Bool :=
  match s.action with
  | .failUpgrade => s.before.upgrades != 0
  | _ => false

def ends (s : Moment) : Bool :=
  s.action.actor?.any fun key => !s.before.isOver key && s.after.isOver key

end Moment

/-- A connection holds a slot until its task is over. -/
def Holding (r : Relay) : Prop :=
  ∀ (key : Nat) (c : Connection), r.connections[key]? = some c → c.holdsSlot = !c.phase.isOver

/-- The slots of a relay to which clients come by upgrades alone. -/
structure Allotted (r : Relay) (history : List Moment) : Prop where
  limit : r.slots.taken ≤ r.slots.capacity
  unreserved : r.reserved = []
  holders : r.Holding
  returned : r.slots.taken + history.countP Moment.fails + history.countP Moment.ends =
    history.countP Moment.accepts

section Steps

variable {r r' : Relay} {history : List Moment} {s : Moment} {a : Action} {key : Nat}

theorem isOver_of_some {c : Connection} (here : r.connections[key]? = some c) :
    r.isOver key = c.phase.isOver := by
  simp [isOver, here]

/-- No slot is taken or given back. -/
theorem Allotted.keep (h : Allotted r history) (slots : r'.slots = r.slots)
    (reserved : r'.reserved = r.reserved)
    (holders : r'.Holding)
    (refused : s.accepts = false) (held : s.fails = false) (going : s.ends = false) :
    Allotted r' (history ++ [s]) where
  limit := by rw [slots]; exact h.limit
  unreserved := reserved.trans h.unreserved
  holders := holders
  returned := by
    rw [slots]
    simpa [refused, held, going] using h.returned

theorem Allotted.still (h : Allotted r history) (still : r.act a = r)
    (refused : (Moment.mk r a).accepts = false) (held : (Moment.mk r a).fails = false) :
    Allotted (r.act a) (history ++ [⟨r, a⟩]) := by
  refine h.keep (by rw [still]) (by rw [still]) (by rw [still]; exact h.holders) refused held ?_
  rw [Moment.ends, Moment.after, still]
  cases a.actor? <;> simp

theorem Holding.modifyTransport (h : r.Holding) (key : Nat) (f : Transport → Transport) :
    (r.modifyTransport key f).Holding := by
  intro k c there
  by_cases same : k = key
  · subst same
    cases here : r.connections[k]? with
    | none => simp [Relay.modifyTransport, Array.getElem?_modify, here] at there
    | some old =>
      rw [modifyTransport_here here] at there
      obtain rfl := Option.some.inj there
      exact h k old here
  · rw [modifyTransport_elsewhere same] at there
    exact h k c there

theorem Allotted.transport (h : Allotted r history) (own : a.target? = some key)
    (idle : a.actor? = none) (refused : (Moment.mk r a).accepts = false)
    (held : (Moment.mk r a).fails = false) :
    Allotted (r.act a) (history ++ [⟨r, a⟩]) := by
  rcases act_transport own idle with ⟨still, -⟩ | ⟨c, f, -, after, -⟩
  · exact h.still still refused held
  · have going : (Moment.mk r a).ends = false := by simp [Moment.ends, idle]
    rw [after]
    exact h.keep rfl rfl (h.holders.modifyTransport key f) refused held going

/-- A task takes a step or dies. If it is over then, its slot is free. -/
theorem Allotted.update (h : Allotted r history) (accounted : r.Accounted)
    (own : a.actor? = some key) {c : Connection} {next : Hub × Connection}
    (here : r.connections[key]? = some c) (going : c.phase.isOver = false)
    (slot : next.2.holdsSlot = c.holdsSlot) (after : r.act a = r.update key next.1 next.2) :
    Allotted (r.act a) (history ++ [⟨r, a⟩]) := by
  have held : next.2.holdsSlot = true := by rw [slot, h.holders key c here, going]; rfl
  have stored := update_here here next.1 next.2
  rw [held, Bool.true_and] at stored
  have ends : (Moment.mk r a).ends = next.2.phase.isOver := by
    simp [Moment.ends, Moment.after, own, isOver_of_some here, going, after, isOver_of_some stored]
  have refused : (Moment.mk r a).accepts = false := by
    cases a with
    | requestUpgrade => cases own
    | _ => rfl
  have complete : (Moment.mk r a).fails = false := by
    cases a with
    | failUpgrade => cases own
    | _ => rfl
  have holders : (r.update key next.1 next.2).Holding := by
    intro k c' there
    by_cases same : k = key
    · rw [same, stored] at there
      obtain rfl := Option.some.inj there
      rfl
    · rw [update_elsewhere same] at there
      exact h.holders k c' there
  rw [after]
  cases ended : next.2.phase.isOver with
  | false =>
    have kept : r.update key next.1 next.2 = { r with
        hub := next.1, connections := r.connections.setIfInBounds key next.2 } := by
      simp [Relay.update, ended]
    refine h.keep (by rw [kept]) (by rw [kept]) holders refused complete (ends.trans ended)
  | true =>
    have freed : (r.update key next.1 next.2).slots = r.slots.release ∧
        (r.update key next.1 next.2).reserved = r.reserved := by
      simp [Relay.update, ended, held]
    have holding : 0 < Connection.holders r.connections.toList := by
      refine List.countP_pos_iff.mpr ⟨c, ?_, by rw [← slot, held]⟩
      exact List.mem_of_getElem? (Array.getElem?_toList ▸ here)
    have taken := accounted.taken
    have returned := h.returned
    have limit := h.limit
    refine ⟨?_, freed.2.trans h.unreserved, holders, ?_⟩
    · rw [freed.1]
      exact Nat.le_trans (Nat.sub_le _ _) limit
    · rw [freed.1]
      simp [refused, complete, ends, ended, Slots.release]
      omega

/-- An upgrade is completed: its slot goes to the connection. -/
theorem Allotted.begin (h : Allotted r history) (waiting : r.upgrades ≠ 0) (peer : String)
    (transport : Transport) : Allotted (r.act (.completeUpgrade peer transport))
      (history ++ [⟨r, .completeUpgrade peer transport⟩]) := by
  have after : r.act (.completeUpgrade peer transport) = (r.completeUpgrade peer transport).2 := by
    simp [Relay.act, waiting]
  rw [after]
  refine h.keep rfl rfl ?_ rfl rfl rfl
  intro key c there
  rw [completeUpgrade, Relay.connect, Array.getElem?_push] at there
  split at there
  · obtain rfl := Option.some.inj there
    rfl
  · exact h.holders key c there

/-- An upgrade fails: its slot is free again. -/
theorem Allotted.fail (h : Allotted r history) (accounted : r.Accounted)
    (waiting : r.upgrades ≠ 0) :
    Allotted (r.act .failUpgrade) (history ++ [⟨r, .failUpgrade⟩]) := by
  have after : r.act .failUpgrade = r.failUpgrade := by simp [Relay.act, waiting]
  have taken := accounted.taken
  have returned := h.returned
  have fails : (Moment.mk r .failUpgrade).fails = true := by simp [Moment.fails, waiting]
  rw [after]
  refine ⟨Nat.le_trans (Nat.sub_le _ _) h.limit, h.unreserved, h.holders, ?_⟩
  simp [fails, Moment.ends, Moment.accepts, Action.actor?, failUpgrade, Slots.release]
  omega

/-- An upgrade is requested: if the request is accepted, a slot is taken. -/
theorem Allotted.request (h : Allotted r history) (peer : String) :
    Allotted (r.act (.requestUpgrade peer)) (history ++ [⟨r, .requestUpgrade peer⟩]) := by
  cases set : r.signal.isSet with
  | true =>
    exact h.still (by simp [Relay.act, requestUpgrade, set])
      (by simp [Moment.accepts, requestUpgrade, set]) rfl
  | false =>
    cases free : r.slots.reserve? with
    | none =>
      have after : r.act (.requestUpgrade peer) =
          { r with hub := r.hub.note (.turnedAway peer r.slots.capacity) } := by
        simp [Relay.act, requestUpgrade, set, free]
      rw [after]
      exact h.keep rfl rfl h.holders (by simp [Moment.accepts, requestUpgrade, set, free]) rfl rfl
    | some slots =>
      obtain ⟨room, rfl⟩ := Slots.reserve?_eq_some_iff.mp free
      have returned := h.returned
      have accepts : (Moment.mk r (.requestUpgrade peer)).accepts = true := by
        simp [Moment.accepts, requestUpgrade, set, free]
      have after : r.act (.requestUpgrade peer) =
          { r with slots := { r.slots with taken := r.slots.taken + 1 },
                   upgrades := r.upgrades + 1 } := by
        simp [Relay.act, requestUpgrade, set, free]
      rw [after]
      refine ⟨room, h.unreserved, h.holders, ?_⟩
      simp [accepts, Moment.ends, Moment.fails, Action.actor?]
      omega

theorem Allotted.act (h : Allotted r history) (accounted : r.Accounted)
    (plain : a.bypasses = false) : Allotted (r.act a) (history ++ [⟨r, a⟩]) := by
  cases a with
  | connect => cases plain
  | reserve => cases plain
  | step key b =>
    by_cases ready : r.ready key b = true
    · obtain ⟨c, next, here, transition, done⟩ := perform_of_ready ready
      exact h.update accounted rfl here transition.going transition.slot
        (by simp [Relay.act, ready, done])
    · exact h.still (by simp [Relay.act, ready]) rfl rfl
  | abort key =>
    cases here : r.connections[key]? with
    | none => exact h.still (by simp [Relay.act, Relay.abort, here]) rfl rfl
    | some c =>
      cases ended : c.phase.isOver with
      | true => exact h.still (by simp [Relay.act, Relay.abort, here, ended]) rfl rfl
      | false =>
        have after : r.act (.abort key) = r.update key (c.die r.hub key .aborted).1
            (c.die r.hub key .aborted).2 := by simp [Relay.act, Relay.abort, here, ended]
        exact h.update accounted rfl here ended rfl after
  | arrive key item => exact h.transport rfl rfl rfl rfl
  | hangUp key => exact h.transport rfl rfl rfl rfl
  | setModes key => exact h.transport rfl rfl rfl rfl
  | release label =>
    exact h.still (by simp [Relay.act, Relay.release, h.unreserved]) rfl rfl
  | requestUpgrade peer => exact h.request peer
  | completeUpgrade peer transport =>
    by_cases waiting : r.upgrades = 0
    · exact h.still (by simp [Relay.act, waiting]) rfl rfl
    · exact h.begin waiting peer transport
  | failUpgrade =>
    by_cases waiting : r.upgrades = 0
    · exact h.still (by simp [Relay.act, waiting]) rfl (by simp [Moment.fails, waiting])
    · exact h.fail accounted waiting
  | send value =>
    cases sent : r.signal.send? value with
    | none => exact h.still (by simp [Relay.act, send?, sent]) rfl rfl
    | some signal =>
      have after : r.act (.send value) = { r with signal } := by simp [Relay.act, send?, sent]
      rw [after]
      exact h.keep rfl rfl h.holders rfl rfl rfl
  | _ => exact h.keep rfl rfl h.holders rfl rfl rfl

end Steps

/-- To count in a list is to count the places at which there is something to count. -/
theorem countP_places {α : Type} (p : α → Bool) (items : List α) :
    (List.range items.length).countP (fun k => items[k]?.any p) = items.countP p := by
  induction items with
  | nil => rfl
  | cons first rest ih =>
    rw [List.length_cons, List.range_succ_eq_map, List.countP_cons, List.countP_map,
      List.countP_cons, ← ih]
    rfl

section Counts

variable {r : Relay}

theorem holders_alive {history : List Moment} (h : Allotted r history) :
    Connection.holders r.connections.toList = r.alive := by
  apply List.countP_congr
  intro c hc
  obtain ⟨key, here⟩ := List.getElem?_of_mem hc
  rw [h.holders key c (Array.getElem?_toList ▸ here)]

/-- Every registered connection has a task that is not over, and no two have the same. -/
theorem Sound.size_le_alive (h : r.Sound) : r.hub.registry.size ≤ r.alive := by
  let serving := (List.range r.connections.size).filter fun key => r.serves key
  have places : r.hub.registry.members.map Member.queue ⊆ serving := by
    intro key hk
    obtain ⟨m, hm, rfl⟩ := List.mem_map.mp hk
    obtain ⟨phase, here, serves⟩ := h.serving m hm
    have now : r.serves m.queue = true := by
      rw [serves_iff, rank_of_some here]
      exact Phase.isServing_iff.mp serves
    exact List.mem_filter.mpr ⟨List.mem_range.mpr (task?_lt here), now⟩
  calc r.hub.registry.size
    _ = (r.hub.registry.members.map Member.queue).length := (List.length_map _).symm
    _ ≤ serving.length := (List.subperm_of_subset h.distinct places).length_le
    _ = (List.range r.connections.toList.length).countP fun k =>
          (r.connections.toList[k]?).any fun c => c.phase.isServing := by
      rw [List.countP_eq_length_filter, Array.length_toList]
      simp only [Array.getElem?_toList]
      rfl
    _ = r.connections.toList.countP fun c => c.phase.isServing := countP_places _ _
    _ ≤ r.alive := by
      refine List.countP_mono_left fun c _ serves => ?_
      cases phase : c.phase <;> simp_all [Phase.isServing, Phase.isOver]

end Counts

theorem Effect.capacity {r r' : Relay} {a : Action} (effect : Effect r a r') :
    r'.slots.capacity = r.slots.capacity := by
  cases effect with
  | abort => unfold update; split <;> rfl
  | step => unfold update; split <;> rfl
  | reserve free => rw [(Slots.reserve?_eq_some_iff.mp free).2]
  | accept _ free => rw [(Slots.reserve?_eq_some_iff.mp free).2]
  | _ => rfl

theorem run_capacity (config : RelayConfig) (actions : List Action) :
    (run config actions).slots.capacity = config.maxClients := by
  induction actions using List.reverseRecOn with
  | nil => rfl
  | append_singleton actions a ih =>
    rw [run_append, (act_effect _ a).capacity, ih]

end Relay

namespace ChatServer

variable {s : ChatServer} {peer : String} {request : Http.Request}

/-- A well-formed request for an upgrade at the chat's path gets to the relay. -/
theorem answer_upgrade (elsewhere : request.path ≠ Settings.healthCheckPath.toList)
    (here : s.route.isOf request.path = true) (formed : request.upgradeFault? = none) :
    s.answer peer request = s.upgrade peer request := by
  have method : request.method = "GET" := by
    by_contra other
    simp [Http.Request.upgradeFault?, other] at formed
  simp [answer, elsewhere, here, method]

/-- It is turned away if the signal is set or no slot is free, and only then; nothing but the
journal tells of it. -/
theorem upgrade_unavailable (limit : s.relay.slots.taken ≤ s.relay.slots.capacity)
    (formed : request.upgradeFault? = none) :
    ((s.upgrade peer request).1.status = 503 ↔
      s.relay.signal.isSet = true ∨ s.relay.slots.taken = s.relay.slots.capacity) ∧
    ((s.upgrade peer request).1.status = 503 → (s.upgrade peer request).2.1 = none ∧
      (s.upgrade peer request).2.2.relay.forget = s.relay.forget ∧
      (s.upgrade peer request).2.2.route = s.route ∧
      (s.upgrade peer request).2.2.lost = s.lost) := by
  cases set : s.relay.signal.isSet with
  | true => simp [upgrade, formed, Relay.requestUpgrade, set, Http.Response.text]
  | false =>
    cases free : s.relay.slots.reserve? with
    | none =>
      have full : s.relay.slots.taken = s.relay.slots.capacity := by
        unfold Slots.reserve? at free
        split at free
        · cases free
        · omega
      simp [upgrade, formed, Relay.requestUpgrade, set, free, Http.Response.text, full,
        Relay.forget, Hub.note]
    | some slots =>
      obtain ⟨room, -⟩ := Slots.reserve?_eq_some_iff.mp free
      have apart : s.relay.slots.taken ≠ s.relay.slots.capacity := Nat.ne_of_lt room
      simp [upgrade, formed, Relay.requestUpgrade, set, free, Http.Response.switching, apart]

end ChatServer

namespace Relay

/-- The slots of the chat server, and who is turned away. -/
structure Admission (config : RelayConfig) (actions : List Action) : Prop where
  /-- A slot is taken by each accepted upgrade whose connection is not there yet, and by each
  connection whose task is not over. -/
  taken : (run config actions).slots.taken =
    (run config actions).upgrades + (run config actions).alive
  /-- The slot of an accepted upgrade is free again once: when it fails, or when its task ends. -/
  returned : (run config actions).slots.taken + (history config actions).countP Moment.fails +
    (history config actions).countP Moment.ends = (history config actions).countP Moment.accepts
  limit : (run config actions).slots.taken ≤ config.maxClients
  registered : (run config actions).hub.registry.size ≤ (run config actions).slots.taken
  unavailable : ∀ (s : ChatServer) (peer : String) (request : Http.Request),
    s.relay = run config actions → request.path ≠ Settings.healthCheckPath.toList →
    s.route.isOf request.path = true → request.upgradeFault? = none →
    ((s.answer peer request).1.status = 503 ↔ (run config actions).signal.isSet = true ∨
      (run config actions).slots.taken = config.maxClients) ∧
    ((s.answer peer request).1.status = 503 → (s.answer peer request).2.1 = none ∧
      (s.answer peer request).2.2.relay.forget = (run config actions).forget ∧
      (s.answer peer request).2.2.route = s.route ∧ (s.answer peer request).2.2.lost = s.lost)
  /-- Only a completed upgrade makes a connection. -/
  connections : (run config actions).hub.meters.connections =
    .ofNat ((history config actions).countP Moment.completes)
  free : (run config actions).upgrades = 0 →
    (∀ c ∈ (run config actions).connections.toList, c.phase.isOver = true) →
    (run config actions).slots.taken = 0

section Theorem

variable {config : RelayConfig} {actions : List Action}

theorem run_allotted (served : ∀ a ∈ actions, a.bypasses = false) :
    Allotted (run config actions) (history config actions) := by
  induction actions using List.reverseRecOn with
  | nil => exact ⟨Nat.zero_le _, rfl, by simp [Holding, run, ofConfig], rfl⟩
  | append_singleton actions a ih =>
    rw [run_append, history_append]
    have before := ih fun a ha => served a (List.mem_append_left _ ha)
    exact before.act (run_accounted config actions)
      (served a (List.mem_append_right _ List.mem_cons_self))

theorem action_of_mem {s : Moment} (h : s ∈ history config actions) : s.action ∈ actions := by
  obtain ⟨earlier, a, later, rfl, rfl⟩ := mem_historyFrom h
  exact List.mem_append_right _ List.mem_cons_self

/-- Where clients come by upgrades alone, each slot that is taken belongs to one of them. -/
theorem run_admission (served : ∀ a ∈ actions, a.bypasses = false) : Admission config actions := by
  have allotted : Allotted (run config actions) (history config actions) := run_allotted served
  have accounted := (run_accounted config actions).taken
  rw [allotted.unreserved, holders_alive allotted] at accounted
  have capacity := run_capacity config actions
  constructor
  case taken => exact accounted
  case returned => exact allotted.returned
  case limit => exact capacity ▸ allotted.limit
  case registered =>
    have registered := (run_sound config actions).size_le_alive
    simp only [List.length_nil] at accounted
    omega
  case unavailable =>
    intro s peer request same elsewhere here formed
    rw [ChatServer.answer_upgrade elsewhere here formed, ← same, ← capacity, ← same]
    exact ChatServer.upgrade_unavailable (by rw [same]; exact allotted.limit) formed
  case connections =>
    rw [(run_meters config actions).connections]
    congr 1
    apply List.countP_congr
    intro s hs
    have plain := served s.action (action_of_mem hs)
    cases kind : s.action <;> simp_all [Moment.completes, begins, Action.bypasses]
  case free =>
    intro none ended
    have idle : (run config actions).alive = 0 :=
      List.countP_eq_zero.mpr fun c hc => by simp [ended c hc]
    simp only [List.length_nil] at accounted
    omega

end Theorem

/-- Two slots for four clients: one is turned away, one fails, one is aborted and one stays. -/
def fourRequests : List Action :=
  [.requestUpgrade "a", .requestUpgrade "b", .requestUpgrade "c", .completeUpgrade "a" {},
    .failUpgrade, .requestUpgrade "d", .completeUpgrade "d" {}, .step 0 .start, .step 1 .start,
    .arrive 0 (.text "alice"), .step 0 .read, .abort 1]

theorem run_admission_fourRequests :
    let config : RelayConfig := { maxClients := 2 }
    let history := history config fourRequests
    (∀ a ∈ fourRequests, a.bypasses = false) ∧ history.countP Moment.accepts = 3 ∧
      history.countP Moment.fails = 1 ∧ history.countP Moment.ends = 1 ∧
      (run config fourRequests).slots.taken = 1 ∧ Admission config fourRequests := by
  have served : ∀ a ∈ fourRequests, a.bypasses = false := by decide
  exact ⟨served, by decide +kernel, by decide +kernel, by decide +kernel, by decide +kernel,
    run_admission served⟩

end Relay

end ChatRelay
