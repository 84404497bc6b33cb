import ChatRelay.Proofs.Relay.Run

/-!
# Order in the relay

Whatever happens, the registry is in order, each of its members belongs to a task that serves it,
and the tasks have the identities in the order in which they were handed out.
-/

namespace ChatRelay

/-- The identity of the connection at a place. -/
def ConnectionId.nth (key : Nat) : ConnectionId := ⟨UInt64.ofNat (key + 1)⟩

theorem ConnectionId.nth_next (key : Nat) : (nth key).next = nth (key + 1) := by
  simp [nth, next, UInt64.ofNat_add]

/-- As long as the counter has not wrapped, no two connections have the same identity. -/
theorem ConnectionId.nth_inj {a b : Nat} (ha : a < UInt64.size) (hb : b < UInt64.size)
    (same : nth a = nth b) : a = b := by
  rw [eq_iff_toNat] at same
  simp only [nth, UInt64.toNat_ofNat', UInt64.size] at same ha hb
  omega

theorem ConnectionId.toNat_nth {key : Nat} (few : key + 1 < UInt64.size) :
    (nth key).number.toNat = key + 1 := by
  rw [nth, UInt64.toNat_ofNat', Nat.mod_eq_of_lt few]

/-- Until the counter wraps, the larger identity is that of the later place. -/
theorem ConnectionId.nth_lt_iff {a b : Nat} (ha : a + 1 < UInt64.size)
    (hb : b + 1 < UInt64.size) : nth a < nth b ↔ a < b := by
  rw [lt_iff_toNat, toNat_nth ha, toNat_nth hb, Nat.add_lt_add_iff_right]

namespace Relay

section Places

variable (r : Relay) (key : Nat) (hub : Hub) (c : Connection)

@[simp] theorem update_config : (r.update key hub c).config = r.config := by
  unfold update
  split <;> rfl

@[simp] theorem update_kept : (r.update key hub c).kept = r.kept := by
  unfold update
  split <;> rfl

@[simp] theorem update_signal : (r.update key hub c).signal = r.signal := by
  unfold update
  split <;> rfl

@[simp] theorem update_size : (r.update key hub c).connections.size = r.connections.size := by
  unfold update
  split <;> simp

variable {r key} in
theorem task?_update {old : Connection} (here : r.connections[key]? = some old) (k : Nat) :
    (r.update key hub c).task? k = if k = key then some (c.id, c.phase) else r.task? k := by
  have inBounds := (Array.getElem?_eq_some_iff.mp here).1
  by_cases same : k = key
  · subst same
    unfold update
    split <;> simp [task?, inBounds]
  · unfold update
    split <;> simp [task?, Ne.symm same]

theorem task?_update_self {r : Relay} {key : Nat} {old : Connection}
    (here : r.connections[key]? = some old) (hub : Hub) (c : Connection) :
    (r.update key hub c).task? key = some (c.id, c.phase) := by
  rw [task?_update hub c here, if_pos rfl]

end Places

section Connect

variable (r : Relay) (peer : String) (transport : Transport) (slot : Bool)

@[simp] theorem connect_config : (r.connect peer transport slot).2.config = r.config := rfl

@[simp] theorem connect_registry :
    (r.connect peer transport slot).2.hub.registry = r.hub.registry := rfl

@[simp] theorem connect_queues : (r.connect peer transport slot).2.hub.queues =
    r.hub.queues.push { capacity := r.config.queueCapacity } := rfl

@[simp] theorem connect_options :
    (r.connect peer transport slot).2.hub.options = r.hub.options := rfl

@[simp] theorem connect_nextId :
    (r.connect peer transport slot).2.hub.nextId = r.hub.nextId.next := rfl

@[simp] theorem connect_story : (r.connect peer transport slot).2.hub.story = r.hub.story := rfl

@[simp] theorem connect_size :
    (r.connect peer transport slot).2.connections.size = r.connections.size + 1 := by
  simp [connect]

theorem task?_connect (k : Nat) : (r.connect peer transport slot).2.task? k =
    if k = r.connections.size then some (r.hub.nextId, .connecting) else r.task? k := by
  simp only [task?, connect, Array.getElem?_push]
  split <;> rfl

end Connect

/-- What holds of every relay. -/
structure Sound (r : Relay) : Prop where
  sizes : r.hub.queues.size = r.connections.size
  ascending : r.hub.registry.Ascending
  serving : ∀ m ∈ r.hub.registry.members, ∃ phase, r.task? m.queue = some (m.id, phase) ∧
    phase.isServing = true
  numbered : ∀ key id phase, r.task? key = some (id, phase) → id = .nth key
  next : r.hub.nextId = .nth r.connections.size
  options : r.hub.options = { showSender := r.config.showSender }

theorem Sound.member {r : Relay} (h : r.Sound) {m : Member} (hm : m ∈ r.hub.registry.members)
    {id : ConnectionId} {phase : Phase} (here : r.task? m.queue = some (id, phase)) :
    m.id = id ∧ phase.isServing = true := by
  obtain ⟨phase', found, serving⟩ := h.serving m hm
  rw [here] at found
  obtain ⟨rfl, rfl⟩ := Prod.mk.inj (Option.some.inj found)
  exact ⟨rfl, serving⟩

theorem Sound.id_nth {r : Relay} (h : r.Sound) {key : Nat} {c : Connection}
    (here : r.connections[key]? = some c) : c.id = .nth key :=
  h.numbered key _ _ (task?_of_some here)

/-- No two members share a queue. -/
theorem Sound.distinct {r : Relay} (h : r.Sound) :
    (r.hub.registry.members.map Member.queue).Nodup := by
  refine List.Nodup.map_on ?_ (List.Nodup.of_map _ h.ascending.ids_nodup)
  intro a ha b hb same
  obtain ⟨phase, here, -⟩ := h.serving b hb
  exact h.ascending.eq_of_id ha hb (h.member ha (by rw [same]; exact here)).1

theorem ofConfig_sound (config : RelayConfig) : (ofConfig config).Sound where
  sizes := rfl
  ascending := .nil
  serving := by simp [ofConfig]
  numbered := by simp [ofConfig, task?]
  next := rfl
  options := rfl

section Preservation

variable {r r' : Relay}

theorem Sound.calm (h : r.Sound) (calm : Calm r r') : r'.Sound where
  sizes := by rw [calm.queues, calm.size]; exact h.sizes
  ascending := by rw [calm.registry]; exact h.ascending
  serving := by
    rw [calm.registry]
    intro m hm
    rw [calm.tasks]
    exact h.serving m hm
  numbered := by
    intro key id phase here
    rw [calm.tasks] at here
    exact h.numbered key id phase here
  next := by rw [calm.nextId, calm.size]; exact h.next
  options := by rw [calm.options, calm.config]; exact h.options

/-- The registry loses members, and nothing else changes. -/
theorem Sound.shrink (h : r.Sound) {hub : Hub} (size : hub.queues.size = r.hub.queues.size)
    (ascending : hub.registry.Ascending)
    (members : ∀ m ∈ hub.registry.members, m ∈ r.hub.registry.members)
    (nextId : hub.nextId = r.hub.nextId) (options : hub.options = r.hub.options) :
    { r with hub }.Sound where
  sizes := size.trans h.sizes
  ascending := ascending
  serving m hm := h.serving m (members m hm)
  numbered := h.numbered
  next := nextId.trans h.next
  options := options.trans h.options

theorem Sound.connect (h : r.Sound) (peer : String) (transport : Transport) (slot : Bool) :
    (r.connect peer transport slot).2.Sound where
  sizes := by simp [h.sizes]
  ascending := h.ascending
  serving := by
    intro m hm
    obtain ⟨phase, here, serving⟩ := h.serving m hm
    have below := task?_lt here
    exact ⟨phase, by rw [task?_connect, if_neg (Nat.ne_of_lt below)]; exact here, serving⟩
  numbered := by
    intro key id phase here
    rw [task?_connect] at here
    split at here
    · rename_i last
      obtain ⟨rfl, rfl⟩ := Prod.mk.inj (Option.some.inj here)
      rw [h.next, last]
    · exact h.numbered key id phase here
  next := by
    rw [connect_nextId, h.next, connect_size]
    exact ConnectionId.nth_next _
  options := h.options

/-- A task takes a step, or dies. -/
theorem Sound.update (h : r.Sound) {key : Nat} {c : Connection}
    (here : r.connections[key]? = some c) {next : Hub × Connection}
    (outline : Connection.Outline c r.hub key next) : (r.update key next.1 next.2).Sound := by
  have task := task?_of_some here
  have tasks := task?_update next.1 next.2 here
  obtain ⟨id, size, options, -, nextId⟩ := outline.frame
  -- A member of before is served as before, unless it belongs to this task.
  have keep : ∀ m ∈ r.hub.registry.members,
      (m.id = c.id → c.phase.isServing = true → next.2.phase.isServing = true) →
      ∃ phase, (r.update key next.1 next.2).task? m.queue = some (m.id, phase) ∧
        phase.isServing = true := by
    intro m hm own
    rw [tasks]
    split
    · rename_i this
      obtain ⟨same, serving⟩ := h.member hm (by rw [this]; exact task)
      exact ⟨next.2.phase, by rw [id, same], own same serving⟩
    · exact h.serving m hm
  have registered : next.1.registry.Ascending ∧ ∀ m ∈ next.1.registry.members,
      ∃ phase, (r.update key next.1 next.2).task? m.queue = some (m.id, phase) ∧
        phase.isServing = true := by
    cases outline with
    | stay _ own serving registry =>
      rw [registry]
      exact ⟨h.ascending, fun m hm => keep m hm fun _ was => serving.trans was⟩
    | join _ own waiting serving registry =>
      refine ⟨h.ascending.register registry, ?_⟩
      rw [(Registry.register_eq_ok_iff.mp registry).2.2]
      intro m hm
      rcases Registry.mem_insertById.mp hm with rfl | hm
      · exact ⟨next.2.phase, by rw [tasks, if_pos rfl, id], serving⟩
      · exact keep m hm fun _ was => absurd (waiting.symm.trans was) (by simp)
    | part _ own serving left registry =>
      rw [registry]
      refine ⟨h.ascending.unregister c.id, ?_⟩
      intro m hm
      obtain ⟨hm, apart⟩ := Registry.mem_unregister.mp hm
      exact keep m hm fun same _ => absurd same apart
    | @speak events hub₁ message _ own before after registry queues sender spoken =>
      have lost : next.1.registry = r.hub.registry.without (hub₁.broadcast message).2.failed := by
        rw [spoken, Hub.broadcast_registry, registry]
      rw [lost]
      exact ⟨h.ascending.without _, fun m hm => keep m (Registry.mem_without.mp hm).1
        fun _ _ => after⟩
  constructor
  · rw [update_hub, update_size, size, h.sizes]
  · rw [update_hub]
    exact registered.1
  · rw [update_hub]
    exact registered.2
  · intro k id' phase there
    rw [tasks] at there
    split at there
    · rename_i this
      obtain ⟨rfl, rfl⟩ := Prod.mk.inj (Option.some.inj there)
      rw [id, this]
      exact h.numbered key c.id c.phase task
    · exact h.numbered k id' phase there
  · rw [update_hub, update_size, nextId, h.next]
  · rw [update_hub, update_config, options, h.options]

theorem Sound.change (h : r.Sound) {a : Action} (change : Change r a r') : r'.Sound := by
  cases change with
  | calm _ calm => exact h.calm calm
  | @connect a upgrades peer transport slot =>
    have before : { r with upgrades }.Sound := h.calm (calm_of_eq rfl rfl rfl)
    exact before.connect peer transport slot
  | step here transition => exact h.update here transition.outline
  | abort here alive => exact h.update here (Connection.outline_die _)
  | unregister =>
    apply h.shrink
    · simp
    · simpa using h.ascending.unregister _
    · intro m hm
      rw [Hub.unregister_registry] at hm
      exact (Registry.mem_unregister.mp hm).1
    · simp
    · simp
  | endRegistry =>
    apply h.shrink
    · simp
    · simpa using Registry.ascending_close _
    · simp [Registry.close]
    · simp
    · simp
  | broadcast =>
    obtain ⟨options, -, nextId, -⟩ := Hub.broadcast_frame r.hub _
    apply h.shrink
    · exact Hub.broadcast_size _ _
    · rw [Hub.broadcast_registry]
      exact h.ascending.without _
    · intro m hm
      rw [Hub.broadcast_registry] at hm
      exact (Registry.mem_without.mp hm).1
    · exact nextId
    · exact options

end Preservation

theorem run_sound (config : RelayConfig) (actions : List Action) : (run config actions).Sound := by
  induction actions using List.reverseRecOn with
  | nil => exact ofConfig_sound config
  | append_singleton actions a ih =>
    rw [run_append]
    exact ih.change (act_change _ a)

end Relay

end ChatRelay
