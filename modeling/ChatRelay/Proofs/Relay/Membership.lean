import ChatRelay.Proofs.Labelled
import ChatRelay.Proofs.Relay.Stages

/-!
# Who is visible

A connection is in the registry from the moment at which its task has read the client's name and was
registered, until the task leaves or dies or someone removes it. It is registered at most once in
its life, and so it never comes back. Identities stand for connections as long as their counter has
not wrapped.
-/

namespace ChatRelay

namespace Connection

/-- A task becomes registered only by reading its client's name. -/
theorem Transition.admission {config : RelayConfig} {s : Surroundings} {c : Connection} {hub : Hub}
    {key : QueueKey} {b : Branch} {next : Hub × Connection}
    (h : Transition config s c hub key b next) (waiting : c.phase.isServing = false)
    (serving : next.2.phase.isServing = true) :
    b = .read ∧ ∃ deadline name rest registry, c.phase = .handshake deadline ∧
      c.transport.inbound = .text name :: rest ∧
      hub.registry.register ⟨c.id, name, key⟩ = .ok registry := by
  cases h with
  | @enter deadline name rest hub' tick phase inbound small registered scheduled =>
    obtain ⟨registry, done, -⟩ := Hub.register_eq_ok_iff.mp registered
    exact ⟨rfl, deadline, name, rest, registry, phase, inbound, by simpa using done⟩
  | leave reason => simp [reason.serving.1] at waiting
  | ignore phase => simp [phase, Phase.isServing] at serving
  | drop phase => simp [phase, Phase.isServing] at waiting
  | giveUp => simp [wrapUp, move, Phase.isServing] at serving
  | conclude => simp [Phase.isServing] at serving
  | _ => simp_all [Phase.isServing, move]

end Connection

namespace Relay

/-- The task of a connection is between its registration and its leaving. -/
def serves (r : Relay) (key : Nat) : Bool := (r.connections[key]?).any fun c => c.phase.isServing

def Admits (r : Relay) (a : Action) (key : Nat) : Prop :=
  a = .step key .read ∧ ∃ c deadline name rest registry, r.connections[key]? = some c ∧
    c.phase = .handshake deadline ∧ c.transport.inbound = .text name :: rest ∧
    r.hub.registry.register ⟨c.id, name, key⟩ = .ok registry

/-- Someone takes a connection out of the registry, by hand or because it could not be reached. -/
def Removes (a : Action) (told : List Event) (id : ConnectionId) : Prop :=
  a = .unregister id ∨ a = .endRegistry ∨
    ∃ message delivered failed, .broadcast message delivered failed ∈ told ∧ id ∈ failed

namespace Moment

def Admits (s : Moment) (key : Nat) : Prop := s.before.Admits s.action key

def Removes (s : Moment) (id : ConnectionId) : Prop := Relay.Removes s.action s.news id

end Moment

/-- Something began in a moment, and what was to hold since then held in all later ones. -/
def Since (began held : Moment → Prop) (history : List Moment) : Prop :=
  ∃ earlier s later, history = earlier ++ s :: later ∧ began s ∧ ∀ t ∈ later, held t

theorem since_nil (began held : Moment → Prop) : ¬ Since began held [] := by
  rintro ⟨earlier, s, later, same, -⟩
  simp at same

theorem since_append {began held : Moment → Prop} {history : List Moment} {s : Moment} :
    Since began held (history ++ [s]) ↔ began s ∨ Since began held history ∧ held s := by
  constructor
  · rintro ⟨earlier, t, later, same, start, since⟩
    rcases List.eq_nil_or_concat later with rfl | ⟨later, last, rfl⟩
    · obtain ⟨-, rfl⟩ := List.append_singleton_inj.mp same
      exact Or.inl start
    · rw [List.concat_eq_append, ← List.cons_append, ← List.append_assoc] at same
      obtain ⟨rfl, rfl⟩ := List.append_singleton_inj.mp same
      rw [List.concat_eq_append] at since
      exact Or.inr ⟨⟨earlier, t, later, rfl, start, fun u hu => since u (by simp [hu])⟩,
        since s (by simp)⟩
  · rintro (start | ⟨⟨earlier, t, later, rfl, start, since⟩, last⟩)
    · exact ⟨history, s, [], rfl, start, by simp⟩
    · refine ⟨earlier, t, later ++ [s], by simp, start, ?_⟩
      intro u hu
      rcases List.mem_append.mp hu with old | new
      · exact since u old
      · rw [List.mem_singleton.mp new]
        exact last

section Members

variable {r r' : Relay} {key : Nat}

theorem serves_iff : r.serves key = true ↔ r.rank key = 3 := by
  cases here : r.connections[key]? with
  | none => simp [serves, rank, task?, here]
  | some c => simp [serves, rank, task?, here, Phase.isServing_iff]

theorem serves_of_task (task : r'.task? key = r.task? key) : r'.serves key = r.serves key := by
  rw [Bool.eq_iff_iff, serves_iff, serves_iff, rank, rank, task]

theorem Admits.waiting {a : Action} (h : r.Admits a key) : r.serves key = false := by
  obtain ⟨-, c, deadline, name, rest, registry, here, phase, -, -⟩ := h
  simp [serves, here, phase, Phase.isServing]

theorem Sound.serves_of_holds (h : r.Sound) (held : r.hub.registry.holds key = true) :
    r.serves key = true := by
  obtain ⟨m, hm, rfl⟩ := Registry.holds_iff.mp held
  obtain ⟨phase, here, serving⟩ := h.serving m hm
  rw [serves_iff, rank_of_some here]
  exact Phase.isServing_iff.mp serving

theorem Sound.member_id (h : r.Sound) {m : Member} (hm : m ∈ r.hub.registry.members) :
    m.id = .nth m.queue ∧ m.queue < r.connections.size := by
  obtain ⟨phase, here, -⟩ := h.serving m hm
  exact ⟨h.numbered _ _ _ here, task?_lt here⟩

/-- As long as the identities are distinct, each stands for the connection at its place. -/
theorem Sound.contains_nth (h : r.Sound) (few : r.connections.size ≤ UInt64.size)
    (hk : key < UInt64.size) :
    r.hub.registry.contains (.nth key) = r.hub.registry.holds key := by
  rw [Bool.eq_iff_iff, Registry.contains_iff, Registry.holds_iff]
  constructor
  · rintro ⟨m, hm, same⟩
    obtain ⟨id, below⟩ := h.member_id hm
    exact ⟨m, hm, ConnectionId.nth_inj (Nat.lt_of_lt_of_le below few) hk (id.symm.trans same)⟩
  · rintro ⟨m, hm, rfl⟩
    exact ⟨m, hm, (h.member_id hm).1⟩

/-- Whoever does not serve its client is not registered. -/
theorem Sound.absent (h : r.Sound) (few : r.connections.size ≤ UInt64.size) {c : Connection}
    (here : r.connections[key]? = some c) (idle : c.phase.isServing = false) :
    r.hub.registry.contains c.id = false := by
  have task := task?_of_some here
  rw [h.numbered key _ _ task, h.contains_nth few (Nat.lt_of_lt_of_le (task?_lt task) few),
    ← Bool.not_eq_true]
  intro held
  have serving := h.serves_of_holds held
  rw [serves_iff, rank_of_some task, ← Phase.isServing_iff, idle] at serving
  cases serving

theorem removes_mild {a : Action} (mild : a.isRemoval = false) {told : List Event}
    {id : ConnectionId} : Removes a told id ↔
      ∃ message delivered failed, .broadcast message delivered failed ∈ told ∧ id ∈ failed := by
  constructor
  · rintro (rfl | rfl | removed)
    · cases mild
    · cases mild
    · exact removed
  · exact fun removed => Or.inr (Or.inr removed)

theorem not_removes_own {a : Action} (mild : a.isRemoval = false) (own id : ConnectionId)
    (events : List ConnectionEvent) : ¬ Removes a (events.map (Event.connection own)) id := by
  rw [removes_mild mild]
  rintro ⟨message, delivered, failed, told, -⟩
  obtain ⟨e, -, same⟩ := List.mem_map.mp told
  cases same

/-- An action after which the task of a connection is registered or not as it was before. -/
theorem holds_kept (sound : r.Sound) {a : Action} (serving : r'.serves key = r.serves key)
    {registry : Registry} {kept : Prop}
    (members : registry.holds key = true ↔ r.hub.registry.holds key = true ∧ kept) :
    registry.holds key = true ↔ r.Admits a key ∧ r'.serves key = true ∨
      r.hub.registry.holds key = true ∧ r'.serves key = true ∧ kept := by
  rw [members, serving]
  constructor
  · rintro ⟨held, kept⟩
    exact Or.inr ⟨held, sound.serves_of_holds held, kept⟩
  · rintro (⟨admitted, was⟩ | ⟨held, -, kept⟩)
    · rw [admitted.waiting] at was
      cases was
    · exact ⟨held, kept⟩

theorem holds_unregister (sound : r.Sound) {hub : Hub} {id : ConnectionId}
    (registry : hub.registry = r.hub.registry.unregister id) :
    hub.registry.holds key = true ↔ r.hub.registry.holds key = true ∧ .nth key ≠ id := by
  rw [registry, Registry.holds_iff, Registry.holds_iff]
  constructor
  · rintro ⟨m, hm, rfl⟩
    obtain ⟨hm, apart⟩ := Registry.mem_unregister.mp hm
    exact ⟨⟨m, hm, rfl⟩, (sound.member_id hm).1 ▸ apart⟩
  · rintro ⟨⟨m, hm, rfl⟩, apart⟩
    exact ⟨m, Registry.mem_unregister.mpr ⟨hm, (sound.member_id hm).1 ▸ apart⟩, rfl⟩

theorem holds_without (sound : r.Sound) {hub : Hub} {ids : List ConnectionId}
    (registry : hub.registry = r.hub.registry.without ids) :
    hub.registry.holds key = true ↔ r.hub.registry.holds key = true ∧ .nth key ∉ ids := by
  rw [registry, Registry.holds_iff, Registry.holds_iff]
  constructor
  · rintro ⟨m, hm, rfl⟩
    obtain ⟨hm, kept⟩ := Registry.mem_without.mp hm
    exact ⟨⟨m, hm, rfl⟩, (sound.member_id hm).1 ▸ kept⟩
  · rintro ⟨⟨m, hm, rfl⟩, kept⟩
    exact ⟨m, Registry.mem_without.mpr ⟨hm, (sound.member_id hm).1 ▸ kept⟩, rfl⟩

theorem serves_of_some {c : Connection} (here : r.connections[key]? = some c) :
    r.serves key = c.phase.isServing := by
  simp [serves, here]

theorem connection_of_serves (h : r.serves key = true) :
    ∃ c, r.connections[key]? = some c ∧ c.phase.isServing = true := by
  cases here : r.connections[key]? with
  | none => simp [serves, here] at h
  | some c => exact ⟨c, rfl, by rwa [serves_of_some here] at h⟩

theorem serves_update {c : Connection} (here : r.connections[key]? = some c) (hub : Hub)
    (c' : Connection) : (r.update key hub c').serves key = c'.phase.isServing := by
  rw [Bool.eq_iff_iff, serves_iff, rank_of_some (task?_update_self here hub c'),
    Phase.isServing_iff]

/-- What the step of a task means for who is visible: itself or another. -/
theorem outline_holds (sound : r.Sound) (few : r.connections.size ≤ UInt64.size)
    (hk : key < UInt64.size) {k : Nat} {c : Connection} (here : r.connections[k]? = some c)
    {next : Hub × Connection} (outline : Connection.Outline c r.hub k next) {a : Action}
    (mild : a.isRemoval = false)
    (admission : c.phase.isServing = false → next.2.phase.isServing = true → r.Admits a k) :
    ∃ told, next.1.story = r.hub.story ++ told ∧
      (next.1.registry.holds key = true ↔
        r.Admits a key ∧ (r.update k next.1 next.2).serves key = true ∨
        r.hub.registry.holds key = true ∧ (r.update k next.1 next.2).serves key = true ∧
          ¬ Removes a told (.nth key)) := by
  have task := task?_update next.1 next.2 here key
  have inBounds := task?_lt (task?_of_some here)
  have identity := sound.id_nth here
  -- The step leaves the task of the connection registered or not as it was.
  have steady : (k = key → next.2.phase.isServing = c.phase.isServing) →
      (r.update k next.1 next.2).serves key = r.serves key := by
    intro same
    by_cases own : key = k
    · subst own
      rw [serves_update here, same rfl, serves_of_some here]
    · rw [if_neg own] at task
      exact serves_of_task task
  cases outline with
  | stay _ own serving registry =>
    refine ⟨_, own.story, holds_kept sound (steady fun _ => serving) ?_⟩
    simp [registry, not_removes_own mild]
  | @join events name _ own waiting serving registry =>
    refine ⟨_, own.story, ?_⟩
    have holds : next.1.registry.holds key = true ↔ k = key ∨ r.hub.registry.holds key = true :=
      Registry.holds_register registry
    by_cases own : key = k
    · subst own
      have serves : (r.update key next.1 next.2).serves key = true := by
        rw [serves_update here, serving]
      simp [holds, serves, admission waiting serving]
    · refine holds_kept sound (steady fun same => absurd same.symm own) ?_
      rw [holds]
      simp [Ne.symm own, not_removes_own mild]
  | @part events _ own serving left registry =>
    refine ⟨_, own.story, ?_⟩
    have members : next.1.registry.holds key = true ↔
        r.hub.registry.holds key = true ∧ .nth key ≠ c.id := holds_unregister sound registry
    by_cases own : key = k
    · subst own
      have idle : (r.update key next.1 next.2).serves key = false := by
        rw [serves_update here, left]
      rw [members, identity]
      simp [idle]
    · refine holds_kept sound (steady fun same => absurd same.symm own) ?_
      have apart : ConnectionId.nth key ≠ c.id := by
        rw [identity]
        exact fun same => own (ConnectionId.nth_inj hk (Nat.lt_of_lt_of_le inBounds few) same)
      rw [members]
      simp [apart, not_removes_own mild]
  | @speak events hub₁ message _ own before after registry queues sender spoken =>
    refine ⟨_, by rw [spoken, (Hub.broadcast_frame _ _).2.2.2, own.story, List.append_assoc],
      holds_kept sound (steady fun _ => after.trans before.symm) ?_⟩
    have members : next.1.registry.holds key = true ↔ r.hub.registry.holds key = true ∧
        .nth key ∉ (hub₁.broadcast message).2.failed :=
      holds_without sound (by rw [spoken, Hub.broadcast_registry, registry])
    rw [members, removes_mild mild]
    simp

/-- What an action means for who is visible. -/
theorem Change.holds {a : Action} (change : Change r a r') (sound : r.Sound)
    (few : r.connections.size ≤ UInt64.size) (hk : key < UInt64.size) :
    ∃ told, r'.hub.story = r.hub.story ++ told ∧
      (r'.hub.registry.holds key = true ↔ r.Admits a key ∧ r'.serves key = true ∨
        r.hub.registry.holds key = true ∧ r'.serves key = true ∧ ¬ Removes a told (.nth key)) := by
  cases change with
  | calm mild calm =>
    refine ⟨[], by simp [calm.story], holds_kept sound (serves_of_task (calm.tasks key)) ?_⟩
    simp [calm.registry, removes_mild mild]
  | @connect a upgrades peer transport slot mild nobody =>
    refine ⟨[], by simp, holds_kept sound ?_ ?_⟩
    · have task := task?_connect { r with upgrades } peer transport slot key
      by_cases last : key = r.connections.size
      · rw [if_pos last] at task
        have before : r.serves key = false := by simp [serves, last]
        rw [before, ← Bool.not_eq_true, serves_iff, rank_of_some task]
        simp [Phase.rank]
      · rw [if_neg last] at task
        exact serves_of_task task
    · simp [removes_mild mild]
  | @step k b c next here transition =>
    rw [update_hub]
    refine outline_holds sound few hk here transition.outline rfl ?_
    intro waiting serving
    obtain ⟨rfl, deadline, name, rest, registry, facts⟩ := transition.admission waiting serving
    exact ⟨rfl, c, deadline, name, rest, registry, here, facts⟩
  | @abort k c here alive =>
    rw [update_hub]
    refine outline_holds sound few hk here (Connection.outline_die .aborted) rfl ?_
    intro _ serving
    simp [Phase.isServing] at serving
  | @unregister id =>
    refine ⟨[], by simp, holds_kept sound rfl ?_⟩
    have removed : Removes (.unregister id) [] (.nth key) ↔ id = .nth key := by simp [Removes]
    rw [holds_unregister sound (Hub.unregister_registry _ _), removed, ne_comm]
  | endRegistry =>
    refine ⟨[], by simp, holds_kept sound rfl ?_⟩
    simp [Removes, Registry.close]
  | @broadcast message =>
    refine ⟨_, (Hub.broadcast_frame _ _).2.2.2, holds_kept sound rfl ?_⟩
    rw [holds_without sound (Hub.broadcast_registry _ _), removes_mild rfl]
    simp

theorem Change.size_le {a : Action} (change : Change r a r') :
    r.connections.size ≤ r'.connections.size := by
  cases change with
  | calm _ calm => exact Nat.le_of_eq calm.size.symm
  | connect => simp
  | step here transition => simp
  | abort here alive => simp
  | unregister => exact Nat.le_refl _
  | endRegistry => exact Nat.le_refl _
  | broadcast => exact Nat.le_refl _

end Members

section Runs

variable (config : RelayConfig) (actions : List Action)

theorem size_le_run (more : List Action) :
    (run config actions).connections.size ≤ (run config (actions ++ more)).connections.size := by
  induction more using List.reverseRecOn with
  | nil => simp
  | append_singleton more a ih =>
    rw [← List.append_assoc, run_append]
    exact Nat.le_trans ih (act_change _ a).size_le

variable {config actions} {key : Nat}

theorem holds_append {a : Action} (few : (run config actions).connections.size ≤ UInt64.size)
    (hk : key < UInt64.size) :
    (run config (actions ++ [a])).hub.registry.holds key = true ↔
      (Moment.mk (run config actions) a).Admits key ∧
        (Moment.mk (run config actions) a).after.serves key = true ∨
      (run config actions).hub.registry.holds key = true ∧
        (Moment.mk (run config actions) a).after.serves key = true ∧
        ¬ (Moment.mk (run config actions) a).Removes (.nth key) := by
  obtain ⟨told, story, holds⟩ := (act_change (run config actions) a).holds
    (run_sound config actions) few hk
  have news : (Moment.mk (run config actions) a).news = told := Moment.news_eq story
  rw [run_append]
  simpa [Moment.Admits, Moment.Removes, news, Moment.after] using holds

theorem run_registered (few : (run config actions).connections.size ≤ UInt64.size)
    (hk : key < UInt64.size) :
    (run config actions).hub.registry.holds key = true ↔
      Since (fun s => s.Admits key ∧ s.after.serves key = true)
        (fun s => s.after.serves key = true ∧ ¬ s.Removes (.nth key)) (history config actions) := by
  induction actions using List.reverseRecOn with
  | nil =>
    have nobody : (run config []).hub.registry.holds key = false := rfl
    simp [nobody, history, historyFrom, since_nil]
  | append_singleton actions a ih =>
    have few' := Nat.le_trans (size_le_run config actions [a]) few
    rw [holds_append few' hk, history_append, since_append, ih few']

/-- Who was registered and is not any more, never is again. -/
theorem stays_gone {more : List Action}
    (few : (run config (actions ++ more)).connections.size ≤ UInt64.size) (hk : key < UInt64.size)
    (late : 3 ≤ (run config actions).rank key)
    (gone : (run config actions).hub.registry.holds key = false) :
    (run config (actions ++ more)).hub.registry.holds key = false := by
  induction more using List.reverseRecOn with
  | nil => simpa using gone
  | append_singleton more a ih =>
    rw [← List.append_assoc] at few ⊢
    have few' := Nat.le_trans (size_le_run config (actions ++ more) [a]) few
    rw [← Bool.not_eq_true, holds_append few' hk]
    rintro (⟨admitted, -⟩ | ⟨held, -⟩)
    · obtain ⟨-, c, deadline, -, -, -, here, phase, -⟩ := admitted
      have early := rank_of_some (task?_of_some here)
      have := rank_le_run config actions more key
      rw [early, phase] at this
      exact absurd (Nat.le_trans late this) (by simp [Phase.rank])
    · rw [ih few'] at held
      cases held

theorem mem_historyFrom {r : Relay} {s : Moment} (h : s ∈ historyFrom r actions) :
    ∃ earlier a later, actions = earlier ++ a :: later ∧ s = ⟨earlier.foldl act r, a⟩ := by
  induction actions generalizing r with
  | nil => simp [historyFrom] at h
  | cons first rest ih =>
    rcases List.mem_cons.mp h with rfl | h
    · exact ⟨[], first, rest, rfl, rfl⟩
    · obtain ⟨earlier, a, later, rfl, same⟩ := ih h
      exact ⟨first :: earlier, a, later, rfl, same⟩

theorem mem_history {s : Moment} (h : s ∈ history config actions) :
    ∃ earlier a later, actions = earlier ++ [a] ++ later ∧ s.before = run config earlier ∧
      s.after = run config (earlier ++ [a]) := by
  obtain ⟨earlier, a, later, rfl, rfl⟩ := mem_historyFrom h
  exact ⟨earlier, a, later, by simp, rfl, (run_append config earlier a).symm⟩

/-- Who was passed over at its handshake is at no time visible. -/
theorem never_served {s : Moment} (h : s ∈ history config actions)
    (before : s.before.rank key ≤ 2) (after : 4 ≤ s.after.rank key) {earlier : List Action}
    (within : earlier <+: actions) : (run config earlier).serves key = false := by
  obtain ⟨past, a, later, rfl, atBefore, atAfter⟩ := mem_history h
  rw [atBefore] at before
  rw [atAfter] at after
  rw [← Bool.not_eq_true, serves_iff]
  intro serving
  rcases List.prefix_or_prefix_of_prefix within (List.prefix_append (past ++ [a]) later) with
    ⟨more, same⟩ | ⟨more, same⟩
  · rcases List.eq_nil_or_concat more with rfl | ⟨more, last, rfl⟩
    · rw [List.append_nil] at same
      rw [← same, serving] at after
      omega
    · rw [List.concat_eq_append, ← List.append_assoc] at same
      have past := (List.append_singleton_inj.mp same).1
      have := rank_le_run config earlier more key
      rw [past] at this
      omega
  · have := rank_le_run config (past ++ [a]) more key
    rw [same] at this
    omega

/-- A snapshot that is kept was one of the registry. -/
theorem Effect.kept {r r' : Relay} {a : Action} (effect : Effect r a r')
    {entry : String × List Member} (h : entry ∈ r'.kept) :
    entry ∈ r.kept ∨ entry.2 = r.hub.registry.members := by
  cases effect with
  | keepSnapshot =>
    rcases Labelled.mem_put h with old | rfl
    · exact Or.inl old
    · exact Or.inr rfl
  | dropSnapshot => exact Or.inl (Labelled.mem_of_mem_erase h)
  | step => exact Or.inl (by simpa using h)
  | abort => exact Or.inl (by simpa using h)
  | _ => exact Or.inl h

theorem kept_seen {entry : String × List Member} (h : entry ∈ (run config actions).kept) :
    ∃ earlier, earlier <+: actions ∧ entry.2 = (run config earlier).hub.registry.members := by
  induction actions using List.reverseRecOn with
  | nil => simp [run, ofConfig] at h
  | append_singleton actions a ih =>
    rw [run_append] at h
    rcases (act_effect _ a).kept h with old | now
    · obtain ⟨earlier, within, seen⟩ := ih old
      exact ⟨earlier, within.trans (List.prefix_append _ _), seen⟩
    · exact ⟨actions, List.prefix_append _ _, now⟩

end Runs

def stage? (r : Relay) (key : Nat) : Option Stage :=
  (r.connections[key]?).map fun c => c.phase.stage

/-- Who is visible after a run, and how the tasks went. -/
structure Visibility (config : RelayConfig) (actions : List Action) : Prop where
  /-- A connection is registered if its task has read the client's name and was registered, serves
  the client since then, and was not removed since then. -/
  registered : ∀ (key : Nat) (c : Connection), (run config actions).connections[key]? = some c →
    ((run config actions).hub.registry.contains c.id = true ↔
      Since (fun s => s.Admits key ∧ s.after.serves key = true)
        (fun s => s.after.serves key = true ∧ ¬ s.Removes c.id) (history config actions))
  active : ∀ (key : Nat) (c : Connection), (run config actions).connections[key]? = some c →
    (run config actions).hub.registry.contains c.id = true → c.phase.stage = .active
  /-- Whose handshake ended in closing is in no snapshot, neither before nor after. -/
  unseen : ∀ (key : Nat) (c : Connection), (run config actions).connections[key]? = some c →
    ∀ s ∈ history config actions, s.before.stage? key = some .handshake →
    s.after.stage? key = some .closing → ∀ earlier, earlier <+: actions →
    (run config earlier).hub.registry.contains c.id = false ∧
      ∀ entry ∈ (run config earlier).kept, ∀ m ∈ entry.2, m.id ≠ c.id
  once : ((run config actions).hub.registry.members.map Member.id).Nodup
  /-- Who left does not come back. -/
  gone : ∀ s ∈ history config actions, ∀ id, s.before.hub.registry.contains id = true →
    s.after.hub.registry.contains id = false →
    (run config actions).hub.registry.contains id = false
  /-- The task came to where it stands on one of the two ways. -/
  stages : ∀ (key : Nat) (c : Connection), (run config actions).connections[key]? = some c →
    c.phase.Passed (moves key (history config actions)) ∧
      (moves key (history config actions) <+: Stage.shortWay ∨
        moves key (history config actions) <+: Stage.longWay)

section Theorem

variable {config : RelayConfig} {actions : List Action} {key : Nat} {c : Connection}

theorem few_earlier (few : (run config actions).connections.size ≤ UInt64.size)
    {earlier : List Action} (within : earlier <+: actions) :
    (run config earlier).connections.size ≤ UInt64.size := by
  obtain ⟨more, rfl⟩ := within
  exact Nat.le_trans (size_le_run config earlier more) few

theorem id_eq_nth (here : (run config actions).connections[key]? = some c) : c.id = .nth key :=
  (run_sound config actions).id_nth here

theorem rank_of_handshake {r : Relay} (h : r.stage? key = some .handshake) : r.rank key ≤ 2 := by
  cases here : r.connections[key]? with
  | none => simp [rank, task?, here]
  | some c => cases phase : c.phase <;> simp_all [stage?, rank, task?, Phase.stage, Phase.rank]

theorem rank_of_closing {r : Relay} (h : r.stage? key = some .closing) : 4 ≤ r.rank key := by
  cases here : r.connections[key]? with
  | none => simp [stage?, here] at h
  | some c => cases phase : c.phase <;> simp_all [stage?, rank, task?, Phase.stage, Phase.rank]

/-- In every run: a connection is visible while it is registered and serves its client, and at no
other time. The counter of identities has 64 bits; as long as it has not wrapped, no identity is
handed out twice. -/
theorem run_visibility (config : RelayConfig) (actions : List Action)
    (few : (run config actions).connections.size ≤ UInt64.size) : Visibility config actions := by
  have sound := run_sound config actions
  have inRange : ∀ {key} {c : Connection}, (run config actions).connections[key]? = some c →
      key < UInt64.size :=
    fun here => Nat.lt_of_lt_of_le (task?_lt (task?_of_some here)) few
  constructor
  · intro key c here
    rw [id_eq_nth here, sound.contains_nth few (inRange here)]
    exact run_registered few (inRange here)
  · intro key c here registered
    rw [id_eq_nth here, sound.contains_nth few (inRange here)] at registered
    have serving := sound.serves_of_holds registered
    rw [serves_of_some here] at serving
    cases phase : c.phase <;> simp_all [Phase.isServing, Phase.stage]
  · intro key c here s hs before after earlier within
    have unserved : ∀ earlier, earlier <+: actions → (run config earlier).serves key = false := by
      intro earlier within
      exact never_served hs (rank_of_handshake before) (rank_of_closing after) within
    have unseen : ∀ earlier, earlier <+: actions →
        (run config earlier).hub.registry.contains c.id = false := by
      intro earlier within
      rw [id_eq_nth here, (run_sound config earlier).contains_nth (few_earlier few within)
        (inRange here), ← Bool.not_eq_true]
      intro held
      have := (run_sound config earlier).serves_of_holds held
      rw [unserved earlier within] at this
      cases this
    refine ⟨unseen earlier within, ?_⟩
    intro entry kept m hm same
    obtain ⟨past, before, seen⟩ := kept_seen kept
    have absent := unseen past (before.trans within)
    rw [← Bool.not_eq_true, Registry.contains_iff] at absent
    exact absent ⟨m, seen ▸ hm, same⟩
  · exact sound.ascending.ids_nodup
  · intro s hs id before after
    obtain ⟨earlier, a, later, rfl, atBefore, atAfter⟩ := mem_history hs
    rw [atBefore] at before
    rw [atAfter] at after
    have soundBefore := run_sound config earlier
    obtain ⟨m, hm, rfl⟩ := Registry.contains_iff.mp before
    obtain ⟨identity, below⟩ := soundBefore.member_id hm
    have fewAfter := few_earlier few (List.prefix_append (earlier ++ [a]) later)
    have hk : m.queue < UInt64.size :=
      Nat.lt_of_lt_of_le below (Nat.le_trans (size_le_run config earlier [a]) fewAfter)
    have late : 3 ≤ (run config (earlier ++ [a])).rank m.queue := by
      have serving := soundBefore.serves_of_holds (Registry.holds_iff.mpr ⟨m, hm, rfl⟩)
      have later := rank_le_run config earlier [a] m.queue
      rw [serves_iff.mp serving] at later
      exact later
    rw [identity, (run_sound _ _).contains_nth fewAfter hk] at after
    rw [identity, sound.contains_nth few hk]
    exact stays_gone few hk late after
  · intro key c here
    have passed := (passed_of_some (task?_of_some here)).mp (run_passed config actions key)
    exact ⟨passed, passed.beginning⟩

end Theorem

/-- Alice stays, Bob is removed and closes, and Carol goes before she has said her name. -/
def mixedFates : List Action :=
  [.connect "a" {}, .connect "b" {}, .connect "c" {}, .step 0 .start, .step 1 .start,
    .step 2 .start, .arrive 0 (.text "alice"), .arrive 1 (.text "bob"), .step 0 .read,
    .step 1 .read, .keepSnapshot "both", .unregister ⟨2⟩, .hangUp 2, .step 2 .read,
    .dropSnapshot "both", .step 1 .take]

theorem run_visibility_mixedFates :
    let r := run {} mixedFates
    r.connections.size ≤ UInt64.size ∧ r.hub.registry.members.map Member.id = [⟨1⟩] ∧
      r.stage? 0 = some .active ∧ r.stage? 1 = some .closing ∧ r.stage? 2 = some .closing ∧
      moves 1 (history {} mixedFates) = Stage.longWay ∧
      moves 2 (history {} mixedFates) = Stage.shortWay ∧ Visibility {} mixedFates :=
  ⟨by decide, by decide, by decide, by decide, by decide, by decide, by decide,
    run_visibility {} mixedFates (by decide)⟩

end Relay

end ChatRelay
