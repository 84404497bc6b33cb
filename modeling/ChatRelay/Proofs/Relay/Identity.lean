import ChatRelay.Proofs.Relay.Crowd

/-!
# Identities

A connection is removed from the registry by its identity, and this is asked for from several
places, late perhaps and more than once: by the task itself when it leaves or dies, and by every
broadcast that could not reach it. Nobody else is hurt by that, since the identities ascend in the
order in which the connections were accepted, until their counter wraps.
-/

namespace ChatRelay

/-- What the task closes or has returned with. -/
def Phase.result? : Phase → Option ConnectionFault
  | .closing result _ _ => result
  | .ended (.returned fault) => fault
  | _ => none

namespace Connection

section Transition

variable {config : RelayConfig} {s : Surroundings} {c : Connection} {hub : Hub} {key : QueueKey}
  {b : Branch} {next : Hub × Connection}

/-- A task is told that its connection is registered already only if somebody has its identity. -/
theorem Transition.refusal (h : Transition config s c hub key b next) {id : ConnectionId}
    (refused : next.2.phase.result? = some (.refused (.present id))) :
    c.phase.result? = some (.refused (.present id)) ∨
      c.phase.isServing = false ∧ hub.registry.contains c.id = true := by
  cases h with
  | @giveUp deadline b meters c' remarks result phase reason =>
    cases reason with
    | refused inbound small error =>
      simp only [wrapUp, move, Phase.result?, Option.some.injEq, ConnectionFault.refused.injEq]
        at refused
      exact Or.inr ⟨by rw [phase]; rfl, Registry.contains_of_present (refused ▸ error)⟩
    | _ => simp [wrapUp, move, Phase.result?] at refused
  | leave reason => cases reason <;> simp [Connection.leave, wrapUp, move, Phase.result?] at refused
  | _ => simp_all [Phase.result?, move, prepare, die]

/-- Only a task that reads a line takes others than itself out of the registry. -/
theorem Transition.keeps (h : Transition config s c hub key b next) {m : Member}
    (hm : m ∈ hub.registry.members) (other : m.id ≠ c.id) :
    m ∈ next.1.registry.members ∨ b = .read ∧ ∃ session text rest, c.phase = .active session ∧
      c.transport.inbound = .text text :: rest := by
  cases h with
  | line phase inbound => exact Or.inr ⟨rfl, _, _, _, phase, inbound⟩
  | enter phase inbound small registered scheduled =>
    obtain ⟨registry, done, rfl⟩ := Hub.register_eq_ok_iff.mp registered
    obtain ⟨-, -, rfl⟩ := Registry.register_eq_ok_iff.mp done
    left
    simpa [note, Registry.mem_insertById] using Or.inr hm
  | enterLate phase inbound small registered late =>
    obtain ⟨registry, done, rfl⟩ := Hub.register_eq_ok_iff.mp registered
    obtain ⟨-, -, rfl⟩ := Registry.register_eq_ok_iff.mp done
    left
    simp [die_registry, Phase.isServing, note, Registry.mem_unregister, Registry.mem_insertById,
      hm, other]
  | tooLarge phase inbound large =>
    left
    simpa [die_registry, phase, Phase.isServing] using hm
  | take phase taken =>
    obtain ⟨q, rest, -, -, rfl⟩ := Hub.take?_eq_some_iff.mp taken
    exact Or.inl hm
  | leave reason =>
    obtain ⟨-, id, -⟩ := reason.serving
    left
    rw [leave_eq, wrapUp_registry, Hub.unregister_registry, noteAll_registry, id]
    exact Registry.mem_unregister.mpr ⟨hm, other⟩
  | _ =>
    left
    simpa [move, note, prepare] using hm

end Transition

end Connection

namespace Relay

/-- The handles are of connections of the relay, and in the order in which these were accepted. -/
structure Lists (r : Relay) (ms : List Member) : Prop where
  ordered : (ms.map Member.queue).Pairwise (· < ·)
  owned : ∀ m ∈ ms, ∃ c, r.connections[m.queue]? = some c ∧ c.id = m.id

/-- The handles have the identities of their places, in ascending order. -/
structure Numbers (r : Relay) (ms : List Member) : Prop where
  ascending : ms.Pairwise fun a b => a.id < b.id
  placed : ∀ m ∈ ms, m.id = .nth m.queue ∧ m.queue < r.connections.size

/-- No task has been told that its connection is registered already. -/
def Welcome (r : Relay) : Prop :=
  ∀ key id phase, r.task? key = some (id, phase) →
    ∀ other, phase.result? ≠ some (.refused (.present other))

section Numbers

variable {r r' : Relay} {ms : List Member}

theorem Numbers.mono (h : r.Numbers ms) (more : r.connections.size ≤ r'.connections.size) :
    r'.Numbers ms where
  ascending := h.ascending
  placed m hm := (h.placed m hm).imp_right fun place => Nat.lt_of_lt_of_le place more

theorem Sound.numbers (h : r.Sound) : r.Numbers r.hub.registry.members where
  ascending := h.ascending
  placed _ hm := h.member_id hm

/-- Handles that ascend in their identities are in the order of their places. -/
theorem Numbers.lists (h : r.Numbers ms) (sound : r.Sound)
    (few : r.connections.size < UInt64.size) : r.Lists ms := by
  constructor
  · rw [List.pairwise_map]
    refine h.ascending.imp_of_mem ?_
    intro a b ha hb below
    obtain ⟨idA, placeA⟩ := h.placed a ha
    obtain ⟨idB, placeB⟩ := h.placed b hb
    rw [idA, idB] at below
    exact (ConnectionId.nth_lt_iff (Nat.lt_of_le_of_lt placeA few)
      (Nat.lt_of_le_of_lt placeB few)).mp below
  · intro m hm
    obtain ⟨id, place⟩ := h.placed m hm
    have here := Array.getElem?_eq_getElem place
    exact ⟨_, here, (sound.id_nth here).trans id.symm⟩

/-- The identities ascend in the order in which the connections were accepted. -/
theorem Sound.ids_ascending (h : r.Sound) (few : r.connections.size < UInt64.size) :
    (r.connections.toList.map Connection.id).Pairwise (· < ·) := by
  rw [List.pairwise_iff_getElem]
  intro i j hi hj below
  simp only [List.length_map, Array.length_toList] at hi hj
  have idI := h.id_nth (Array.getElem?_eq_getElem hi)
  have idJ := h.id_nth (Array.getElem?_eq_getElem hj)
  simp only [List.getElem_map, Array.getElem_toList, idI, idJ]
  exact (ConnectionId.nth_lt_iff (by omega) (by omega)).mpr below

/-- The entry of an identity is that of the connection at its place. -/
theorem Sound.queue_eq (h : r.Sound) (few : r.connections.size < UInt64.size) {m : Member}
    (hm : m ∈ r.hub.registry.members) {key : Nat} (inBounds : key < r.connections.size)
    (same : m.id = .nth key) : m.queue = key := by
  obtain ⟨id, place⟩ := h.member_id hm
  exact ConnectionId.nth_inj (Nat.lt_trans place few) (Nat.lt_trans inBounds few)
    (id.symm.trans same)

/-- Whoever looks for the connection of an entry finds it. -/
theorem Sound.findIdx?_id (h : r.Sound) (few : r.connections.size < UInt64.size) {m : Member}
    (hm : m ∈ r.hub.registry.members) :
    r.connections.findIdx? (fun c => c.id == m.id) = some m.queue := by
  obtain ⟨id, place⟩ := h.member_id hm
  rw [Array.findIdx?_eq_some_iff_getElem]
  refine ⟨place, ?_, ?_⟩
  · rw [h.id_nth (Array.getElem?_eq_getElem place), id]
    exact beq_self_eq_true _
  · intro k below same
    have inBounds := Nat.lt_trans below place
    have first : m.queue = k := h.queue_eq few hm inBounds
      ((beq_iff_eq.mp same).symm.trans (h.id_nth (Array.getElem?_eq_getElem inBounds)))
    exact Nat.ne_of_gt below first

end Numbers

section Change

variable {r r' : Relay} {a : Action}

/-- Apart from broadcasts, a task takes nobody out of the registry but itself, and whoever does so
from outside names the identity or ends the registry. -/
theorem Change.lost (change : Change r a r') (sound : r.Sound)
    (few : r.connections.size < UInt64.size) (silent : r.opening? a = none) {m : Member}
    (hm : m ∈ r.hub.registry.members) (gone : m ∉ r'.hub.registry.members) :
    a.actor? = some m.queue ∨ a = .unregister m.id ∨ a = .endRegistry := by
  have own {key : Nat} {c : Connection} (here : r.connections[key]? = some c)
      (same : m.id = c.id) : some key = some m.queue := by
    rw [sound.queue_eq few hm (task?_lt (task?_of_some here)) (same.trans (sound.id_nth here))]
  cases change with
  | calm _ calm => exact absurd (calm.registry ▸ hm) gone
  | connect => exact absurd hm gone
  | @step key b c next here transition =>
    rw [update_hub] at gone
    by_cases same : m.id = c.id
    · exact Or.inl (own here same)
    · rcases transition.keeps hm same with kept | ⟨rfl, session, text, rest, phase, inbound⟩
      · exact absurd kept gone
      · exact absurd (Option.map_eq_none_iff.mp silent) (hear?_of_line here phase inbound)
  | @abort key c here alive =>
    rw [update_hub, Connection.die_registry] at gone
    split at gone
    · exact Or.inl (own here (Registry.id_of_unregister hm gone))
    · exact absurd hm gone
  | @unregister id =>
    rw [Hub.unregister_registry] at gone
    exact Or.inr (Or.inl (by rw [Registry.id_of_unregister hm gone]))
  | endRegistry => exact Or.inr (Or.inr rfl)
  | broadcast => cases silent

/-- An identity is registered by its own task, so no task finds its own taken. -/
theorem Change.welcome (change : Change r a r') (sound : r.Sound)
    (few : r.connections.size ≤ UInt64.size) (welcome : r.Welcome) : r'.Welcome := by
  intro key id phase there other refused
  by_cases own : a.actor? = some key
  · rcases change.task_own own with ⟨task, -⟩ | ⟨c, next, here, rfl, step⟩
    · exact welcome key id phase (task ▸ there) other refused
    · rw [task?_update_self here] at there
      obtain ⟨-, rfl⟩ := Prod.mk.inj (Option.some.inj there)
      rcases step with ⟨b, -, transition⟩ | ⟨rfl, -⟩
      · rcases transition.refusal refused with before | ⟨idle, taken⟩
        · exact welcome key _ _ (task?_of_some here) other before
        · rw [sound.absent few here idle] at taken
          cases taken
      · cases refused
  · rcases change.task_other own with task | ⟨-, id', task⟩
    · exact welcome key id phase (task ▸ there) other refused
    · rw [task] at there
      obtain ⟨-, rfl⟩ := Prod.mk.inj (Option.some.inj there)
      cases refused

theorem Welcome.opening {speaker : Option Nat} {message : Message} (welcome : r.Welcome)
    (opens : r.opening? a = some (r', speaker, message)) : r'.Welcome := by
  rcases opening_cases opens with rfl | ⟨key, c, next, session, here, rfl, -, -, active⟩
  · exact welcome
  · intro k id phase there other refused
    rw [task?_update _ _ here] at there
    split at there
    · obtain ⟨-, rfl⟩ := Prod.mk.inj (Option.some.inj there)
      rw [active] at refused
      cases refused
    · exact welcome k id phase there other refused

end Change

end Relay

namespace Speech

/-- What a broadcast does to the hub apart from the queues: it asks for one removal at most. -/
theorem advance_frame (p : Speech) (h : Hub) :
    let after := (p.advance h).1
    after.queues.size = h.queues.size ∧ after.options = h.options ∧ after.nextId = h.nextId ∧
      (after.registry = h.registry ∨ ∃ id rest, p.round.progress = .removing (id :: rest) ∧
        after.registry = h.registry.unregister id) := by
  cases progress : p.round.progress with
  | offering rest =>
    cases rest with
    | nil =>
      rw [advance_drop h progress]
      exact ⟨rfl, rfl, rfl, Or.inl rfl⟩
    | cons m rest =>
      rw [advance_offer h progress]
      obtain ⟨registry, options, -, nextId, -⟩ := Hub.deliverTo_frame h p.round.message.sender
        (h.rendered p.round.message) p.round.report m
      exact ⟨Hub.deliverTo_size _ _ _ _ _, options, nextId, Or.inl registry⟩
  | removing rest =>
    cases rest with
    | nil =>
      rw [advance_finish h progress]
      obtain ⟨registry, queues, options, -, nextId, -⟩ :=
        Hub.account_frame h p.round.message p.round.report
      exact ⟨by rw [queues], options, nextId, Or.inl registry⟩
    | cons id rest =>
      rw [advance_remove h progress]
      exact ⟨by simp, by simp, by simp, Or.inr ⟨id, rest, rfl, by simp⟩⟩

theorem advance_sound {r : Relay} (sound : r.Sound) (p : Speech) :
    { r with hub := (p.advance r.hub).1 }.Sound := by
  obtain ⟨size, options, nextId, same | ⟨id, rest, -, removed⟩⟩ := p.advance_frame r.hub
  · exact sound.shrink size (same ▸ sound.ascending) (fun m hm => same ▸ hm) nextId options
  · refine sound.shrink size ?_ ?_ nextId options
    · rw [removed]
      exact sound.ascending.unregister id
    · rw [removed]
      exact fun m hm => (Registry.mem_unregister.mp hm).1

/-- The broadcast deals with those of its snapshot alone, and removes whom it could not reach. -/
structure Fair (p : Speech) (r : Relay) : Prop where
  snapshot : r.Numbers p.snapshot
  owed : ∀ m ∈ p.round.owed, m ∈ p.snapshot
  refused : ∀ m ∈ p.refused, m ∈ p.snapshot
  condemned : p.round.condemned = p.refused.map Member.id

section Fair

variable {p p' : Speech} {r r' : Relay}

theorem Fair.mono (fair : p.Fair r) (more : r.connections.size ≤ r'.connections.size) :
    p.Fair r' :=
  ⟨fair.snapshot.mono more, fair.owed, fair.refused, fair.condemned⟩

theorem start_fair (sound : r.Sound) (speaker : Option Nat) (message : Message) :
    (start r.hub speaker message).Fair r where
  snapshot := sound.numbers
  owed _ hm := (Hub.mem_recipients.mp hm).1
  refused _ hm := by cases hm
  condemned := rfl

theorem Fair.advance (fair : p.Fair r) (h : Hub) (next : (p.advance h).2 = some p') :
    p'.Fair r := by
  obtain ⟨snapshot, owed, refused, condemned⟩ := fair
  cases progress : p.round.progress with
  | offering rest =>
    simp only [Round.owed, progress] at owed
    simp only [Round.condemned, progress] at condemned
    cases rest with
    | nil =>
      rw [advance_drop h progress] at next
      obtain rfl := Option.some.inj next
      exact ⟨snapshot, fun _ hm => (nomatch hm), refused, condemned⟩
    | cons m rest =>
      rw [advance_offer h progress] at next
      obtain rfl := Option.some.inj next
      refine ⟨snapshot, fun x hx => owed x (List.mem_cons_of_mem _ hx), ?_, ?_⟩
      · intro x hx
        dsimp only at hx
        split at hx
        · exact refused x hx
        · rcases List.mem_append.mp hx with old | new
          · exact refused x old
          · rw [List.mem_singleton.mp new]
            exact owed m List.mem_cons_self
      · dsimp only [Round.condemned]
        rw [Hub.deliverTo_report]
        split <;> simp [condemned]
  | removing rest =>
    simp only [Round.condemned, progress] at condemned
    cases rest with
    | nil =>
      rw [advance_finish h progress] at next
      cases next
    | cons id rest =>
      rw [advance_remove h progress] at next
      obtain rfl := Option.some.inj next
      refine ⟨snapshot, fun _ hm => (nomatch hm), ?_, ?_⟩
      · exact fun x hx => refused x (List.mem_of_mem_tail hx)
      · dsimp only [Round.condemned]
        rw [List.map_tail, ← condemned, List.tail_cons]

end Fair

end Speech

namespace Crowd

/-- The place of the connection that an action is to take out of the registry, if it takes one out:
the task that acts or dies, the connection of an identity that is asked for from outside, or the
one that a broadcast could not reach and removes next. -/
def target? (s : Crowd) : Action → Option Nat
  | .act (.unregister id) => s.relay.connections.findIdx? fun c => c.id == id
  | .act a => a.actor?
  | .proceed place => (s.speeches[place]?).bind fun p => p.refused.head?.map Member.queue

/-- Who is known in a crowd. -/
structure Orderly (s : Crowd) : Prop where
  sound : s.relay.Sound
  kept : ∀ entry ∈ s.relay.kept, s.relay.Numbers entry.2
  fair : ∀ p ∈ s.speeches, p.Fair s.relay
  welcome : s.relay.connections.size ≤ UInt64.size → s.relay.Welcome

section Orderly

variable {s s' : Crowd} {a : Action}

theorem Move.size_le (move : Move s a s') :
    s.relay.connections.size ≤ s'.relay.connections.size := by
  cases move with
  | stay => exact Nat.le_refl _
  | happen => exact (Relay.act_change _ _).size_le
  | speak opens => exact Nat.le_of_eq (Relay.opening_frame opens).2.2.symm
  | proceed there relay => exact Nat.le_of_eq (by simp [relay])

theorem Orderly.move (h : s.Orderly) (move : Move s a s') : s'.Orderly := by
  have more := move.size_le
  obtain ⟨sound, kept, fair, welcome⟩ := h
  cases move with
  | stay => exact ⟨sound, kept, fair, welcome⟩
  | @happen a silent =>
    have change := Relay.act_change s.relay a
    refine ⟨sound.change change, ?_, fun p hp => (fair p hp).mono more, ?_⟩
    · intro entry hentry
      rcases (Relay.act_effect s.relay a).kept hentry with old | new
      · exact (kept entry old).mono more
      · rw [new]
        exact sound.numbers.mono more
    · intro few
      have before := Nat.le_trans more few
      exact change.welcome sound before (welcome before)
  | @speak a relay speaker message opens =>
    obtain ⟨-, same, size⟩ := Relay.opening_frame opens
    have sound' := sound.opening opens
    refine ⟨sound', ?_, ?_, fun few => (welcome (size ▸ few)).opening opens⟩
    · intro entry hentry
      exact (kept entry (same ▸ hentry)).mono more
    · intro p hp
      rcases List.mem_append.mp hp with old | new
      · exact (fair p old).mono more
      · rw [List.mem_singleton.mp new]
        exact Speech.start_fair sound' speaker message
  | @proceed place p s' there relay speeches =>
    have known := fair p (List.mem_of_getElem? there)
    refine ⟨relay ▸ Speech.advance_sound sound p, ?_, ?_, ?_⟩
    · intro entry hentry
      rw [relay] at hentry
      exact (kept entry hentry).mono more
    · intro q hq
      rcases speeches q hq with old | next
      · exact (fair q old).mono more
      · exact (known.advance s.relay.hub next).mono more
    · rw [relay]
      exact welcome

theorem run_orderly (config : RelayConfig) (actions : List Action) :
    (run config actions).Orderly := by
  induction actions using List.reverseRecOn with
  | nil =>
    refine ⟨Relay.ofConfig_sound config, fun _ h => (nomatch h), fun _ h => (nomatch h), ?_⟩
    intro _ key id phase there
    simp [run, Relay.ofConfig, Relay.task?] at there
  | append_singleton actions a ih =>
    rw [run_append]
    exact ih.move (act_move _ a)

/-- Whom an action takes out of the registry is whom it is to take out. -/
theorem Orderly.spares (h : s.Orderly) (few : s.relay.connections.size < UInt64.size)
    (move : Move s a s') (goingOn : a ≠ .act .endRegistry) {m : Member}
    (hm : m ∈ s.relay.hub.registry.members) (gone : m ∉ s'.relay.hub.registry.members) :
    s.target? a = some m.queue := by
  obtain ⟨sound, -, fair, -⟩ := h
  cases move with
  | stay => exact absurd hm gone
  | @happen a silent =>
    rcases (Relay.act_change s.relay a).lost sound few silent hm gone with own | rfl | rfl
    · cases a <;> first | exact own | cases own
    · exact sound.findIdx?_id few hm
    · exact absurd rfl goingOn
  | speak opens =>
    exact absurd ((Relay.opening_frame opens).1 ▸ hm) gone
  | @proceed place p s' there relay speeches =>
    have known := fair p (List.mem_of_getElem? there)
    rw [relay] at gone
    obtain ⟨-, -, -, same | ⟨id, rest, progress, removed⟩⟩ := p.advance_frame s.relay.hub
    · exact absurd (same ▸ hm) gone
    · -- The identity that is removed is that of the first handle that is still to be removed.
      have condemned := known.condemned
      simp only [Round.condemned, progress] at condemned
      obtain ⟨v, later, handles, rfl, -⟩ := List.map_eq_cons_iff.mp condemned.symm
      have own : m.id = v.id := Registry.id_of_unregister hm (removed ▸ gone)
      obtain ⟨id, place⟩ := known.snapshot.placed v (known.refused v (by simp [handles]))
      rw [sound.queue_eq few hm place (own.trans id)]
      simp [target?, there, handles]

/-- Whom a broadcast removes is not registered any more. -/
theorem Orderly.removes (h : s.Orderly) {place : Nat} {p : Speech} {v : Member}
    {ids : List ConnectionId} (there : s.speeches[place]? = some p)
    (progress : p.round.progress = .removing ids) (next : p.refused.head? = some v) {m : Member}
    (hm : m ∈ (s.act (.proceed place)).relay.hub.registry.members) : m.queue ≠ v.queue := by
  intro same
  have known := h.fair p (List.mem_of_getElem? there)
  obtain ⟨rest, handles⟩ := List.head?_eq_some_iff.mp next
  have condemned := known.condemned
  simp only [Round.condemned, progress, handles, List.map_cons] at condemned
  have after : (s.act (.proceed place)).relay.hub.registry =
      s.relay.hub.registry.unregister v.id := by
    rw [act, proceed_relay there, Speech.advance_remove _ (progress.trans (by rw [condemned]))]
    exact Hub.unregister_registry _ _
  rw [after] at hm
  obtain ⟨hm, other⟩ := Registry.mem_unregister.mp hm
  obtain ⟨id, -⟩ := known.snapshot.placed v (known.refused v (by simp [handles]))
  exact other ((h.sound.member_id hm).1.trans (by rw [same, id]))

end Orderly

/-- Who is who in a crowd, and who is removed by what happens next. -/
structure Identified (s : Crowd) : Prop where
  /-- A connection that was accepted later has a larger identity. -/
  ascending : (s.relay.connections.toList.map Connection.id).Pairwise (· < ·)
  distinct : (s.relay.connections.toList.map Connection.id).Nodup
  visible : s.relay.Lists s.relay.hub.registry.members
  kept : ∀ entry ∈ s.relay.kept, s.relay.Lists entry.2
  snapshots : ∀ p ∈ s.speeches, s.relay.Lists p.snapshot
  /-- No task is told that its connection is registered already. -/
  admitted : ∀ c ∈ s.relay.connections, ∀ id, c.phase.result? ≠ some (.refused (.present id))
  /-- A broadcast removes the identities of those in its snapshot that could not take the text. -/
  condemned : ∀ p ∈ s.speeches, p.round.condemned = p.refused.map Member.id ∧
    ∀ m ∈ p.refused, m ∈ p.snapshot
  /-- Unless the registry ends, the entry that goes is the one that is to go. -/
  spared : ∀ a, a ≠ .act .endRegistry → ∀ m ∈ s.relay.hub.registry.members,
    m ∉ (s.act a).relay.hub.registry.members → s.target? a = some m.queue
  /-- And it does go, if a broadcast is to remove it. -/
  removed : ∀ place p ids v, s.speeches[place]? = some p → p.round.progress = .removing ids →
    p.refused.head? = some v →
    ∀ m ∈ (s.act (.proceed place)).relay.hub.registry.members, m.queue ≠ v.queue
  /-- A task that does not serve its client has no entry. -/
  released : ∀ key c, s.relay.connections[key]? = some c → c.phase.isServing = false →
    ∀ m ∈ s.relay.hub.registry.members, m.queue ≠ key

/-- In every run, whatever comes in between the steps of broadcasts: until the counter wraps, an
identity stands for one connection, and removals by identity meet nobody else, be they late or made
again. An identity that is never used is that of a connection whose task takes no step. -/
theorem run_identified {config : RelayConfig} {actions : List Action}
    (few : (run config actions).relay.connections.size < UInt64.size) :
    (run config actions).Identified := by
  obtain ⟨sound, kept, fair, welcome⟩ := run_orderly config actions
  have ascending := sound.ids_ascending few
  constructor
  case ascending => exact ascending
  case distinct => exact ascending.imp ConnectionId.ne_of_lt
  case visible => exact sound.numbers.lists sound few
  case kept => exact fun entry hentry => (kept entry hentry).lists sound few
  case snapshots => exact fun p hp => (fair p hp).snapshot.lists sound few
  case admitted =>
    intro c hc id
    obtain ⟨key, inBounds, rfl⟩ := Array.mem_iff_getElem.mp hc
    exact welcome (Nat.le_of_lt few) key _ _
      (Relay.task?_of_some (Array.getElem?_eq_getElem inBounds)) id
  case condemned => exact fun p hp => ⟨(fair p hp).condemned, (fair p hp).refused⟩
  case spared =>
    intro a goingOn m hm gone
    exact (run_orderly config actions).spares few (act_move _ a) goingOn hm gone
  case removed =>
    intro place p ids v there progress next m hm
    exact (run_orderly config actions).removes there progress next hm
  case released =>
    rintro key c here idle m hm rfl
    have serving := (sound.member hm (Relay.task?_of_some here)).2
    rw [idle] at serving
    cases serving

/-- Alice's line cannot reach Bob, whose queue a broadcast from outside has filled; hers in turn
fills Carol's, so that the other removes Carol. Bob's task is aborted before he is removed, and Dave
comes. -/
def staleRemovals : List Action :=
  [.act (.connect "a" { inbound := [.text "alice", .text "hi"] }),
    .act (.connect "b" { inbound := [.text "bob"] }),
    .act (.connect "c" { inbound := [.text "carol"] }),
    .act (.step 0 .start), .act (.step 1 .start), .act (.step 2 .start), .act (.step 0 .read),
    .act (.step 1 .read), .act (.step 2 .read), .act (.broadcast ⟨⟨9⟩, "host", "welcome"⟩),
    .proceed 0, .proceed 0, .act (.step 0 .read), .proceed 1, .proceed 1, .proceed 0, .proceed 0,
    .proceed 0, .proceed 0, .act (.connect "d" { inbound := [.text "dave"] }),
    .act (.step 3 .start), .act (.step 3 .read), .act (.abort 1), .proceed 0]

theorem run_identified_staleRemovals :
    let s := run { queueSize := 1 } staleRemovals
    let names (s : Crowd) := s.relay.hub.registry.members.map Member.name
    s.relay.connections.size < UInt64.size ∧ names s = ["alice", "dave"] ∧
      s.speeches.map (fun p => p.snapshot.map Member.name) = [["alice", "bob", "carol"]] ∧
      s.target? (.proceed 0) = some 1 ∧ names (s.act (.proceed 0)) = ["alice", "dave"] ∧
      s.Identified :=
  ⟨by decide +kernel, by decide +kernel, by decide +kernel, by decide +kernel, by decide +kernel,
    run_identified (by decide +kernel)⟩

end Crowd

end ChatRelay
