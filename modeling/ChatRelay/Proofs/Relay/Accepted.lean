import ChatRelay.Proofs.Relay.Delivery
import ChatRelay.Proofs.Relay.Time

/-!
# What the queues of connections accept

The queue of a connection accepts the lines that broadcasts bring to the connection while it is
registered, and nothing else.
-/

namespace ChatRelay

/-- The queue of a registered connection accepts just the line that a broadcast brings to it. -/
theorem Hub.accepted_broadcast {h : Hub} (ascending : h.registry.Ascending)
    (distinct : (h.registry.members.map Member.queue).Nodup) {key : QueueKey} {id : ConnectionId}
    (own : ∀ m ∈ h.registry.members, m.queue = key → m.id = id) (message : Message) :
    (h.broadcast message).1.acceptedBy key = h.acceptedBy key ++ if h.registry.holds key then
      [Event.broadcast message (h.broadcast message).2.delivered
        (h.broadcast message).2.failed].filterMap (Event.lineFor? id h.options.showSender)
      else [] := by
  rw [broadcast_acceptedBy message distinct]
  congr 1
  by_cases held : h.registry.holds key = true
  · obtain ⟨m, hm, rfl⟩ := Registry.holds_iff.mp held
    obtain rfl := own m hm rfl
    rw [if_pos held]
    by_cases sent : message.sender = m.id
    · have nobody : ¬ ∃ m' ∈ h.registry.members, m'.id ≠ message.sender ∧ m'.queue = m.queue := by
        rintro ⟨m', hm', other, same⟩
        exact other ((own m' hm' same).trans sent.symm)
      rw [if_neg fun both => nobody both.1]
      simp [Event.lineFor?, sent]
    · have somebody : ∃ m' ∈ h.registry.members, m'.id ≠ message.sender ∧ m'.queue = m.queue :=
        ⟨m, hm, Ne.symm sent, rfl⟩
      rw [lineFor_broadcast sent]
      simp only [somebody, true_and,
        recipient_failed_iff message distinct ascending hm (Ne.symm sent), hasRoomFor, rendered]
      cases (h.queues[m.queue]?).any Queue.hasRoom <;> rfl
  · have nobody : ¬ ∃ m ∈ h.registry.members, m.id ≠ message.sender ∧ m.queue = key := by
      rintro ⟨m, hm, -, same⟩
      exact held (Registry.holds_iff.mpr ⟨m, hm, same⟩)
    rw [if_neg fun both => nobody both.1, if_neg held]

namespace Relay

section Moments

variable {r r' : Relay} {key : Nat}

/-- Someone broadcasts, in whatever step. -/
theorem accepted_broadcast (sound : r.Sound) {h : Hub} (registry : h.registry = r.hub.registry)
    (options : h.options = r.hub.options) (accepted : ∀ k, h.acceptedBy k = r.hub.acceptedBy k)
    (message : Message) : (h.broadcast message).1.acceptedBy key =
      r.hub.acceptedBy key ++ r.linesFor key [.broadcast message
        (h.broadcast message).2.delivered (h.broadcast message).2.failed] := by
  have ascending : h.registry.Ascending := by rw [registry]; exact sound.ascending
  have distinct : (h.registry.members.map Member.queue).Nodup := by
    rw [registry]
    exact sound.distinct
  have shown : r.config.showSender = h.options.showSender := by rw [options, sound.options]
  cases here : r.task? key with
  | none =>
    have nobody : ∀ m ∈ h.registry.members, m.queue ≠ key := by
      rw [registry]
      intro m hm same
      obtain ⟨phase, there, -⟩ := sound.serving m hm
      rw [same, here] at there
      cases there
    have free : h.registry.holds key = false := by
      rw [← Bool.not_eq_true, Registry.holds_iff]
      rintro ⟨m, hm, same⟩
      exact nobody m hm same
    have own : ∀ m ∈ h.registry.members, m.queue = key → m.id = .first :=
      fun m hm same => absurd same (nobody m hm)
    rw [Hub.accepted_broadcast ascending distinct own, free, accepted]
    simp [linesFor, here]
  | some found =>
    obtain ⟨id, phase⟩ := found
    have own : ∀ m ∈ h.registry.members, m.queue = key → m.id = id := by
      rw [registry]
      intro m hm same
      exact (sound.member hm (by rw [same]; exact here)).1
    rw [Hub.accepted_broadcast ascending distinct own, accepted]
    simp [linesFor, here, shown, registry]

/-- A task takes a step, or dies. -/
theorem outline_accepted (sound : r.Sound) {k : Nat} {c : Connection} {next : Hub × Connection}
    (outline : Connection.Outline c r.hub k next) :
    ∃ told, next.1.story = r.hub.story ++ told ∧
      next.1.acceptedBy key = r.hub.acceptedBy key ++ r.linesFor key told := by
  have quiet : ∀ events, Connection.Own c.id k r.hub events next.1 →
      ∃ told, next.1.story = r.hub.story ++ told ∧
        next.1.acceptedBy key = r.hub.acceptedBy key ++ r.linesFor key told := by
    intro events own
    exact ⟨_, own.story, by rw [linesFor_map, List.append_nil, own.accepted]⟩
  cases outline with
  | stay id own => exact quiet _ own
  | join id own => exact quiet _ own
  | part id own => exact quiet _ own
  | @speak events hub₁ message id own before after registry queues sender spoken =>
    refine ⟨_, by rw [spoken, (Hub.broadcast_frame _ _).2.2.2, own.story, List.append_assoc], ?_⟩
    rw [linesFor_append, linesFor_map, List.nil_append, spoken]
    exact accepted_broadcast sound registry own.options own.accepted message

theorem Effect.accepted {a : Action} (effect : Effect r a r') (sound : r.Sound) :
    ∃ told, r'.hub.story = r.hub.story ++ told ∧
      r'.hub.acceptedBy key = r.hub.acceptedBy key ++ r.linesFor key told := by
  have calmly : r'.hub.story = r.hub.story → r'.hub.acceptedBy key = r.hub.acceptedBy key →
      ∃ told, r'.hub.story = r.hub.story ++ told ∧
        r'.hub.acceptedBy key = r.hub.acceptedBy key ++ r.linesFor key told := by
    intro story accepted
    exact ⟨[], by simpa using story, by simpa [linesFor_nil] using accepted⟩
  cases effect with
  | abort here alive =>
    rw [update_hub]
    exact outline_accepted sound (Connection.outline_die .aborted)
  | step here transition =>
    rw [update_hub]
    exact outline_accepted sound transition.outline
  | unregister => exact calmly (by simp) (by simp)
  | endRegistry => exact calmly (by simp) (by simp)
  | @broadcast message =>
    exact ⟨_, (Hub.broadcast_frame r.hub message).2.2.2,
      accepted_broadcast sound rfl rfl (fun _ => rfl) message⟩
  | turnAway =>
    exact calmly (by simp [Hub.note_story, Event.isTold]) (Hub.note_acceptedBy_of_none _ rfl)
  | _ => exact calmly rfl rfl

end Moments

/-- The queue of a connection has accepted the lines that came to the connection. -/
theorem run_accepted (config : RelayConfig) (actions : List Action) (key : Nat) :
    (run config actions).hub.acceptedBy key = heard key (history config actions) := by
  induction actions using List.reverseRecOn with
  | nil => rfl
  | append_singleton actions a ih =>
    obtain ⟨told, story, accepted⟩ : ∃ told, ((run config actions).act a).hub.story =
        (run config actions).hub.story ++ told ∧ ((run config actions).act a).hub.acceptedBy key =
          (run config actions).hub.acceptedBy key ++ (run config actions).linesFor key told :=
      (act_effect _ a).accepted (run_sound config actions)
    have news : (Moment.mk (run config actions) a).news = told := Moment.news_eq story
    rw [run_append, accepted, ih]
    simp [heard, history_append, Moment.heard, news]

end Relay

end ChatRelay
