import ChatRelay.Proofs.Gauge
import ChatRelay.Proofs.Relay.Sound

/-!
# The gauge in a run of the relay

No task sets the gauge itself: it follows the registry whatever a task does, and so it does over a
run.
-/

namespace ChatRelay

namespace Connection

section Pieces

variable (config : RelayConfig) (c : Connection) {hub : Hub} (g : hub.Gauged) (key : QueueKey)

include g

theorem gauged_noteAll (events : List ConnectionEvent) : (c.noteAll hub events).Gauged := by
  induction events generalizing hub with
  | nil => exact g
  | cons e rest ih => exact ih (g.note _)

theorem gauged_wrapUp (result : Option ConnectionFault) :
    (c.wrapUp config hub key result).1.Gauged :=
  g.unnoticed rfl rfl rfl

theorem gauged_leave (result : Option ConnectionFault) :
    (c.leave config hub key result).1.Gauged :=
  gauged_wrapUp config c (g.unregister c.id) key result

theorem gauged_die (outcome : Outcome) : (c.die hub key outcome).1.Gauged := by
  unfold die
  split
  · exact (g.unregister c.id).unnoticed rfl rfl rfl
  · exact g.unnoticed rfl rfl rfl

end Pieces

theorem Transition.gauged {config : RelayConfig} {s : Surroundings} {c : Connection} {hub : Hub}
    {key : QueueKey} {b : Branch} {next : Hub × Connection}
    (h : Transition config s c hub key b next) (g : hub.Gauged) : next.1.Gauged := by
  have noted (events : List ConnectionEvent) : (c.noteAll hub events).Gauged :=
    gauged_noteAll c g events
  cases h with
  | start => exact g.unnoticed rfl rfl rfl
  | ignore => exact g.note _
  | @giveUp deadline b meters c' remarks result phase reason =>
    have shown : meters.connected = hub.meters.connected := by
      cases reason with
      | overdue => exact Meters.increase_connected _ _ _
      | _ => rfl
    have metered : { hub with meters }.Gauged := g.unnoticed rfl rfl shown
    exact gauged_wrapUp config c' (gauged_noteAll c metered remarks) key result
  | enter phase inbound small registered => exact ((noted _).register registered).note _
  | enterLate phase inbound small registered =>
    exact gauged_die _ (((noted _).register registered).note _) key _
  | tooLarge => exact gauged_die _ (noted _) key _
  | line => exact (noted _).broadcast _
  | sign => exact g.note _
  | drop => exact g.note _
  | take phase taken =>
    obtain ⟨q, rest, -, -, rfl⟩ := Hub.take?_eq_some_iff.mp taken
    exact g.unnoticed rfl rfl rfl
  | ping => exact g
  | written => exact noted _
  | hang => exact noted _
  | leave reason => exact gauged_leave config _ (noted _) key _
  | closeHang => exact noted _
  | conclude => exact (noted _).note _

end Connection

namespace Relay

theorem gauged_effect {r r' : Relay} {a : Action} (g : r.hub.Gauged) (effect : Effect r a r') :
    r'.hub.Gauged := by
  cases effect with
  | abort =>
    rw [update_hub]
    exact Connection.gauged_die _ g _ _
  | step here transition =>
    rw [update_hub]
    exact transition.gauged g
  | unregister => exact g.unregister _
  | endRegistry => exact g.endRegistry
  | broadcast => exact g.broadcast _
  | turnAway => exact g.note _
  | _ => exact g.unnoticed rfl rfl rfl

/-- The gauge shows the size of the registry wherever a run has come to. -/
theorem run_hub_gauged (config : RelayConfig) (actions : List Action) :
    (run config actions).hub.Gauged := by
  induction actions using List.reverseRecOn with
  | nil => exact ⟨rfl, rfl⟩
  | append_singleton actions a ih =>
    rw [run_append]
    exact gauged_effect ih (act_effect _ a)

end Relay

end ChatRelay
