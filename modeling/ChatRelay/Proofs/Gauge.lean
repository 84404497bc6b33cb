import ChatRelay.Proofs.Broadcast.Effect

/-!
# The gauge of registered connections

The gauge is set wherever members come or go, and a removal that finds nobody leaves it alone. Here
every operation of the hub is shown to leave it at the size of the registry. The meters of a
broadcast are others.
-/

namespace ChatRelay

namespace Meters

theorem increase_connected (m : Meters) (c : Counter) (amount : UInt64) :
    (m.increase c amount).connected = m.connected := by
  cases c <;> rfl

theorem countBroadcast_connected (m : Meters) (delivered failed : Nat) :
    (m.countBroadcast delivered failed).connected = m.connected := by
  simp [countBroadcast, observe, increase_connected]

end Meters

namespace Hub

/-- The registry is metered, and the gauge shows its size in a word of 64 bits. -/
structure Gauged (h : Hub) : Prop where
  metered : h.options.registryMetered = true
  shown : h.meters.connected = .ofNat h.registry.size

/-- An operation that neither the registry nor the gauge notices. -/
theorem Gauged.unnoticed {h h' : Hub} (g : h.Gauged) (options : h'.options = h.options)
    (registry : h'.registry = h.registry) (shown : h'.meters.connected = h.meters.connected) :
    h'.Gauged where
  metered := by rw [options]; exact g.metered
  shown := by rw [shown, registry]; exact g.shown

theorem gauged_setGauge {h : Hub} (metered : h.options.registryMetered = true) :
    h.setGauge.Gauged where
  metered := by rw [setGauge_options]; exact metered
  shown := by simp [setGauge, metered, Meters.setConnected]

section Operations

variable {h : Hub} (g : h.Gauged)

include g

theorem Gauged.note (e : Event) : (h.note e).Gauged := g.unnoticed rfl rfl rfl

theorem Gauged.register {h' : Hub} {m : Member} (done : h.register m = .ok h') : h'.Gauged := by
  obtain ⟨registry, -, rfl⟩ := register_eq_ok_iff.mp done
  have set : { h with registry }.setGauge.Gauged := gauged_setGauge g.metered
  exact set.note _

theorem Gauged.unregister (id : ConnectionId) : (h.unregister id).2.Gauged := by
  cases found : h.registry.find? id with
  | none =>
    have same : (h.unregister id).2 = h := by simp [Hub.unregister, found]
    rw [same]
    exact g
  | some m =>
    have set : { h with registry := h.registry.unregister id }.setGauge.Gauged :=
      gauged_setGauge g.metered
    simpa [Hub.unregister, found] using set.note _

theorem Gauged.endRegistry : h.endRegistry.2.Gauged := by
  have set : { h with registry := h.registry.close }.setGauge.Gauged := gauged_setGauge g.metered
  exact set.note _

theorem Gauged.deliver {h' : Hub} {m : Member} {text : String}
    (done : h.deliver m text = .ok h') : h'.Gauged := by
  obtain ⟨q, rfl⟩ := eq_of_deliver_ok done
  exact g.unnoticed rfl rfl rfl

theorem Gauged.deliverTo (sender : ConnectionId) (text : String) (report : Report) (m : Member) :
    (h.deliverTo sender text report m).1.Gauged := by
  cases done : h.deliver m text with
  | error fault => simpa [Hub.deliverTo, done] using g.note _
  | ok h' => simpa [Hub.deliverTo, done] using g.deliver done

theorem Gauged.deliverAll (sender : ConnectionId) (text : String) (report : Report)
    (ms : List Member) : (h.deliverAll sender text report ms).1.Gauged := by
  induction ms generalizing h report with
  | nil => exact g
  | cons m rest ih => exact ih (g.deliverTo sender text report m) _

theorem Gauged.unregisterAll (ids : List ConnectionId) : (h.unregisterAll ids).Gauged := by
  induction ids generalizing h with
  | nil => exact g
  | cons id rest ih => exact ih (g.unregister id)

theorem Gauged.account (message : Message) (report : Report) :
    (h.account message report).Gauged := by
  obtain ⟨registry, -, options, -⟩ := account_frame h message report
  refine g.unnoticed options registry ?_
  unfold Hub.account
  dsimp only
  split
  · exact Meters.countBroadcast_connected _ _ _
  · rfl

/-- A broadcast takes those who fail off the gauge, and nobody else. -/
theorem Gauged.broadcast (message : Message) : (h.broadcast message).1.Gauged := by
  rw [broadcast_eq]
  have offered : (h.fanOut message).1.Gauged := g.deliverAll _ _ _ _
  exact (offered.unregisterAll _).account message _

end Operations

end Hub

end ChatRelay
