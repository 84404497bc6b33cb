import ChatRelay.Proofs.Broadcast.Effect
import Mathlib.Algebra.BigOperators.Group.List.Basic
import Mathlib.Algebra.Ring.Nat

/-!
# What a broadcast adds to the counters

Only a broadcast moves the counters of messages and deliveries; all that the other operations of
the hub do to the meters is to set the gauge. A broadcast counts each recipient once: it has put a
text into the queue of some of them, and has removed the others.
-/

namespace ChatRelay

/-- In a sum over an array, an element takes the place of another. -/
theorem sum_set {α : Type} (f : α → Nat) {a : Array α} {i : Nat} {old : α}
    (here : a[i]? = some old) (new : α) :
    ((a.setIfInBounds i new).toList.map f).sum + f old = (a.toList.map f).sum + f new := by
  obtain ⟨inBounds, rfl⟩ := List.getElem?_eq_some_iff.mp (Array.getElem?_toList ▸ here)
  have before := List.sum_set (a.toList.map f) i (f a.toList[i])
  have after := List.sum_set (a.toList.map f) i (f new)
  simp only [← List.map_set, List.set_getElem_self, List.length_map, inBounds, if_true]
    at before after
  rw [Array.toList_setIfInBounds]
  omega

namespace Meters

/-- The meters without the gauge. -/
def counts (m : Meters) : Meters := m.setConnected 0

@[simp] theorem setConnected_counts (m : Meters) (n : Int64) :
    (m.setConnected n).counts = m.counts := rfl

theorem eq_of_counts {m m' : Meters} (counts : m.counts = m'.counts)
    (connected : m.connected = m'.connected) : m = m' := by
  have whole (m : Meters) : m = m.counts.setConnected m.connected := rfl
  rw [whole m, counts, connected, ← whole m']

@[simp] theorem increase_counts (m : Meters) (c : Counter) (amount : UInt64) :
    (m.increase c amount).counts = m.counts.increase c amount := by
  cases c <;> rfl

theorem increase_zero (m : Meters) (c : Counter) : m.increase c 0 = m := by
  cases c <;> simp [increase]

@[simp] theorem countBroadcast_counts (m : Meters) (delivered failed : Nat) :
    (m.countBroadcast delivered failed).counts = m.counts.countBroadcast delivered failed := rfl

end Meters

namespace Hub

@[simp] theorem note_meters (h : Hub) (e : Event) : (h.note e).meters = h.meters := rfl

@[simp] theorem dropReader_meters (h : Hub) (key : QueueKey) :
    (h.dropReader key).meters = h.meters := rfl

@[simp] theorem setGauge_counts (h : Hub) : h.setGauge.meters.counts = h.meters.counts := by
  unfold setGauge; split <;> rfl

@[simp] theorem unregister_counts (h : Hub) (id : ConnectionId) :
    (h.unregister id).2.meters.counts = h.meters.counts := by
  cases found : h.registry.find? id <;> simp [unregister, found]

@[simp] theorem endRegistry_counts (h : Hub) :
    h.endRegistry.2.meters.counts = h.meters.counts := by
  simp [endRegistry]

theorem register_counts {h h' : Hub} {m : Member} (done : h.register m = .ok h') :
    h'.meters.counts = h.meters.counts := by
  obtain ⟨registry, -, rfl⟩ := register_eq_ok_iff.mp done
  simp

theorem take?_meters {h h' : Hub} {key : QueueKey} {text : String}
    (taken : h.take? key = some (text, h')) : h'.meters = h.meters := by
  obtain ⟨q, rest, -, -, rfl⟩ := take?_eq_some_iff.mp taken
  rfl

theorem deliverTo_meters (h : Hub) (sender : ConnectionId) (text : String) (report : Report)
    (m : Member) : (h.deliverTo sender text report m).1.meters = h.meters := by
  cases room : h.hasRoomFor m with
  | true =>
    obtain ⟨q, -, -, done⟩ := deliverTo_of_room room sender text report
    rw [done]
    rfl
  | false =>
    obtain ⟨fault, done⟩ := deliverTo_of_noRoom room sender text report
    rw [done]
    rfl

theorem deliverAll_meters (h : Hub) (sender : ConnectionId) (text : String) (report : Report)
    (ms : List Member) : (h.deliverAll sender text report ms).1.meters = h.meters := by
  induction ms generalizing h report with
  | nil => rfl
  | cons m rest ih => rw [deliverAll, ih, deliverTo_meters]

theorem unregisterAll_counts (h : Hub) (ids : List ConnectionId) :
    (h.unregisterAll ids).meters.counts = h.meters.counts := by
  induction ids generalizing h with
  | nil => rfl
  | cons id rest ih => exact (ih (h.unregister id).2).trans (unregister_counts h id)

def load (h : Hub) : Nat := (h.queues.toList.map fun q => q.pending.length).sum

/-- What is counted as delivered lies in a queue. -/
theorem deliverTo_load (h : Hub) (sender : ConnectionId) (text : String) (report : Report)
    (m : Member) :
    (h.deliverTo sender text report m).1.load + report.delivered =
      h.load + (h.deliverTo sender text report m).2.delivered := by
  cases room : h.hasRoomFor m with
  | true =>
    obtain ⟨q, found, roomy, done⟩ := deliverTo_of_room room sender text report
    have loaded := sum_set (fun q => q.pending.length) found (q.receive text)
    have longer : (q.receive text).pending.length = q.pending.length + 1 := by
      simp [Queue.receive, roomy]
    rw [done]
    simp only [load, note_queues]
    omega
  | false =>
    obtain ⟨fault, done⟩ := deliverTo_of_noRoom room sender text report
    rw [done]
    rfl

theorem deliverAll_load (h : Hub) (sender : ConnectionId) (text : String) (report : Report)
    (ms : List Member) :
    (h.deliverAll sender text report ms).1.load + report.delivered =
      h.load + (h.deliverAll sender text report ms).2.delivered := by
  induction ms generalizing h report with
  | nil => rfl
  | cons m rest ih =>
    have first := deliverTo_load h sender text report m
    have others := ih (h.deliverTo sender text report m).1 (h.deliverTo sender text report m).2
    simp only [deliverAll]
    omega

/-- Each recipient is reached or fails. -/
theorem deliverAll_counted (h : Hub) (sender : ConnectionId) (text : String) (report : Report)
    (ms : List Member) :
    (h.deliverAll sender text report ms).2.delivered
        + (h.deliverAll sender text report ms).2.failed.length =
      report.delivered + report.failed.length + ms.length := by
  induction ms generalizing h report with
  | nil => rfl
  | cons m rest ih =>
    rw [deliverAll, ih, deliverTo_report]
    split <;> simp only [List.length_append, List.length_cons, List.length_nil] <;> omega

section Broadcast

variable (h : Hub) (message : Message)

theorem broadcast_counts (metered : h.options.broadcastMetered = true) :
    (h.broadcast message).1.meters.counts = h.meters.counts.countBroadcast
      (h.broadcast message).2.delivered (h.broadcast message).2.failed.length := by
  have offered : (h.fanOut message).1.meters = h.meters := deliverAll_meters _ _ _ _ _
  have options : ((h.fanOut message).1.unregisterAll (h.fanOut message).2.failed).options =
      h.options :=
    (unregisterAll_frame _ _).2.1.trans (deliverAll_frame _ _ _ _ _).2.1
  rw [broadcast_eq]
  simp only [account, note, options, metered, if_true, Meters.countBroadcast_counts,
    unregisterAll_counts, offered]

/-- A broadcast puts a text into a queue for each delivery that it counts. -/
theorem broadcast_load :
    (h.broadcast message).1.load = h.load + (h.broadcast message).2.delivered := by
  have queues : (h.broadcast message).1.queues = (h.fanOut message).1.queues := by
    rw [broadcast_eq, (account_frame _ _ _).2.1, (unregisterAll_frame _ _).1]
  have offered := deliverAll_load h message.sender (h.rendered message) {}
    (recipients h.registry.members message.sender)
  simp only [load, queues]
  exact offered

/-- Everyone registered but the sender is counted, once. -/
theorem broadcast_counted :
    (h.broadcast message).2.delivered + (h.broadcast message).2.failed.length =
      (recipients h.registry.members message.sender).length := by
  rw [broadcast_eq, fanOut, deliverAll_counted]
  exact Nat.zero_add _

/-- The members that are gone after a broadcast are those that it counts as failed. -/
theorem broadcast_removed (ascending : h.registry.Ascending)
    (distinct : (h.registry.members.map Member.queue).Nodup) :
    (h.registry.members.filter fun m => m ∉ (h.broadcast message).1.registry.members).length =
      (h.broadcast message).2.failed.length := by
  have gone : h.registry.members.filter (fun m => m ∉ (h.broadcast message).1.registry.members) =
      (recipients h.registry.members message.sender).filter fun m => !h.hasRoomFor m := by
    rw [recipients, List.filter_filter]
    apply List.filter_congr
    intro m hm
    have failed : m ∉ (h.broadcast message).1.registry.members ↔
        m.id ∈ (h.broadcast message).2.failed := by
      rw [broadcast_registry, Registry.mem_without]
      simp [hm]
    by_cases own : m.id = message.sender
    · have kept : m.id ∉ (h.broadcast message).2.failed := by
        rw [mem_broadcast_failed message distinct]
        rintro ⟨other, -, same, apart, -⟩
        exact apart (same.trans own)
      have stays : m ∈ (h.broadcast message).1.registry.members :=
        Decidable.not_not.mp fun gone => kept (failed.mp gone)
      simp [stays, own]
    · simp [failed, recipient_failed_iff message distinct ascending hm own, own]
  rw [gone, broadcast_report message distinct, List.length_map]

end Broadcast

end Hub

end ChatRelay
