import ChatRelay.Proofs.Broadcast.Effect

/-!
# Hubs that differ in one peer

Two hubs are alike but for a peer if they agree in everything that does not belong to the peer: its
registration, its queue and what it did itself. Meters and the lines about the registry may differ,
since they count the peer. No operation on behalf of somebody else tells such hubs apart: in
particular a broadcast treats everybody but the peer as if the peer were not there.
-/

namespace ChatRelay

/-- A connection did it, and not the one of this identity. -/
def Event.isElsewhere (id : ConnectionId) : Event → Bool
  | .connection own _ => own != id
  | _ => false

namespace Registry

/-- The members that do not have this queue. -/
def others (d : QueueKey) (r : Registry) : List Member := r.members.filter fun m => m.queue != d

theorem mem_others {d : QueueKey} {r : Registry} {m : Member} :
    m ∈ r.others d ↔ m ∈ r.members ∧ m.queue ≠ d := by
  simp [others]

/-- The registry is in order, and the peer of this queue is the one of this identity. -/
structure Seats (d : QueueKey) (id : ConnectionId) (r : Registry) : Prop where
  ascending : r.Ascending
  distinct : (r.members.map Member.queue).Nodup
  peer : ∀ m ∈ r.members, m.queue = d ↔ m.id = id

end Registry

namespace Hub

/-- What other connections than the one of an identity have done, and when; the latest first. -/
def elsewhere (h : Hub) (id : ConnectionId) : List Entry :=
  h.journal.filter fun entry => entry.event.isElsewhere id

section Elsewhere

variable (h : Hub) (id : ConnectionId)

theorem note_elsewhere (e : Event) : (h.note e).elsewhere id =
    if e.isElsewhere id then ⟨h.now, e⟩ :: h.elsewhere id else h.elsewhere id := by
  simp only [elsewhere, note, List.filter_cons]

theorem note_elsewhere_of_neg {e : Event} (hidden : e.isElsewhere id = false) :
    (h.note e).elsewhere id = h.elsewhere id := by
  rw [note_elsewhere, hidden]
  rfl

@[simp] theorem setGauge_elsewhere : h.setGauge.elsewhere id = h.elsewhere id := by
  unfold setGauge
  split <;> rfl

theorem register_elsewhere {h h' : Hub} {m : Member} (done : h.register m = .ok h') :
    h'.elsewhere id = h.elsewhere id := by
  obtain ⟨registry, -, rfl⟩ := register_eq_ok_iff.mp done
  rw [note_elsewhere_of_neg _ _ rfl, setGauge_elsewhere]
  rfl

@[simp] theorem unregister_elsewhere (gone : ConnectionId) :
    (h.unregister gone).2.elsewhere id = h.elsewhere id := by
  cases found : h.registry.find? gone with
  | none => simp [unregister, found]
  | some m =>
    simp only [unregister, found]
    rw [note_elsewhere_of_neg _ _ rfl, setGauge_elsewhere]
    rfl

@[simp] theorem endRegistry_elsewhere : h.endRegistry.2.elsewhere id = h.elsewhere id := by
  rw [endRegistry, note_elsewhere_of_neg _ _ rfl, setGauge_elsewhere]
  rfl

@[simp] theorem dropReader_elsewhere (key : QueueKey) :
    (h.dropReader key).elsewhere id = h.elsewhere id := rfl

theorem take?_elsewhere {h h' : Hub} {key : QueueKey} {text : String}
    (taken : h.take? key = some (text, h')) : h'.elsewhere id = h.elsewhere id := by
  obtain ⟨q, rest, -, -, rfl⟩ := take?_eq_some_iff.mp taken
  rfl

theorem deliverTo_elsewhere (sender : ConnectionId) (text : String) (report : Report)
    (m : Member) :
    (h.deliverTo sender text report m).1.elsewhere id = h.elsewhere id := by
  cases room : h.hasRoomFor m with
  | true =>
    obtain ⟨q, -, -, done⟩ := deliverTo_of_room room sender text report
    rw [done, note_elsewhere_of_neg _ _ rfl]
    rfl
  | false =>
    obtain ⟨fault, done⟩ := deliverTo_of_noRoom room sender text report
    rw [done, note_elsewhere_of_neg _ _ rfl]

theorem deliverAll_elsewhere (sender : ConnectionId) (text : String) (report : Report)
    (ms : List Member) :
    (h.deliverAll sender text report ms).1.elsewhere id = h.elsewhere id := by
  induction ms generalizing h report with
  | nil => rfl
  | cons m rest ih => rw [deliverAll, ih, deliverTo_elsewhere]

theorem unregisterAll_elsewhere (ids : List ConnectionId) :
    (h.unregisterAll ids).elsewhere id = h.elsewhere id := by
  induction ids generalizing h with
  | nil => rfl
  | cons gone rest ih => exact (ih (h.unregister gone).2).trans (unregister_elsewhere h id gone)

@[simp] theorem broadcast_elsewhere (message : Message) :
    (h.broadcast message).1.elsewhere id = h.elsewhere id := by
  have accounted (h : Hub) (report : Report) :
      (h.account message report).elsewhere id = h.elsewhere id := by
    rw [← note_elsewhere_of_neg h id
      (e := .broadcast message report.delivered report.failed) rfl]
    unfold account
    dsimp only
    split <;> rfl
  rw [broadcast_eq, accounted, unregisterAll_elsewhere, fanOut, deliverAll_elsewhere]

end Elsewhere

/-- Two hubs agree in all that does not belong to the peer of this queue and this identity. -/
structure Alike (d : QueueKey) (id : ConnectionId) (h h' : Hub) : Prop where
  options : h.options = h'.options
  now : h.now = h'.now
  nextId : h.nextId = h'.nextId
  ended : h.registry.ended = h'.registry.ended
  others : h.registry.others d = h'.registry.others d
  size : h.queues.size = h'.queues.size
  queues : ∀ k, k ≠ d → h.queues[k]? = h'.queues[k]?
  elsewhere : h.elsewhere id = h'.elsewhere id

namespace Alike

variable {d : QueueKey} {id : ConnectionId} {h h' h'' : Hub}

theorem refl (h : Hub) : Alike d id h h := ⟨rfl, rfl, rfl, rfl, rfl, rfl, fun _ _ => rfl, rfl⟩

theorem symm (alike : Alike d id h h') : Alike d id h' h where
  options := alike.options.symm
  now := alike.now.symm
  nextId := alike.nextId.symm
  ended := alike.ended.symm
  others := alike.others.symm
  size := alike.size.symm
  queues k apart := (alike.queues k apart).symm
  elsewhere := alike.elsewhere.symm

theorem trans (first : Alike d id h h') (second : Alike d id h' h'') : Alike d id h h'' where
  options := first.options.trans second.options
  now := first.now.trans second.now
  nextId := first.nextId.trans second.nextId
  ended := first.ended.trans second.ended
  others := first.others.trans second.others
  size := first.size.trans second.size
  queues k apart := (first.queues k apart).trans (second.queues k apart)
  elsewhere := first.elsewhere.trans second.elsewhere

theorem note (alike : Alike d id h h') (e : Event) : Alike d id (h.note e) (h'.note e) :=
  { alike with elsewhere := by rw [note_elsewhere, note_elsewhere, alike.now, alike.elsewhere] }

/-- A note that the others did not cause. -/
theorem note_of_neg {e : Event} (hidden : e.isElsewhere id = false) (h : Hub) :
    Alike d id (h.note e) h :=
  { (refl h : Alike d id h h) with elsewhere := note_elsewhere_of_neg h id hidden }

theorem withMeters (alike : Alike d id h h') (meters meters' : Meters) :
    Alike d id { h with meters } { h' with meters := meters' } :=
  { alike with }

theorem withClock (alike : Alike d id h h') (now : Nat) :
    Alike d id { h with now } { h' with now } :=
  { alike with now := rfl }

theorem dropReader (alike : Alike d id h h') (key : QueueKey) :
    Alike d id (h.dropReader key) (h'.dropReader key) :=
  { alike with
    size := by simp [alike.size]
    queues := fun k apart => by
      simp only [dropReader_queues, Array.getElem?_modify, alike.queues k apart] }

theorem openQueue (alike : Alike d id h h') (capacity : Nat) :
    Alike d id (h.openQueue capacity).2 (h'.openQueue capacity).2 :=
  { alike with
    size := by simp [Hub.openQueue, alike.size]
    queues := fun k apart => by
      simp only [Hub.openQueue, Array.getElem?_push, alike.size, alike.queues k apart] }

theorem issueId (alike : Alike d id h h') : Alike d id h.issueId.2 h'.issueId.2 :=
  { alike with nextId := congrArg ConnectionId.next alike.nextId }

/-- The queue of somebody else yields the same. -/
theorem take? (alike : Alike d id h h') {key : QueueKey} (apart : key ≠ d) :
    h.take? key = none ∧ h'.take? key = none ∨ ∃ text h₁ h₁', h.take? key = some (text, h₁) ∧
      h'.take? key = some (text, h₁') ∧ Alike d id h₁ h₁' := by
  have same := alike.queues key apart
  cases taken : h.take? key with
  | none =>
    refine Or.inl ⟨rfl, ?_⟩
    unfold Hub.take? at taken ⊢
    rw [← same]
    split at taken
    · rfl
    · rename_i q _
      cases first : q.take? with
      | none => rfl
      | some _ => simp [first] at taken
  | some found =>
    obtain ⟨text, h₁⟩ := found
    obtain ⟨q, rest, here, pending, rfl⟩ := take?_eq_some_iff.mp taken
    refine Or.inr ⟨text, _, _, rfl, take?_eq_some_iff.mpr ⟨q, rest, same ▸ here, pending, rfl⟩,
      { alike with
        size := by simp [alike.size]
        queues := fun k other => ?_ }⟩
    simp only [Array.getElem?_setIfInBounds, alike.size, alike.queues k other]

/-- The members of both hubs outside the peer. -/
theorem mem_iff (alike : Alike d id h h') {m : Member} (apart : m.queue ≠ d) :
    m ∈ h.registry.members ↔ m ∈ h'.registry.members := by
  have same : m ∈ h.registry.others d ↔ m ∈ h'.registry.others d := by rw [alike.others]
  rwa [Registry.mem_others, Registry.mem_others, and_iff_left apart, and_iff_left apart] at same

theorem unregister (alike : Alike d id h h') (gone : ConnectionId) :
    Alike d id (h.unregister gone).2 (h'.unregister gone).2 where
  options := by simp [alike.options]
  now := by simp [alike.now]
  nextId := by simp [alike.nextId]
  ended := by simp [Registry.unregister, alike.ended]
  others := by
    have without (r : Registry) :
        (r.unregister gone).others d = (r.others d).filter fun m => m.id != gone := by
      rw [Registry.others, Registry.unregister, Registry.others, List.filter_comm]
    rw [unregister_registry, unregister_registry, without, without, alike.others]
  size := by simp [alike.size]
  queues k apart := by simp [alike.queues k apart]
  elsewhere := by simp [alike.elsewhere]

/-- The peer's registration goes. -/
theorem unregister_own (seats : h.registry.Seats d id) :
    Alike d id (h.unregister id).2 h where
  options := by simp
  now := by simp
  nextId := by simp
  ended := by simp [Registry.unregister]
  others := by
    simp only [unregister_registry, Registry.others, Registry.unregister, List.filter_filter]
    apply List.filter_congr
    intro m hm
    have peer := seats.peer m hm
    by_cases own : m.id = id <;> simp [own, peer]
  size := by simp
  queues k _ := by simp
  elsewhere := by simp

theorem endRegistry (alike : Alike d id h h') :
    Alike d id h.endRegistry.2 h'.endRegistry.2 where
  options := by simp [alike.options]
  now := by simp [alike.now]
  nextId := by simp [alike.nextId]
  ended := by simp [Registry.close]
  others := by simp [Registry.close, Registry.others]
  size := by simp [alike.size]
  queues k apart := by simp [alike.queues k apart]
  elsewhere := by simp [alike.elsewhere]

/-- Somebody else registers: what stands in its way stands there in both hubs. -/
theorem register (alike : Alike d id h h') (seats : h.registry.Seats d id)
    (seats' : h'.registry.Seats d id) {m : Member} (queue : m.queue ≠ d) (other : m.id ≠ id) :
    (∃ fault, h.register m = .error fault ∧ h'.register m = .error fault) ∨
      ∃ h₁ h₁', h.register m = .ok h₁ ∧ h'.register m = .ok h₁' ∧ Alike d id h₁ h₁' := by
  have present : h.registry.contains m.id = h'.registry.contains m.id := by
    rw [Bool.eq_iff_iff, Registry.contains_iff, Registry.contains_iff]
    constructor
    · rintro ⟨x, hx, same⟩
      have apart : x.queue ≠ d := fun own => other (same ▸ (seats.peer x hx).mp own)
      exact ⟨x, (alike.mem_iff apart).mp hx, same⟩
    · rintro ⟨x, hx, same⟩
      have apart : x.queue ≠ d := fun own => other (same ▸ (seats'.peer x hx).mp own)
      exact ⟨x, (alike.mem_iff apart).mpr hx, same⟩
  cases done : h.registry.register m with
  | error fault =>
    refine Or.inl ⟨fault, register_eq_error_iff.mpr done, register_eq_error_iff.mpr ?_⟩
    unfold Registry.register at done ⊢
    rw [← alike.ended, ← present]
    split at done
    · rw [if_pos ‹_›]
      exact done
    · rw [if_neg ‹_›]
      split at done
      · rw [if_pos ‹_›]
        exact done
      · cases done
  | ok registry =>
    obtain ⟨going, fresh, rfl⟩ := Registry.register_eq_ok_iff.mp done
    have absent : h'.registry.contains m.id = false := by
      rw [← present, ← Bool.not_eq_true, Registry.contains_iff]
      rintro ⟨x, hx, same⟩
      exact fresh x hx same
    have fresh' : ∀ x ∈ h'.registry.members, x.id ≠ m.id := by
      rw [← Bool.not_eq_true, Registry.contains_iff] at absent
      exact fun x hx same => absent ⟨x, hx, same⟩
    refine Or.inr ⟨_, _, register_eq_ok_iff.mpr ⟨_, done, rfl⟩, register_eq_ok_iff.mpr
      ⟨_, Registry.register_eq_ok_iff.mpr ⟨alike.ended ▸ going, fresh', rfl⟩, rfl⟩, ?_⟩
    have visible : (fun x : Member => x.queue != d) m = true := by simpa using queue
    constructor
    · simp [alike.options]
    · simp [alike.now]
    · simp [alike.nextId]
    · simp [alike.ended]
    · simp only [note_registry, setGauge_registry, Registry.others]
      rw [Registry.filter_insertById_of_pos visible seats.ascending,
        Registry.filter_insertById_of_pos visible seats'.ascending]
      exact congrArg (Registry.insertById m) alike.others
    · simp [alike.size]
    · intro k apart
      simp [alike.queues k apart]
    · rw [note_elsewhere_of_neg _ _ rfl, note_elsewhere_of_neg _ _ rfl, setGauge_elsewhere,
        setGauge_elsewhere]
      exact alike.elsewhere

theorem rendered (alike : Alike d id h h') (message : Message) :
    h.rendered message = h'.rendered message :=
  rendered_of_options alike.options message

/-- Everybody but the peer gets the message in both hubs, or is removed in both. -/
theorem broadcast (alike : Alike d id h h') (seats : h.registry.Seats d id)
    (seats' : h'.registry.Seats d id) (message : Message) :
    Alike d id (h.broadcast message).1 (h'.broadcast message).1 := by
  obtain ⟨options, now, nextId, -⟩ := broadcast_frame h message
  obtain ⟨options', now', nextId', -⟩ := broadcast_frame h' message
  have stays {h : Hub} (seats : h.registry.Seats d id) {m : Member}
      (hm : m ∈ h.registry.members) : m.id ∉ (h.broadcast message).2.failed ↔
        m.id = message.sender ∨ h.hasRoomFor m = true := by
    by_cases own : m.id = message.sender
    · refine ⟨fun _ => Or.inl own, fun _ failed => ?_⟩
      obtain ⟨x, -, same, apart, -⟩ := (mem_broadcast_failed message seats.distinct).mp failed
      exact apart (same.trans own)
    · rw [recipient_failed_iff message seats.distinct seats.ascending hm own, Bool.not_eq_false,
        or_iff_right own]
  have left {h : Hub} (seats : h.registry.Seats d id) :
      (h.broadcast message).1.registry.others d = (h.registry.others d).filter fun m =>
        m.id = message.sender ∨ h.hasRoomFor m = true := by
    rw [broadcast_registry, Registry.others, Registry.without, List.filter_comm, Registry.others]
    apply List.filter_congr
    intro m hm
    rw [decide_eq_decide]
    exact stays seats (Registry.mem_others.mp hm).1
  constructor
  · exact options.trans (alike.options.trans options'.symm)
  · exact now.trans (alike.now.trans now'.symm)
  · exact nextId.trans (alike.nextId.trans nextId'.symm)
  · rw [broadcast_registry, broadcast_registry]
    exact alike.ended
  · rw [left seats, left seats', ← alike.others]
    apply List.filter_congr
    intro m hm
    rw [hasRoomFor, hasRoomFor, alike.queues m.queue (Registry.mem_others.mp hm).2]
  · rw [broadcast_size, broadcast_size, alike.size]
  · intro k apart
    have heard : (∃ m ∈ h.registry.members, m.id ≠ message.sender ∧ m.queue = k) ↔
        ∃ m ∈ h'.registry.members, m.id ≠ message.sender ∧ m.queue = k := by
      constructor
      · rintro ⟨m, hm, other, rfl⟩
        exact ⟨m, (alike.mem_iff apart).mp hm, other, rfl⟩
      · rintro ⟨m, hm, other, rfl⟩
        exact ⟨m, (alike.mem_iff apart).mpr hm, other, rfl⟩
    rw [broadcast_queues message seats.distinct, broadcast_queues message seats'.distinct,
      alike.queues k apart, alike.rendered]
    simp only [heard]
  · rw [broadcast_elsewhere, broadcast_elsewhere, alike.elsewhere]

end Alike

end Hub

end ChatRelay
