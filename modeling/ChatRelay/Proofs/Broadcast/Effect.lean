import ChatRelay.Proofs.Hub
import Mathlib.Data.List.Basic

/-!
# The effect of a broadcast

A broadcast appends the text to the queue of each recipient that has room and removes the others.
What happens at one recipient depends on its own queue alone, as long as no two recipients share
one.
-/

namespace ChatRelay

namespace Hub

/-- The queue of a member takes the next text. -/
def hasRoomFor (h : Hub) (m : Member) : Bool := (h.queues[m.queue]?).any Queue.hasRoom

theorem deliverTo_of_room {h : Hub} {m : Member} (room : h.hasRoomFor m = true)
    (sender : ConnectionId) (text : String) (report : Report) :
    ∃ q, h.queues[m.queue]? = some q ∧ q.hasRoom = true ∧
      h.deliverTo sender text report m =
        ({ h with queues := h.queues.setIfInBounds m.queue (q.receive text) }.note
            (.accepted m.queue text),
          { report with delivered := report.delivered + 1 }) := by
  cases found : h.queues[m.queue]? with
  | none => simp [hasRoomFor, found] at room
  | some q =>
    have room : q.hasRoom = true := by simpa [hasRoomFor, found] using room
    exact ⟨q, rfl, room, by simp [deliverTo, deliver, found, Queue.offer_of_room room]⟩

theorem deliverTo_of_noRoom {h : Hub} {m : Member} (full : h.hasRoomFor m = false)
    (sender : ConnectionId) (text : String) (report : Report) :
    ∃ fault, h.deliverTo sender text report m =
      (h.note (.deliveryFailed m.id m.name sender fault),
        { report with failed := report.failed ++ [m.id] }) := by
  cases found : h.queues[m.queue]? with
  | none => exact ⟨.queueClosed, by simp [deliverTo, deliver, found]⟩
  | some q =>
    have full : q.hasRoom = false := by simpa [hasRoomFor, found] using full
    obtain ⟨fault, refused⟩ := Queue.offer_of_noRoom full text
    exact ⟨fault, by simp [deliverTo, deliver, found, refused]⟩

theorem deliver_isOk (h : Hub) (m : Member) (text : String) :
    (h.deliver m text).isOk = h.hasRoomFor m := by
  cases found : h.queues[m.queue]? with
  | none => simp [deliver, hasRoomFor, found, Except.isOk, Except.toBool]
  | some q =>
    cases room : q.hasRoom with
    | true =>
      simp [deliver, hasRoomFor, found, room, Queue.offer_of_room room, Except.isOk, Except.toBool]
    | false =>
      obtain ⟨fault, refused⟩ := Queue.offer_of_noRoom room text
      simp [deliver, hasRoomFor, found, room, refused, Except.isOk, Except.toBool]

section DeliverTo

variable (h : Hub) (sender : ConnectionId) (text : String) (report : Report) (m : Member)

/-- Apart from the queues, a delivery leaves the hub alone. -/
theorem deliverTo_frame :
    let after := (h.deliverTo sender text report m).1
    after.registry = h.registry ∧ after.options = h.options ∧ after.now = h.now ∧
      after.nextId = h.nextId ∧ after.story = h.story := by
  cases room : h.hasRoomFor m with
  | true =>
    obtain ⟨q, -, -, done⟩ := deliverTo_of_room room sender text report
    rw [done]
    exact ⟨rfl, rfl, rfl, rfl, by rw [note_story]; simp [Event.isTold, story]⟩
  | false =>
    obtain ⟨fault, done⟩ := deliverTo_of_noRoom room sender text report
    rw [done]
    exact ⟨rfl, rfl, rfl, rfl, by rw [note_story]; simp [Event.isTold]⟩

theorem deliverTo_queues (key : QueueKey) :
    (h.deliverTo sender text report m).1.queues[key]? =
      if m.queue = key then (h.queues[key]?).map (Queue.receive text) else h.queues[key]? := by
  cases room : h.hasRoomFor m with
  | true =>
    obtain ⟨q, found, -, done⟩ := deliverTo_of_room room sender text report
    have inBounds := (Array.getElem?_eq_some_iff.mp found).1
    rw [done, note_queues, Array.getElem?_setIfInBounds]
    split
    · rename_i same
      rw [← same, found]
      rfl
    · rfl
  | false =>
    obtain ⟨fault, done⟩ := deliverTo_of_noRoom room sender text report
    rw [done, note_queues]
    split
    · rename_i same
      subst same
      cases found : h.queues[m.queue]? with
      | none => rfl
      | some q =>
        have full : q.hasRoom = false := by simpa [hasRoomFor, found] using room
        simp [Queue.receive, full]
    · rfl

theorem deliverTo_report :
    (h.deliverTo sender text report m).2 =
      if h.hasRoomFor m then { report with delivered := report.delivered + 1 }
      else { report with failed := report.failed ++ [m.id] } := by
  cases room : h.hasRoomFor m with
  | true =>
    obtain ⟨q, -, -, done⟩ := deliverTo_of_room room sender text report
    rw [done]
    rfl
  | false =>
    obtain ⟨fault, done⟩ := deliverTo_of_noRoom room sender text report
    rw [done]
    rfl

end DeliverTo

theorem deliverTo_size (h : Hub) (sender : ConnectionId) (text : String) (report : Report)
    (m : Member) : (h.deliverTo sender text report m).1.queues.size = h.queues.size := by
  cases room : h.hasRoomFor m with
  | true =>
    obtain ⟨q, -, -, done⟩ := deliverTo_of_room room sender text report
    simp [done]
  | false =>
    obtain ⟨fault, done⟩ := deliverTo_of_noRoom room sender text report
    simp [done]

theorem deliverTo_acceptedBy (h : Hub) (sender : ConnectionId) (text : String) (report : Report)
    (m : Member) (key : QueueKey) : (h.deliverTo sender text report m).1.acceptedBy key =
      h.acceptedBy key ++
        if m.queue = key ∧ (h.queues[key]?).any Queue.hasRoom = true then [text] else [] := by
  cases room : h.hasRoomFor m with
  | true =>
    obtain ⟨q, -, -, done⟩ := deliverTo_of_room room sender text report
    rw [done, note_acceptedBy]
    by_cases same : m.queue = key
    · subst same
      rw [hasRoomFor] at room
      simp [Event.acceptedBy?, room]
    · simp [Event.acceptedBy?, same]
  | false =>
    obtain ⟨fault, done⟩ := deliverTo_of_noRoom room sender text report
    rw [done, note_acceptedBy_of_none _ rfl, if_neg, List.append_nil]
    rintro ⟨rfl, free⟩
    rw [hasRoomFor, free] at room
    cases room

/-- Whether a member has room is a matter of its own queue. -/
theorem hasRoomFor_deliverTo {h : Hub} {sender : ConnectionId} {text : String} {report : Report}
    {m other : Member} (apart : m.queue ≠ other.queue) :
    (h.deliverTo sender text report m).1.hasRoomFor other = h.hasRoomFor other := by
  rw [hasRoomFor, deliverTo_queues, if_neg apart, hasRoomFor]

section DeliverAll

variable (h : Hub) (sender : ConnectionId) (text : String) (report : Report) (ms : List Member)

theorem deliverAll_frame :
    let after := (h.deliverAll sender text report ms).1
    after.registry = h.registry ∧ after.options = h.options ∧ after.now = h.now ∧
      after.nextId = h.nextId ∧ after.story = h.story := by
  induction ms generalizing h report with
  | nil => exact ⟨rfl, rfl, rfl, rfl, rfl⟩
  | cons m rest ih =>
    obtain ⟨registry, options, now, nextId, story⟩ := deliverTo_frame h sender text report m
    obtain ⟨registry', options', now', nextId', story'⟩ :=
      ih (h.deliverTo sender text report m).1 (h.deliverTo sender text report m).2
    exact ⟨registry'.trans registry, options'.trans options, now'.trans now,
      nextId'.trans nextId, story'.trans story⟩

theorem deliverAll_size :
    (h.deliverAll sender text report ms).1.queues.size = h.queues.size := by
  induction ms generalizing h report with
  | nil => rfl
  | cons m rest ih => rw [deliverAll, ih, deliverTo_size]

variable {ms}

/-- Without two recipients at one queue, each queue gets the text once at most. -/
theorem deliverAll_queues (distinct : (ms.map Member.queue).Nodup) (key : QueueKey) :
    (h.deliverAll sender text report ms).1.queues[key]? =
      if key ∈ ms.map Member.queue then (h.queues[key]?).map (Queue.receive text)
      else h.queues[key]? := by
  induction ms generalizing h report with
  | nil => rfl
  | cons m rest ih =>
    obtain ⟨notAgain, distinct⟩ := List.nodup_cons.mp distinct
    rw [deliverAll, ih _ _ distinct, deliverTo_queues]
    by_cases same : m.queue = key
    · subst same
      rw [if_neg notAgain, if_pos rfl, if_pos (by simp)]
    · rw [if_neg same]
      simp [Ne.symm same]

/-- A queue accepts the text if it is that of a recipient and has room. -/
theorem deliverAll_acceptedBy (distinct : (ms.map Member.queue).Nodup) (key : QueueKey) :
    (h.deliverAll sender text report ms).1.acceptedBy key = h.acceptedBy key ++
      if key ∈ ms.map Member.queue ∧ (h.queues[key]?).any Queue.hasRoom = true then [text]
      else [] := by
  induction ms generalizing h report with
  | nil => simp [deliverAll]
  | cons m rest ih =>
    obtain ⟨notAgain, distinct⟩ := List.nodup_cons.mp distinct
    rw [deliverAll, ih _ _ distinct, deliverTo_acceptedBy, deliverTo_queues]
    by_cases same : m.queue = key
    · subst same
      simp [notAgain]
    · simp [same, Ne.symm same]

/-- The report counts the recipients with room and lists the others in their order. -/
theorem deliverAll_report (distinct : (ms.map Member.queue).Nodup) :
    (h.deliverAll sender text report ms).2 =
      { delivered := report.delivered + (ms.filter h.hasRoomFor).length
        failed := report.failed ++ (ms.filter fun m => !h.hasRoomFor m).map Member.id } := by
  induction ms generalizing h report with
  | nil => simp [deliverAll]
  | cons m rest ih =>
    obtain ⟨notAgain, distinct⟩ := List.nodup_cons.mp distinct
    have unaffected : ∀ other ∈ rest,
        (h.deliverTo sender text report m).1.hasRoomFor other = h.hasRoomFor other := by
      intro other hother
      apply hasRoomFor_deliverTo
      intro same
      exact notAgain (same ▸ List.mem_map_of_mem hother)
    rw [deliverAll, ih _ _ distinct, List.filter_congr unaffected,
      List.filter_congr fun other hother => congrArg (!·) (unaffected other hother),
      deliverTo_report]
    cases room : h.hasRoomFor m with
    | true => simp [room, Nat.add_assoc, Nat.add_comm 1]
    | false => simp [room]

end DeliverAll

section UnregisterAll

variable (h : Hub) (ids : List ConnectionId)

theorem unregisterAll_registry : (h.unregisterAll ids).registry = h.registry.without ids := by
  induction ids generalizing h with
  | nil => simp [unregisterAll]
  | cons id rest ih =>
    have step : h.unregisterAll (id :: rest) = (h.unregister id).2.unregisterAll rest := rfl
    rw [step, ih, unregister_registry, Registry.unregister_without]

theorem unregisterAll_frame :
    let after := h.unregisterAll ids
    after.queues = h.queues ∧ after.options = h.options ∧ after.now = h.now ∧
      after.nextId = h.nextId ∧ after.story = h.story := by
  induction ids generalizing h with
  | nil => exact ⟨rfl, rfl, rfl, rfl, rfl⟩
  | cons id rest ih => simpa [unregisterAll] using ih (h.unregister id).2

theorem unregisterAll_acceptedBy (key : QueueKey) :
    (h.unregisterAll ids).acceptedBy key = h.acceptedBy key := by
  induction ids generalizing h with
  | nil => rfl
  | cons id rest ih => exact (ih (h.unregister id).2).trans (unregister_acceptedBy h id key)

end UnregisterAll

section Broadcast

variable (h : Hub) (message : Message)

/-- What the recipients of a message get. -/
def rendered (h : Hub) (message : Message) : String := message.render h.options.showSender

theorem rendered_of_options {h h' : Hub} (same : h'.options = h.options) (message : Message) :
    h'.rendered message = h.rendered message := by
  rw [rendered, rendered, same]

/-- The hub and the report once the text was offered to all recipients. -/
def fanOut (h : Hub) (message : Message) : Hub × Report :=
  h.deliverAll message.sender (h.rendered message) {}
    (recipients h.registry.members message.sender)

theorem broadcast_eq :
    h.broadcast message =
      (((h.fanOut message).1.unregisterAll (h.fanOut message).2.failed).account message
        (h.fanOut message).2, (h.fanOut message).2) := rfl

theorem account_frame (report : Report) :
    let after := h.account message report
    after.registry = h.registry ∧ after.queues = h.queues ∧ after.options = h.options ∧
      after.now = h.now ∧ after.nextId = h.nextId ∧
      after.story = h.story ++ [.broadcast message report.delivered report.failed] := by
  have told : (h.note (.broadcast message report.delivered report.failed)).story =
      h.story ++ [.broadcast message report.delivered report.failed] := by
    simp [note_story, Event.isTold]
  unfold account
  dsimp only
  split <;> exact ⟨rfl, rfl, rfl, rfl, rfl, told⟩

theorem account_acceptedBy (h : Hub) (message : Message) (report : Report) (key : QueueKey) :
    (h.account message report).acceptedBy key = h.acceptedBy key := by
  rw [← @note_acceptedBy_of_none h (.broadcast message report.delivered report.failed) key rfl]
  unfold account
  dsimp only
  split <;> rfl

/-- Exactly those that could not take the text are gone. -/
theorem broadcast_registry :
    (h.broadcast message).1.registry = h.registry.without (h.broadcast message).2.failed := by
  rw [broadcast_eq, (account_frame _ _ _).1, unregisterAll_registry, fanOut,
    (deliverAll_frame _ _ _ _ _).1]

theorem broadcast_frame :
    let after := (h.broadcast message).1
    after.options = h.options ∧ after.now = h.now ∧ after.nextId = h.nextId ∧
      after.story = h.story ++ [.broadcast message (h.broadcast message).2.delivered
        (h.broadcast message).2.failed] := by
  obtain ⟨-, options, now, nextId, story⟩ := deliverAll_frame h message.sender (h.rendered message)
    {} (recipients h.registry.members message.sender)
  obtain ⟨-, options', now', nextId', story'⟩ :=
    unregisterAll_frame (h.fanOut message).1 (h.fanOut message).2.failed
  obtain ⟨-, -, options'', now'', nextId'', story''⟩ := account_frame
    ((h.fanOut message).1.unregisterAll (h.fanOut message).2.failed) message (h.fanOut message).2
  refine ⟨options''.trans (options'.trans options), now''.trans (now'.trans now),
    nextId''.trans (nextId'.trans nextId), ?_⟩
  rw [broadcast_eq, story'', story', fanOut, story]

theorem broadcast_size : (h.broadcast message).1.queues.size = h.queues.size := by
  rw [broadcast_eq, (account_frame _ _ _).2.1, (unregisterAll_frame _ _).1, fanOut, deliverAll_size]

theorem mem_recipients {ms : List Member} {sender : ConnectionId} {m : Member} :
    m ∈ recipients ms sender ↔ m ∈ ms ∧ m.id ≠ sender := by
  simp [recipients]

variable {h} in
theorem recipients_distinct (distinct : (h.registry.members.map Member.queue).Nodup)
    (sender : ConnectionId) :
    ((recipients h.registry.members sender).map Member.queue).Nodup :=
  distinct.sublist (List.filter_sublist.map _)

variable {h} (distinct : (h.registry.members.map Member.queue).Nodup)

include distinct

theorem broadcast_report :
    (h.broadcast message).2 =
      { delivered := ((recipients h.registry.members message.sender).filter h.hasRoomFor).length
        failed := ((recipients h.registry.members message.sender).filter fun m =>
          !h.hasRoomFor m).map Member.id } := by
  rw [broadcast_eq, fanOut, deliverAll_report _ _ _ _ (recipients_distinct distinct _)]
  simp

theorem broadcast_queues (key : QueueKey) :
    (h.broadcast message).1.queues[key]? =
      if ∃ m ∈ h.registry.members, m.id ≠ message.sender ∧ m.queue = key then
        (h.queues[key]?).map (Queue.receive (h.rendered message))
      else h.queues[key]? := by
  rw [broadcast_eq, (account_frame _ _ _).2.1, (unregisterAll_frame _ _).1, fanOut,
    deliverAll_queues _ _ _ _ (recipients_distinct distinct _)]
  simp only [List.mem_map, mem_recipients, and_assoc]

/-- The failed ones are the recipients without room. -/
theorem mem_broadcast_failed {id : ConnectionId} :
    id ∈ (h.broadcast message).2.failed ↔
      ∃ m ∈ h.registry.members, m.id = id ∧ m.id ≠ message.sender ∧ h.hasRoomFor m = false := by
  rw [broadcast_report message distinct]
  simp only [List.mem_map, List.mem_filter, mem_recipients, Bool.not_eq_true']
  constructor
  · rintro ⟨m, ⟨⟨hm, other⟩, full⟩, same⟩
    exact ⟨m, hm, same, other, full⟩
  · rintro ⟨m, hm, same, other, full⟩
    exact ⟨m, ⟨⟨hm, other⟩, full⟩, same⟩

/-- An identity has one member, so what failed under it is that member. -/
theorem recipient_failed_iff (ascending : h.registry.Ascending) {m : Member}
    (hm : m ∈ h.registry.members) (other : m.id ≠ message.sender) :
    m.id ∈ (h.broadcast message).2.failed ↔ h.hasRoomFor m = false := by
  rw [mem_broadcast_failed message distinct]
  constructor
  · rintro ⟨m', hm', same, -, full⟩
    rwa [ascending.eq_of_id hm' hm same] at full
  · exact fun full => ⟨m, hm, rfl, other, full⟩

theorem recipient_queue {m : Member} (hm : m ∈ h.registry.members)
    (other : m.id ≠ message.sender) :
    (h.broadcast message).1.queues[m.queue]? =
      (h.queues[m.queue]?).map (Queue.receive (h.rendered message)) := by
  rw [broadcast_queues message distinct, if_pos ⟨m, hm, other, rfl⟩]

theorem bystander_queue {key : QueueKey}
    (nobody : ∀ m ∈ h.registry.members, m.id ≠ message.sender → m.queue ≠ key) :
    (h.broadcast message).1.queues[key]? = h.queues[key]? := by
  rw [broadcast_queues message distinct, if_neg]
  rintro ⟨m, hm, other, same⟩
  exact nobody m hm other same

/-- A broadcast puts its text into the queue of a recipient that does not fail, and into no other. -/
theorem broadcast_acceptedBy (key : QueueKey) : (h.broadcast message).1.acceptedBy key =
    h.acceptedBy key ++ if (∃ m ∈ h.registry.members, m.id ≠ message.sender ∧ m.queue = key) ∧
      (h.queues[key]?).any Queue.hasRoom = true then [h.rendered message] else [] := by
  rw [broadcast_eq, account_acceptedBy, unregisterAll_acceptedBy, fanOut,
    deliverAll_acceptedBy _ _ _ _ (recipients_distinct distinct _)]
  simp only [List.mem_map, mem_recipients, and_assoc]

end Broadcast

/-- What a broadcast does, told of the hub before and after it and of its report. The fate of a
recipient is a matter of its own queue: whether others can take the text plays no part. -/
structure Effect (before : Hub) (message : Message) (after : Hub) (report : Report) : Prop where
  queued : ∀ c ∈ before.registry.members, ∃ q, before.queues[c.queue]? = some q
  /-- Who has a reader and room gets the text once, and stays. -/
  reached : ∀ c ∈ before.registry.members, c.id ≠ message.sender →
    ∀ q, before.queues[c.queue]? = some q → q.hasReader = true → q.pending.length < q.capacity →
      after.queues[c.queue]? = some { q with pending := q.pending ++
        [if before.options.showSender then message.senderName ++ ": " ++ message.text
          else message.text] } ∧
      c ∈ after.registry.members ∧ c.id ∉ report.failed
  /-- Anybody else gets nothing, is reported, and goes. -/
  missed : ∀ c ∈ before.registry.members, c.id ≠ message.sender →
    ∀ q, before.queues[c.queue]? = some q →
      ¬ (q.hasReader = true ∧ q.pending.length < q.capacity) →
      after.queues[c.queue]? = some q ∧ c.id ∈ report.failed ∧
        ∀ m ∈ after.registry.members, m.id ≠ c.id
  failed_recipient : ∀ id ∈ report.failed,
    ∃ c ∈ before.registry.members, c.id = id ∧ c.id ≠ message.sender
  failed_ascending : report.failed.Pairwise (· < ·)
  counted : report.delivered + report.failed.length =
    (before.registry.members.filter fun c => c.id ≠ message.sender).length
  /-- The sender is left alone, whatever its own queue is like. -/
  sender_kept : ∀ c ∈ before.registry.members, c.id = message.sender →
    c ∈ after.registry.members ∧ after.queues[c.queue]? = before.queues[c.queue]?
  registry : after.registry = { before.registry with
    members := before.registry.members.filter fun c => c.id ∉ report.failed }
  /-- Queues of nobody who could receive are left alone. -/
  elsewhere : ∀ key, (∀ c ∈ before.registry.members, c.id ≠ message.sender → c.queue ≠ key) →
    after.queues[key]? = before.queues[key]?

theorem broadcast_effect {h : Hub} (ascending : h.registry.Ascending)
    (queued : ∀ c ∈ h.registry.members, c.queue < h.queues.size)
    (distinct : (h.registry.members.map Member.queue).Nodup) (message : Message) :
    h.Effect message (h.broadcast message).1 (h.broadcast message).2 := by
  have registry := broadcast_registry h message
  have failed {id : ConnectionId} := @mem_broadcast_failed h message distinct id
  have report := broadcast_report message distinct
  have failed_iff {c : Member} := @recipient_failed_iff h message distinct ascending c
  have queue_of {c : Member} := @recipient_queue h message distinct c
  constructor
  · exact fun c hc => ⟨_, Array.getElem?_eq_getElem (queued c hc)⟩
  · intro c hc other q found reader short
    have room : q.hasRoom = true := Queue.hasRoom_iff.mpr ⟨reader, short⟩
    have stays : c.id ∉ (h.broadcast message).2.failed := by
      rw [failed_iff hc other]
      simp [hasRoomFor, found, room]
    refine ⟨?_, ?_, stays⟩
    · rw [queue_of hc other, found]
      simp only [Option.map_some, Queue.receive, room, if_true]
      rfl
    · rw [registry]
      exact Registry.mem_without.mpr ⟨hc, stays⟩
  · intro c hc other q found full
    have noRoom : q.hasRoom = false := by
      rw [← Bool.not_eq_true, Queue.hasRoom_iff]
      exact full
    have goes : c.id ∈ (h.broadcast message).2.failed := by
      rw [failed_iff hc other]
      simp [hasRoomFor, found, noRoom]
    refine ⟨?_, goes, ?_⟩
    · rw [queue_of hc other, found]
      simp [Queue.receive, noRoom]
    · intro m hm same
      rw [registry, Registry.mem_without, same] at hm
      exact hm.2 goes
  · intro id hid
    obtain ⟨c, hc, same, other, -⟩ := failed.mp hid
    exact ⟨c, hc, same, other⟩
  · rw [report]
    have sorted : (h.registry.members.map Member.id).Pairwise (· < ·) :=
      List.pairwise_map.mpr ascending
    exact sorted.sublist ((List.filter_sublist.trans List.filter_sublist).map _)
  · rw [report]
    simp only [List.length_map]
    rw [← List.length_eq_length_filter_add, recipients]
    congr 1
    apply List.filter_congr
    intro m _
    by_cases same : m.id = message.sender <;> simp [same]
  · intro c hc same
    constructor
    · rw [registry, Registry.mem_without, failed]
      refine ⟨hc, ?_⟩
      rintro ⟨m, -, sameId, other, -⟩
      exact other (sameId.trans same)
    · apply bystander_queue message distinct
      intro m hm other sameQueue
      have : m = c := List.inj_on_of_nodup_map distinct hm hc sameQueue
      exact other (this ▸ same)
  · exact registry
  · exact fun key nobody => bystander_queue message distinct nobody

end Hub

end ChatRelay
