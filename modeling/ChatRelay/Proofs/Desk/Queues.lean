import ChatRelay.Proofs.Desk
import Mathlib.Data.List.Induction

/-!
# The life of a queue

What is read from a queue is what it accepted, in the same order; the rest is pending as long as the
reader is there. The queue is open for its reader as long as a handle of it is left: free under a
label, in the registry or in a snapshot. Handles come from handles only, so a queue that has come to
its end stays there.
-/

namespace ChatRelay

namespace Hub

/-- Whether a queue still has its reader. -/
def isRead (h : Hub) (key : QueueKey) : Bool := (h.queues[key]?).any Queue.hasReader

/-- A delivery that succeeds finds the reader and room, and the text is behind all others. -/
theorem deliver_eq_ok_iff {h h' : Hub} {m : Member} {text : String} :
    h.deliver m text = .ok h' ↔ ∃ q, h.queues[m.queue]? = some q ∧ q.hasRoom = true ∧
      h' = { h with queues := h.queues.setIfInBounds m.queue (q.receive text) }.note
        (.accepted m.queue text) := by
  cases found : h.queues[m.queue]? with
  | none => simp [deliver, found]
  | some q =>
    cases room : q.hasRoom with
    | true =>
      simp only [deliver, found, Queue.offer_of_room room]
      constructor
      · intro done
        exact ⟨q, rfl, room, (Except.ok.inj done).symm⟩
      · rintro ⟨q', same, -, rfl⟩
        cases same
        rfl
    | false =>
      obtain ⟨fault, refused⟩ := Queue.offer_of_noRoom room text
      simp [deliver, found, refused, room]

inductive Traffic (handles : List Member) : Hub → (QueueKey → List String) → Hub → Prop where
  | still {h h'} (queues : h'.queues = h.queues)
      (accepted : ∀ key, h'.acceptedBy key = h.acceptedBy key) :
      Traffic handles h (fun _ => []) h'
  | deliver {h h' m text} (among : m ∈ handles) (done : h.deliver m text = .ok h') :
      Traffic handles h (fun _ => []) h'
  | take {h h' key text} (taken : h.take? key = some (text, h')) :
      Traffic handles h (fun k => if k = key then [text] else []) h'
  | both {h h' h'' first second} (before : Traffic handles h first h')
      (after : Traffic handles h' second h'') :
      Traffic handles h (fun key => first key ++ second key) h''

section Traffic

variable {handles : List Member}

theorem Traffic.refl (h : Hub) : Traffic handles h (fun _ => []) h := .still rfl fun _ => rfl

theorem traffic_deliverTo (h : Hub) (sender : ConnectionId) (text : String) (report : Report)
    {m : Member} (among : m ∈ handles) :
    Traffic handles h (fun _ => []) (h.deliverTo sender text report m).1 := by
  cases done : h.deliver m text with
  | error fault =>
    simp only [deliverTo, done]
    exact .still rfl fun key => note_acceptedBy_of_none h rfl
  | ok h' =>
    simp only [deliverTo, done]
    exact .deliver among done

theorem traffic_deliverAll (h : Hub) (sender : ConnectionId) (text : String) (report : Report)
    {ms : List Member} (among : ∀ m ∈ ms, m ∈ handles) :
    Traffic handles h (fun _ => []) (h.deliverAll sender text report ms).1 := by
  induction ms generalizing h report with
  | nil => exact .refl h
  | cons m rest ih =>
    obtain ⟨first, among⟩ := List.forall_mem_cons.mp among
    exact .both (traffic_deliverTo h sender text report first) (ih _ _ among)

theorem traffic_unregisterAll (h : Hub) (ids : List ConnectionId) :
    Traffic handles h (fun _ => []) (h.unregisterAll ids) := by
  induction ids generalizing h with
  | nil => exact .refl h
  | cons id rest ih =>
    exact .both (.still (unregister_queues h id) (unregister_acceptedBy h id))
      (ih (h.unregister id).2)

theorem traffic_broadcast {h : Hub} (among : ∀ m ∈ h.registry.members, m ∈ handles)
    (message : Message) : Traffic handles h (fun _ => []) (h.broadcast message).1 := by
  have accounted (h : Hub) (report : Report) :
      Traffic handles h (fun _ => []) (h.account message report) :=
    .still (account_frame h message report).2.1 (account_acceptedBy h message report)
  have offered : Traffic handles h (fun _ => []) (h.fanOut message).1 :=
    traffic_deliverAll h _ _ _ fun m hm => among m (mem_recipients.mp hm).1
  rw [broadcast_eq]
  exact .both (.both offered (traffic_unregisterAll _ _)) (accounted _ _)

end Traffic

end Hub

/-- How a queue stands to what it has accepted and what was read from it. -/
structure Queue.Ledger (q : Queue) (accepted heard : List String) : Prop where
  /-- What was read is what was accepted first. -/
  order : heard <+: accepted
  /-- Nothing is lost or comes twice: what was not read is pending. -/
  kept : q.hasReader = true → accepted = heard ++ q.pending
  lost : q.hasReader = false → q.pending = []
  bounded : q.pending.length ≤ q.capacity

namespace Queue.Ledger

variable {q : Queue} {accepted heard : List String}

theorem opened (capacity : Nat) : Queue.Ledger { capacity } [] [] :=
  ⟨List.prefix_refl _, fun _ => rfl, (by cases ·), Nat.zero_le _⟩

theorem accept (h : q.Ledger accepted heard) (room : q.hasRoom = true) (text : String) :
    (q.receive text).Ledger (accepted ++ [text]) heard := by
  obtain ⟨reader, short⟩ := Queue.hasRoom_iff.mp room
  rw [Queue.receive, if_pos room]
  refine ⟨h.order.trans (List.prefix_append _ _), ?_, ?_, ?_⟩
  · intro _
    rw [h.kept reader, List.append_assoc]
  · intro gone
    rw [reader] at gone
    cases gone
  · simpa [Nat.succ_le_iff] using short

theorem read (h : q.Ledger accepted heard) {text : String} {rest : List String}
    (first : q.pending = text :: rest) :
    Queue.Ledger { q with pending := rest } accepted (heard ++ [text]) := by
  have reader : q.hasReader = true := by
    by_contra gone
    rw [h.lost (by simpa using gone)] at first
    cases first
  have kept : accepted = (heard ++ [text]) ++ rest := by
    rw [h.kept reader, first, List.append_assoc, List.singleton_append]
  refine ⟨⟨rest, kept.symm⟩, fun _ => kept, ?_, ?_⟩
  · intro gone
    rw [reader] at gone
    cases gone
  · have bounded := h.bounded
    rw [first, List.length_cons] at bounded
    exact Nat.le_of_succ_le bounded

theorem dropReader (h : q.Ledger accepted heard) : q.dropReader.Ledger accepted heard :=
  ⟨h.order, (by cases ·), fun _ => rfl, Nat.zero_le _⟩

end Queue.Ledger

namespace Hub

/-- Every queue is in order, and of a queue that is not there yet nothing is known. -/
structure Ledgered (h : Hub) (heard : QueueKey → List String) : Prop where
  queues : ∀ (key : QueueKey) (q : Queue), h.queues[key]? = some q →
    q.Ledger (h.acceptedBy key) (heard key)
  absent : ∀ key : QueueKey, h.queues[key]? = none → h.acceptedBy key = [] ∧ heard key = []

section Ledgered

variable {h h' : Hub} {heard : QueueKey → List String}

theorem Ledgered.deliver (l : h.Ledgered heard) {m : Member} {text : String}
    (done : h.deliver m text = .ok h') : h'.Ledgered heard := by
  obtain ⟨q, found, room, rfl⟩ := deliver_eq_ok_iff.mp done
  have inBounds := (Array.getElem?_eq_some_iff.mp found).1
  constructor
  · intro key q' found'
    rw [note_acceptedBy]
    by_cases same : m.queue = key
    · subst same
      obtain rfl : q.receive text = q' := by simpa [inBounds] using found'
      simpa [Event.acceptedBy?] using (l.queues _ q found).accept room text
    · have before : h.queues[key]? = some q' := by simpa [same] using found'
      simpa [Event.acceptedBy?, same] using l.queues key q' before
  · intro key none
    by_cases same : m.queue = key
    · subst same
      simp [inBounds] at none
    · have before : h.queues[key]? = Option.none := by simpa [same] using none
      rw [note_acceptedBy_of_none _ (by simp [Event.acceptedBy?, same])]
      exact l.absent key before

theorem Ledgered.take (l : h.Ledgered heard) {key : QueueKey} {text : String}
    (taken : h.take? key = some (text, h')) :
    h'.Ledgered fun k => heard k ++ if k = key then [text] else [] := by
  obtain ⟨q, rest, found, first, rfl⟩ := take?_eq_some_iff.mp taken
  have inBounds := (Array.getElem?_eq_some_iff.mp found).1
  constructor
  · intro k q' found'
    by_cases same : k = key
    · subst same
      obtain rfl : { q with pending := rest } = q' := by simpa [inBounds] using found'
      simpa using (l.queues _ q found).read first
    · have before : h.queues[k]? = some q' := by simpa [Ne.symm same] using found'
      simpa [same] using l.queues k q' before
  · intro k none
    by_cases same : k = key
    · subst same
      simp [inBounds] at none
    · have before : h.queues[k]? = Option.none := by simpa [Ne.symm same] using none
      simpa [same] using l.absent k before

theorem Ledgered.traffic (l : h.Ledgered heard) {handles : List Member}
    {read : QueueKey → List String} (traffic : Traffic handles h read h') :
    h'.Ledgered fun key => heard key ++ read key := by
  induction traffic generalizing heard with
  | still queues accepted =>
    constructor
    · intro key q found
      rw [queues] at found
      simpa [accepted] using l.queues key q found
    · intro key none
      rw [queues] at none
      simpa [accepted] using l.absent key none
  | deliver among done => simpa using l.deliver done
  | take taken => exact l.take taken
  | both _ _ ih ih' =>
    have next := ih' (ih l)
    simpa [List.append_assoc] using next

theorem Ledgered.dropReader (l : h.Ledgered heard) (key : QueueKey) :
    (h.dropReader key).Ledgered heard := by
  have accepted (k : QueueKey) : (h.dropReader key).acceptedBy k = h.acceptedBy k := rfl
  constructor
  · intro k q found
    rw [accepted]
    rw [dropReader_queues, Array.getElem?_modify] at found
    split at found
    · obtain ⟨old, before, rfl⟩ := Option.map_eq_some_iff.mp found
      exact (l.queues k old before).dropReader
    · exact l.queues k q found
  · intro k none
    have before : h.queues[k]? = Option.none := by simpa using none
    exact l.absent k before

theorem Ledgered.openQueue (l : h.Ledgered heard) (capacity : Nat) :
    (h.openQueue capacity).2.Ledgered heard := by
  have accepted (k : QueueKey) : (h.openQueue capacity).2.acceptedBy k = h.acceptedBy k := rfl
  constructor
  · intro k q found
    rw [accepted]
    simp only [Hub.openQueue, Array.getElem?_push] at found
    split at found
    · rename_i last
      obtain ⟨nothing, unheard⟩ := l.absent k (by simp [last])
      rw [nothing, unheard, ← Option.some.inj found]
      exact .opened capacity
    · exact l.queues k q found
  · intro k none
    simp only [Hub.openQueue, Array.getElem?_push] at none
    split at none
    · cases none
    · exact l.absent k none

end Ledgered

/-- The room that the queues were made with. -/
def capacities (h : Hub) : List Nat := h.queues.toList.map Queue.capacity

section Frame

variable {h h' : Hub} {handles : List Member} {read : QueueKey → List String}

theorem isRead_of_queues (same : h'.queues = h.queues) (key : QueueKey) :
    h'.isRead key = h.isRead key := by
  rw [isRead, isRead, same]

theorem pending_eq {key : QueueKey} {q : Queue} (found : h.queues[key]? = some q) :
    h.pending key = q.pending := by
  rw [pending, found, Option.elim_some]

theorem length_capacities : h.capacities.length = h.queues.size := by
  simp [capacities]

theorem lt_of_isRead {key : QueueKey} (read : h.isRead key = true) : key < h.queues.size := by
  by_contra beyond
  simp [isRead, Array.getElem?_eq_none (Nat.le_of_not_lt beyond)] at read

theorem openQueue_capacities (h : Hub) (capacity : Nat) :
    (h.openQueue capacity).2.capacities = h.capacities ++ [capacity] := by
  simp [openQueue, capacities]

theorem openQueue_isRead {capacity : Nat} {key : QueueKey} :
    (h.openQueue capacity).2.isRead key = true ↔ key = h.queues.size ∨ h.isRead key = true := by
  by_cases last : key = h.queues.size <;> simp [openQueue, isRead, Array.getElem?_push, last]

theorem dropReader_capacities (h : Hub) (key : QueueKey) :
    (h.dropReader key).capacities = h.capacities := by
  apply List.ext_getElem?
  intro k
  simp only [capacities, dropReader, List.getElem?_map, Array.getElem?_toList,
    Array.getElem?_modify]
  split
  · rw [Option.map_map]
    rfl
  · rfl

theorem dropReader_isRead {key k : QueueKey} :
    (h.dropReader key).isRead k = true ↔ k ≠ key ∧ h.isRead k = true := by
  by_cases same : k = key
  · cases found : h.queues[key]? <;>
      simp [isRead, same, found, Array.getElem?_modify, Queue.dropReader]
  · simp [isRead, same, Ne.symm same, Array.getElem?_modify]

theorem dropReader_pending {key k : QueueKey} (empty : h.pending k = []) :
    (h.dropReader key).pending k = [] := by
  by_cases same : key = k
  · cases found : h.queues[k]? <;>
      simp [pending, same, found, Array.getElem?_modify, Queue.dropReader]
  · rw [← empty]
    exact pending_of_queues (by simp [same, Array.getElem?_modify])

/-- Only what is pending at one queue changes. -/
theorem queue_frame {key : QueueKey} {q : Queue} (found : h.queues[key]? = some q)
    {pending : List String}
    (queues : h'.queues = h.queues.setIfInBounds key { q with pending }) :
    h'.capacities = h.capacities ∧ (∀ k, h'.isRead k = h.isRead k) ∧
      (∀ k, k ≠ key → h'.pending k = h.pending k) ∧ h'.pending key = pending := by
  have inBounds := (Array.getElem?_eq_some_iff.mp found).1
  have here : h'.queues[key]? = some { q with pending } := by simp [queues, inBounds]
  have elsewhere (k : QueueKey) (apart : k ≠ key) : h'.queues[k]? = h.queues[k]? := by
    simp [queues, Ne.symm apart]
  refine ⟨?_, ?_, ?_, pending_eq here⟩
  · apply List.ext_getElem?
    intro k
    simp only [capacities, List.getElem?_map, Array.getElem?_toList]
    by_cases same : k = key
    · rw [same, here, found, Option.map_some, Option.map_some]
    · rw [elsewhere k same]
  · intro k
    by_cases same : k = key
    · rw [same, isRead, isRead, here, found, Option.any_some, Option.any_some]
    · rw [isRead, isRead, elsewhere k same]
  · exact fun k apart => pending_of_queues (elsewhere k apart)

theorem queues_of_deliver {m : Member} {text : String} (done : h.deliver m text = .ok h') :
    ∃ q, h.queues[m.queue]? = some q ∧ h'.queues =
      h.queues.setIfInBounds m.queue { q with pending := q.pending ++ [text] } := by
  obtain ⟨q, found, room, rfl⟩ := deliver_eq_ok_iff.mp done
  exact ⟨q, found, by rw [note_queues, Queue.receive, if_pos room]⟩

theorem deliver_of_room {m : Member} {q : Queue} (found : h.queues[m.queue]? = some q)
    (room : q.hasRoom = true) (text : String) :
    ∃ h', h.deliver m text = .ok h' ∧ h'.pending m.queue = q.pending ++ [text] := by
  have inBounds := (Array.getElem?_eq_some_iff.mp found).1
  refine ⟨_, deliver_eq_ok_iff.mpr ⟨q, found, room, rfl⟩, ?_⟩
  simp [pending, inBounds, Queue.receive, room]

theorem queues_of_take {key : QueueKey} {text : String} (taken : h.take? key = some (text, h')) :
    ∃ q rest, h.queues[key]? = some q ∧ q.pending = text :: rest ∧
      h'.queues = h.queues.setIfInBounds key { q with pending := rest } := by
  obtain ⟨q, rest, found, first, rfl⟩ := take?_eq_some_iff.mp taken
  exact ⟨q, rest, found, first, rfl⟩

theorem Traffic.frame (traffic : Traffic handles h read h') :
    h'.capacities = h.capacities ∧ ∀ key, h'.isRead key = h.isRead key := by
  induction traffic with
  | still queues accepted => exact ⟨by rw [capacities, queues, capacities], isRead_of_queues queues⟩
  | deliver among done =>
    obtain ⟨q, found, queues⟩ := queues_of_deliver done
    obtain ⟨capacities, readers, -⟩ := queue_frame found queues
    exact ⟨capacities, readers⟩
  | take taken =>
    obtain ⟨q, rest, found, -, queues⟩ := queues_of_take taken
    obtain ⟨capacities, readers, -⟩ := queue_frame found queues
    exact ⟨capacities, readers⟩
  | both _ _ ih ih' => exact ⟨ih'.1.trans ih.1, fun key => (ih'.2 key).trans (ih.2 key)⟩

/-- What no handle reaches gets no text. -/
theorem Traffic.unreached (traffic : Traffic handles h read h') {key : QueueKey}
    (unreached : ∀ m ∈ handles, m.queue ≠ key) :
    h'.acceptedBy key = h.acceptedBy key ∧ h'.pending key <:+ h.pending key := by
  induction traffic with
  | @still h h' queues accepted =>
    have same : h'.pending key = h.pending key := pending_of_queues (by rw [queues])
    exact ⟨accepted key, same ▸ List.suffix_refl _⟩
  | @deliver h h' m text among done =>
    have apart := unreached m among
    obtain ⟨q, found, queues⟩ := queues_of_deliver done
    obtain ⟨-, -, elsewhere, -⟩ := queue_frame found queues
    obtain ⟨q', -, -, noted⟩ := deliver_eq_ok_iff.mp done
    have accepted : h'.acceptedBy key = h.acceptedBy key := by
      rw [noted, note_acceptedBy_of_none _ (by simp [Event.acceptedBy?, apart])]
      rfl
    exact ⟨accepted, elsewhere key apart.symm ▸ List.suffix_refl _⟩
  | @take h h' k text taken =>
    obtain ⟨q, rest, found, first, queues⟩ := queues_of_take taken
    obtain ⟨-, -, elsewhere, here⟩ := queue_frame found queues
    obtain ⟨q', rest', -, -, rfl⟩ := take?_eq_some_iff.mp taken
    refine ⟨rfl, ?_⟩
    by_cases same : key = k
    · rw [same, here, pending_eq found, first]
      exact List.suffix_cons _ _
    · exact elsewhere key same ▸ List.suffix_refl _
  | both _ _ ih ih' => exact ⟨ih'.1.trans ih.1, ih'.2.trans ih.2⟩

end Frame

end Hub

end ChatRelay
