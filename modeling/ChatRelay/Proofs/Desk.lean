import ChatRelay.Desk
import ChatRelay.Proofs.Broadcast.Effect
import ChatRelay.Proofs.Labelled

/-!
# Runs of a desk

A desk can be used in any order: handles are made, copied, registered and dropped, texts are sent
and read, the registry is ended. Whatever was done, the registry is in order and every handle has
its queue.
-/

namespace ChatRelay

namespace Desk

inductive Action where
  | issueId
  | create (label name : String) (capacity : Nat) (id : Option ConnectionId)
  | register (label : String)
  | copy (label target : String)
  | discard (label : String)
  | unregister (id : ConnectionId)
  | snapshot (label : String)
  | dropSnapshot (label : String)
  | deliver (label text : String)
  | deliverInSnapshot (label : String) (id : ConnectionId) (text : String)
  | broadcast (message : Message)
  | read (label : String) (n : Nat)
  | dropReader (label : String)
  | endRegistry

def act (d : Desk) : Action → Desk
  | .issueId => d.issueId.2
  | .create label name capacity id => (d.create label name capacity id).2
  | .register label => (d.register? label).elim d Prod.snd
  | .copy label target => (d.copy? label target).getD d
  | .discard label => (d.discard label).2
  | .unregister id => (d.unregister id).2
  | .snapshot label => (d.snapshot label).2
  | .dropSnapshot label => (d.dropSnapshot label).2
  | .deliver label text => (d.deliverTo? label text).elim d Prod.snd
  | .deliverInSnapshot label id text => (d.deliverInSnapshot? label id text).elim d Prod.snd
  | .broadcast message => (d.broadcast message).2
  | .read label n => (d.read? label n).elim d Prod.snd
  | .dropReader label => (d.dropReader label).2
  | .endRegistry => d.endRegistry.2

def run (options : HubOptions) (actions : List Action) : Desk :=
  actions.foldl act { hub := { options } }

theorem run_append (options : HubOptions) (actions more : List Action) :
    run options (actions ++ more) = more.foldl act (run options actions) :=
  List.foldl_append

/-- The registry is in order, and every handle in it or under a label has its queue. -/
structure Sound (d : Desk) : Prop where
  ascending : d.hub.registry.Ascending
  registered : ∀ m ∈ d.hub.registry.members, m.queue < d.hub.queues.size
  held : ∀ entry ∈ d.handles, entry.2.queue < d.hub.queues.size

/-- Nothing goes wrong while members and handles only go and queues only come. -/
theorem Sound.shrink {d d' : Desk} (h : d.Sound) (ascending : d'.hub.registry.Ascending)
    (members : ∀ m ∈ d'.hub.registry.members, m ∈ d.hub.registry.members)
    (handles : ∀ entry ∈ d'.handles, entry ∈ d.handles)
    (size : d.hub.queues.size ≤ d'.hub.queues.size) : d'.Sound where
  ascending := ascending
  registered m hm := Nat.lt_of_lt_of_le (h.registered m (members m hm)) size
  held entry hentry := Nat.lt_of_lt_of_le (h.held entry (handles entry hentry)) size

/-- Reading changes one queue and nothing else. -/
theorem readMany_frame (d : Desk) (key : QueueKey) (n : Nat) :
    (d.readMany key n).2.hub.registry = d.hub.registry ∧
      (d.readMany key n).2.handles = d.handles ∧
      (d.readMany key n).2.hub.options = d.hub.options ∧
      (d.readMany key n).2.hub.queues.size = d.hub.queues.size := by
  induction n generalizing d with
  | zero => exact ⟨rfl, rfl, rfl, rfl⟩
  | succ n ih =>
    cases taken : d.hub.take? key with
    | none =>
      have same : (d.readOne key).2 = d := by simp [readOne, taken]
      have untold : ∀ text, (d.readOne key).1 ≠ .text text := by
        intro text
        simp only [readOne, taken]
        split <;> simp
      rw [readMany]
      split
      · rename_i text d' first
        exact False.elim (untold text (by rw [first]))
      · rename_i reading d' _ first
        have : d' = d := by rw [← same, first]
        simp [this]
    | some next =>
      obtain ⟨text, hub⟩ := next
      obtain ⟨q, rest, -, -, rfl⟩ := Hub.take?_eq_some_iff.mp taken
      simpa [readMany, readOne, taken] using
        ih { d with hub := { d.hub with
          queues := d.hub.queues.setIfInBounds key { q with pending := rest } } }

theorem replaceReader_frame (d : Desk) (label : String) (key : QueueKey) :
    (d.replaceReader label key).hub.registry = d.hub.registry ∧
      (d.replaceReader label key).handles = d.handles ∧
      (d.replaceReader label key).hub.options = d.hub.options ∧
      (d.replaceReader label key).hub.queues.size = d.hub.queues.size := by
  unfold replaceReader
  cases d.readers.get? label <;> simp

theorem deliver_frame (d : Desk) (m : Member) (text : String) :
    (d.deliver m text).2.hub.registry = d.hub.registry ∧
      (d.deliver m text).2.handles = d.handles ∧
      (d.deliver m text).2.hub.options = d.hub.options ∧
      (d.deliver m text).2.hub.queues.size = d.hub.queues.size := by
  cases done : d.hub.deliver m text with
  | error fault => simp [deliver, done]
  | ok hub =>
    obtain ⟨q, rfl⟩ := Hub.eq_of_deliver_ok done
    simp [deliver, done]

/-- A new queue is the last one, and its first handle is under the label. -/
theorem create_frame (d : Desk) (label name : String) (capacity : Nat)
    (id : Option ConnectionId) :
    (d.create label name capacity id).2.hub.registry = d.hub.registry ∧
      (d.create label name capacity id).2.hub.options = d.hub.options ∧
      (d.create label name capacity id).2.hub.queues.size = d.hub.queues.size + 1 ∧
      ∃ id', (d.create label name capacity id).2.handles =
        d.handles.put label ⟨id', name, d.hub.queues.size⟩ := by
  cases id with
  | none =>
    obtain ⟨registry, handles, options, size⟩ := replaceReader_frame
      { d with hub := (d.hub.openQueue capacity).2.issueId.2 } label d.hub.queues.size
    refine ⟨registry, options, size.trans (by simp [Hub.openQueue, Hub.issueId]), ?_⟩
    exact ⟨_, by rw [← handles]; rfl⟩
  | some id =>
    obtain ⟨registry, handles, options, size⟩ := replaceReader_frame
      { d with hub := (d.hub.openQueue capacity).2 } label d.hub.queues.size
    refine ⟨registry, options, size.trans (by simp [Hub.openQueue]), ?_⟩
    exact ⟨id, by rw [← handles]; rfl⟩

theorem Sound.create {d : Desk} (h : d.Sound) (label name : String) (capacity : Nat)
    (id : Option ConnectionId) : (d.create label name capacity id).2.Sound := by
  obtain ⟨registry, -, size, id', handles⟩ := create_frame d label name capacity id
  constructor
  · rw [registry]
    exact h.ascending
  · intro m hm
    rw [registry] at hm
    rw [size]
    exact Nat.lt_succ_of_lt (h.registered m hm)
  · intro entry hentry
    rw [handles] at hentry
    rw [size]
    rcases Labelled.mem_put hentry with old | rfl
    · exact Nat.lt_succ_of_lt (h.held entry old)
    · exact Nat.lt_succ_self _

theorem Sound.register {d : Desk} (h : d.Sound) (label : String) :
    (d.act (.register label)).Sound := by
  cases found : d.handles.get? label with
  | none => simpa [act, register?, found] using h
  | some m =>
    have held := h.held _ (Labelled.mem_of_get? found)
    have dropped : { d with handles := d.handles.erase label }.Sound :=
      h.shrink h.ascending (fun _ hm => hm) (fun _ => Labelled.mem_of_mem_erase) (Nat.le_refl _)
    cases done : d.hub.register m with
    | error fault => simpa [act, register?, found, done] using dropped
    | ok hub =>
      obtain ⟨registry, done', rfl⟩ := Hub.register_eq_ok_iff.mp done
      obtain ⟨-, -, rfl⟩ := Registry.register_eq_ok_iff.mp done'
      simp only [act, register?, found, Option.map_some, done, Option.elim_some]
      constructor
      · simpa using h.ascending.register done'
      · intro x hx
        simp only [Hub.note_registry, Hub.setGauge_registry, Registry.mem_insertById] at hx
        simp only [Hub.note_queues, Hub.setGauge_queues]
        rcases hx with rfl | hx
        · exact held
        · exact h.registered x hx
      · simpa using dropped.held

theorem Sound.act {d : Desk} (h : d.Sound) (a : Action) : (d.act a).Sound := by
  cases a with
  | issueId => exact h.shrink h.ascending (fun _ hm => hm) (fun _ he => he) (Nat.le_refl _)
  | create label name capacity id => exact h.create label name capacity id
  | register label => exact h.register label
  | copy label target =>
    cases found : d.handles.get? label with
    | none => simpa [Desk.act, copy?, found] using h
    | some m =>
      have held := h.held _ (Labelled.mem_of_get? found)
      simp only [Desk.act, copy?, found, Option.map_some, Option.getD_some]
      refine ⟨h.ascending, h.registered, ?_⟩
      intro entry hentry
      rcases Labelled.mem_put hentry with old | rfl
      · exact h.held entry old
      · exact held
  | discard label =>
    exact h.shrink h.ascending (fun _ hm => hm) (fun _ => Labelled.mem_of_mem_erase) (Nat.le_refl _)
  | unregister id =>
    apply h.shrink
    · simpa [Desk.act, unregister] using h.ascending.unregister id
    · intro m hm
      exact (Registry.mem_unregister.mp (by simpa [Desk.act, unregister] using hm)).1
    · exact fun _ he => he
    · simp [Desk.act, unregister]
  | snapshot label =>
    have same : (d.snapshot label).2.hub = d.hub ∧ (d.snapshot label).2.handles = d.handles := by
      unfold snapshot
      dsimp only
      split <;> exact ⟨rfl, rfl⟩
    simp only [Desk.act]
    exact h.shrink (by rw [same.1]; exact h.ascending) (by simp [same.1]) (by simp [same.2])
      (by simp [same.1])
  | dropSnapshot label =>
    exact h.shrink h.ascending (fun _ hm => hm) (fun _ he => he) (Nat.le_refl _)
  | deliver label text =>
    cases found : d.handles.get? label with
    | none => simpa [Desk.act, deliverTo?, found] using h
    | some m =>
      obtain ⟨registry, handles, -, size⟩ := deliver_frame d m text
      simp only [Desk.act, deliverTo?, found, Option.map_some, Option.elim_some]
      exact h.shrink (by rw [registry]; exact h.ascending) (by simp [registry])
        (by simp [handles]) (Nat.le_of_eq size.symm)
  | deliverInSnapshot label id text =>
    cases found : (d.snapshots.get? label).bind fun members =>
      members.find? fun m => m.id == id with
    | none => simpa [Desk.act, deliverInSnapshot?, found] using h
    | some m =>
      obtain ⟨registry, handles, -, size⟩ := deliver_frame d m text
      simp only [Desk.act, deliverInSnapshot?, found, Option.map_some, Option.elim_some]
      exact h.shrink (by rw [registry]; exact h.ascending) (by simp [registry])
        (by simp [handles]) (Nat.le_of_eq size.symm)
  | broadcast message =>
    have registry := Hub.broadcast_registry d.hub message
    apply h.shrink
    · simp only [Desk.act, broadcast, registry]
      exact h.ascending.without _
    · intro m hm
      simp only [Desk.act, broadcast, registry, Registry.mem_without] at hm
      exact hm.1
    · exact fun _ he => he
    · exact Nat.le_of_eq (Hub.broadcast_size d.hub message).symm
  | read label n =>
    cases found : d.readers.get? label with
    | none => simpa [Desk.act, read?, found] using h
    | some key =>
      obtain ⟨registry, handles, -, size⟩ := readMany_frame d key n
      simp only [Desk.act, read?, found, Option.map_some, Option.elim_some]
      exact h.shrink (by rw [registry]; exact h.ascending) (by simp [registry])
        (by simp [handles]) (Nat.le_of_eq size.symm)
  | dropReader label =>
    cases found : d.readers.get? label with
    | none => simpa [Desk.act, dropReader, found] using h
    | some key =>
      simp only [Desk.act, dropReader, found]
      exact h.shrink h.ascending (fun _ hm => hm) (fun _ he => he) (by simp)
  | endRegistry =>
    apply h.shrink
    · simpa [Desk.act, endRegistry] using Registry.ascending_close d.hub.registry
    · simp [Desk.act, endRegistry, Registry.close]
    · exact fun _ he => he
    · simp [Desk.act, endRegistry]

theorem run_sound (options : HubOptions) (actions : List Action) : (run options actions).Sound := by
  have start : ({ hub := { options } } : Desk).Sound := ⟨.nil, by simp, by simp⟩
  revert start
  unfold run
  generalize ({ hub := { options } } : Desk) = d
  intro h
  induction actions generalizing d with
  | nil => exact h
  | cons a rest ih => exact ih _ (h.act a)

/-- At every desk, whatever was done before: a broadcast appends the text to the queues of the
recipients with a reader and room, removes the other recipients, and does nothing else. -/
theorem broadcast_exact (options : HubOptions) (actions : List Action)
    (distinct : ((run options actions).hub.registry.members.map Member.queue).Nodup)
    (message : Message) :
    (run options actions).hub.Effect message ((run options actions).broadcast message).2.hub
      ((run options actions).broadcast message).1 :=
  have sound := run_sound options actions
  Hub.broadcast_effect sound.ascending sound.registered distinct message

/-- Alice and Carol have full queues, Bob has room, and nobody reads Dave's queue any more. -/
def mixedQueues : List Action :=
  [.create "alice" "alice" 1 none, .create "bob" "bob" 4 none, .create "carol" "carol" 1 none,
    .create "dave" "dave" 4 none, .deliver "alice" "earlier", .deliver "carol" "earlier",
    .dropReader "dave", .register "dave", .register "carol", .register "bob", .register "alice"]

theorem broadcast_exact_mixedQueues :
    let desk := run { showSender := true } mixedQueues
    let message : Message := ⟨⟨1⟩, "alice", "hi"⟩
    (desk.hub.registry.members.map Member.queue).Nodup ∧
      (desk.broadcast message).1 = ⟨1, [⟨3⟩, ⟨4⟩]⟩ ∧
      desk.hub.Effect message (desk.broadcast message).2.hub (desk.broadcast message).1 :=
  ⟨by decide, by decide, broadcast_exact { showSender := true } mixedQueues (by decide) _⟩

end Desk

end ChatRelay
