import ChatRelay.Proofs.Broadcast.Journal
import ChatRelay.Proofs.Desk

/-!
# The desk does not read its journal

What an action answers, and what it makes of the desk, does not depend on what the journal says of
the past.
-/

namespace ChatRelay

namespace Desk

/-- What an action answers; of a label that nobody uses, that it is unknown. -/
inductive Answer where
  | id (id : ConnectionId)
  | registration (result : Option (Except RegistrationFault ConnectionId))
  /-- Whether there was something to copy, to drop or to remove. -/
  | existed (yes : Bool)
  | members (members : List Member)
  | delivery (result : Option (Except DeliveryFault Unit))
  | report (report : Report)
  | readings (readings : Option (List Reading))
  | removed (count : Nat)

def answer (d : Desk) : Action → Answer
  | .issueId => .id d.issueId.1
  | .create label name capacity id => .id (d.create label name capacity id).1
  | .register label => .registration ((d.register? label).map Prod.fst)
  | .copy label target => .existed (d.copy? label target).isSome
  | .discard label => .existed (d.discard label).1
  | .unregister id => .existed (d.unregister id).1
  | .snapshot label => .members (d.snapshot label).1
  | .dropSnapshot label => .existed (d.dropSnapshot label).1
  | .deliver label text => .delivery ((d.deliverTo? label text).map Prod.fst)
  | .deliverInSnapshot label id text =>
    .delivery ((d.deliverInSnapshot? label id text).map Prod.fst)
  | .broadcast message => .report (d.broadcast message).1
  | .read label n => .readings ((d.read? label n).map Prod.fst)
  | .dropReader label => .existed (d.dropReader label).1
  | .endRegistry => .removed d.endRegistry.1

/-- The desk with another account of what has happened. -/
def retell (f : List Entry → List Entry) (d : Desk) : Desk := { d with hub := d.hub.retell f }

section Retell

variable {f : List Entry → List Entry} (d : Desk)

theorem create_retell (label name : String) (capacity : Nat) (id : Option ConnectionId) :
    (d.retell f).create label name capacity id =
      ((d.create label name capacity id).1, (d.create label name capacity id).2.retell f) := by
  cases id <;> cases found : d.readers.get? label <;>
    simp [create, replaceReader, retell, Hub.retell, Hub.openQueue, Hub.issueId, Hub.dropReader,
      found]

theorem readOne_retell (key : QueueKey) :
    (d.retell f).readOne key = ((d.readOne key).1, (d.readOne key).2.retell f) := by
  have taken := Hub.take?_retell (f := f) d.hub key
  cases first : d.hub.take? key with
  | none =>
    rw [first] at taken
    simp only [readOne, retell, first, taken, Option.map_none]
    rfl
  | some next =>
    rw [first] at taken
    simp only [readOne, retell, first, taken, Option.map_some]

theorem readMany_retell (key : QueueKey) (n : Nat) :
    (d.retell f).readMany key n = ((d.readMany key n).1, (d.readMany key n).2.retell f) := by
  induction n generalizing d with
  | zero => rfl
  | succ n ih =>
    rw [readMany, readMany, readOne_retell]
    rcases d.readOne key with ⟨reading, d'⟩
    cases reading with
    | text text => simp only [ih d']
    | empty => rfl
    | closed => rfl

variable (faithful : Hub.Faithful f)

include faithful

theorem deliver_retell (m : Member) (text : String) :
    (d.retell f).deliver m text = ((d.deliver m text).1, (d.deliver m text).2.retell f) := by
  have delivered := Hub.deliver_retell faithful d.hub m text
  cases done : d.hub.deliver m text with
  | error fault =>
    rw [done] at delivered
    simp only [deliver, retell, done, delivered, Except.map]
  | ok hub =>
    rw [done] at delivered
    simp only [deliver, retell, done, delivered, Except.map]

theorem register?_retell (label : String) : (d.retell f).register? label =
    (d.register? label).map fun found => (found.1, found.2.retell f) := by
  cases found : d.handles.get? label with
  | none => simp [register?, retell, found]
  | some m =>
    have registered := Hub.register_retell faithful d.hub m
    cases done : d.hub.register m with
    | error fault =>
      rw [done] at registered
      simp [register?, retell, found, done, registered, Except.map]
    | ok hub =>
      rw [done] at registered
      simp [register?, retell, found, done, registered, Except.map]

/-- Nothing that is done at a desk depends on its journal. -/
theorem act_retell (a : Action) : (d.retell f).answer a = d.answer a ∧
    (d.retell f).act a = (d.act a).retell f := by
  cases a with
  | issueId => exact ⟨rfl, rfl⟩
  | create label name capacity id =>
    simp only [answer, act, create_retell, and_self]
  | register label =>
    simp only [answer, act, register?_retell d faithful]
    cases d.register? label <;> exact ⟨rfl, rfl⟩
  | copy label target =>
    cases found : d.handles.get? label <;> simp [answer, act, copy?, retell, found]
  | discard label => exact ⟨rfl, rfl⟩
  | unregister id =>
    simp only [answer, act, unregister, retell, Hub.unregister_retell faithful, and_self]
  | snapshot label =>
    simp only [answer, act, snapshot]
    split <;> exact ⟨rfl, rfl⟩
  | dropSnapshot label => exact ⟨rfl, rfl⟩
  | deliver label text =>
    cases found : d.handles.get? label with
    | none => simp [answer, act, deliverTo?, retell, found]
    | some m =>
      have same : (d.retell f).handles.get? label = some m := found
      simp only [answer, act, deliverTo?, found, same, Option.map_some, Option.elim_some,
        deliver_retell d faithful, and_self]
  | deliverInSnapshot label id text =>
    cases found : (d.snapshots.get? label).bind fun members =>
      members.find? fun m => m.id == id with
    | none => simp [answer, act, deliverInSnapshot?, retell, found]
    | some m =>
      have same : ((d.retell f).snapshots.get? label).bind (fun members =>
        members.find? fun m => m.id == id) = some m := found
      simp only [answer, act, deliverInSnapshot?, found, same, Option.map_some, Option.elim_some,
        deliver_retell d faithful, and_self]
  | broadcast message =>
    simp only [answer, act, broadcast, retell, Hub.broadcast_retell faithful, and_self]
  | read label n =>
    cases found : d.readers.get? label with
    | none => simp [answer, act, read?, retell, found]
    | some key =>
      have same : (d.retell f).readers.get? label = some key := found
      simp only [answer, act, read?, found, same, Option.map_some, Option.elim_some,
        readMany_retell, and_self]
  | dropReader label =>
    cases found : d.readers.get? label with
    | none => simp [answer, act, dropReader, retell, found]
    | some key => simp [answer, act, dropReader, retell, found, Hub.dropReader, Hub.retell]
  | endRegistry =>
    simp only [answer, act, endRegistry, retell, Hub.endRegistry_retell faithful, and_self]

end Retell

end Desk

end ChatRelay
