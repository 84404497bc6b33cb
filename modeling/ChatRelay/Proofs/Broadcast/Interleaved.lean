import ChatRelay.Proofs.Broadcast.Effect
import Mathlib.Logic.Function.Basic

/-!
# Broadcasts step by step

A broadcast takes a snapshot, offers the text to one recipient after the other, drops the snapshot
and removes those that failed, one after the other. Between two of these steps other senders,
registrations, removals and readers can come in, in any order. Only a sender itself begins its next
broadcast after it has finished the last one. What the record of the offers says is what is in the
queues, and a broadcast that nobody comes in between is `Hub.broadcast`.
-/

namespace ChatRelay

inductive Progress where
  /-- The snapshot is held, and these recipients have not been offered the text yet. -/
  | offering (rest : List Member)
  /-- The snapshot is dropped, and these have to be removed yet. -/
  | removing (rest : List ConnectionId)

structure Round where
  message : Message
  /-- How many broadcasts its sender began before this one. -/
  number : Nat
  report : Report := {}
  progress : Progress

namespace Round

def owed (r : Round) : List Member :=
  match r.progress with
  | .offering rest => rest
  | .removing _ => []

/-- Those that failed and are not removed yet. -/
def condemned (r : Round) : List ConnectionId :=
  match r.progress with
  | .offering _ => r.report.failed
  | .removing rest => rest

end Round

structure Call where
  message : Message
  snapshot : List Member

/-- A text that was offered to a recipient, as part of the broadcast of a number. -/
structure Offer where
  sender : ConnectionId
  number : Nat
  recipient : Member
  text : String
  /-- The queue of the recipient took the text. -/
  taken : Bool

/-- The hub with the broadcasts under way, and the record of what was done so far. -/
structure Senders where
  hub : Hub
  rounds : ConnectionId → Option Round := fun _ => none
  /-- The broadcasts that each sender has begun, in their order. -/
  calls : ConnectionId → List Call := fun _ => []
  /-- In the order of time. -/
  offers : List Offer := []
  /-- Everybody who was ever registered. -/
  joined : List Member := []

namespace Senders

/-- A step of a sender, or of anybody else who uses the hub. -/
inductive Action where
  | begin (message : Message)
  /-- The sender takes the next step of its broadcast. -/
  | proceed (sender : ConnectionId)
  | register (m : Member)
  | unregister (id : ConnectionId)
  | endRegistry
  | openQueue (capacity : Nat)
  | take (key : QueueKey)
  | dropReader (key : QueueKey)

def setRound (s : Senders) (sender : ConnectionId) (r : Option Round) : Senders :=
  { s with rounds := Function.update s.rounds sender r }

def start (s : Senders) (message : Message) : Senders :=
  let snapshot := s.hub.registry.members
  let number := (s.calls message.sender).length
  let recipients := Hub.recipients snapshot message.sender
  { s.setRound message.sender (some { message, number, progress := .offering recipients }) with
    calls := Function.update s.calls message.sender
      (s.calls message.sender ++ [⟨message, snapshot⟩]) }

def offerTo (s : Senders) (sender : ConnectionId) (r : Round) (m : Member) (rest : List Member) :
    Senders :=
  let text := s.hub.rendered r.message
  let (hub, report) := s.hub.deliverTo sender text r.report m
  { s.setRound sender (some { r with report, progress := .offering rest }) with
    hub
    offers := s.offers ++ [⟨sender, r.number, m, text, (s.hub.deliver m text).isOk⟩] }

def advance (s : Senders) (sender : ConnectionId) (r : Round) : Senders :=
  match r.progress with
  | .offering (m :: rest) => s.offerTo sender r m rest
  | .offering [] => s.setRound sender (some { r with progress := .removing r.report.failed })
  | .removing (id :: rest) =>
    { s.setRound sender (some { r with progress := .removing rest }) with
      hub := (s.hub.unregister id).2 }
  | .removing [] => { s.setRound sender none with hub := s.hub.account r.message r.report }

/-- A step that nobody can take changes nothing. -/
def act (s : Senders) : Action → Senders
  | .begin message => if (s.rounds message.sender).isNone then s.start message else s
  | .proceed sender => (s.rounds sender).elim s (s.advance sender)
  | .register m => match s.hub.register m with
    | .error _ => s
    | .ok hub => { s with hub, joined := s.joined ++ [m] }
  | .unregister id => { s with hub := (s.hub.unregister id).2 }
  | .endRegistry => { s with hub := s.hub.endRegistry.2 }
  | .openQueue capacity => { s with hub := (s.hub.openQueue capacity).2 }
  | .take key => (s.hub.take? key).elim s fun next => { s with hub := next.2 }
  | .dropReader key => { s with hub := s.hub.dropReader key }

def run (options : HubOptions) (actions : List Action) : Senders :=
  actions.foldl act { hub := { options } }

/-- The recipients that a sender still has to offer its text to. -/
def owed (s : Senders) (sender : ConnectionId) : List Member :=
  (s.rounds sender).elim [] Round.owed

def condemned (s : Senders) (sender : ConnectionId) : List ConnectionId :=
  (s.rounds sender).elim [] Round.condemned

def snapshot (s : Senders) (sender : ConnectionId) (k : Nat) : List Member :=
  ((s.calls sender)[k]?).elim [] Call.snapshot

/-- A text counts as taken if it is put at the end of the queue of its recipient. If it is not
taken, all queues stay as they are. -/
theorem offerTo_queues (s : Senders) (sender : ConnectionId) (r : Round) (m : Member)
    (rest : List Member) (key : QueueKey) :
    let text := s.hub.rendered r.message
    (s.offerTo sender r m rest).hub.queues[key]? = (s.hub.queues[key]?).map fun q =>
      if m.queue = key ∧ (s.hub.deliver m text).isOk then { q with pending := q.pending ++ [text] }
      else q := by
  dsimp only
  have step := Hub.deliverTo_queues s.hub sender (s.hub.rendered r.message) r.report m key
  rw [Hub.deliver_isOk]
  refine step.trans ?_
  split
  · rename_i same
    subst same
    cases found : s.hub.queues[m.queue]? with
    | none => rfl
    | some q => cases room : q.hasRoom <;> simp [Hub.hasRoomFor, Queue.receive, found, room]
  · rename_i apart
    simp [apart]

/-- The texts that were put into a queue, in the order of time. -/
def takenFor (s : Senders) (key : QueueKey) : List String :=
  (s.offers.filter fun o => o.recipient.queue = key ∧ o.taken = true).map Offer.text

/-- A reader takes from the front, so what is in a queue is the end of what was put into it. -/
def Queued (s : Senders) : Prop :=
  ∀ key q, s.hub.queues[key]? = some q → q.pending <:+ s.takenFor key

section Queued

variable {s s' : Senders}

/-- A step that puts nothing into the queues. -/
theorem Queued.keep (h : s.Queued) (offers : s'.offers = s.offers)
    (queues : ∀ (key : QueueKey) (q' : Queue), s'.hub.queues[key]? = some q' →
      q'.pending = [] ∨ ∃ q, s.hub.queues[key]? = some q ∧ q'.pending <:+ q.pending) :
    s'.Queued := by
  intro key q' found
  rw [takenFor, offers]
  rcases queues key q' found with empty | ⟨q, before, shorter⟩
  · rw [empty]
    exact List.nil_suffix
  · exact shorter.trans (h key q before)

theorem Queued.same (h : s.Queued) (offers : s'.offers = s.offers)
    (queues : s'.hub.queues = s.hub.queues) : s'.Queued := by
  refine h.keep offers ?_
  intro key q' found
  rw [queues] at found
  exact Or.inr ⟨q', found, List.suffix_refl _⟩

theorem Queued.offerTo (h : s.Queued) (sender : ConnectionId) (r : Round) (m : Member)
    (rest : List Member) : (s.offerTo sender r m rest).Queued := by
  intro key q' found
  rw [offerTo_queues] at found
  obtain ⟨q, before, rfl⟩ := Option.map_eq_some_iff.mp found
  obtain ⟨read, account⟩ := h key q before
  have more : (s.offerTo sender r m rest).takenFor key = s.takenFor key ++
      if m.queue = key ∧ (s.hub.deliver m (s.hub.rendered r.message)).isOk then
        [s.hub.rendered r.message] else [] := by
    simp only [takenFor, Senders.offerTo, List.filter_append, List.map_append]
    congr 1
    split
    · rename_i taken
      simp [taken.1, taken.2]
    · rename_i untaken
      simpa using untaken
  rw [more]
  split
  · exact ⟨read, by rw [← account, List.append_assoc]⟩
  · exact ⟨read, by rw [← account, List.append_nil]⟩

theorem Queued.advance (h : s.Queued) (sender : ConnectionId) (r : Round) :
    (s.advance sender r).Queued := by
  unfold Senders.advance
  split
  · exact h.offerTo sender r _ _
  · exact h.same rfl rfl
  · exact h.same rfl (Hub.unregister_queues _ _)
  · exact h.same rfl (Hub.account_frame _ _ _).2.1

theorem Queued.act (h : s.Queued) (a : Action) : (s.act a).Queued := by
  cases a with
  | begin message =>
    simp only [Senders.act]
    split
    · exact h.same rfl rfl
    · exact h
  | proceed sender =>
    cases round : s.rounds sender with
    | none => simpa [Senders.act, round] using h
    | some r => simpa [Senders.act, round] using h.advance sender r
  | register m =>
    cases done : s.hub.register m with
    | error fault => simpa [Senders.act, done] using h
    | ok hub =>
      obtain ⟨registry, -, rfl⟩ := Hub.register_eq_ok_iff.mp done
      simp only [Senders.act, done]
      exact h.same rfl (by simp)
  | unregister id => exact h.same rfl (Hub.unregister_queues _ _)
  | endRegistry => exact h.same rfl (Hub.endRegistry_queues _)
  | openQueue capacity =>
    refine h.keep rfl ?_
    intro key q' found
    simp only [Senders.act, Hub.openQueue, Array.getElem?_push] at found
    split at found
    · cases found
      exact Or.inl rfl
    · exact Or.inr ⟨q', found, List.suffix_refl _⟩
  | take key =>
    cases taken : s.hub.take? key with
    | none => simpa [Senders.act, taken] using h
    | some next =>
      obtain ⟨text, hub⟩ := next
      obtain ⟨q, rest, before, first, rfl⟩ := Hub.take?_eq_some_iff.mp taken
      simp only [Senders.act, taken, Option.elim_some]
      refine h.keep rfl ?_
      intro k q' found
      by_cases same : k = key
      · subst same
        have inBounds := (Array.getElem?_eq_some_iff.mp before).1
        obtain rfl : { q with pending := rest } = q' := by simpa [inBounds] using found
        exact Or.inr ⟨q, before, by rw [first]; exact List.suffix_cons _ _⟩
      · exact Or.inr ⟨q', by simpa [Ne.symm same] using found, List.suffix_refl _⟩
  | dropReader key =>
    refine h.keep rfl ?_
    intro k q' found
    simp only [Senders.act, Hub.dropReader_queues, Array.getElem?_modify] at found
    split at found
    · obtain ⟨q, -, rfl⟩ := Option.map_eq_some_iff.mp found
      exact Or.inl rfl
    · exact Or.inr ⟨q', found, List.suffix_refl _⟩

end Queued

/-- A number of steps of one sender, with nobody else in between. -/
def proceedAlone (sender : ConnectionId) : Nat → Senders → Senders
  | 0, s => s
  | n + 1, s => proceedAlone sender n (s.act (.proceed sender))

theorem proceedAlone_add (sender : ConnectionId) (m n : Nat) (s : Senders) :
    proceedAlone sender (m + n) s = proceedAlone sender n (proceedAlone sender m s) := by
  induction m generalizing s with
  | zero => simp [proceedAlone]
  | succ m ih => rw [Nat.succ_add]; exact ih _

/-- The state of hub and rounds while one sender is on its own. -/
def At (s : Senders) (hub : Hub) (rounds : ConnectionId → Option Round) : Prop :=
  s.hub = hub ∧ s.rounds = rounds

section Alone

variable {s : Senders} {hub : Hub} {rounds : ConnectionId → Option Round} {sender : ConnectionId}
  {message : Message} {number : Nat} {report : Report}

theorem At.proceed {r : Round} (h : s.At hub (Function.update rounds sender (some r))) :
    s.act (.proceed sender) = s.advance sender r := by
  simp [act, h.2]

theorem At.offering {rest : List Member}
    (h : s.At hub (Function.update rounds sender
      (some ⟨message, number, report, .offering rest⟩))) :
    let done := hub.deliverAll sender (hub.rendered message) report rest
    (proceedAlone sender rest.length s).At done.1
      (Function.update rounds sender (some ⟨message, number, done.2, .offering []⟩)) := by
  induction rest generalizing s hub report with
  | nil => exact h
  | cons m rest ih =>
    have same : (hub.deliverTo sender (hub.rendered message) report m).1.rendered message =
        hub.rendered message :=
      Hub.rendered_of_options (Hub.deliverTo_frame _ _ _ _ _).2.1 message
    rw [List.length_cons, proceedAlone, h.proceed]
    have offered : (s.advance sender ⟨message, number, report, .offering (m :: rest)⟩).At
        (hub.deliverTo sender (hub.rendered message) report m).1
        (Function.update rounds sender (some ⟨message, number,
          (hub.deliverTo sender (hub.rendered message) report m).2, .offering rest⟩)) :=
      ⟨by simp [advance, offerTo, h.1], by simp [advance, offerTo, setRound, h.1, h.2]⟩
    have next := ih offered
    rw [same] at next
    exact next

theorem At.removing {rest : List ConnectionId}
    (h : s.At hub (Function.update rounds sender
      (some ⟨message, number, report, .removing rest⟩))) :
    (proceedAlone sender rest.length s).At (hub.unregisterAll rest)
      (Function.update rounds sender (some ⟨message, number, report, .removing []⟩)) := by
  induction rest generalizing s hub with
  | nil => exact h
  | cons id rest ih =>
    rw [List.length_cons, proceedAlone, h.proceed]
    exact ih ⟨by simp [advance, h.1], by simp [advance, setRound, h.2]⟩

end Alone

/-- A broadcast that nobody comes in between is one of the hub. -/
theorem proceedAlone_broadcast (s : Senders) (message : Message)
    (idle : s.rounds message.sender = none) :
    ∃ steps, (proceedAlone message.sender steps (s.act (.begin message))).At
      (s.hub.broadcast message).1 s.rounds := by
  have begun : (s.act (.begin message)).At s.hub (Function.update s.rounds message.sender
      (some ⟨message, (s.calls message.sender).length, {},
        .offering (Hub.recipients s.hub.registry.members message.sender)⟩)) := by
    simp [act, idle, start, At, setRound]
  have offered := begun.offering
  have dropped : ((proceedAlone message.sender
      (Hub.recipients s.hub.registry.members message.sender).length
      (s.act (.begin message))).act (.proceed message.sender)).At (s.hub.fanOut message).1
      (Function.update s.rounds message.sender (some ⟨message, (s.calls message.sender).length,
        (s.hub.fanOut message).2, .removing (s.hub.fanOut message).2.failed⟩)) := by
    rw [offered.proceed]
    exact ⟨offered.1, by simp [advance, setRound, offered.2, Hub.fanOut]⟩
  have removed := dropped.removing
  refine ⟨(Hub.recipients s.hub.registry.members message.sender).length +
    (1 + ((s.hub.fanOut message).2.failed.length + 1)), ?_⟩
  rw [proceedAlone_add, proceedAlone_add, proceedAlone_add]
  simp only [proceedAlone]
  rw [removed.proceed]
  constructor
  · simp [advance, removed.1, Hub.broadcast_eq]
  · simp [advance, setRound, removed.2, ← idle]

end Senders

end ChatRelay
