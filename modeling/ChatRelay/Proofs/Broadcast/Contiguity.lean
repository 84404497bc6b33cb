import ChatRelay.Proofs.Broadcast.Interleaved
import Mathlib.Data.List.Induction

/-!
# What a recipient gets from one sender

However the steps of the senders interleave, the broadcasts of one sender that a recipient gets
are consecutive. They begin with the first one whose snapshot has the recipient. They end when the
recipient is refused a text or has left the registry: a recipient that was refused is removed before
the sender takes its next snapshot, and nobody is registered twice.
-/

namespace ChatRelay

namespace Senders

/-- The numbers of the broadcasts of a sender that were offered to a queue, in the order of time,
each with whether it was taken. -/
def offersTo (s : Senders) (sender : ConnectionId) (key : QueueKey) : List (Nat × Bool) :=
  (s.offers.filter fun o => o.sender = sender ∧ o.recipient.queue = key).map fun o =>
    (o.number, o.taken)

/-- The outcomes of a block of offers: all taken, but perhaps one more that was refused. -/
def outcomes (start stop : Nat) (refused : Bool) : List (Nat × Bool) :=
  (List.range' start (stop - start)).map (fun k => (k, true)) ++
    if refused then [(stop, false)] else []

/-- The broadcasts of a sender that a recipient has got are those from a number `start` up to, but
without, a number `stop`. -/
structure Block (s : Senders) (sender : ConnectionId) (c : Member) (start stop : Nat)
    (refused : Bool) : Prop where
  bounds : start ≤ stop ∧ stop ≤ (s.calls sender).length
  /-- They were offered and taken in their order, each once. After a refusal nothing is offered. -/
  offers : s.offersTo sender c.queue = outcomes start stop refused
  /-- What was offered under a number is the text of the broadcast of that number. -/
  texts : ∀ o ∈ s.offers, o.sender = sender → ∃ call, (s.calls sender)[o.number]? = some call ∧
    o.text = s.hub.rendered call.message
  /-- The first one is the first whose snapshot has the recipient. -/
  before : ∀ k < start, c ∉ s.snapshot sender k
  within : ∀ k, start ≤ k → k < stop → c ∈ s.snapshot sender k
  /-- The next one was refused, or is under way and the recipient is still to be offered it, or the
  recipient had left the registry. -/
  ending : stop < (s.calls sender).length →
    c ∈ s.snapshot sender stop ∧ refused = true ∨
    c ∈ s.snapshot sender stop ∧ refused = false ∧ c ∈ s.owed sender ∨
    c ∉ s.snapshot sender stop ∧ refused = false ∧ c ∉ s.hub.registry.members
  refusal : refused = true → stop < (s.calls sender).length
  /-- What is in the queue of the recipient is the end of what was taken for it. -/
  queued : ∀ q, s.hub.queues[c.queue]? = some q → q.pending <:+ s.takenFor c.queue
  after : ∀ k, stop < k → c ∉ s.snapshot sender k

/-- Whatever the senders hold comes from registrations. -/
structure Sound (s : Senders) : Prop where
  ascending : s.hub.registry.Ascending
  members : ∀ m ∈ s.hub.registry.members, m ∈ s.joined
  snapshots : ∀ sender, ∀ call ∈ s.calls sender, ∀ m ∈ call.snapshot, m ∈ s.joined
  recipients : ∀ o ∈ s.offers, o.recipient ∈ s.joined
  owed : ∀ sender, ∀ m ∈ s.owed sender, m ∈ s.joined
  distinct : ∀ sender, (s.owed sender).Nodup
  /-- A broadcast under way is the last one that its sender has begun. -/
  current : ∀ sender r, s.rounds sender = some r → r.number + 1 = (s.calls sender).length ∧
    ∃ call, (s.calls sender)[r.number]? = some call ∧ call.message = r.message
  texts : ∀ o ∈ s.offers, ∃ call, (s.calls o.sender)[o.number]? = some call ∧
    o.text = s.hub.rendered call.message

/-- How the broadcasts of a sender have come to a recipient. -/
structure Flow (s : Senders) (sender : ConnectionId) (c : Member) (start stop : Nat)
    (refused : Bool) : Prop where
  bounds : start ≤ stop ∧ stop ≤ (s.calls sender).length
  offers : (s.offers.filter fun o => o.sender = sender ∧ o.recipient = c).map (fun o =>
    (o.number, o.taken)) = outcomes start stop refused
  snapshots : ∀ k call, (s.calls sender)[k]? = some call →
    (c ∈ call.snapshot ↔ start ≤ k ∧ (k < stop ∨ k = stop ∧ (refused = true ∨ c ∈ s.owed sender)))
  owed : c ∈ s.owed sender → refused = false ∧ (s.calls sender).length = stop + 1
  /-- Who was refused is still to be removed, or gone. -/
  refusal : refused = true → stop < (s.calls sender).length ∧
    (c ∈ s.hub.registry.members → c.id ∈ s.condemned sender)
  registered : c ∈ s.hub.registry.members → refused = false → c ∉ s.owed sender →
    (s.calls sender).length = stop

theorem owed_update (s : Senders) (sender other : ConnectionId) (r : Option Round) :
    (s.setRound sender r).owed other = if other = sender then r.elim [] Round.owed
      else s.owed other := by
  by_cases same : other = sender
  · subst same
    simp [owed, setRound]
  · simp [owed, setRound, same]

/-- A step that neither begins nor offers anything to a recipient and does not register it. -/
theorem Flow.keep {s s' : Senders} {sender : ConnectionId} {c : Member} {start stop : Nat}
    {refused : Bool} (h : s.Flow sender c start stop refused)
    (calls : s'.calls sender = s.calls sender)
    (offers : (s'.offers.filter fun o => o.sender = sender ∧ o.recipient = c) =
      s.offers.filter fun o => o.sender = sender ∧ o.recipient = c)
    (owed : c ∈ s'.owed sender ↔ c ∈ s.owed sender)
    (stays : c ∈ s'.hub.registry.members → c ∈ s.hub.registry.members ∧
      (c.id ∈ s.condemned sender → c.id ∈ s'.condemned sender)) :
    s'.Flow sender c start stop refused where
  bounds := by rw [calls]; exact h.bounds
  offers := by rw [offers]; exact h.offers
  snapshots := by rw [calls, owed]; exact h.snapshots
  owed := by rw [calls, owed]; exact h.owed
  refusal := by
    intro was
    obtain ⟨below, condemned⟩ := h.refusal was
    rw [calls]
    exact ⟨below, fun here => (stays here).2 (condemned (stays here).1)⟩
  registered := by
    intro here kept settled
    rw [calls]
    exact h.registered (stays here).1 kept (fun still => settled (owed.mpr still))

theorem deliverTo_failed (h : Hub) (sender : ConnectionId) (text : String) (report : Report)
    (m : Member) : (h.deliverTo sender text report m).2.failed =
      if (h.deliver m text).isOk then report.failed else report.failed ++ [m.id] := by
  cases done : h.deliver m text <;> simp [Hub.deliverTo, done, Except.isOk, Except.toBool]

section Steps

variable {s : Senders} {sender : ConnectionId} {c : Member} {start stop : Nat} {refused : Bool}

/-- Who was never registered has been in no snapshot. -/
theorem Sound.snapshot_fresh (h : s.Sound) (fresh : c ∉ s.joined) {k : Nat} {call : Call}
    (called : (s.calls sender)[k]? = some call) : c ∉ call.snapshot := by
  intro inside
  exact fresh (h.snapshots sender call (List.mem_of_getElem? called) c inside)

/-- A recipient is registered: no broadcast has come to it yet. -/
theorem Flow.join (h : s.Sound) (fresh : c ∉ s.joined) {hub : Hub} (sender : ConnectionId) :
    { s with hub, joined := s.joined ++ [c] }.Flow sender c (s.calls sender).length
      (s.calls sender).length false where
  bounds := ⟨Nat.le_refl _, Nat.le_refl _⟩
  offers := by
    have unnamed : ∀ o ∈ s.offers, o.sender = sender → o.recipient ≠ c :=
      fun o ho _ same => fresh (same ▸ h.recipients o ho)
    simpa [outcomes] using unnamed
  snapshots := by
    intro k call called
    have below : k < (s.calls sender).length := (List.getElem?_eq_some_iff.mp called).1
    have outside := h.snapshot_fresh fresh called
    constructor
    · intro inside
      exact absurd inside outside
    · intro late
      have : (s.calls sender).length ≤ k := late.1
      omega
  owed := fun still => absurd (h.owed sender c still) fresh
  refusal := by simp
  registered := fun _ _ _ => rfl

/-- The sender takes its next snapshot. It has removed whoever refused the text before. -/
theorem Flow.begun (h : s.Flow sender c start stop refused) (other : c.id ≠ sender)
    {message : Message} (by_sender : message.sender = sender)
    (idle : s.rounds sender = none) :
    (s.start message).Flow sender c start stop refused := by
  subst by_sender
  have calls : (s.start message).calls message.sender =
      s.calls message.sender ++ [⟨message, s.hub.registry.members⟩] := by
    simp [Senders.start]
  have members : (s.start message).hub.registry.members = s.hub.registry.members := rfl
  have owed : c ∈ (s.start message).owed message.sender ↔ c ∈ s.hub.registry.members := by
    simp [Senders.start, Senders.owed, setRound, Round.owed, Hub.mem_recipients, other]
  have notOwed : c ∉ s.owed message.sender := by simp [Senders.owed, idle]
  have gone : refused = true → c ∉ s.hub.registry.members := by
    intro was here
    have := (h.refusal was).2 here
    simp [condemned, idle] at this
  have snapshots : ∀ k call, (s.calls message.sender)[k]? = some call →
      (c ∈ call.snapshot ↔ start ≤ k ∧ (k < stop ∨ k = stop ∧ refused = true)) := by
    simpa [notOwed] using h.snapshots
  obtain ⟨ordered, begun⟩ := h.bounds
  constructor
  · rw [calls, List.length_append, List.length_singleton]
    exact ⟨ordered, by omega⟩
  · exact h.offers
  · intro k call called
    rw [calls, List.getElem?_append] at called
    rw [owed]
    split at called
    · rename_i below
      rw [snapshots k call called]
      by_cases here : c ∈ s.hub.registry.members
      · have kept : refused = false := by simpa using fun was => gone was here
        have := h.registered here kept notOwed
        simp only [kept, here]
        omega
      · simp [here]
    · rename_i above
      have last : k = (s.calls message.sender).length := by
        have := (List.getElem?_eq_some_iff.mp called).1
        simp at this
        omega
      subst last
      obtain rfl : ⟨message, s.hub.registry.members⟩ = call := by simpa using called
      by_cases here : c ∈ s.hub.registry.members
      · have kept : refused = false := by simpa using fun was => gone was here
        have := h.registered here kept notOwed
        simp only [here, kept, true_iff, or_true, and_true]
        omega
      · simp only [here, false_iff, or_false]
        rintro ⟨-, early | ⟨here, was⟩⟩
        · omega
        · have := (h.refusal was).1
          omega
  · intro still
    have here := owed.mp still
    have kept : refused = false := by simpa using fun was => gone was here
    rw [calls, List.length_append, List.length_singleton, h.registered here kept notOwed]
    exact ⟨kept, rfl⟩
  · intro was
    refine ⟨?_, fun here => absurd here (gone was)⟩
    have := (h.refusal was).1
    rw [calls, List.length_append]
    omega
  · intro here _ settled
    exact absurd (owed.mpr here) settled

theorem outcomes_taken (ordered : start ≤ stop) :
    outcomes start (stop + 1) false = outcomes start stop false ++ [(stop, true)] := by
  have step : stop + 1 - start = (stop - start) + 1 := by omega
  have last : start + (stop - start) = stop := by omega
  simp [outcomes, step, List.range'_concat, last]

theorem outcomes_refused :
    outcomes start stop true = outcomes start stop false ++ [(stop, false)] := by
  simp [outcomes]

/-- The text is offered to the recipient itself. -/
theorem Flow.offered (h : s.Flow sender c start stop refused) (sound : s.Sound) {r : Round}
    {rest : List Member} (round : s.rounds sender = some r)
    (progress : r.progress = .offering (c :: rest)) :
    ∃ stop' refused', (s.offerTo sender r c rest).Flow sender c start stop' refused' := by
  have owed : s.owed sender = c :: rest := by simp [Senders.owed, round, Round.owed, progress]
  obtain ⟨kept, length⟩ := h.owed (by simp [owed])
  obtain ⟨number, -⟩ := sound.current sender r round
  have number : r.number = stop := by omega
  have once : c ∉ rest := by
    have := sound.distinct sender
    rw [owed] at this
    exact (List.nodup_cons.mp this).1
  have calls : (s.offerTo sender r c rest).calls = s.calls := rfl
  have owed' : (s.offerTo sender r c rest).owed sender = rest := by
    simp [offerTo, Senders.owed, setRound, Round.owed]
  have snapshots : ∀ k call, (s.calls sender)[k]? = some call →
      (c ∈ call.snapshot ↔ start ≤ k ∧ k ≤ stop) := by
    intro k call called
    rw [h.snapshots k call called]
    simp only [owed, List.mem_cons, true_or, or_true, and_true]
    omega
  obtain ⟨ordered, begun⟩ := h.bounds
  have offers : ((s.offerTo sender r c rest).offers.filter fun o =>
      o.sender = sender ∧ o.recipient = c).map (fun o => (o.number, o.taken)) =
      outcomes start stop false ++
        [(stop, (s.hub.deliver c (s.hub.rendered r.message)).isOk)] := by
    rw [← kept, ← h.offers]
    simp [offerTo, number]
  cases taken : (s.hub.deliver c (s.hub.rendered r.message)).isOk with
  | true =>
    refine ⟨stop + 1, false, ?_, ?_, ?_, ?_, ?_, ?_⟩
    · rw [calls, length]
      omega
    · rw [offers, taken, outcomes_taken ordered]
    · intro k call called
      rw [snapshots k call called, owed']
      simp only [once, or_false, and_false, Bool.false_eq_true]
      omega
    · simp [owed', once]
    · simp
    · intro _ _ _
      exact length
  | false =>
    refine ⟨stop, true, ?_, ?_, ?_, ?_, ?_, ?_⟩
    · exact h.bounds
    · rw [offers, taken, outcomes_refused]
    · intro k call called
      rw [snapshots k call called]
      simp only [true_or, and_true]
      omega
    · simp [owed', once]
    · intro _
      refine ⟨by rw [calls, length]; omega, fun _ => ?_⟩
      simp [offerTo, condemned, setRound, Round.condemned, deliverTo_failed, taken]
    · simp

end Steps

section Advance

variable {s : Senders} {sender : ConnectionId}

theorem Sound.withHub (h : s.Sound) (hub : Hub) (ascending : hub.registry.Ascending)
    (members : ∀ m ∈ hub.registry.members, m ∈ s.hub.registry.members)
    (options : hub.options = s.hub.options) : { s with hub }.Sound where
  ascending := ascending
  members m hm := h.members m (members m hm)
  snapshots := h.snapshots
  recipients := h.recipients
  owed := h.owed
  distinct := h.distinct
  current := h.current
  texts := by simpa only [Hub.rendered_of_options options] using h.texts

theorem Sound.setRound {r : Round} (h : s.Sound) (round : s.rounds sender = some r)
    (r' : Option Round) (owed : (r'.elim [] Round.owed).Sublist r.owed)
    (same : ∀ r'' ∈ r', r''.number = r.number ∧ r''.message = r.message) :
    (s.setRound sender r').Sound where
  ascending := h.ascending
  members := h.members
  snapshots := h.snapshots
  recipients := h.recipients
  owed := by
    intro other m hm
    rw [owed_update] at hm
    split at hm
    · have := h.owed sender m
      simp only [Senders.owed, round, Option.elim_some] at this
      exact this (owed.subset hm)
    · exact h.owed other m hm
  distinct := by
    intro other
    rw [owed_update]
    split
    · have := h.distinct sender
      simp only [Senders.owed, round, Option.elim_some] at this
      exact this.sublist owed
    · exact h.distinct other
  current := by
    intro other r'' round'
    by_cases here : other = sender
    · subst here
      obtain ⟨number, message⟩ := same r'' (by simpa [Senders.setRound] using round')
      rw [number, message]
      exact h.current other r round
    · exact h.current other r'' (by simpa [Senders.setRound, here] using round')
  texts := h.texts

theorem Sound.record (h : s.Sound) {o : Offer} (recipient : o.recipient ∈ s.joined)
    (text : ∃ call, (s.calls o.sender)[o.number]? = some call ∧
      o.text = s.hub.rendered call.message) :
    { s with offers := s.offers ++ [o] }.Sound where
  ascending := h.ascending
  members := h.members
  snapshots := h.snapshots
  recipients := by
    intro o' ho'
    rcases List.mem_append.mp ho' with old | new
    · exact h.recipients o' old
    · obtain rfl : o' = o := by simpa using new
      exact recipient
  owed := h.owed
  distinct := h.distinct
  current := h.current
  texts := by
    intro o' ho'
    rcases List.mem_append.mp ho' with old | new
    · exact h.texts o' old
    · obtain rfl : o' = o := by simpa using new
      exact text

theorem Sound.advance {r : Round} (h : s.Sound) (round : s.rounds sender = some r) :
    (s.advance sender r).Sound := by
  unfold Senders.advance
  split
  · rename_i m rest progress
    obtain ⟨-, call, called, message⟩ := h.current sender r round
    obtain ⟨registry, options, -⟩ := Hub.deliverTo_frame s.hub sender
      (s.hub.rendered r.message) r.report m
    have shorter := h.setRound round (some { r with
      report := (s.hub.deliverTo sender (s.hub.rendered r.message) r.report m).2
      progress := .offering rest }) (by simp [Round.owed, progress]) (by simp)
    have delivered := shorter.withHub
      (s.hub.deliverTo sender (s.hub.rendered r.message) r.report m).1
      (by rw [registry]; exact h.ascending) (by rw [registry]; exact fun _ hm => hm) options
    refine delivered.record (o := ⟨sender, r.number, m, s.hub.rendered r.message, _⟩) ?_ ?_
    · exact h.owed sender m (by simp [Senders.owed, round, Round.owed, progress])
    · refine ⟨call, called, ?_⟩
      rw [message]
      exact (Hub.rendered_of_options options r.message).symm
  · exact h.setRound round _ (by simp [Round.owed]) (by simp)
  · rename_i id rest progress
    refine (h.setRound round (some { r with progress := .removing rest }) (by simp [Round.owed])
      (by simp)).withHub _ ?_ ?_ (Hub.unregister_options _ _)
    · rw [Hub.unregister_registry]
      exact h.ascending.unregister id
    · rw [Hub.unregister_registry]
      exact fun m hm => (Registry.mem_unregister.mp hm).1
  · obtain ⟨registry, -, options, -⟩ := Hub.account_frame s.hub r.message r.report
    refine (h.setRound round none (by simp) (by simp)).withHub _ ?_ ?_ options
    · rw [registry]
      exact h.ascending
    · rw [registry]
      exact fun _ hm => hm

theorem Sound.start (h : s.Sound) (message : Message) : (s.start message).Sound where
  ascending := h.ascending
  members := h.members
  snapshots := by
    intro other call hcall m hm
    by_cases same : other = message.sender
    · subst same
      have : call ∈ s.calls message.sender ∨ call = ⟨message, s.hub.registry.members⟩ := by
        simpa [Senders.start] using hcall
      rcases this with old | rfl
      · exact h.snapshots _ call old m hm
      · exact h.members m hm
    · exact h.snapshots other call (by simpa [Senders.start, same] using hcall) m hm
  recipients := h.recipients
  owed := by
    intro other m hm
    by_cases same : other = message.sender
    · subst same
      have : m ∈ s.hub.registry.members ∧ m.id ≠ message.sender := by
        simpa [Senders.start, Senders.owed, Senders.setRound, Round.owed, Hub.mem_recipients]
          using hm
      exact h.members m this.1
    · exact h.owed other m (by simpa [Senders.start, Senders.owed, Senders.setRound, same] using hm)
  distinct := by
    intro other
    by_cases same : other = message.sender
    · subst same
      have nodup : s.hub.registry.members.Nodup := List.Nodup.of_map _ h.ascending.ids_nodup
      simpa [Senders.start, Senders.owed, Senders.setRound, Round.owed, Hub.recipients]
        using nodup.filter _
    · simpa [Senders.start, Senders.owed, Senders.setRound, same] using h.distinct other
  current := by
    intro other r round
    by_cases same : other = message.sender
    · subst same
      obtain rfl : _ = r := by simpa [Senders.start, Senders.setRound] using round
      simp [Senders.start]
    · simpa [Senders.start, same] using
        h.current other r (by simpa [Senders.start, Senders.setRound, same] using round)
  texts := by
    intro o ho
    obtain ⟨call, called, text⟩ := h.texts o ho
    refine ⟨call, ?_, text⟩
    by_cases same : o.sender = message.sender
    · have below := (List.getElem?_eq_some_iff.mp called).1
      rw [same] at called below
      simp [Senders.start, same, List.getElem?_append_left below, called]
    · simpa [Senders.start, same] using called

theorem Sound.act (h : s.Sound) (a : Action) : (s.act a).Sound := by
  cases a with
  | begin message =>
    cases idle : s.rounds message.sender with
    | none => simpa [Senders.act, idle] using h.start message
    | some r => simpa [Senders.act, idle] using h
  | proceed sender =>
    cases round : s.rounds sender with
    | none => simpa [Senders.act, round] using h
    | some r => simpa [Senders.act, round] using h.advance round
  | register m =>
    cases done : s.hub.register m with
    | error fault => simpa [Senders.act, done] using h
    | ok hub =>
      obtain ⟨registry, done', rfl⟩ := Hub.register_eq_ok_iff.mp done
      obtain ⟨-, -, rfl⟩ := Registry.register_eq_ok_iff.mp done'
      simp only [Senders.act, done]
      constructor
      · simpa using h.ascending.register done'
      · intro x hx
        simp only [Hub.note_registry, Hub.setGauge_registry, Registry.mem_insertById] at hx
        rcases hx with rfl | hx
        · simp
        · exact List.mem_append_left _ (h.members x hx)
      · intro other call hcall x hx
        exact List.mem_append_left _ (h.snapshots other call hcall x hx)
      · exact fun o ho => List.mem_append_left _ (h.recipients o ho)
      · exact fun other x hx => List.mem_append_left _ (h.owed other x hx)
      · exact h.distinct
      · exact h.current
      · simpa [Hub.rendered] using h.texts
  | unregister id =>
    refine h.withHub _ ?_ ?_ (Hub.unregister_options _ _)
    · rw [Hub.unregister_registry]
      exact h.ascending.unregister id
    · rw [Hub.unregister_registry]
      exact fun m hm => (Registry.mem_unregister.mp hm).1
  | endRegistry =>
    refine h.withHub _ ?_ ?_ (Hub.endRegistry_options _)
    · rw [Hub.endRegistry_registry]
      exact Registry.ascending_close _
    · simp [Registry.close]
  | openQueue capacity => exact h.withHub _ h.ascending (fun _ hm => hm) rfl
  | take key =>
    cases taken : s.hub.take? key with
    | none => simpa [Senders.act, taken] using h
    | some next =>
      obtain ⟨text, hub⟩ := next
      obtain ⟨q, rest, -, -, rfl⟩ := Hub.take?_eq_some_iff.mp taken
      simp only [Senders.act, taken, Option.elim_some]
      exact h.withHub _ h.ascending (fun _ hm => hm) rfl
  | dropReader key => exact h.withHub _ h.ascending (fun _ hm => hm) rfl

end Advance

section Runs

variable {s : Senders} {sender : ConnectionId} {c : Member} {start stop : Nat} {refused : Bool}

theorem advance_calls (r : Round) : (s.advance sender r).calls = s.calls := by
  unfold advance
  split <;> rfl

theorem advance_members {r : Round} {m : Member}
    (h : m ∈ (s.advance sender r).hub.registry.members) : m ∈ s.hub.registry.members := by
  unfold advance at h
  split at h
  · simpa [offerTo, (Hub.deliverTo_frame _ _ _ _ _).1] using h
  · exact h
  · rw [Hub.unregister_registry] at h
    exact (Registry.mem_unregister.mp h).1
  · simpa [(Hub.account_frame _ _ _).1] using h

theorem advance_rounds_other {r : Round} {other : ConnectionId} (apart : other ≠ sender) :
    (s.advance sender r).rounds other = s.rounds other := by
  unfold advance
  split <;> simp [offerTo, setRound, apart]

theorem advance_offers_other {r : Round} {other : ConnectionId} (apart : other ≠ sender) :
    ((s.advance sender r).offers.filter fun o => o.sender = other ∧ o.recipient = c) =
      s.offers.filter fun o => o.sender = other ∧ o.recipient = c := by
  unfold advance
  split
  · simp [offerTo, setRound, Ne.symm apart]
  all_goals rfl

/-- Another sender takes a step. It can at most remove the recipient. -/
theorem Flow.advance_other (h : s.Flow sender c start stop refused) {other : ConnectionId}
    (apart : sender ≠ other) (r : Round) :
    (s.advance other r).Flow sender c start stop refused := by
  have rounds := advance_rounds_other (s := s) (r := r) apart
  apply h.keep
  · rw [advance_calls]
  · exact advance_offers_other apart
  · simp [Senders.owed, rounds]
  · intro here
    exact ⟨advance_members here, by simp [condemned, rounds]⟩

theorem Flow.advance (h : s.Flow sender c start stop refused) (sound : s.Sound) {r : Round}
    (round : s.rounds sender = some r) :
    ∃ stop' refused', (s.advance sender r).Flow sender c start stop' refused' := by
  unfold Senders.advance
  split
  · rename_i m rest progress
    by_cases same : m = c
    · subst same
      exact h.offered sound round progress
    · refine ⟨stop, refused, h.keep rfl ?_ ?_ ?_⟩
      · simp [offerTo, setRound, same]
      · simp [offerTo, Senders.owed, round, setRound, Round.owed, progress, Ne.symm same]
      · intro here
        refine ⟨by simpa [offerTo, (Hub.deliverTo_frame _ _ _ _ _).1] using here, ?_⟩
        intro doomed
        simp only [Senders.condemned, round, Option.elim_some, Round.condemned, progress] at doomed
        simp only [offerTo, Senders.condemned, setRound, Function.update_self, Option.elim_some,
          Round.condemned, deliverTo_failed]
        split
        · exact doomed
        · exact List.mem_append_left _ doomed
  · rename_i progress
    refine ⟨stop, refused, h.keep rfl rfl ?_ ?_⟩
    · simp [Senders.owed, round, setRound, Round.owed, progress]
    · intro here
      refine ⟨here, fun doomed => ?_⟩
      simpa [Senders.condemned, round, setRound, Round.condemned, progress] using doomed
  · rename_i id rest progress
    refine ⟨stop, refused, h.keep rfl rfl ?_ ?_⟩
    · simp [Senders.owed, round, setRound, Round.owed, progress]
    · intro here
      rw [Hub.unregister_registry] at here
      obtain ⟨here, apart⟩ := Registry.mem_unregister.mp here
      refine ⟨here, fun doomed => ?_⟩
      simpa [Senders.condemned, round, setRound, Round.condemned, progress, apart] using doomed
  · rename_i progress
    refine ⟨stop, refused, h.keep rfl rfl ?_ ?_⟩
    · simp [Senders.owed, round, setRound, Round.owed, progress]
    · intro here
      refine ⟨by simpa [(Hub.account_frame _ _ _).1] using here, fun doomed => ?_⟩
      simp [Senders.condemned, round, Round.condemned, progress] at doomed

/-- One step keeps the broadcasts of a sender to a recipient in one block. -/
theorem Flow.act (h : s.Flow sender c start stop refused) (sound : s.Sound)
    (other : c.id ≠ sender) (a : Action)
    (once : ((s.act a).joined.map Member.id).Nodup) :
    ∃ start' stop' refused', (s.act a).Flow sender c start' stop' refused' := by
  cases a with
  | begin message =>
    cases idle : s.rounds message.sender with
    | some r => exact ⟨start, stop, refused, by simpa [Senders.act, idle] using h⟩
    | none =>
      simp only [Senders.act, idle, Option.isNone_none, if_true]
      by_cases same : message.sender = sender
      · exact ⟨start, stop, refused, h.begun other same (by rw [← same]; exact idle)⟩
      · refine ⟨start, stop, refused, h.keep ?_ rfl ?_ ?_⟩
        · simp [Senders.start, Ne.symm same]
        · simp [Senders.start, Senders.owed, setRound, Ne.symm same]
        · intro here
          exact ⟨here, by simp [Senders.start, Senders.condemned, setRound, Ne.symm same]⟩
  | proceed actor =>
    cases round : s.rounds actor with
    | none => exact ⟨start, stop, refused, by simpa [Senders.act, round] using h⟩
    | some r =>
      simp only [Senders.act, round, Option.elim_some]
      by_cases same : sender = actor
      · subst same
        exact ⟨start, h.advance sound round⟩
      · exact ⟨start, stop, refused, h.advance_other same r⟩
  | register m =>
    cases done : s.hub.register m with
    | error fault => exact ⟨start, stop, refused, by simpa [Senders.act, done] using h⟩
    | ok hub =>
      simp only [Senders.act, done] at once ⊢
      by_cases same : m = c
      · subst same
        have fresh : m ∉ s.joined := by
          intro before
          rw [List.map_append, List.nodup_append] at once
          exact once.2.2 m.id (List.mem_map_of_mem before) m.id (by simp) rfl
        exact ⟨_, _, _, Flow.join sound fresh sender⟩
      · obtain ⟨registry, done', rfl⟩ := Hub.register_eq_ok_iff.mp done
        obtain ⟨-, -, rfl⟩ := Registry.register_eq_ok_iff.mp done'
        refine ⟨start, stop, refused, h.keep rfl rfl Iff.rfl ?_⟩
        intro here
        simp only [Hub.note_registry, Hub.setGauge_registry, Registry.mem_insertById] at here
        exact ⟨here.resolve_left (Ne.symm same), id⟩
  | unregister id =>
    refine ⟨start, stop, refused, h.keep rfl rfl Iff.rfl ?_⟩
    intro here
    simp only [Senders.act, Hub.unregister_registry] at here
    exact ⟨(Registry.mem_unregister.mp here).1, fun doomed => doomed⟩
  | endRegistry =>
    refine ⟨start, stop, refused, h.keep rfl rfl Iff.rfl ?_⟩
    intro here
    simp [Senders.act, Registry.close] at here
  | openQueue capacity => exact ⟨start, stop, refused, h.keep rfl rfl Iff.rfl (⟨·, id⟩)⟩
  | take key =>
    cases taken : s.hub.take? key with
    | none => exact ⟨start, stop, refused, by simpa [Senders.act, taken] using h⟩
    | some next =>
      obtain ⟨text, hub⟩ := next
      obtain ⟨q, rest, -, -, rfl⟩ := Hub.take?_eq_some_iff.mp taken
      simp only [Senders.act, taken, Option.elim_some]
      exact ⟨start, stop, refused, h.keep rfl rfl Iff.rfl (⟨·, id⟩)⟩
  | dropReader key => exact ⟨start, stop, refused, h.keep rfl rfl Iff.rfl (⟨·, id⟩)⟩

/-- What holds of the runs so far: the hub is in order, and each recipient has its block. -/
structure Contiguous (s : Senders) : Prop where
  sound : s.Sound
  queued : s.Queued
  flow : ∀ sender c, c.id ≠ sender → ∃ start stop refused, s.Flow sender c start stop refused

theorem contiguous_start (options : HubOptions) : (run options []).Contiguous where
  sound := by constructor <;> simp [run, Registry.Ascending, Senders.owed]
  queued := by simp [Queued, run]
  flow := by
    intro sender c _
    exact ⟨0, 0, false, by constructor <;> simp [run, outcomes, Senders.owed]⟩

theorem joined_act (s : Senders) (a : Action) : s.joined <+: (s.act a).joined := by
  cases a with
  | register m =>
    cases done : s.hub.register m with
    | error fault => simp [Senders.act, done]
    | ok hub => simp [Senders.act, done]
  | begin message =>
    simp only [Senders.act]
    split <;> exact List.prefix_refl _
  | proceed sender =>
    cases round : s.rounds sender with
    | none => simp [Senders.act, round]
    | some r =>
      simp only [Senders.act, round, Option.elim_some, Senders.advance]
      split <;> exact List.prefix_refl _
  | take key => cases taken : s.hub.take? key <;> simp [Senders.act, taken]
  | unregister id => exact List.prefix_refl _
  | endRegistry => exact List.prefix_refl _
  | openQueue capacity => exact List.prefix_refl _
  | dropReader key => exact List.prefix_refl _

theorem run_append (options : HubOptions) (actions : List Action) (a : Action) :
    run options (actions ++ [a]) = (run options actions).act a := by
  simp [run]

theorem run_contiguous (options : HubOptions) (actions : List Action)
    (once : ((run options actions).joined.map Member.id).Nodup) :
    (run options actions).Contiguous := by
  induction actions using List.reverseRecOn with
  | nil => exact contiguous_start options
  | append_singleton actions a ih =>
    rw [run_append] at once ⊢
    have earlier := (joined_act (run options actions) a).sublist.map Member.id
    have h := ih (once.sublist earlier)
    refine ⟨h.sound.act a, h.queued.act a, ?_⟩
    intro sender c other
    obtain ⟨start, stop, refused, flow⟩ := h.flow sender c other
    exact flow.act h.sound other a once

/-- Nobody else uses the queue of a member, so what it got is what was offered to the member. -/
theorem Sound.offersTo_eq (h : s.Sound) (once : (s.joined.map Member.id).Nodup)
    (own : ∀ a ∈ s.joined, ∀ b ∈ s.joined, a.queue = b.queue → a.id = b.id) (hc : c ∈ s.joined) :
    s.offersTo sender c.queue = (s.offers.filter fun o => o.sender = sender ∧
      o.recipient = c).map fun o => (o.number, o.taken) := by
  have same : ∀ o ∈ s.offers, (o.sender = sender ∧ o.recipient.queue = c.queue) ↔
      (o.sender = sender ∧ o.recipient = c) := by
    intro o ho
    have joined := h.recipients o ho
    constructor
    · rintro ⟨by_sender, queue⟩
      exact ⟨by_sender, List.inj_on_of_nodup_map once joined hc (own _ joined _ hc queue)⟩
    · rintro ⟨by_sender, rfl⟩
      exact ⟨by_sender, rfl⟩
  rw [offersTo, List.filter_congr fun o ho => decide_eq_decide.mpr (same o ho)]

theorem mem_snapshot_iff {k : Nat} :
    c ∈ s.snapshot sender k ↔ ∃ call, (s.calls sender)[k]? = some call ∧ c ∈ call.snapshot := by
  cases called : (s.calls sender)[k]? <;> simp [snapshot, called]

theorem Flow.mem_snapshot (h : s.Flow sender c start stop refused) {k : Nat} :
    c ∈ s.snapshot sender k ↔ k < (s.calls sender).length ∧ start ≤ k ∧
      (k < stop ∨ k = stop ∧ (refused = true ∨ c ∈ s.owed sender)) := by
  rw [mem_snapshot_iff]
  constructor
  · rintro ⟨call, called, inside⟩
    exact ⟨(List.getElem?_eq_some_iff.mp called).1, (h.snapshots k call called).mp inside⟩
  · rintro ⟨below, inside⟩
    have called := List.getElem?_eq_getElem below
    exact ⟨_, called, (h.snapshots k _ called).mpr inside⟩

theorem Flow.block (h : s.Flow sender c start stop refused) (sound : s.Sound) (queued : s.Queued)
    (once : (s.joined.map Member.id).Nodup)
    (own : ∀ a ∈ s.joined, ∀ b ∈ s.joined, a.queue = b.queue → a.id = b.id)
    (hc : c ∈ s.joined) : s.Block sender c start stop refused where
  bounds := h.bounds
  offers := (sound.offersTo_eq once own hc).trans h.offers
  texts := by
    rintro o ho rfl
    exact sound.texts o ho
  before := by
    intro k early
    rw [h.mem_snapshot]
    omega
  within := by
    intro k late early
    rw [h.mem_snapshot]
    have := h.bounds.2
    exact ⟨by omega, late, Or.inl early⟩
  ending := by
    intro more
    rw [h.mem_snapshot]
    have ordered := h.bounds.1
    by_cases owed : c ∈ s.owed sender
    · have kept := (h.owed owed).1
      exact Or.inr (Or.inl ⟨⟨more, ordered, Or.inr ⟨rfl, Or.inr owed⟩⟩, kept, owed⟩)
    · cases refused with
      | true => exact Or.inl ⟨⟨more, ordered, Or.inr ⟨rfl, Or.inl rfl⟩⟩, rfl⟩
      | false =>
        refine Or.inr (Or.inr ⟨by simp [owed], rfl, ?_⟩)
        intro here
        have := h.registered here rfl owed
        omega
  refusal := fun was => (h.refusal was).1
  queued := queued c.queue
  after := by
    intro k late
    rw [h.mem_snapshot]
    omega

/-- Whatever the order of all steps: as long as nobody is registered twice and nobody shares a
queue, a recipient gets one block of the broadcasts of each other sender. -/
theorem run_block (options : HubOptions) (actions : List Action)
    (once : ((run options actions).joined.map Member.id).Nodup)
    (own : ∀ a ∈ (run options actions).joined, ∀ b ∈ (run options actions).joined,
      a.queue = b.queue → a.id = b.id)
    (sender : ConnectionId) (c : Member) (joined : c ∈ (run options actions).joined)
    (other : c.id ≠ sender) :
    ∃ start stop refused, (run options actions).Block sender c start stop refused := by
  have h := run_contiguous options actions once
  obtain ⟨start, stop, refused, flow⟩ := h.flow sender c other
  exact ⟨start, stop, refused, flow.block h.sound h.queued once own joined⟩

end Runs

/-- Alice and Carol send at the same time, and Bob has room for two texts. Carol's text comes to
Bob between the two of Alice, so that he is refused the second one, and is removed. -/
def crowdedQueue : List Action :=
  let alice : ConnectionId := ⟨1⟩
  let carol : ConnectionId := ⟨3⟩
  [.openQueue 4, .openQueue 2, .openQueue 4, .register ⟨alice, "alice", 0⟩,
    .register ⟨⟨2⟩, "bob", 1⟩, .register ⟨carol, "carol", 2⟩, .begin ⟨alice, "alice", "one"⟩,
    .begin ⟨carol, "carol", "two"⟩, .proceed alice, .proceed carol, .proceed alice,
    .proceed alice, .proceed alice, .begin ⟨alice, "alice", "three"⟩, .proceed carol,
    .proceed alice, .proceed alice, .proceed alice, .proceed alice, .proceed alice,
    .begin ⟨alice, "alice", "four"⟩, .proceed alice]

theorem run_block_crowdedQueue :
    let s := run {} crowdedQueue
    let bob : Member := ⟨⟨2⟩, "bob", 1⟩
    ((s.joined.map Member.id).Nodup ∧
      (∀ a ∈ s.joined, ∀ b ∈ s.joined, a.queue = b.queue → a.id = b.id) ∧
      bob ∈ s.joined ∧ bob.id ≠ ⟨1⟩) ∧
    s.offersTo ⟨1⟩ 1 = [(0, true), (1, false)] ∧ (s.calls ⟨1⟩).length = 3 ∧
    ∃ start stop refused, s.Block ⟨1⟩ bob start stop refused :=
  ⟨by decide, by decide, by decide,
    run_block {} crowdedQueue (by decide) (by decide) ⟨1⟩ ⟨⟨2⟩, "bob", 1⟩ (by decide) (by decide)⟩

end Senders

end ChatRelay
