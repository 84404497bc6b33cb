import ChatRelay.Proofs.Broadcast.Effect
import ChatRelay.Proofs.Connection.Transition

/-!
# What a step of a task changes

A task touches its own queue and its own registration, and notes events of its own connection. Only
a broadcast reaches further. Seen from the registry there are four kinds of steps: the registration
stays as it is, it begins, it ends, or a registered connection speaks.
-/

namespace ChatRelay

/-- The event says neither that something was written nor that the task moved. -/
def ConnectionEvent.isRemark : ConnectionEvent → Bool
  | .written _ => false
  | .moved .. => false
  | _ => true

namespace Connection

section Pieces

variable (config : RelayConfig) (c : Connection) (hub : Hub) (key : QueueKey)
  (result : Option ConnectionFault) (outcome : Outcome)

@[simp] theorem reading_id (rest : List Inbound) : (c.reading rest).id = c.id := rfl

@[simp] theorem reading_phase (rest : List Inbound) : (c.reading rest).phase = c.phase := rfl

@[simp] theorem wrapUp_registry : (c.wrapUp config hub key result).1.registry = hub.registry := rfl

@[simp] theorem wrapUp_story : (c.wrapUp config hub key result).1.story =
    hub.story ++ [.connection c.id (.moved c.phase.stage .closing)] := by
  simp [wrapUp, move, note, Phase.stage]

theorem leave_eq :
    c.leave config hub key result = c.wrapUp config (hub.unregister c.id).2 key result := rfl

@[simp] theorem conclude_phase : (c.conclude hub outcome).2.phase = .ended outcome := rfl

@[simp] theorem conclude_registry : (c.conclude hub outcome).1.registry = hub.registry := rfl

@[simp] theorem conclude_queues : (c.conclude hub outcome).1.queues = hub.queues := rfl

@[simp] theorem conclude_options : (c.conclude hub outcome).1.options = hub.options := rfl

@[simp] theorem conclude_nextId : (c.conclude hub outcome).1.nextId = hub.nextId := rfl

@[simp] theorem conclude_story : (c.conclude hub outcome).1.story =
    hub.story ++ [.connection c.id (outcome.event c.peer)] := by
  simp [conclude, note]

@[simp] theorem die_phase : (c.die hub key outcome).2.phase = .ended outcome := rfl

theorem die_registry : (c.die hub key outcome).1.registry =
    if c.phase.isServing then hub.registry.unregister c.id else hub.registry := by
  cases serving : c.phase.isServing <;> simp [die, serving]

@[simp] theorem die_story : (c.die hub key outcome).1.story =
    hub.story ++ [.connection c.id (outcome.event c.peer)] := by
  cases serving : c.phase.isServing <;> simp [die, serving]

end Pieces

/-- The hub differs at one queue at most, and by events of one connection in its story. No queue has
accepted anything. -/
structure Own (id : ConnectionId) (key : QueueKey) (hub : Hub) (events : List ConnectionEvent)
    (hub' : Hub) : Prop where
  elsewhere : ∀ k, k ≠ key → hub'.queues[k]? = hub.queues[k]?
  size : hub'.queues.size = hub.queues.size
  options : hub'.options = hub.options
  now : hub'.now = hub.now
  nextId : hub'.nextId = hub.nextId
  story : hub'.story = hub.story ++ events.map (Event.connection id)
  accepted : ∀ k, hub'.acceptedBy k = hub.acceptedBy k

/-- What a step of a task means for its registration. -/
inductive Outline (c : Connection) (hub : Hub) (key : QueueKey) (next : Hub × Connection) :
    Prop where
  | stay {events} (id : next.2.id = c.id) (own : Own c.id key hub events next.1)
      (serving : next.2.phase.isServing = c.phase.isServing)
      (registry : next.1.registry = hub.registry)
  | join {events name} (id : next.2.id = c.id) (own : Own c.id key hub events next.1)
      (waiting : c.phase.isServing = false) (serving : next.2.phase.isServing = true)
      (registry : hub.registry.register ⟨c.id, name, key⟩ = .ok next.1.registry)
  | part {events} (id : next.2.id = c.id) (own : Own c.id key hub events next.1)
      (serving : c.phase.isServing = true) (left : next.2.phase.isServing = false)
      (registry : next.1.registry = hub.registry.unregister c.id)
  | speak {events hub₁ message} (id : next.2.id = c.id) (own : Own c.id key hub events hub₁)
      (before : c.phase.isServing = true) (after : next.2.phase.isServing = true)
      (registry : hub₁.registry = hub.registry) (queues : hub₁.queues = hub.queues)
      (sender : message.sender = c.id) (spoken : next.1 = (hub₁.broadcast message).1)

theorem own_noteAll (c : Connection) (hub : Hub) (key : QueueKey)
    (events : List ConnectionEvent) : Own c.id key hub events (c.noteAll hub events) := by
  constructor <;> simp

section Own

variable {id : ConnectionId} {key : QueueKey} {hub hub₁ : Hub} {events : List ConnectionEvent}

theorem modify_elsewhere {α : Type} {a : Array α} {i k : Nat} (f : α → α) (apart : k ≠ i) :
    (a.modify i f)[k]? = a[k]? := by
  simp [Array.getElem?_modify, Ne.symm apart]

theorem modify_of_none {α : Type} {a : Array α} {i : Nat} (absent : a[i]? = none) (f : α → α) :
    a.modify i f = a := by
  apply Array.ext_getElem?
  intro k
  rw [Array.getElem?_modify]
  split
  · rename_i here
    rw [← here, absent]
    rfl
  · rfl

theorem modify_of_some {α : Type} {a : Array α} {i : Nat} {x : α} (here : a[i]? = some x)
    (f : α → α) : a.modify i f = a.setIfInBounds i (f x) := by
  have inBounds := (Array.getElem?_eq_some_iff.mp here).1
  apply Array.ext_getElem?
  intro k
  rw [Array.getElem?_modify, Array.getElem?_setIfInBounds]
  split
  · rename_i same
    rw [← same, here]
    simp
  · rfl

/-- A change that the queues and the story do not see. -/
theorem Own.hidden (h : Own id key hub events hub₁) {hub₂ : Hub}
    (queues : hub₂.queues = hub₁.queues) (options : hub₂.options = hub₁.options)
    (now : hub₂.now = hub₁.now) (nextId : hub₂.nextId = hub₁.nextId)
    (story : hub₂.story = hub₁.story) (accepted : ∀ k, hub₂.acceptedBy k = hub₁.acceptedBy k) :
    Own id key hub events hub₂ where
  elsewhere := by rw [queues]; exact h.elsewhere
  size := by rw [queues]; exact h.size
  options := options.trans h.options
  now := now.trans h.now
  nextId := nextId.trans h.nextId
  story := story.trans h.story
  accepted k := (accepted k).trans (h.accepted k)

theorem Own.unregister (h : Own id key hub events hub₁) (gone : ConnectionId) :
    Own id key hub events (hub₁.unregister gone).2 :=
  h.hidden (by simp) (by simp) (by simp) (by simp) (by simp) (by simp)

theorem Own.register (h : Own id key hub events hub₁) {hub₂ : Hub} {m : Member}
    (done : hub₁.register m = .ok hub₂) : Own id key hub events hub₂ := by
  have accepted := Hub.register_acceptedBy done
  obtain ⟨registry, -, rfl⟩ := Hub.register_eq_ok_iff.mp done
  refine h.hidden (by simp) (by simp) (by simp) (by simp) ?_ accepted
  rw [Hub.note_story, Hub.setGauge_story]
  simp [Event.isTold, Hub.story]

theorem Own.note {c : Connection} (h : Own c.id key hub events hub₁) (e : ConnectionEvent) :
    Own c.id key hub (events ++ [e]) (c.note hub₁ e) where
  elsewhere := h.elsewhere
  size := h.size
  options := h.options
  now := h.now
  nextId := h.nextId
  story := by simp [Connection.note, h.story]
  accepted k := by rw [Connection.note, Hub.note_acceptedBy_of_none _ rfl, h.accepted]

theorem Own.dropReader (h : Own id key hub events hub₁) :
    Own id key hub events (hub₁.dropReader key) where
  elsewhere k apart := (modify_elsewhere _ apart).trans (h.elsewhere k apart)
  size := by simp [h.size]
  options := h.options
  now := h.now
  nextId := h.nextId
  story := h.story
  accepted k := by rw [Hub.dropReader_acceptedBy, h.accepted]

theorem Own.take (h : Own id key hub events hub₁) {hub₂ : Hub} {text : String}
    (taken : hub₁.take? key = some (text, hub₂)) : Own id key hub events hub₂ := by
  obtain ⟨q, rest, -, -, rfl⟩ := Hub.take?_eq_some_iff.mp taken
  constructor
  · intro k apart
    simp [Ne.symm apart, h.elsewhere k apart]
  · simp [h.size]
  · exact h.options
  · exact h.now
  · exact h.nextId
  · exact h.story
  · exact h.accepted

theorem Own.wrapUp {c : Connection} (h : Own c.id key hub events hub₁) (config : RelayConfig)
    (result : Option ConnectionFault) :
    Own c.id key hub (events ++ [.moved c.phase.stage .closing])
      (c.wrapUp config hub₁ key result).1 :=
  h.dropReader.note _

theorem Own.die {c : Connection} (h : Own c.id key hub events hub₁) (outcome : Outcome) :
    Own c.id key hub (events ++ [outcome.event c.peer]) (c.die hub₁ key outcome).1 := by
  unfold Connection.die
  split
  · exact (h.unregister c.id).dropReader.note _
  · exact h.dropReader.note _

end Own

theorem Leaving.serving {config : RelayConfig} {s : Surroundings} {c : Connection} {hub : Hub}
    {key : QueueKey} {b : Branch} {c' : Connection} {remarks : List ConnectionEvent}
    {result : Option ConnectionFault}
    (h : Leaving config s c hub key b c' remarks result) :
    c.phase.isServing = true ∧ c'.id = c.id ∧ c'.phase = c.phase := by
  cases h <;> simp [Phase.isServing, *]

theorem GivingUp.same {config : RelayConfig} {s : Surroundings} {c : Connection} {hub : Hub}
    {key : QueueKey} {b : Branch} {meters : Meters} {c' : Connection}
    {remarks : List ConnectionEvent} {result : Option ConnectionFault}
    (h : GivingUp config s c hub key b meters c' remarks result) :
    c'.id = c.id ∧ c'.phase = c.phase := by
  cases h <;> simp

section Outline

variable {config : RelayConfig} {s : Surroundings} {c : Connection} {hub : Hub} {key : QueueKey}

theorem Transition.outline {b : Branch} {next : Hub × Connection}
    (h : Transition config s c hub key b next) : Outline c hub key next := by
  have own := own_noteAll c hub key
  cases h with
  | start phase =>
    exact .stay rfl ((own [.began c.peer]).note _)
      (by simp [move, Phase.isServing, phase]) rfl
  | ignore phase inbound wordless => exact .stay rfl (own [_]) rfl rfl
  | @giveUp deadline b meters c' remarks result phase reason =>
    obtain ⟨id, same⟩ := reason.same
    have noted : Own c'.id key hub remarks (c.noteAll { hub with meters } remarks) := by
      rw [id]
      have noted := own_noteAll c { hub with meters } key remarks
      exact ⟨noted.elsewhere, noted.size, noted.options, noted.now, noted.nextId, noted.story,
        noted.accepted⟩
    have wrapped := noted.wrapUp config result
    rw [id] at wrapped
    refine .stay id wrapped ?_ (by simp)
    rw [phase]
    rfl
  | @enter deadline name rest hub' tick phase inbound small registered scheduled =>
    obtain ⟨registry, done, same⟩ := Hub.register_eq_ok_iff.mp registered
    have joined : hub.registry.register ⟨c.id, name, key⟩ =
        .ok (c.note hub' (.moved .handshake .active)).registry := by
      simpa [same, note] using done
    exact .join rfl (((own _).register registered).note _) (by rw [phase]; rfl) rfl joined
  | @enterLate deadline name rest hub' phase inbound small registered late =>
    obtain ⟨registry, done, same⟩ := Hub.register_eq_ok_iff.mp registered
    have noted := ((own _).register registered).note (.moved .handshake .active)
    have died := Own.die (c := { c.reading rest with
      phase := .active ⟨name, hub'.now, hub'.now⟩ }) noted .panicked
    refine .stay rfl died (by rw [phase]; rfl) ?_
    rw [die_registry]
    have taken := Registry.unregister_register done
    simpa [Phase.isServing, note, same] using taken
  | tooLarge phase inbound large =>
    refine .stay rfl (Own.die (c := c.reading _) (own _) .panicked) (by rw [phase]; rfl) ?_
    rw [die_registry, reading_phase, phase]
    simp [Phase.isServing]
  | line phase inbound =>
    exact .speak rfl (own [_, _]) (by rw [phase]; rfl) rfl rfl rfl rfl rfl
  | sign phase inbound => exact .stay rfl (own [_]) (by rw [phase]; rfl) rfl
  | drop phase inbound => exact .stay rfl (own [_]) rfl rfl
  | take phase taken =>
    refine .stay rfl (((own []).take taken).note _) (by rw [phase]; rfl) ?_
    obtain ⟨q, rest, -, -, rfl⟩ := Hub.take?_eq_some_iff.mp taken
    rfl
  | ping phase due heard => exact .stay rfl (own []) (by rw [phase]; rfl) rfl
  | written phase mode => exact .stay rfl (own _) (by rw [phase]; rfl) (by simp)
  | hang phase mode => exact .stay rfl (own _) (by rw [phase]; rfl) (by simp)
  | @leave b c' remarks result reason =>
    obtain ⟨serving, id, same⟩ := reason.serving
    have noted : Own c'.id key hub remarks (c.noteAll hub remarks) := by
      rw [id]
      exact own remarks
    have wrapped := (noted.unregister c'.id).wrapUp config result
    rw [id] at wrapped
    rw [leave_eq, id]
    exact .part id wrapped serving rfl (by simp)
  | closeHang phase mode => exact .stay rfl (own _) (by rw [phase]; rfl) (by simp)
  | conclude phase closed =>
    exact .stay rfl ((own _).note _) (by rw [phase]; rfl) (by simp)

theorem outline_die (outcome : Outcome) : Outline c hub key (c.die hub key outcome) := by
  have died := Own.die (own_noteAll c hub key []) outcome
  cases serving : c.phase.isServing with
  | true => exact .part rfl died serving rfl (by rw [die_registry, serving]; rfl)
  | false => exact .stay rfl died serving.symm (by rw [die_registry, serving]; rfl)

/-- Whatever the step, the identity stays, and of the hub the parts that only the relay sets. -/
theorem Outline.frame {next : Hub × Connection} (h : Outline c hub key next) :
    next.2.id = c.id ∧ next.1.queues.size = hub.queues.size ∧ next.1.options = hub.options ∧
      next.1.now = hub.now ∧ next.1.nextId = hub.nextId := by
  cases h with
  | stay id own => exact ⟨id, own.size, own.options, own.now, own.nextId⟩
  | join id own => exact ⟨id, own.size, own.options, own.now, own.nextId⟩
  | part id own => exact ⟨id, own.size, own.options, own.now, own.nextId⟩
  | @speak events hub₁ message id own _ _ _ _ _ spoken =>
    obtain ⟨options, now, nextId, -⟩ := Hub.broadcast_frame hub₁ message
    rw [spoken]
    exact ⟨id, (Hub.broadcast_size _ _).trans own.size, options.trans own.options,
      now.trans own.now, nextId.trans own.nextId⟩

/-- The story only grows. -/
theorem Outline.story {next : Hub × Connection} (h : Outline c hub key next) :
    ∃ told, next.1.story = hub.story ++ told := by
  cases h with
  | stay _ own => exact ⟨_, own.story⟩
  | join _ own => exact ⟨_, own.story⟩
  | part _ own => exact ⟨_, own.story⟩
  | speak _ own _ _ _ _ _ spoken =>
    exact ⟨_, by rw [spoken, (Hub.broadcast_frame _ _).2.2.2, own.story, List.append_assoc]⟩

/-- No task ends the registry. -/
theorem Outline.ended {next : Hub × Connection} (h : Outline c hub key next) :
    next.1.registry.ended = hub.registry.ended := by
  cases h with
  | stay _ _ _ registry => rw [registry]
  | join _ _ _ _ registry => rw [(Registry.register_eq_ok_iff.mp registry).2.2]
  | part _ _ _ _ registry =>
    rw [registry]
    rfl
  | speak _ _ _ _ registry _ _ spoken =>
    rw [spoken, Hub.broadcast_registry, registry]
    rfl

/-- Who overlooks remarks finds nothing in a list of them. -/
theorem filterMap_remarks {α : Type} {f : Event → Option α}
    (overlooked : ∀ id e, ConnectionEvent.isRemark e = true → f (.connection id e) = none)
    {events : List ConnectionEvent} (h : ∀ e ∈ events, e.isRemark = true) (id : ConnectionId) :
    (events.map (Event.connection id)).filterMap f = [] := by
  rw [List.filterMap_map, List.filterMap_eq_nil_iff]
  exact fun e he => overlooked id e (h e he)

theorem announcement_remarks (w : Write) : ∀ e ∈ w.announcement, e.isRemark = true := by
  unfold Write.announcement
  split <;> simp [ConnectionEvent.isRemark]

theorem GivingUp.remarks {b : Branch} {meters : Meters} {c' : Connection}
    {remarks : List ConnectionEvent} {result : Option ConnectionFault}
    (h : GivingUp config s c hub key b meters c' remarks result) :
    ∀ e ∈ remarks, e.isRemark = true := by
  cases h <;> simp [ConnectionEvent.isRemark]

theorem Leaving.remarks {b : Branch} {c' : Connection} {remarks : List ConnectionEvent}
    {result : Option ConnectionFault} (h : Leaving config s c hub key b c' remarks result) :
    ∀ e ∈ remarks, e.isRemark = true := by
  cases h with
  | @writeFailed session write fault phase mode =>
    intro e he
    rcases List.mem_append.mp he with announced | failed
    · exact announcement_remarks write e announced
    · rw [List.mem_singleton.mp failed]
      rfl
  | _ => simp [ConnectionEvent.isRemark]

theorem Closed.remarks {begun : Bool} {deadline : Nat} {b : Branch}
    {remarks : List ConnectionEvent} (h : Closed s c begun deadline b remarks) :
    ∀ e ∈ remarks, e.isRemark = true := by
  cases h <;> cases begun <;> simp [ConnectionEvent.isRemark]

end Outline

end Connection

end ChatRelay
