import ChatRelay.Proofs.Relay.Sound

/-!
# What a client gets

A connection gets the lines of the others, and they come to it in the order of their broadcasts,
without a gap and each once. The lines that it has heard while registered are, in this order, those
that were written to its transport, the one being written, and those in its queue.
-/

namespace ChatRelay

def Event.writtenText? : Event → Option String
  | .connection _ (.written (.text text)) => some text
  | _ => none

/-- The line that a broadcast brought to a registered connection. It brings none to its sender, and
none to those that could not take it. -/
def Event.lineFor? (id : ConnectionId) (showSender : Bool) : Event → Option String
  | .broadcast message _ failed =>
    if message.sender = id ∨ id ∈ failed then none else some (message.render showSender)
  | _ => none

namespace Relay

/-- The lines that broadcasts bring to a connection as long as it is registered. -/
def linesFor (r : Relay) (key : Nat) (told : List Event) : List String :=
  match r.task? key with
  | none => []
  | some (id, _) =>
    if r.hub.registry.holds key then told.filterMap (Event.lineFor? id r.config.showSender) else []

namespace Moment

/-- The lines that come to a connection while it is registered. -/
def heard (s : Moment) (key : Nat) : List String := s.before.linesFor key s.news

/-- The texts whose write to the transport of a connection succeeds. -/
def written (s : Moment) (key : Nat) : List String :=
  if s.action.actor? = some key then s.news.filterMap Event.writtenText? else []

end Moment

def written (key : Nat) (history : List Moment) : List String :=
  history.flatMap fun s => s.written key

def heard (key : Nat) (history : List Moment) : List String :=
  history.flatMap fun s => s.heard key

end Relay

namespace Hub

/-- A broadcast leaves a queue alone that no recipient has. -/
theorem pending_untouched {h : Hub} {key : QueueKey}
    (distinct : (h.registry.members.map Member.queue).Nodup) {message : Message}
    (nobody : ∀ m ∈ h.registry.members, m.id ≠ message.sender → m.queue ≠ key) :
    (h.broadcast message).1.pending key = h.pending key :=
  pending_of_queues (bystander_queue message distinct nobody)

/-- A broadcast puts its text into the queue of a recipient that does not fail, and into that of one
that fails nothing. -/
theorem pending_recipient {h : Hub} (ascending : h.registry.Ascending)
    (distinct : (h.registry.members.map Member.queue).Nodup) {message : Message} {m : Member}
    (hm : m ∈ h.registry.members) (other : m.id ≠ message.sender) :
    (h.broadcast message).1.pending m.queue = h.pending m.queue ++
      if m.id ∈ (h.broadcast message).2.failed then [] else [h.rendered message] := by
  simp only [recipient_failed_iff message distinct ascending hm other, pending,
    recipient_queue message distinct hm other]
  cases found : h.queues[m.queue]? with
  | none => simp [hasRoomFor, found]
  | some q => cases room : q.hasRoom <;> simp [hasRoomFor, found, room, Queue.receive]

end Hub

/-- The transport was asked for a write and has not answered. -/
def Connection.isHanging (c : Connection) : Bool :=
  match c.phase with
  | .writing _ write => write.begun && c.transport.mode write.item == .hangs
  | _ => false

def Outgoing.texts : Outgoing → List String
  | .text line => [line]
  | .ping => []

/-- How the lines heard and the texts written are related, given where the task stands and what is
in its queue. -/
def Phase.Delivered (pending heard written : List String) : Phase → Prop
  | .connecting => heard = [] ∧ written = [] ∧ pending = []
  | .handshake _ => heard = [] ∧ written = [] ∧ pending = []
  | .active _ => heard = written ++ pending
  | .writing _ write => heard = written ++ (write.item.texts ++ pending)
  | .closing .. => written <+: heard
  | .ended _ => written <+: heard

theorem Phase.Delivered.beginning {phase : Phase} {pending heard written : List String}
    (h : phase.Delivered pending heard written) : written <+: heard := by
  cases phase with
  | connecting => exact ⟨[], by rw [h.1, h.2.1]; rfl⟩
  | handshake deadline => exact ⟨[], by rw [h.1, h.2.1]; rfl⟩
  | active session => exact ⟨pending, h.symm⟩
  | writing session write => exact ⟨_, h.symm⟩
  | closing result begun deadline => exact h
  | ended outcome => exact h

/-- A line comes to a registered connection and into its queue. -/
theorem Phase.Delivered.hear {phase : Phase} {pending heard written : List String}
    (h : phase.Delivered pending heard written) (serving : phase.isServing = true)
    (lines : List String) : phase.Delivered (pending ++ lines) (heard ++ lines) written := by
  cases phase with
  | active session =>
    have same : heard = written ++ pending := h
    simp [Delivered, same]
  | writing session write =>
    have same : heard = written ++ (write.item.texts ++ pending) := h
    simp [Delivered, same]
  | _ => simp [isServing] at serving

namespace Connection

section Own

variable {config : RelayConfig} {s : Surroundings} {c : Connection} {hub : Hub} {key : QueueKey}

theorem unwritten_of_remarks {events : List ConnectionEvent}
    (h : ∀ e ∈ events, e.isRemark = true) (id : ConnectionId) :
    (events.map (Event.connection id)).filterMap Event.writtenText? = [] := by
  refine filterMap_remarks ?_ h id
  intro id e remark
  cases e with
  | written => cases remark
  | _ => rfl

variable {heard written : List String}

/-- A step that writes no text. -/
theorem delivered_silent {phase : Phase} {hub' : Hub} {told : List Event}
    (story : hub'.story = hub.story ++ told) (unwritten : told.filterMap Event.writtenText? = [])
    (d : phase.Delivered (hub'.pending key) heard written) :
    ∃ told, hub'.story = hub.story ++ told ∧
      phase.Delivered (hub'.pending key) heard (written ++ told.filterMap Event.writtenText?) :=
  ⟨told, story, by rw [unwritten, List.append_nil]; exact d⟩

/-- A step of a task keeps the account of its own lines. -/
theorem Transition.delivered {b : Branch} {next : Hub × Connection}
    (h : Transition config s c hub key b next)
    (distinct : (hub.registry.members.map Member.queue).Nodup)
    (own : ∀ m ∈ hub.registry.members, m.queue = key → m.id = c.id)
    (d : c.phase.Delivered (hub.pending key) heard written) :
    ∃ told, next.1.story = hub.story ++ told ∧
      next.2.phase.Delivered (next.1.pending key) heard
        (written ++ told.filterMap Event.writtenText?) := by
  cases h with
  | start phase =>
    rw [phase] at d
    obtain ⟨rfl, rfl, empty⟩ := d
    exact delivered_silent ((own_noteAll c hub key [.began c.peer]).note _).story rfl
      ⟨rfl, rfl, empty⟩
  | @ignore deadline item rest phase inbound wordless =>
    exact delivered_silent (own_noteAll c hub key [.consumed item]).story rfl d
  | @giveUp deadline b meters c' remarks result phase reason =>
    have story : (c'.wrapUp config (c.noteAll { hub with meters } remarks) key result).1.story =
        hub.story ++ (remarks.map (Event.connection c.id) ++
          [.connection c'.id (.moved c'.phase.stage .closing)]) := by
      rw [wrapUp_story, noteAll_story, List.append_assoc]
      rfl
    refine delivered_silent story ?_ d.beginning
    rw [List.filterMap_append, unwritten_of_remarks reason.remarks]
    rfl
  | @enter deadline name rest hub' tick phase inbound small registered scheduled =>
    obtain ⟨registry, -, same⟩ := Hub.register_eq_ok_iff.mp registered
    have noted := ((own_noteAll c hub key _).register registered).note (.moved .handshake .active)
    refine delivered_silent noted.story rfl ?_
    rw [phase] at d
    obtain ⟨rfl, rfl, empty⟩ := d
    have queue : (c.note hub' (.moved .handshake .active)).pending key = [] := by
      rw [← empty]
      simp [same, note, Hub.pending]
    simp [Phase.Delivered, queue]
  | @enterLate deadline name rest hub' phase inbound small registered late =>
    have noted := ((own_noteAll c hub key _).register registered).note (.moved .handshake .active)
    have died := Own.die (c := { c.reading rest with
      phase := .active ⟨name, hub'.now, hub'.now⟩ }) noted .panicked
    exact delivered_silent died.story rfl d.beginning
  | @tooLarge deadline name rest phase inbound large =>
    have died := Own.die (c := c.reading rest)
      (own_noteAll c hub key [.consumed (.text name), .named name]) .panicked
    exact delivered_silent died.story rfl d.beginning
  | @line session text rest phase inbound =>
    refine delivered_silent
      (by rw [(Hub.broadcast_frame _ _).2.2.2, noteAll_story, List.append_assoc]) rfl ?_
    have queue : ((c.noteAll hub [.consumed (.text text), .received text.utf8ByteSize]).broadcast
        ⟨c.id, session.name, text⟩).1.pending key = hub.pending key := by
      rw [Hub.pending_untouched (by simpa using distinct)]
      · exact Hub.pending_of_queues (by simp)
      · intro m hm other same
        exact other (own m (by simpa using hm) same)
    rw [queue]
    rw [phase] at d
    exact d
  | @sign session rest phase inbound =>
    rw [phase] at d
    exact delivered_silent (own_noteAll c hub key [.consumed .lifeSign]).story rfl d
  | @drop session size rest phase inbound =>
    exact delivered_silent (own_noteAll c hub key [.consumed (.binary size)]).story rfl d
  | @take session text hub' phase taken =>
    obtain ⟨q, rest, found, first, rfl⟩ := Hub.take?_eq_some_iff.mp taken
    have inBounds := (Array.getElem?_eq_some_iff.mp found).1
    have noted := ((own_noteAll c hub key []).take taken).note (.taken text)
    refine delivered_silent noted.story rfl ?_
    have before : hub.pending key = text :: rest := by simp [Hub.pending, found, first]
    rw [phase, before] at d
    simpa [Phase.Delivered, prepare, note, Hub.pending, inBounds, Outgoing.texts] using d
  | ping phase due heard =>
    rw [phase] at d
    exact delivered_silent (own_noteAll c hub key []).story rfl d
  | @written session write phase mode =>
    refine ⟨_, noteAll_story _ _ _, ?_⟩
    rw [phase] at d
    rw [List.map_append, List.filterMap_append, unwritten_of_remarks (announcement_remarks write)]
    have queue : ∀ events, (c.noteAll hub events).pending key = hub.pending key := by
      intro events
      simp [Hub.pending]
    rw [queue]
    have account : heard = written ++ (write.item.texts ++ hub.pending key) := d
    cases item : write.item with
    | text line =>
      show heard = written ++ ([] ++ [line]) ++ hub.pending key
      rw [account, item]
      simp [Outgoing.texts]
    | ping =>
      show heard = written ++ ([] ++ []) ++ hub.pending key
      rw [account, item]
      simp [Outgoing.texts]
  | @hang session write phase mode =>
    refine delivered_silent (noteAll_story _ _ _)
      (unwritten_of_remarks (announcement_remarks write) _) ?_
    rw [phase] at d
    simpa [Phase.Delivered, Hub.pending] using d
  | @leave b c' remarks result reason =>
    refine delivered_silent (by rw [leave_eq, wrapUp_story, Hub.unregister_story, noteAll_story,
      List.append_assoc]) ?_ d.beginning
    rw [List.filterMap_append, unwritten_of_remarks reason.remarks]
    rfl
  | @closeHang result begun deadline phase mode =>
    refine delivered_silent (noteAll_story _ _ _) ?_ d.beginning
    cases begun <;> rfl
  | @conclude result begun deadline b remarks phase closed =>
    refine delivered_silent (by rw [conclude_story, noteAll_story, List.append_assoc]) ?_
      d.beginning
    rw [List.filterMap_append, unwritten_of_remarks closed.remarks]
    rfl

end Own

end Connection

section Others

variable {id : ConnectionId} {phase : Phase} {key : QueueKey} {heard written : List String}

theorem lineFor_map (own : ConnectionId) (showSender : Bool) (events : List ConnectionEvent) :
    (events.map (Event.connection own)).filterMap (Event.lineFor? id showSender) = [] := by
  rw [List.filterMap_map, List.filterMap_eq_nil_iff]
  intro e _
  rfl

theorem lineFor_broadcast {message : Message} (other : message.sender ≠ id) (delivered : Nat)
    (failed : List ConnectionId) (showSender : Bool) :
    [Event.broadcast message delivered failed].filterMap (Event.lineFor? id showSender) =
      if id ∈ failed then [] else [message.render showSender] := by
  by_cases missed : id ∈ failed <;> simp [Event.lineFor?, other, missed]

/-- A broadcast puts into a queue just the line that it brings to the connection of the queue. -/
theorem Hub.broadcast_delivered {h : Hub} (ascending : h.registry.Ascending)
    (distinct : (h.registry.members.map Member.queue).Nodup)
    (own : ∀ m ∈ h.registry.members, m.queue = key → m.id = id ∧ phase.isServing = true)
    (d : phase.Delivered (h.pending key) heard written) (message : Message) :
    phase.Delivered ((h.broadcast message).1.pending key)
      (heard ++ if h.registry.holds key then
        [Event.broadcast message (h.broadcast message).2.delivered
          (h.broadcast message).2.failed].filterMap (Event.lineFor? id h.options.showSender)
        else []) written := by
  by_cases held : h.registry.holds key = true
  · obtain ⟨m, hm, rfl⟩ := Registry.holds_iff.mp held
    obtain ⟨rfl, serving⟩ := own m hm rfl
    rw [if_pos held]
    by_cases sent : message.sender = m.id
    · rw [Hub.pending_untouched distinct]
      · simpa [Event.lineFor?, sent] using d
      · intro m' hm' other same
        exact other ((own m' hm' same).1.trans sent.symm)
    · rw [Hub.pending_recipient ascending distinct hm (Ne.symm sent), lineFor_broadcast sent]
      exact d.hear serving _
  · rw [if_neg held, List.append_nil, Hub.pending_untouched distinct]
    · exact d
    · intro m hm _ same
      exact held (Registry.holds_iff.mpr ⟨m, hm, same⟩)

end Others

namespace Relay

def Delivered (r : Relay) (key : Nat) (heard written : List String) : Prop :=
  match r.task? key with
  | none => heard = [] ∧ written = []
  | some (_, phase) => phase.Delivered (r.hub.pending key) heard written

section Moments

variable {r r' : Relay} {key : Nat} {heard written : List String}

theorem delivered_of_some {id : ConnectionId} {phase : Phase}
    (here : r.task? key = some (id, phase)) :
    r.Delivered key heard written ↔ phase.Delivered (r.hub.pending key) heard written := by
  rw [Delivered, here]

theorem linesFor_nil : r.linesFor key [] = [] := by
  unfold linesFor
  split
  · rfl
  · split <;> rfl

theorem linesFor_of_unregistered (gone : r.hub.registry.holds key = false)
    (told : List Event) : r.linesFor key told = [] := by
  unfold linesFor
  split
  · rfl
  · rw [gone, if_neg Bool.false_ne_true]

/-- A change that the connection does not notice. -/
theorem Delivered.keep (d : r.Delivered key heard written) (task : r'.task? key = r.task? key)
    (queue : r'.hub.queues[key]? = r.hub.queues[key]?) : r'.Delivered key heard written := by
  rw [Delivered, task, Hub.pending_of_queues queue]
  exact d

/-- Someone else broadcasts. -/
theorem Delivered.broadcast (d : r.Delivered key heard written) (sound : r.Sound) {h : Hub}
    (registry : h.registry = r.hub.registry) (queue : h.queues[key]? = r.hub.queues[key]?)
    (options : h.options = r.hub.options) (message : Message)
    (task : r'.task? key = r.task? key) (hub : r'.hub = (h.broadcast message).1) :
    r'.Delivered key (heard ++ r.linesFor key [.broadcast message
      (h.broadcast message).2.delivered (h.broadcast message).2.failed]) written := by
  cases here : r.task? key with
  | none =>
    rw [Delivered, task, here]
    rw [Delivered, here] at d
    simp [linesFor, here, d]
  | some found =>
    obtain ⟨id, phase⟩ := found
    have before := (delivered_of_some here).mp d
    rw [← Hub.pending_of_queues queue] at before
    have own : ∀ m ∈ h.registry.members, m.queue = key → m.id = id ∧ phase.isServing = true := by
      rw [registry]
      intro m hm same
      exact sound.member hm (by rw [same]; exact here)
    have after := Hub.broadcast_delivered (by rw [registry]; exact sound.ascending)
      (by rw [registry]; exact sound.distinct) own before message
    have shown : r.config.showSender = h.options.showSender := by rw [options, sound.options]
    rw [delivered_of_some (task.trans here), hub]
    simpa [linesFor, here, shown, registry] using after

theorem linesFor_append (told told' : List Event) :
    r.linesFor key (told ++ told') = r.linesFor key told ++ r.linesFor key told' := by
  unfold linesFor
  split
  · rfl
  · split
    · exact List.filterMap_append
    · rfl

theorem linesFor_map (own : ConnectionId) (events : List ConnectionEvent) :
    r.linesFor key (events.map (Event.connection own)) = [] := by
  unfold linesFor
  split
  · rfl
  · split
    · exact lineFor_map own _ events
    · rfl

/-- Another task takes a step, or dies. -/
theorem Delivered.other (d : r.Delivered key heard written) (sound : r.Sound) {k : Nat}
    {c : Connection} (here : r.connections[k]? = some c) (apart : key ≠ k)
    {next : Hub × Connection} (outline : Connection.Outline c r.hub k next) :
    ∃ told, next.1.story = r.hub.story ++ told ∧
      (r.update k next.1 next.2).Delivered key (heard ++ r.linesFor key told) written := by
  have task : (r.update k next.1 next.2).task? key = r.task? key := by
    rw [task?_update next.1 next.2 here, if_neg apart]
  -- Only a broadcast concerns the connection.
  have quiet : ∀ events, Connection.Own c.id k r.hub events next.1 →
      ∃ told, next.1.story = r.hub.story ++ told ∧
        (r.update k next.1 next.2).Delivered key (heard ++ r.linesFor key told) written := by
    intro events own
    refine ⟨_, own.story, ?_⟩
    rw [linesFor_map, List.append_nil]
    exact d.keep task (by rw [update_hub]; exact own.elsewhere key apart)
  cases outline with
  | stay id own => exact quiet _ own
  | join id own => exact quiet _ own
  | part id own => exact quiet _ own
  | @speak events hub₁ message id own before after registry queues sender spoken =>
    refine ⟨_, by rw [spoken, (Hub.broadcast_frame _ _).2.2.2, own.story, List.append_assoc], ?_⟩
    rw [linesFor_append, linesFor_map, List.nil_append]
    exact d.broadcast sound registry (by rw [queues]) own.options message task
      (by rw [update_hub, spoken])

/-- A task hears nothing of what it does itself. -/
theorem unheard_of_outline {c : Connection} (here : r.connections[key]? = some c)
    {next : Hub × Connection} (outline : Connection.Outline c r.hub key next) {told : List Event}
    (story : next.1.story = r.hub.story ++ told) : r.linesFor key told = [] := by
  have quiet : ∀ events, Connection.Own c.id key r.hub events next.1 →
      r.linesFor key told = [] := by
    intro events own
    rw [List.append_cancel_left (story.symm.trans own.story), linesFor_map]
  cases outline with
  | stay id own => exact quiet _ own
  | join id own => exact quiet _ own
  | part id own => exact quiet _ own
  | @speak events hub₁ message id own before after registry queues sender spoken =>
    rw [spoken, (Hub.broadcast_frame _ _).2.2.2, own.story, List.append_assoc] at story
    rw [← List.append_cancel_left story, linesFor_append, linesFor_map]
    simp [linesFor, task?_of_some here, Event.lineFor?, sender]

/-- Every action keeps the account of every connection. -/
theorem Change.delivered {a : Action} (change : Change r a r') (sound : r.Sound)
    (d : r.Delivered key heard written) :
    ∃ told, r'.hub.story = r.hub.story ++ told ∧
      r'.Delivered key (heard ++ r.linesFor key told)
        (written ++ if a.actor? = some key then told.filterMap Event.writtenText? else []) := by
  have calmly : r'.hub.story = r.hub.story → r'.Delivered key heard written →
      ∃ told, r'.hub.story = r.hub.story ++ told ∧
      r'.Delivered key (heard ++ r.linesFor key told)
        (written ++ if a.actor? = some key then told.filterMap Event.writtenText? else []) := by
    intro story kept
    exact ⟨[], by simpa using story, by simpa [linesFor_nil] using kept⟩
  cases change with
  | calm _ calm =>
    exact calmly calm.story (d.keep (calm.tasks key) (by rw [calm.queues]))
  | @connect a upgrades peer transport slot =>
    refine calmly rfl ?_
    have task := task?_connect { r with upgrades } peer transport slot key
    by_cases last : key = r.connections.size
    · have absent : r.task? key = none := by simp [task?, last]
      rw [Delivered, absent] at d
      rw [if_pos last] at task
      rw [delivered_of_some task]
      refine ⟨d.1, d.2, ?_⟩
      rw [Hub.pending, connect_queues, last, ← sound.sizes]
      simp
    · rw [if_neg last] at task
      refine d.keep task ?_
      rw [connect_queues, Array.getElem?_push, if_neg]
      rw [sound.sizes]
      exact last
  | @step k b c next here transition =>
    by_cases own : k = key
    · subst own
      have before := (delivered_of_some (task?_of_some here)).mp d
      obtain ⟨told, story, after⟩ := transition.delivered sound.distinct (by
        intro m hm same
        exact (sound.member hm (by rw [same]; exact task?_of_some here)).1) before
      refine ⟨told, by rw [update_hub]; exact story, ?_⟩
      rw [unheard_of_outline here transition.outline story, List.append_nil,
        delivered_of_some (by rw [task?_update next.1 next.2 here, if_pos rfl]), update_hub]
      simpa [Action.actor?] using after
    · obtain ⟨told, story, after⟩ := d.other sound here (Ne.symm own) transition.outline
      exact ⟨told, by rw [update_hub]; exact story, by simpa [Action.actor?, own] using after⟩
  | @abort k c here alive =>
    by_cases own : k = key
    · subst own
      have before := (delivered_of_some (task?_of_some here)).mp d
      have story := Connection.die_story c r.hub k .aborted
      refine ⟨_, by rw [update_hub]; exact story, ?_⟩
      rw [unheard_of_outline here (Connection.outline_die _) story, List.append_nil,
        delivered_of_some (by rw [task?_update _ _ here, if_pos rfl])]
      rw [Action.actor?, if_pos rfl, List.filterMap_cons_none rfl, List.filterMap_nil,
        List.append_nil]
      exact before.beginning
    · obtain ⟨told, story, after⟩ :=
        d.other sound here (Ne.symm own) (Connection.outline_die .aborted)
      exact ⟨told, by rw [update_hub]; exact story, by simpa [Action.actor?, own] using after⟩
  | unregister => exact calmly (by simp) (d.keep rfl (by simp))
  | endRegistry => exact calmly (by simp) (d.keep rfl (by simp))
  | @broadcast message =>
    refine ⟨_, (Hub.broadcast_frame r.hub message).2.2.2, ?_⟩
    have after : Delivered { r with hub := (r.hub.broadcast message).1 } key _ written :=
      d.broadcast sound rfl rfl rfl message rfl rfl
    simpa [Action.actor?] using after

end Moments

theorem heard_append (config : RelayConfig) (actions more : List Action) (key : Nat) :
    heard key (history config (actions ++ more)) =
      heard key (history config actions) ++ heard key (historyFrom (run config actions) more) := by
  rw [history_add, heard, List.flatMap_append]
  rfl

theorem run_delivered (config : RelayConfig) (actions : List Action) (key : Nat) :
    (run config actions).Delivered key (heard key (history config actions))
      (written key (history config actions)) := by
  induction actions using List.reverseRecOn with
  | nil => simp [Delivered, run, ofConfig, task?, heard, written, history, historyFrom]
  | append_singleton actions a ih =>
    obtain ⟨told, story, after⟩ := (act_change _ a).delivered (run_sound config actions) ih
    have news : (Moment.mk (run config actions) a).news = told := Moment.news_eq story
    have moreHeard : heard key (history config (actions ++ [a])) =
        heard key (history config actions) ++ (run config actions).linesFor key told := by
      simp [heard, history_append, Moment.heard, news]
    have moreWritten : written key (history config (actions ++ [a])) =
        written key (history config actions) ++
          if a.actor? = some key then told.filterMap Event.writtenText? else [] := by
      simp [written, history_append, Moment.written, news]
    rw [run_append, moreHeard, moreWritten]
    exact after

/-- In every run, what was written to a connection is a prefix of the lines that it heard while it
was registered. Nothing is missing once no task can move, as long as the connection is registered
and its transport does not hang. -/
theorem written_prefix_heard (config : RelayConfig) (actions : List Action) (key : Nat) :
    written key (history config actions) <+: heard key (history config actions) ∧
    ∀ c, (run config actions).connections[key]? = some c →
      (run config actions).isQuiet = true → (run config actions).hub.registry.holds key = true →
      c.isHanging = false →
      written key (history config actions) = heard key (history config actions) := by
  have d := run_delivered config actions key
  constructor
  · cases here : (run config actions).task? key with
    | none =>
      rw [Delivered, here] at d
      exact ⟨[], by simp [d.1, d.2]⟩
    | some found => exact ((delivered_of_some here).mp d).beginning
  · intro c here quiet held working
    have task := task?_of_some here
    have unready := not_ready_of_quiet quiet (task?_lt task)
    obtain ⟨m, hm, same⟩ := Registry.holds_iff.mp held
    have serving := ((run_sound config actions).member hm (by rw [same]; exact task)).2
    have account := (delivered_of_some task).mp d
    cases phase : c.phase with
    | active session =>
      rw [phase] at account
      have empty : (run config actions).hub.pending key = [] := by
        have idle := unready .take
        simp only [ready, here, Connection.ready, phase, Bool.or_eq_false_iff, surroundings] at idle
        cases queue : (run config actions).hub.queues[key]? with
        | none => simp [Hub.pending, queue]
        | some q => simpa [Hub.pending, queue] using idle.1
      have heardAll : heard key (history config actions) = written key (history config actions) ++
          (run config actions).hub.pending key := account
      rw [heardAll, empty, List.append_nil]
    | writing session write =>
      have stuck := unready .write
      simp only [ready, here, Connection.ready, phase, Bool.or_eq_false_iff, bne_eq_false_iff_eq,
        Bool.not_eq_false'] at stuck
      simp [Connection.isHanging, phase, stuck.1, stuck.2] at working
    | _ => simp [phase, Phase.isServing] at serving

/-- Alice says two lines, and Bob's task has written both. -/
def twoLines : List Action :=
  [.connect "a" {}, .connect "b" {}, .step 0 .start, .step 1 .start, .arrive 0 (.text "alice"),
    .arrive 1 (.text "bob"), .step 0 .read, .step 1 .read, .arrive 0 (.text "one"),
    .arrive 0 (.text "two"), .step 0 .read, .step 1 .take, .step 0 .read, .step 1 .write,
    .step 1 .take, .step 1 .write]

theorem written_prefix_heard_twoLines :
    let r := run {} twoLines
    let history := history {} twoLines
    (∃ c, r.connections[1]? = some c ∧ c.isHanging = false) ∧ r.isQuiet = true ∧
      r.hub.registry.holds 1 = true ∧ heard 1 history = ["one", "two"] ∧
      written 1 history = heard 1 history := by
  have quiet : (run {} twoLines).isQuiet = true := by decide
  have held : (run {} twoLines).hub.registry.holds 1 = true := by decide
  have lines : heard 1 (history {} twoLines) = ["one", "two"] := by decide
  have working : ((run {} twoLines).connections[1]?).any Connection.isHanging = false := by decide
  cases here : (run {} twoLines).connections[1]? with
  | none => exact absurd here (by decide)
  | some c =>
    have idle : c.isHanging = false := by simpa [here] using working
    exact ⟨⟨c, here, idle⟩, quiet, held, lines,
      (written_prefix_heard {} twoLines 1).2 c here quiet held idle⟩

end Relay

end ChatRelay
