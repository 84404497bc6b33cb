import ChatRelay.Proofs.Broadcast.Counts
import ChatRelay.Proofs.Relay.Membership

/-!
# What the meters say of a run

The counters move in three places: when a connection begins, when a handshake comes to its deadline
and when a message is sent. Nothing else moves them, so that they can be read off the run: how many
messages were sent and to how many members, how many of these were reached and how many removed.
-/

namespace ChatRelay

namespace Connection

/-- The message that an active task sends if it reads what has arrived first. -/
def nextMessage? (c : Connection) : Option Message :=
  match c.phase, c.transport.inbound with
  | .active session, .text text :: _ => some ⟨c.id, session.name, text⟩
  | _, _ => none

theorem ready_of_nextMessage {c : Connection} {message : Message}
    (said : c.nextMessage? = some message) (s : Surroundings) : c.ready s .read = true := by
  unfold nextMessage? at said
  split at said
  · rename_i phase inbound
    simp [ready, phase, inbound]
  · cases said

section Counts

variable {config : RelayConfig} {s : Surroundings} {c : Connection} {hub : Hub} {key : QueueKey}

@[simp] theorem noteAll_meters (c : Connection) (hub : Hub) (events : List ConnectionEvent) :
    (c.noteAll hub events).meters = hub.meters := by
  induction events generalizing hub with
  | nil => rfl
  | cons e rest ih => exact ih (c.note hub e)

theorem die_counts (c : Connection) (hub : Hub) (key : QueueKey) (outcome : Outcome) :
    (c.die hub key outcome).1.meters.counts = hub.meters.counts := by
  cases serving : c.phase.isServing <;> simp [die, serving, conclude, note]

/-- What the counters see of a step: a message, a deadline of a handshake, or nothing. -/
inductive Counted (c : Connection) (hub : Hub) (b : Branch) (next : Hub × Connection) : Prop where
  | spoke {hub₁ : Hub} {message : Message} (read : b = .read)
      (said : c.nextMessage? = some message)
      (registry : hub₁.registry = hub.registry) (queues : hub₁.queues = hub.queues)
      (options : hub₁.options = hub.options) (meters : hub₁.meters = hub.meters)
      (spoken : next.1 = (hub₁.broadcast message).1)
  | timedOut (late : b = .handshakeDeadline) (before : c.phase.stage = .handshake)
      (after : next.2.phase.stage = .closing)
      (meters : next.1.meters.counts = hub.meters.counts.increase .handshakeTimeouts 1)
  | silent (mute : b = .read → c.nextMessage? = none) (timely : b ≠ .handshakeDeadline)
      (meters : next.1.meters.counts = hub.meters.counts)

theorem Transition.counted {b : Branch} {next : Hub × Connection}
    (h : Transition config s c hub key b next) : Counted c hub b next := by
  cases h with
  | start phase => exact .silent (fun read => by cases read) (by simp) rfl
  | @ignore deadline item rest phase inbound wordless =>
    exact .silent (fun _ => by simp [nextMessage?, phase]) (by simp) rfl
  | @giveUp deadline b meters c' remarks result phase reason =>
    cases reason with
    | overdue _ silent late => exact .timedOut rfl (by rw [phase]; rfl) rfl rfl
    | _ =>
      refine .silent (fun _ => by simp [nextMessage?, phase]) (by simp) ?_
      exact congrArg Meters.counts (noteAll_meters _ _ _)
  | @enter deadline name rest hub' tick phase inbound small registered scheduled =>
    have same := Hub.register_counts registered
    rw [noteAll_meters] at same
    exact .silent (fun _ => by simp [nextMessage?, phase]) (by simp) same
  | @enterLate deadline name rest hub' phase inbound small registered late =>
    have same := Hub.register_counts registered
    rw [noteAll_meters] at same
    exact .silent (fun _ => by simp [nextMessage?, phase]) (by simp)
      ((die_counts _ _ _ _).trans same)
  | tooLarge phase inbound large =>
    refine .silent (fun _ => by simp [nextMessage?, phase]) (by simp) ?_
    rw [die_counts, noteAll_meters]
  | @line session text rest phase inbound =>
    have said : c.nextMessage? = some ⟨c.id, session.name, text⟩ := by
      simp [nextMessage?, phase, inbound]
    have noted := noteAll_meters c hub [.consumed (.text text), .received text.utf8ByteSize]
    exact .spoke rfl said (noteAll_registry _ _ _) (noteAll_queues _ _ _) (noteAll_options _ _ _)
      noted rfl
  | sign phase inbound =>
    exact .silent (fun _ => by simp [nextMessage?, phase, inbound]) (by simp) rfl
  | drop phase inbound =>
    exact .silent (fun _ => by simp [nextMessage?, phase, inbound]) (by simp) rfl
  | take phase taken =>
    have same := congrArg Meters.counts (Hub.take?_meters taken)
    exact .silent (fun read => by cases read) (by simp) same
  | ping phase due heard => exact .silent (fun read => by cases read) (by simp) rfl
  | written phase mode => exact .silent (fun read => by cases read) (by simp) (by simp)
  | hang phase mode => exact .silent (fun read => by cases read) (by simp) (by simp)
  | @leave b c' remarks result reason =>
    have same : (Connection.leave config c' (c.noteAll hub remarks) key result).1.meters.counts =
        hub.meters.counts := by
      rw [← noteAll_meters c hub remarks]
      exact Hub.unregister_counts _ _
    refine .silent ?_ ?_ same
    · rintro rfl
      cases reason with
      | readFailed phase inbound => simp [nextMessage?, phase, inbound]
      | hungUp phase inbound => simp [nextMessage?, phase, inbound]
    · rintro rfl
      cases reason
  | closeHang phase mode => exact .silent (fun read => by cases read) (by simp) (by simp)
  | @conclude result begun deadline b remarks phase closed =>
    refine .silent (fun _ => by simp [nextMessage?, phase]) ?_
      (congrArg Meters.counts (noteAll_meters _ _ _))
    rintro rfl
    cases closed

end Counts

end Connection

namespace Relay

def message? (r : Relay) : Action → Option Message
  | .broadcast message => some message
  | .step key .read => (r.connections[key]?).bind Connection.nextMessage?
  | _ => none

def audience (r : Relay) (message : Message) : Nat :=
  (r.hub.registry.members.filter fun m => m.id ≠ message.sender).length

def begins (r : Relay) : Action → Bool
  | .connect .. => true
  | .completeUpgrade .. => r.upgrades != 0
  | _ => false

namespace Moment

def message? (s : Moment) : Option Message := s.before.message? s.action

/-- The connection whose handshake comes to its deadline. -/
def timedOut? (s : Moment) : Option Nat :=
  match s.action with
  | .step key .handshakeDeadline =>
    if s.before.stage? key = some .handshake ∧ s.after.stage? key = some .closing then some key
    else none
  | _ => none

/-- The members that are gone once a message was sent. -/
def removed (s : Moment) : Nat :=
  match s.message? with
  | some _ =>
    (s.before.hub.registry.members.filter fun m => m ∉ s.after.hub.registry.members).length
  | none => 0

/-- The texts that a message has put into the queues. -/
def queued (s : Moment) : Nat :=
  match s.message? with
  | some _ => s.after.hub.load - s.before.hub.load
  | none => 0

end Moment

def messages (history : List Moment) : List Message := history.filterMap Moment.message?

def audiences (history : List Moment) : List Nat :=
  history.filterMap fun s => s.message?.map s.before.audience

/-- The connections whose handshake came to its deadline. -/
def timedOut (history : List Moment) : List Nat := history.filterMap Moment.timedOut?

def removals (history : List Moment) : Nat := (history.map Moment.removed).sum

def queuings (history : List Moment) : Nat := (history.map Moment.queued).sum

def Action.isPlain : Action → Bool
  | .connect .. => false
  | .completeUpgrade .. => false
  | .step .. => false
  | .broadcast _ => false
  | _ => true

theorem Effect.counts {r r' : Relay} {a : Action} (effect : Effect r a r')
    (plain : a.isPlain = true) : r'.hub.meters.counts = r.hub.meters.counts := by
  cases effect with
  | connect => cases plain
  | step => cases plain
  | broadcast => cases plain
  | completeUpgrade => cases plain
  | abort =>
    rw [update_hub]
    exact Connection.die_counts _ _ _ _
  | unregister => exact Hub.unregister_counts _ _
  | endRegistry => exact Hub.endRegistry_counts _
  | _ => rfl

/-- What the counters see of an action. -/
inductive Counted (r : Relay) (a : Action) : Prop where
  | spoke {hub₁ : Hub} {message : Message} (said : r.message? a = some message)
      (old : r.begins a = false) (timely : (Moment.mk r a).timedOut? = none)
      (registry : hub₁.registry = r.hub.registry) (queues : hub₁.queues = r.hub.queues)
      (options : hub₁.options = r.hub.options) (meters : hub₁.meters = r.hub.meters)
      (spoken : (r.act a).hub = (hub₁.broadcast message).1)
  | begun (mute : r.message? a = none) (new : r.begins a = true)
      (timely : (Moment.mk r a).timedOut? = none)
      (meters : (r.act a).hub.meters.counts = r.hub.meters.counts.increase .connections 1)
  | timedOut {key} (mute : r.message? a = none) (old : r.begins a = false)
      (late : (Moment.mk r a).timedOut? = some key)
      (meters : (r.act a).hub.meters.counts = r.hub.meters.counts.increase .handshakeTimeouts 1)
  | silent (mute : r.message? a = none) (old : r.begins a = false)
      (timely : (Moment.mk r a).timedOut? = none)
      (meters : (r.act a).hub.meters.counts = r.hub.meters.counts)

theorem timedOut_still {r : Relay} {a : Action} (still : r.act a = r) :
    (Moment.mk r a).timedOut? = none := by
  unfold Moment.timedOut?
  split
  · rw [if_neg]
    rintro ⟨before, after⟩
    rw [Moment.after, still, before] at after
    cases after
  · rfl

theorem step_counted (r : Relay) (key : Nat) (b : Branch) : Counted r (.step key b) := by
  by_cases ready : r.ready key b = true
  · obtain ⟨c, next, here, transition, done⟩ := perform_of_ready ready
    have after : r.act (.step key b) = r.update key next.1 next.2 := by simp [act, ready, done]
    have hub : (r.act (.step key b)).hub = next.1 := by rw [after, update_hub]
    have stages : r.stage? key = some c.phase.stage ∧
        (r.act (.step key b)).stage? key = some next.2.phase.stage := by
      have there := task?_update_self here next.1 next.2
      obtain ⟨c', here', -, phase⟩ := task?_eq_some.mp there
      simp [stage?, here, after, here', phase]
    have punctual : b ≠ .handshakeDeadline → (Moment.mk r (.step key b)).timedOut? = none := by
      intro timely
      cases b with
      | handshakeDeadline => exact absurd rfl timely
      | _ => rfl
    cases transition.counted with
    | spoke read said registry queues options meters spoken =>
      subst read
      exact .spoke (by simp [message?, here, said]) rfl rfl registry queues options meters
        (hub.trans spoken)
    | timedOut late before closing meters =>
      subst late
      have came : (Moment.mk r (.step key .handshakeDeadline)).timedOut? = some key := by
        simp [Moment.timedOut?, Moment.after, stages, before, closing]
      exact .timedOut rfl rfl came (by rw [hub]; exact meters)
    | silent mute timely meters =>
      refine .silent ?_ rfl (punctual timely) (by rw [hub]; exact meters)
      cases b with
      | read => simp [message?, here, mute rfl]
      | _ => rfl
  · have still : r.act (.step key b) = r := by simp [act, ready]
    refine .silent ?_ rfl (timedOut_still still) (by rw [still])
    cases b with
    | read =>
      cases here : r.connections[key]? with
      | none => simp [message?, here]
      | some c =>
        cases said : c.nextMessage? with
        | none => simp [message?, here, said]
        | some message =>
          have able := Connection.ready_of_nextMessage said (r.surroundings key)
          simp [Relay.ready, here, able] at ready
    | _ => rfl

theorem act_counted (r : Relay) (a : Action) : Counted r a := by
  cases a with
  | step key b => exact step_counted r key b
  | broadcast message => exact .spoke rfl rfl rfl rfl rfl rfl rfl rfl
  | connect peer transport => exact .begun rfl rfl rfl (Meters.increase_counts _ _ _)
  | completeUpgrade peer transport =>
    by_cases waiting : r.upgrades = 0
    · have still : r.act (.completeUpgrade peer transport) = r := by simp [act, waiting]
      exact .silent rfl (by simp [begins, waiting]) rfl (by rw [still])
    · refine .begun rfl (by simp [begins, waiting]) rfl ?_
      simp only [act, if_neg waiting]
      exact Meters.increase_counts _ _ _
  | _ => exact .silent rfl rfl rfl ((act_effect r _).counts rfl)

/-- The counters of a relay are what its history makes them, as words of 64 bits. -/
structure Reckoned (r : Relay) (history : List Moment) : Prop where
  messages : r.hub.meters.messages = .ofNat (messages history).length
  observations : r.hub.meters.recipients.count = .ofNat (Relay.messages history).length
  /-- Each message is observed with the number of members that it was for. -/
  observed : r.hub.meters.recipients =
    (audiences history).foldl (fun histogram n => histogram.observe (.ofNat n)) {}
  recipients : r.hub.meters.deliveries + r.hub.meters.deliveryFailures =
    .ofNat (audiences history).sum
  deliveries : r.hub.meters.deliveries = .ofNat (queuings history)
  failures : r.hub.meters.deliveryFailures = .ofNat (removals history)
  connections : r.hub.meters.connections =
    .ofNat (history.countP fun s => s.before.begins s.action)
  timeouts : r.hub.meters.handshakeTimeouts = .ofNat (timedOut history).length

section Reckoning

variable {r r' : Relay} {history : List Moment} {s : Moment}

/-- A moment without a message can only begin a connection or end a handshake. -/
theorem Reckoned.mute (h : Reckoned r history) (mute : s.message? = none)
    (counts : r'.hub.meters.counts =
      (r.hub.meters.counts.increase .connections (.ofNat (s.before.begins s.action).toNat)).increase
        .handshakeTimeouts (.ofNat s.timedOut?.toList.length)) :
    Reckoned r' (history ++ [s]) := by
  have messages : r'.hub.meters.messages = r.hub.meters.messages :=
    (congrArg Meters.messages counts :)
  have observations : r'.hub.meters.recipients = r.hub.meters.recipients :=
    (congrArg Meters.recipients counts :)
  have deliveries : r'.hub.meters.deliveries = r.hub.meters.deliveries :=
    (congrArg Meters.deliveries counts :)
  have failures : r'.hub.meters.deliveryFailures = r.hub.meters.deliveryFailures :=
    (congrArg Meters.deliveryFailures counts :)
  have connections : r'.hub.meters.connections =
      r.hub.meters.connections + .ofNat (s.before.begins s.action).toNat :=
    (congrArg Meters.connections counts :)
  have timeouts : r'.hub.meters.handshakeTimeouts =
      r.hub.meters.handshakeTimeouts + .ofNat s.timedOut?.toList.length :=
    (congrArg Meters.handshakeTimeouts counts :)
  have said : Relay.messages (history ++ [s]) = Relay.messages history := by
    simp [Relay.messages, mute]
  have heard : audiences (history ++ [s]) = audiences history := by simp [audiences, mute]
  have queued : queuings (history ++ [s]) = queuings history := by
    simp [queuings, Moment.queued, mute]
  have removed : removals (history ++ [s]) = removals history := by
    simp [removals, Moment.removed, mute]
  constructor
  · rw [messages, said, h.messages]
  · rw [observations, said, h.observations]
  · rw [observations, heard, h.observed]
  · rw [deliveries, failures, heard, h.recipients]
  · rw [deliveries, queued, h.deliveries]
  · rw [failures, removed, h.failures]
  · rw [connections, h.connections, List.countP_append, UInt64.ofNat_add]
    cases new : s.before.begins s.action <;> simp [new]
  · rw [timeouts, h.timeouts, timedOut, timedOut, List.filterMap_append, List.length_append,
      UInt64.ofNat_add]
    cases late : s.timedOut? <;> simp [late]

/-- A message counts each member that it is for as reached or as failed. -/
theorem Reckoned.spoke (h : Reckoned r history) {message : Message} {delivered failed : Nat}
    (said : s.message? = some message) (old : s.before.begins s.action = false)
    (timely : s.timedOut? = none) (audience : s.before.audience message = delivered + failed)
    (queued : s.queued = delivered) (removed : s.removed = failed)
    (counts : r'.hub.meters.counts = r.hub.meters.counts.countBroadcast delivered failed) :
    Reckoned r' (history ++ [s]) := by
  have messages : r'.hub.meters.messages = r.hub.meters.messages + 1 :=
    congrArg Meters.messages counts
  have observed : r'.hub.meters.recipients =
      r.hub.meters.recipients.observe (.ofNat (delivered + failed)) :=
    congrArg Meters.recipients counts
  have deliveries : r'.hub.meters.deliveries = r.hub.meters.deliveries + .ofNat delivered :=
    congrArg Meters.deliveries counts
  have failures : r'.hub.meters.deliveryFailures =
      r.hub.meters.deliveryFailures + .ofNat failed :=
    congrArg Meters.deliveryFailures counts
  have connections : r'.hub.meters.connections = r.hub.meters.connections :=
    (congrArg Meters.connections counts :)
  have timeouts : r'.hub.meters.handshakeTimeouts = r.hub.meters.handshakeTimeouts :=
    (congrArg Meters.handshakeTimeouts counts :)
  have saidAll : Relay.messages (history ++ [s]) = Relay.messages history ++ [message] := by
    simp [Relay.messages, said]
  have heard : audiences (history ++ [s]) = audiences history ++ [delivered + failed] := by
    simp [audiences, said, audience]
  have queuedAll : queuings (history ++ [s]) = queuings history + delivered := by
    simp [queuings, queued]
  have removedAll : removals (history ++ [s]) = removals history + failed := by
    simp [removals, removed]
  constructor
  · rw [messages, h.messages, saidAll, List.length_append, UInt64.ofNat_add]
    rfl
  · rw [observed, Histogram.observe, h.observations, saidAll, List.length_append,
      UInt64.ofNat_add]
    rfl
  · rw [observed, h.observed, heard, List.foldl_append]
    rfl
  · calc r'.hub.meters.deliveries + r'.hub.meters.deliveryFailures
      _ = r.hub.meters.deliveries + r.hub.meters.deliveryFailures
          + (.ofNat delivered + .ofNat failed) := by rw [deliveries, failures]; ac_rfl
      _ = .ofNat ((audiences history).sum + (delivered + failed)) := by
        rw [h.recipients, UInt64.ofNat_add, UInt64.ofNat_add]
      _ = .ofNat (audiences (history ++ [s])).sum := by rw [heard]; simp
  · rw [deliveries, h.deliveries, queuedAll, UInt64.ofNat_add]
  · rw [failures, h.failures, removedAll, UInt64.ofNat_add]
  · rw [connections, h.connections]
    simp [old]
  · rw [timeouts, h.timeouts]
    simp [timedOut, timely]

/-- An action adds to the counters what its moment adds to the history. -/
theorem Reckoned.act (h : Reckoned r history) (sound : r.Sound) (a : Action) :
    Reckoned (r.act a) (history ++ [⟨r, a⟩]) := by
  cases act_counted r a with
  | @spoke hub₁ message said old timely registry queues options meters spoken =>
    have speaks : (Moment.mk r a).message? = some message := said
    have ascending : hub₁.registry.Ascending := registry ▸ sound.ascending
    have distinct : (hub₁.registry.members.map Member.queue).Nodup := registry ▸ sound.distinct
    have metered : hub₁.options.broadcastMetered = true := by rw [options, sound.options]
    have counts := Hub.broadcast_counts hub₁ message metered
    rw [← spoken, meters] at counts
    have audience : r.audience message = (hub₁.broadcast message).2.delivered
        + (hub₁.broadcast message).2.failed.length := by
      rw [Hub.broadcast_counted, registry]
      simp only [Relay.audience, Hub.recipients, ne_eq, decide_not]
      rfl
    have removed : (Moment.mk r a).removed = (hub₁.broadcast message).2.failed.length := by
      rw [← Hub.broadcast_removed hub₁ message ascending distinct]
      simp only [Moment.removed, speaks, Moment.after, spoken, registry]
    have queued : (Moment.mk r a).queued = (hub₁.broadcast message).2.delivered := by
      have loaded := Hub.broadcast_load hub₁ message
      have before : hub₁.load = r.hub.load := by rw [Hub.load, queues]; rfl
      simp only [Moment.queued, speaks, Moment.after, spoken]
      omega
    exact h.spoke said old timely audience queued removed counts
  | begun mute new timely meters =>
    refine h.mute mute ?_
    rw [new, timely]
    exact meters.trans (Meters.increase_zero _ _).symm
  | timedOut mute old late meters =>
    refine h.mute mute ?_
    rw [old, late]
    exact meters.trans (congrArg (Meters.increase · _ _) (Meters.increase_zero _ _).symm)
  | silent mute old timely meters =>
    refine h.mute mute ?_
    rw [old, timely]
    exact meters.trans ((Meters.increase_zero _ _).trans (Meters.increase_zero _ _)).symm

end Reckoning

theorem run_meters (config : RelayConfig) (actions : List Action) :
    Reckoned (run config actions) (history config actions) := by
  induction actions using List.reverseRecOn with
  | nil => constructor <;> rfl
  | append_singleton actions a ih =>
    rw [run_append, history_append]
    exact ih.act (run_sound config actions) a

theorem timedOut_rank {s : Moment} {key : Nat} (late : s.timedOut? = some key) :
    s.before.rank key ≤ 2 ∧ 4 ≤ s.after.rank key := by
  unfold Moment.timedOut? at late
  split at late
  · split at late
    · rename_i stages
      obtain rfl : _ = key := Option.some.inj late
      exact ⟨rank_of_handshake stages.1, rank_of_closing stages.2⟩
    · cases late
  · cases late

/-- A handshake that came to its deadline is over. -/
theorem timedOut_over {config : RelayConfig} {actions : List Action} {key : Nat}
    (late : key ∈ timedOut (history config actions)) : 4 ≤ (run config actions).rank key := by
  obtain ⟨s, hs, mine⟩ := List.mem_filterMap.mp late
  obtain ⟨earlier, a, later, rfl, -, after⟩ := mem_history hs
  have closed := (timedOut_rank mine).2
  rw [after] at closed
  exact Nat.le_trans closed (rank_le_run config (earlier ++ [a]) later key)

theorem timedOut_nodup (config : RelayConfig) (actions : List Action) :
    (timedOut (history config actions)).Nodup := by
  induction actions using List.reverseRecOn with
  | nil => exact List.nodup_nil
  | append_singleton actions a ih =>
    rw [history_append, timedOut, List.filterMap_append]
    refine List.nodup_append.mpr ⟨ih, ?_, ?_⟩
    · simp only [List.filterMap_cons, List.filterMap_nil]
      split <;> simp
    · rintro key before _ now rfl
      obtain ⟨s, hs, late⟩ := List.mem_filterMap.mp now
      obtain rfl := List.mem_singleton.mp hs
      exact absurd (timedOut_over before) (Nat.not_le.mpr
        (Nat.lt_of_le_of_lt (timedOut_rank late).1 (by decide)))

/-- The counters account for everything that happened, as words of 64 bits: for each message, for
each member that a message was for, for each text that one put into a queue, for each member that
one removed, for each connection, and for each handshake that came to its deadline; no handshake
does so twice. -/
theorem run_reckoned (config : RelayConfig) (actions : List Action) :
    Reckoned (run config actions) (history config actions) ∧
      (timedOut (history config actions)).Nodup :=
  ⟨run_meters config actions, timedOut_nodup config actions⟩

end Relay

end ChatRelay
