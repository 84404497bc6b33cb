import ChatRelay.Proofs.Relay.Accepted
import ChatRelay.Proofs.Relay.Origins
import ChatRelay.Proofs.Relay.Parting

/-!
# What the result of a task says

The result with which a task returns tells what became of its client. It was decided by one step of
the task, and whatever the history was before this step, and whatever else was ready then, the
result is true of it.
-/

namespace ChatRelay

namespace Relay

/-- What the result of a task says about its run, of which the part before the step that decided it
is given. -/
def Warranted (config : RelayConfig) (actions earlier : List Action) (b : Branch) (key : Nat)
    (id : ConnectionId) : Option ConnectionFault → Prop
  /- No text was read, and the time for it has passed since the handshake began. -/
  | some .handshakeTimeout => texts (consumed key (history config actions)) = [] ∧
    ∃ s ∈ history config earlier, s.action = .step key .start ∧ s.before.ready key .start = true ∧
      Clock.HasPassed s.before.hub.now config.handshakeTimeout (run config earlier).hub.now
  /- The name was read when the registry had ended, and the client is at no time registered. -/
  | some (.refused .ended) => (∃ name, texts (consumed key (history config actions)) = [name]) ∧
    .endRegistry ∈ earlier ∧
    ∀ before, before <+: actions → (run config before).hub.registry.contains id = false
  | some (.refused (.present _)) => False
  | some (.readFailed fault) =>
    (consumed key (history config actions)).getLast? = some (.fault fault)
  /- The last write failed, and the transport said why. -/
  | some (.writeFailed (.reported fault)) => ∃ item,
    (attempts (dealings key (history config actions))).getLast? =
      some (item, some (.writeFailed item (.reported fault))) ∧
    ∃ c, (run config earlier).connections[key]? = some c ∧ c.transport.mode item = .fails fault
  /- The time for the last write has passed since it was taken up. -/
  | some (.writeFailed (.overdue limit)) => limit = config.writeTimeout ∧ ∃ item,
    (attempts (dealings key (history config actions))).getLast? =
      some (item, some (.writeFailed item (.overdue limit))) ∧
    Since (fun s => (∃ c session, s.before.connections[key]? = some c ∧ c.phase = .active session) ∧
        s.after.writes key item ∧
        Clock.HasPassed s.before.hub.now config.writeTimeout (run config earlier).hub.now)
      (fun s => s.after.writes key item) (history config earlier)
  /- A tick was due, and the timeout was over since the client was heard last, and since it was
  registered. -/
  | some .idleTimeout => b = .tick ∧ (run config earlier).ready key .tick = true ∧
    (∀ time ∈ hearTimes key (history config actions),
      time + config.idleTimeout < (run config earlier).hub.now) ∧
    Admitted key (history config earlier) ∧
    ∀ s ∈ history config earlier, s.Admits key →
      s.before.hub.now + config.idleTimeout < (run config earlier).hub.now
  /- Somebody had removed the client, the registry had not ended, and all that its queue ever accepted
  was written. -/
  | some .removed => .endRegistry ∉ earlier ∧
    Since (fun s => s.before.hub.registry.contains id = true ∧
        s.after.hub.registry.contains id = false ∧ s.Expels id)
      (fun s => s.after.hub.registry.contains id = false) (history config earlier) ∧
    written key (history config earlier) = (run config actions).hub.acceptedBy key
  | none => (consumed key (history config actions)).getLast? = some .streamEnd ∨
    (run config earlier).signal.isSet = true ∨
    .endRegistry ∈ earlier ∧
      written key (history config earlier) = (run config actions).hub.acceptedBy key

section Parted

variable {config : RelayConfig} {actions earlier : List Action} {b : Branch} {key : Nat}
  {c c' : Connection} {remarks : List ConnectionEvent} {result : Option ConnectionFault}

theorem surroundings_hasPending (r : Relay) :
    (r.surroundings key).hasPending = !(r.hub.pending key).isEmpty := by
  rw [surroundings, Hub.pending]
  cases r.hub.queues[key]? <;> rfl

/-- A task that turned to closing hears nothing any more. -/
theorem unheard_of_closing {more : List Action} (late : 4 ≤ (run config actions).rank key) :
    heard key (historyFrom (run config actions) more) = [] := by
  rw [heard, List.flatMap_eq_nil_iff]
  intro s hs
  obtain ⟨earlier, reached⟩ := reached_of_mem hs
  have still := Nat.le_trans late (rank_le_of_mem hs key)
  refine linesFor_of_unregistered (Bool.eq_false_iff.mpr fun held => ?_) s.news
  have serving := (reached ▸ run_sound config earlier : s.before.Sound).serves_of_holds held
  rw [serves_iff.mp serving] at still
  exact absurd still (by decide)

namespace Parted

variable (h : Parted config actions earlier b key c c' remarks result)

include h

theorem moment : Moment.mk (run config earlier) (.step key b) ∈ history config actions := by
  obtain ⟨later, rfl⟩ := h.split
  rw [List.append_assoc]
  exact moment_mem config earlier _ later

theorem few (few : (run config actions).connections.size ≤ UInt64.size) :
    (run config earlier).connections.size ≤ UInt64.size :=
  few_earlier few ((List.prefix_append _ _).trans h.split)

/-- A task that has read nothing with the step hears its client no more. -/
theorem unheard (silent : remarks = []) :
    hearTimes key (history config actions) = hearTimes key (history config earlier) := by
  subst silent
  obtain ⟨farewell, closing, told⟩ := h.told
  obtain ⟨later, rfl⟩ := h.split
  have moments := history_add config earlier ([.step key b] ++ later)
  rw [← List.append_assoc] at moments
  rw [moments, own, List.flatMap_append] at told
  have since : own key (historyFrom (run config earlier) ([.step key b] ++ later)) =
      farewell.map (Event.connection c.id) := List.append_cancel_left told
  rw [moments, hearTimes, List.flatMap_append]
  refine (congrArg _ (hearTimes_eq_nil ?_)).trans (List.append_nil _)
  rw [since, List.any_map, List.any_eq_false]
  intro e he heard
  have farewells := closing e he
  cases e with
  | consumed => cases farewells
  | _ => cases heard

/-- The last item that the task has read is the one that it read with the step. -/
theorem last_read {item : Inbound} (read : itemsOf (remarks.map (Event.connection c.id)) = [item]) :
    (Relay.consumed key (history config actions)).getLast? = some item := by
  rw [h.consumed, read]
  exact List.getLast?_concat

/-- A task that parts in the handshake has read no text but the one that it read with the step. -/
theorem texts_of_handshake {deadline : Nat} (phase : c.phase = .handshake deadline) :
    texts (Relay.consumed key (history config actions)) =
      texts (itemsOf (remarks.map (Event.connection c.id))) := by
  obtain ⟨-, ledger⟩ := (ledgered_of_some h.here).mp (run_ledgered config earlier key)
  have nameless : texts (Relay.consumed key (history config earlier)) = [] :=
    (ledger.waiting (by simp [phase, Phase.rank])).2
  rw [h.consumed, texts_append, nameless, List.nil_append]

/-- A task that parts in the handshake is at no time registered. -/
theorem unregistered (few : (run config actions).connections.size ≤ UInt64.size) {deadline : Nat}
    (phase : c.phase = .handshake deadline) {before : List Action} (within : before <+: actions) :
    (run config before).hub.registry.contains (.nth key) = false := by
  have hk : key < UInt64.size :=
    Nat.lt_of_lt_of_le (task?_lt (task?_of_some h.here)) (h.few few)
  have early : (run config earlier).rank key ≤ 2 := by
    rw [rank_of_some (task?_of_some h.here), phase]
    exact Nat.le_refl 2
  have late : 4 ≤ (Moment.mk (run config earlier) (.step key b)).after.rank key := by
    rw [Moment.after, ← run_append]
    exact h.late
  have unserved := never_served h.moment early late within
  rw [(run_sound config before).contains_nth (few_earlier few within) hk, ← Bool.not_eq_true]
  intro held
  rw [(run_sound config before).serves_of_holds held] at unserved
  cases unserved

/-- The last write of a task that parts in it. -/
theorem attempts {session : Session} {write : Write} (phase : c.phase = .writing session write)
    {fault : WriteFault} (failed : write.asked ++ remarks.filter ConnectionEvent.isDealing =
      [.writeBegun write.item, .writeFailed write.item fault]) :
    (ChatRelay.attempts (dealings key (history config actions))).getLast? =
      some (write.item, some (.writeFailed write.item fault)) := by
  obtain ⟨farewell, closing, told⟩ := h.told
  have dealt := run_dealt h.here
  rw [phase] at dealt
  obtain ⟨items, before⟩ := dealt
  have nomore : ChatRelay.attempts (farewell.filter ConnectionEvent.isDealing) = [] := by
    refine attempts_eq_nil fun e he item same => ?_
    have farewells := closing e (List.mem_filter.mp he).1
    rw [same] at farewells
    cases farewells
  rw [dealings_eq, told, List.filterMap_append, ← dealings_eq, before,
    Connection.filterMap_dealing, List.filter_append, List.append_assoc, ← List.append_assoc _ _
    (farewell.filter _), failed, attempts_completed]
  simp [ChatRelay.attempts, ConnectionEvent.endsWrite, nomore]

/-- A task that finds its queue at its end has written all that the queue ever accepts. -/
theorem drained {session : Session} (phase : c.phase = .active session)
    (empty : (run config earlier).hub.take? key = none)
    (noticed : ((run config earlier).surroundings key).hasPending = true ∨
      ((run config earlier).surroundings key).queueHeld = false) :
    (run config earlier).hub.registry.holds key = false ∧
      written key (history config earlier) = (run config actions).hub.acceptedBy key := by
  have nothing : (run config earlier).hub.pending key = [] := Hub.take?_eq_none_iff.mp empty
  have gone : (run config earlier).holds key = false := by
    refine noticed.resolve_left fun waiting => ?_
    rw [surroundings_hasPending, nothing] at waiting
    cases waiting
  have unregistered : (run config earlier).hub.registry.holds key = false :=
    (Bool.or_eq_false_iff.mp gone).1
  refine ⟨unregistered, ?_⟩
  have delivered := run_delivered config earlier key
  rw [delivered_of_some (task?_of_some h.here), phase] at delivered
  have all : heard key (history config earlier) = written key (history config earlier) := by
    have account : heard key (history config earlier) =
      written key (history config earlier) ++ (run config earlier).hub.pending key := delivered
    rw [account, nothing, List.append_nil]
  have silent : (Moment.mk (run config earlier) (.step key b)).heard key = [] :=
    linesFor_of_unregistered unregistered _
  have step : heard key (history config (earlier ++ [.step key b])) =
      heard key (history config earlier) := by
    simp [heard, history_append, silent]
  obtain ⟨later, rfl⟩ := h.split
  rw [run_accepted, heard_append, unheard_of_closing h.late, List.append_nil, step, all]

/-- A task whose queue has ended was removed, or the registry has ended. -/
theorem warranted_of_queueEnded (few : (run config actions).connections.size ≤ UInt64.size)
    {session : Session} (phase : c.phase = .active session)
    (empty : (run config earlier).hub.take? key = none)
    (noticed : ((run config earlier).surroundings key).hasPending = true ∨
      ((run config earlier).surroundings key).queueHeld = false) :
    Warranted config actions earlier b key (.nth key)
      (if (run config earlier).hub.registry.ended then none else some .removed) := by
  obtain ⟨gone, all⟩ := h.drained phase empty noticed
  cases ended : (run config earlier).hub.registry.ended with
  | true => exact Or.inr (Or.inr ⟨run_ended.mp ended, all⟩)
  | false =>
    have serving : (run config earlier).serves key = true := by
      rw [serves_of_some h.here, phase]
      rfl
    refine ⟨?_, since_expelled (h.few few) serving gone ended, all⟩
    rw [← run_ended, ended]
    exact Bool.false_ne_true

/-- A client for whose silence its task parts has been silent for longer than the timeout. -/
theorem warranted_of_silent (read : remarks = []) {session : Session}
    (phase : c.phase = .active session)
    (due : session.tick ≤ ((run config earlier).surroundings key).now)
    (silent : config.idleTimeout < (run config earlier).hub.now - session.lastSeen) :
    Warranted config actions earlier .tick key (.nth key) (some .idleTimeout) := by
  have active : (run config earlier).stage? key = some .active := by
    simp [stage?, h.here, phase, Phase.stage]
  have past : ∀ time ≤ session.lastSeen,
      time + config.idleTimeout < (run config earlier).hub.now := by
    intro time seen
    omega
  obtain ⟨heard, since⟩ := run_lastSeen h.here (by rw [phase]; rfl)
  refine ⟨rfl, ?_, ?_, admitted_of_active (List.prefix_refl _) active, ?_⟩
  · simpa [Relay.ready, h.here, Connection.ready, phase] using due
  · rw [h.unheard read]
    exact fun time ht => past time (heard time ht)
  · exact fun s hs admits => past _ (since s hs admits)

/-- The result of a task that gives up its handshake is warranted. -/
theorem warranted_of_givingUp (few : (run config actions).connections.size ≤ UInt64.size)
    {deadline : Nat} {meters : Meters} (phase : c.phase = .handshake deadline)
    (reason : c.GivingUp config ((run config earlier).surroundings key) (run config earlier).hub key
      b meters c' remarks result) :
    Warranted config actions earlier b key (.nth key) result := by
  cases reason with
  | readFailed inbound => exact h.last_read rfl
  | hungUp inbound => exact Or.inl (h.last_read rfl)
  | @refused name rest fault inbound small refused =>
    have within : earlier <+: actions := (List.prefix_append _ _).trans h.split
    cases fault with
    | ended =>
      exact ⟨⟨name, h.texts_of_handshake phase⟩, run_ended.mp (Registry.ended_of_refused refused),
        fun before => h.unregistered few phase⟩
    | present other =>
      have present := Registry.contains_of_present refused
      rw [id_eq_nth h.here, h.unregistered few phase within] at present
      cases present
  | overdue phase silent late =>
    obtain ⟨s, hs, act, ready, rfl⟩ := handshake_began h.here phase
    exact ⟨h.texts_of_handshake phase, s, hs, act, ready, Clock.hasPassed_of_le late⟩
  | shutdown set => exact Or.inr (Or.inl set)

/-- The result of a registered task that leaves is warranted. -/
theorem warranted_of_leaving (few : (run config actions).connections.size ≤ UInt64.size)
    (reason : c.Leaving config ((run config earlier).surroundings key) (run config earlier).hub key
      b c' remarks result) :
    Warranted config actions earlier b key (.nth key) result := by
  cases reason with
  | readFailed phase inbound => exact h.last_read rfl
  | hungUp phase inbound => exact Or.inl (h.last_read rfl)
  | queueEnded phase empty noticed => exact h.warranted_of_queueEnded few phase empty noticed
  | silent phase due silent => exact h.warranted_of_silent rfl phase due silent
  | shutdownWhenIdle phase set => exact Or.inr (Or.inl set)
  | shutdownInWrite phase set => exact Or.inr (Or.inl set)
  | @writeFailed session write fault phase mode =>
    exact ⟨write.item, h.attempts phase (write.asked_end rfl), c, h.here, mode⟩
  | @writeOverdue session write phase begun mode late =>
    refine ⟨rfl, write.item, h.attempts phase (by rw [Write.asked, begun]; rfl), ?_⟩
    refine (write_taken h.here phase).imp ?_ fun s _ held => held
    rintro s - ⟨active, taken, set⟩
    exact ⟨active, taken, Clock.hasPassed_of_le (set ▸ late)⟩

end Parted

end Parted

section Theorem

variable {config : RelayConfig} {actions : List Action} {key : Nat} {c : Connection}

/-- In every run, the result of every task that returns is warranted. -/
theorem run_warranted (few : (run config actions).connections.size ≤ UInt64.size)
    (here : (run config actions).connections[key]? = some c) {result : Option ConnectionFault}
    (returned : c.phase = .ended (.returned result)) :
    ∃ earlier b later, actions = earlier ++ .step key b :: later ∧
      (run config earlier).verdict? key = none ∧
      (run config (earlier ++ [.step key b])).verdict? key = some result ∧
      Warranted config actions earlier b key c.id result := by
  have found : (run config actions).verdict? key = some result := by
    rw [verdict_of_some here, returned]
    rfl
  obtain ⟨earlier, b, c₀, c', remarks, parted⟩ := run_parted found
  obtain ⟨later, same⟩ := parted.split
  refine ⟨earlier, b, later, by simp [← same], parted.before, parted.after, ?_⟩
  rw [id_eq_nth here]
  cases parted.parting with
  | gaveUp phase reason => exact parted.warranted_of_givingUp few phase reason
  | left reason => exact parted.warranted_of_leaving few reason

end Theorem

/-- Alice is removed, Bob's client takes no line, Carol does not say her name, and Dave says his when
the registry has ended. -/
def fourReturns : List Action :=
  [.connect "a" { inbound := [.text "alice"] },
    .connect "b" { inbound := [.text "bob"], writing := .hangs }, .connect "c" {},
    .connect "d" { inbound := [.text "dave"] }, .step 0 .start, .step 0 .read, .step 1 .start,
    .step 1 .read, .step 2 .start, .broadcast ⟨⟨9⟩, "eve", "hi"⟩, .unregister ⟨1⟩, .step 0 .take,
    .step 0 .write, .step 0 .take, .step 0 .close, .step 1 .take, .step 1 .write, .pass 10000,
    .step 1 .writeDeadline, .step 1 .close, .step 2 .handshakeDeadline, .step 2 .close,
    .endRegistry, .step 3 .start, .step 3 .read, .step 3 .close]

theorem run_warranted_fourReturns :
    let results := [(0, some .removed), (1, some (.writeFailed (.overdue 10000))),
      (2, some .handshakeTimeout), (3, some (.refused .ended))]
    (run {} fourReturns).connections.size ≤ UInt64.size ∧
      ∀ entry ∈ results, ∃ c, (run {} fourReturns).connections[entry.1]? = some c ∧
        c.phase = .ended (.returned entry.2) ∧
        ∃ earlier b later, fourReturns = earlier ++ .step entry.1 b :: later ∧
          (run {} earlier).verdict? entry.1 = none ∧
          (run {} (earlier ++ [.step entry.1 b])).verdict? entry.1 = some entry.2 ∧
          Warranted {} fourReturns earlier b entry.1 c.id entry.2 := by
  intro results
  have few : (run {} fourReturns).connections.size ≤ UInt64.size := by decide +kernel
  have returned : ∀ entry ∈ results, ∃ c ∈ (run {} fourReturns).connections[entry.1]?,
      c.phase = .ended (.returned entry.2) := by decide +kernel
  refine ⟨few, fun entry he => ?_⟩
  obtain ⟨c, here, phase⟩ := returned entry he
  exact ⟨c, here, phase, run_warranted few here phase⟩

end Relay

end ChatRelay
