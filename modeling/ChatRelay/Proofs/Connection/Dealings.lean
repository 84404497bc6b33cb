import ChatRelay.Proofs.Connection.Effect

/-!
# What a task has to do with its transport

A task writes one thing after the other. The first write that does not succeed is its last, and
nothing is asked of the transport after the request to close.
-/

namespace ChatRelay

namespace ConnectionEvent

/-- The event is about a write, or says that the transport is asked to close. -/
def isDealing : ConnectionEvent → Bool
  | .writeBegun _ => true
  | .written _ => true
  | .writeFailed .. => true
  | .shutdownInWrite => true
  | .closeBegun => true
  | _ => false

/-- A write has come to its end, well or not. -/
def endsWrite : ConnectionEvent → Bool
  | .written _ => true
  | .writeFailed .. => true
  | .shutdownInWrite => true
  | _ => false

end ConnectionEvent

/-- What a task has to do with its transport, if that is the event. -/
def Event.dealing? : Event → Option ConnectionEvent
  | .connection _ e => if e.isDealing then some e else none
  | _ => none

/-- The writes that were begun, each with its end. -/
def attempts : List ConnectionEvent → List (Outgoing × Option ConnectionEvent)
  | [] => []
  | .writeBegun item :: rest => (item, rest.find? ConnectionEvent.endsWrite) :: attempts rest
  | _ :: rest => attempts rest

def Write.asked (w : Write) : List ConnectionEvent := if w.begun then [.writeBegun w.item] else []

theorem Write.asked_announcement (w : Write) :
    w.asked ++ w.announcement = [.writeBegun w.item] := by
  unfold asked announcement
  split <;> rfl

theorem Write.announcement_dealings (w : Write) :
    w.announcement.filter ConnectionEvent.isDealing = w.announcement := by
  unfold announcement
  split <;> rfl

/-- What is noted of a write is not that the transport is asked to close. -/
theorem Write.announcement_ne {w : Write} {e : ConnectionEvent} (h : e ∈ w.announcement) :
    e ≠ .closeBegun := by
  unfold announcement at h
  split at h <;> simp_all

theorem Write.end_ne {w : Write} {e outcome : ConnectionEvent} (h : e ∈ w.announcement ++ [outcome])
    (ends : outcome ≠ .closeBegun) : e ≠ .closeBegun := by
  rcases List.mem_append.mp h with announced | last
  · exact announcement_ne announced
  · rw [List.mem_singleton.mp last]
    exact ends

/-- A write that has come to its end, whenever it was begun. -/
theorem Write.asked_end (w : Write) {outcome : ConnectionEvent}
    (dealing : outcome.isDealing = true) :
    w.asked ++ (w.announcement ++ [outcome]).filter ConnectionEvent.isDealing =
      [.writeBegun w.item, outcome] := by
  rw [List.filter_append, w.announcement_dealings, ← List.append_assoc, w.asked_announcement]
  simp [dealing]

def completed (items : List Outgoing) : List ConnectionEvent :=
  items.flatMap fun item => [.writeBegun item, .written item]

theorem completed_concat (items : List Outgoing) (item : Outgoing) :
    completed (items ++ [item]) = completed items ++ [.writeBegun item, .written item] := by
  simp [completed]

/-- How the writing of a task comes to its end after the writes that succeeded. -/
inductive LastWrite : List ConnectionEvent → Prop where
  | none : LastWrite []
  /-- The task was aborted before the transport answered. -/
  | hanging (item : Outgoing) : LastWrite [.writeBegun item]
  | failed (item : Outgoing) (fault : WriteFault) :
      LastWrite [.writeBegun item, .writeFailed item fault]
  | givenUp (item : Outgoing) : LastWrite [.writeBegun item, .shutdownInWrite]
  /-- The write was given up before the transport was asked. -/
  | unasked : LastWrite [.shutdownInWrite]

/-- The dealings of a task that writes no more, and has asked its transport to close or has not. -/
def Settled (asked : Bool) (dealings : List ConnectionEvent) : Prop :=
  ∃ items last, LastWrite last ∧
    dealings = completed items ++ last ++ if asked then [.closeBegun] else []

theorem settled_completed (items : List Outgoing) : Settled false (completed items) :=
  ⟨items, [], .none, by simp⟩

theorem settled_of_last {last : List ConnectionEvent} (h : LastWrite last)
    (items : List Outgoing) : Settled false (completed items ++ last) :=
  ⟨items, last, h, by simp⟩

/-- The transport is asked to close, unless it was before. -/
theorem Settled.ask {asked : Bool} {dealings : List ConnectionEvent} (h : Settled asked dealings) :
    Settled true (dealings ++ if asked then [] else [.closeBegun]) := by
  obtain ⟨items, last, ended, rfl⟩ := h
  exact ⟨items, last, ended, by cases asked <;> simp⟩

/-- Apart from its end, nothing in the dealings of a task asks the transport to close. -/
theorem Settled.split {asked : Bool} {dealings : List ConnectionEvent}
    (h : Settled asked dealings) : ∃ writes, ConnectionEvent.closeBegun ∉ writes ∧
      dealings = writes ++ if asked then [.closeBegun] else [] := by
  obtain ⟨items, last, ended, rfl⟩ := h
  refine ⟨completed items ++ last, ?_, rfl⟩
  have before : ConnectionEvent.closeBegun ∉ completed items := by simp [completed]
  have after : ConnectionEvent.closeBegun ∉ last := by cases ended <;> simp
  simp [before, after]

theorem Settled.count {asked : Bool} {dealings : List ConnectionEvent}
    (h : Settled asked dealings) : dealings.count .closeBegun = if asked then 1 else 0 := by
  obtain ⟨writes, none, rfl⟩ := h.split
  rw [List.count_append, List.count_eq_zero_of_not_mem none]
  cases asked <;> simp

/-- Nothing comes after the request to close. -/
theorem Settled.final {asked : Bool} {dealings earlier later : List ConnectionEvent}
    (h : Settled asked dealings) (split : dealings = earlier ++ .closeBegun :: later) :
    later = [] := by
  obtain ⟨writes, none, rfl⟩ := h.split
  rcases List.eq_nil_or_concat later with rfl | ⟨later, last, rfl⟩
  · rfl
  · exfalso
    rw [List.concat_eq_append, ← List.cons_append, ← List.append_assoc] at split
    cases asked with
    | false =>
      rw [if_neg Bool.false_ne_true, List.append_nil] at split
      exact none (by simp [split])
    | true =>
      rw [if_pos rfl] at split
      exact none (by simp [(List.append_singleton_inj.mp split).1])

theorem attempts_completed (items : List Outgoing) (rest : List ConnectionEvent) :
    attempts (completed items ++ rest) =
      items.map (fun item => (item, some (.written item))) ++ attempts rest := by
  induction items with
  | nil => rfl
  | cons item items ih => simpa [completed, attempts, ConnectionEvent.endsWrite] using ih

theorem attempts_eq_nil {events : List ConnectionEvent}
    (none : ∀ e ∈ events, ∀ item, e ≠ .writeBegun item) : attempts events = [] := by
  induction events with
  | nil => rfl
  | cons e rest ih =>
    have later := ih fun e he => none e (List.mem_cons_of_mem _ he)
    cases e with
    | writeBegun item => exact absurd rfl (none _ List.mem_cons_self item)
    | _ => exact later

/-- Every write but the last one has succeeded. -/
theorem Settled.attempts {asked : Bool} {dealings : List ConnectionEvent}
    (h : Settled asked dealings) :
    ∀ attempt ∈ (attempts dealings).dropLast, attempt.2 = some (.written attempt.1) := by
  obtain ⟨items, last, ended, rfl⟩ := h
  have single : (ChatRelay.attempts (last ++ if asked then [.closeBegun] else [])).length ≤ 1 := by
    cases ended <;> cases asked <;> simp [ChatRelay.attempts]
  rw [List.append_assoc, attempts_completed]
  intro attempt within
  have succeeded : attempt ∈ items.map fun item => (item, some (ConnectionEvent.written item)) := by
    rcases List.eq_nil_or_concat (ChatRelay.attempts (last ++ if asked then [.closeBegun] else []))
      with none | ⟨more, x, one⟩
    · rw [none, List.append_nil] at within
      exact (List.dropLast_sublist _).mem within
    · rw [one, List.concat_eq_append, List.length_append, List.length_singleton] at single
      have nomore : more = [] := List.eq_nil_of_length_eq_zero (by omega)
      rw [one, nomore, List.concat_eq_append, List.nil_append, List.dropLast_concat] at within
      exact within
  obtain ⟨item, -, rfl⟩ := List.mem_map.mp succeeded
  rfl

namespace Phase

/-- The dealings of a task, given where it stands. -/
def Dealt (dealings : List ConnectionEvent) : Phase → Prop
  | .connecting => dealings = []
  | .handshake _ => dealings = []
  | .active _ => ∃ items, dealings = completed items
  | .writing _ write => ∃ items, dealings = completed items ++ write.asked
  | .closing _ begun _ => Settled begun dealings
  | .ended (.returned _) => Settled true dealings
  | .ended .aborted => ∃ asked, Settled asked dealings
  | .ended .panicked => Settled false dealings

/-- What a task can have to do with its transport in one step. -/
def Allows : Phase → ConnectionEvent → Prop
  | .writing .., e => e ≠ .closeBegun
  | .closing .., e => e = .closeBegun
  | _, _ => False

/-- A task could be stopped wherever it stands. -/
theorem Dealt.settled {phase : Phase} {dealings : List ConnectionEvent} (h : phase.Dealt dealings) :
    ∃ asked, Settled asked dealings := by
  cases phase with
  | connecting => exact ⟨false, h ▸ settled_completed []⟩
  | handshake deadline => exact ⟨false, h ▸ settled_completed []⟩
  | active session =>
    obtain ⟨items, rfl⟩ := h
    exact ⟨false, settled_completed items⟩
  | writing session write =>
    obtain ⟨items, rfl⟩ := h
    unfold Write.asked
    split
    · exact ⟨false, settled_of_last (.hanging _) items⟩
    · exact ⟨false, settled_of_last .none items⟩
  | closing result begun deadline => exact ⟨begun, h⟩
  | ended outcome =>
    cases outcome with
    | returned fault => exact ⟨true, h⟩
    | aborted => exact h
    | panicked => exact ⟨false, h⟩

end Phase

namespace Connection

section Steps

variable {config : RelayConfig} {s : Surroundings} {c : Connection} {hub : Hub} {key : QueueKey}
  {dealings : List ConnectionEvent}

theorem filterMap_dealing (id : ConnectionId) (events : List ConnectionEvent) :
    (events.map (Event.connection id)).filterMap Event.dealing? =
      events.filter ConnectionEvent.isDealing := by
  rw [List.filterMap_map, ← List.filterMap_eq_filter]
  rfl

/-- What the step of a task adds to its dealings, and what it makes of where the task stands. -/
def Deals (c : Connection) (hub : Hub) (dealings : List ConnectionEvent)
    (next : Hub × Connection) : Prop :=
  ∃ told, next.1.story = hub.story ++ told ∧
    (∀ e ∈ told.filterMap Event.dealing?, c.phase.Allows e) ∧
    next.2.phase.Dealt (dealings ++ told.filterMap Event.dealing?)

/-- A step that has nothing to do with the transport. -/
theorem deals_silent {next : Hub × Connection} {told : List Event}
    (story : next.1.story = hub.story ++ told) (silent : told.filterMap Event.dealing? = [])
    (d : next.2.phase.Dealt dealings) : Deals c hub dealings next :=
  ⟨told, story, by simp [silent], by rw [silent, List.append_nil]; exact d⟩

/-- A step whose part of the story is that of its own task alone. -/
theorem deals_own {next : Hub × Connection} {events : List ConnectionEvent}
    (own : Own c.id key hub events next.1)
    (allowed : ∀ e ∈ events, e.isDealing = true → c.phase.Allows e)
    (d : next.2.phase.Dealt (dealings ++ events.filter ConnectionEvent.isDealing)) :
    Deals c hub dealings next :=
  ⟨_, own.story, by
    rw [filterMap_dealing]
    intro e he
    exact allowed e (List.mem_filter.mp he).1 (List.mem_filter.mp he).2,
    by rwa [filterMap_dealing]⟩

theorem GivingUp.silent {b : Branch} {meters : Meters} {c' : Connection}
    {remarks : List ConnectionEvent} {result : Option ConnectionFault}
    (h : GivingUp config s c hub key b meters c' remarks result) :
    remarks.filter ConnectionEvent.isDealing = [] := by
  cases h <;> rfl

/-- A task that leaves writes no more. -/
theorem Leaving.settled {b : Branch} {c' : Connection} {remarks : List ConnectionEvent}
    {result : Option ConnectionFault} (h : Leaving config s c hub key b c' remarks result)
    (d : c.phase.Dealt dealings) :
    (∀ e ∈ remarks, e.isDealing = true → c.phase.Allows e) ∧
      Settled false (dealings ++ remarks.filter ConnectionEvent.isDealing) := by
  have idle : ∀ {session} {remarks : List ConnectionEvent}, c.phase = .active session →
      remarks.filter ConnectionEvent.isDealing = [] →
      (∀ e ∈ remarks, e.isDealing = true → c.phase.Allows e) ∧
        Settled false (dealings ++ remarks.filter ConnectionEvent.isDealing) := by
    intro session remarks phase silent
    rw [phase] at d
    obtain ⟨items, rfl⟩ := d
    refine ⟨fun e he dealt => ?_, by rw [silent, List.append_nil]; exact settled_completed items⟩
    exact absurd dealt (List.filter_eq_nil_iff.mp silent e he)
  have midway : ∀ {session write}, c.phase = .writing session write →
      ∃ items, dealings = completed items ++ write.asked := by
    intro session write phase
    rw [phase] at d
    exact d
  cases h with
  | readFailed phase => exact idle phase rfl
  | hungUp phase => exact idle phase rfl
  | queueEnded phase => exact idle phase rfl
  | silent phase => exact idle phase rfl
  | shutdownWhenIdle phase => exact idle phase rfl
  | @shutdownInWrite session write phase =>
    obtain ⟨items, rfl⟩ := midway phase
    refine ⟨by simp [phase, Phase.Allows], ?_⟩
    rw [List.append_assoc]
    refine settled_of_last ?_ items
    unfold Write.asked
    split
    · exact .givenUp _
    · exact .unasked
  | @writeFailed session write fault phase mode =>
    obtain ⟨items, rfl⟩ := midway phase
    refine ⟨?_, ?_⟩
    · intro e he _
      rw [phase]
      exact Write.end_ne he (by simp)
    · rw [List.append_assoc, write.asked_end rfl]
      exact settled_of_last (.failed _ _) items
  | @writeOverdue session write phase begun mode late =>
    obtain ⟨items, rfl⟩ := midway phase
    refine ⟨by simp [phase, Phase.Allows], ?_⟩
    rw [Write.asked, begun, List.append_assoc]
    exact settled_of_last (.failed _ _) items

theorem Closed.settled {begun : Bool} {deadline : Nat} {b : Branch}
    {remarks : List ConnectionEvent} (h : Closed s c begun deadline b remarks)
    (d : Settled begun dealings) :
    (∀ e ∈ remarks, e.isDealing = true → e = .closeBegun) ∧
      Settled true (dealings ++ remarks.filter ConnectionEvent.isDealing) := by
  have asked := d.ask
  cases h with
  | done => cases begun <;> exact ⟨by simp [ConnectionEvent.isDealing], asked⟩
  | failed => cases begun <;> exact ⟨by simp [ConnectionEvent.isDealing], asked⟩
  | overdue begun =>
    subst begun
    exact ⟨by simp [ConnectionEvent.isDealing], asked⟩

/-- What each step of a task adds to its dealings. -/
theorem Transition.deals {b : Branch} {next : Hub × Connection}
    (h : Transition config s c hub key b next) (d : c.phase.Dealt dealings) :
    Deals c hub dealings next := by
  have own := own_noteAll c hub key
  cases h with
  | start phase =>
    rw [phase] at d
    exact deals_silent ((own [.began c.peer]).note _).story rfl d
  | @ignore deadline item rest phase inbound wordless =>
    exact deals_silent (own [.consumed item]).story rfl d
  | @giveUp deadline b meters c' remarks result phase reason =>
    refine deals_silent (by rw [wrapUp_story, noteAll_story, List.append_assoc]; rfl) ?_ ?_
    · rw [List.filterMap_append, filterMap_dealing, reason.silent]
      rfl
    · rw [phase] at d
      rw [show dealings = [] from d]
      exact settled_completed []
  | @enter deadline name rest hub' tick phase inbound small registered scheduled =>
    rw [phase] at d
    exact deals_silent (((own _).register registered).note (.moved .handshake .active)).story rfl
      ⟨[], d⟩
  | @enterLate deadline name rest hub' phase inbound small registered late =>
    have noted := ((own _).register registered).note (.moved .handshake .active)
    have died := Own.die (c := { c.reading rest with
      phase := .active ⟨name, hub'.now, hub'.now⟩ }) noted .panicked
    rw [phase] at d
    rw [show dealings = [] from d]
    exact deals_silent died.story rfl (settled_completed [])
  | @tooLarge deadline name rest phase inbound large =>
    have died := Own.die (c := c.reading rest) (own [.consumed (.text name), .named name]) .panicked
    rw [phase] at d
    rw [show dealings = [] from d]
    exact deals_silent died.story rfl (settled_completed [])
  | @line session text rest phase inbound =>
    rw [phase] at d
    exact deals_silent (by rw [(Hub.broadcast_frame _ _).2.2.2, noteAll_story, List.append_assoc])
      rfl d
  | @sign session rest phase inbound =>
    rw [phase] at d
    exact deals_silent (own [.consumed .lifeSign]).story rfl d
  | @drop session size rest phase inbound =>
    exact deals_silent (own [.consumed (.binary size)]).story rfl d
  | @take session text hub' phase taken =>
    rw [phase] at d
    obtain ⟨items, rfl⟩ := d
    exact deals_silent (((own []).take taken).note (.taken text)).story rfl
      ⟨items, by simp [Write.asked]⟩
  | ping phase due heard =>
    rw [phase] at d
    obtain ⟨items, rfl⟩ := d
    exact deals_silent (own []).story rfl ⟨items, by simp [Write.asked]⟩
  | @written session write phase mode =>
    rw [phase] at d
    obtain ⟨items, rfl⟩ := d
    refine deals_own (own _) ?_ ⟨items ++ [write.item], ?_⟩
    · intro e he _
      rw [phase]
      exact Write.end_ne he (by simp)
    · rw [List.append_assoc, write.asked_end rfl, completed_concat]
  | @hang session write phase mode =>
    rw [phase] at d
    obtain ⟨items, rfl⟩ := d
    refine deals_own (own _) ?_ ⟨items, ?_⟩
    · intro e he _
      rw [phase]
      exact Write.announcement_ne he
    · rw [write.announcement_dealings, List.append_assoc, write.asked_announcement]
      rfl
  | @leave b c' remarks result reason =>
    obtain ⟨allowed, settled⟩ := reason.settled d
    have story : (c'.leave config (c.noteAll hub remarks) key result).1.story = hub.story ++
        (remarks.map (Event.connection c.id) ++
          [.connection c'.id (.moved c'.phase.stage .closing)]) := by
      rw [leave_eq, wrapUp_story, Hub.unregister_story, noteAll_story, List.append_assoc]
    have dealt : (remarks.map (Event.connection c.id) ++
        [Event.connection c'.id (.moved c'.phase.stage .closing)]).filterMap Event.dealing? =
        remarks.filter ConnectionEvent.isDealing := by
      rw [List.filterMap_append, filterMap_dealing]
      exact List.append_nil _
    refine ⟨_, story, ?_, ?_⟩
    · rw [dealt]
      intro e he
      exact allowed e (List.mem_filter.mp he).1 (List.mem_filter.mp he).2
    · rw [dealt]
      exact settled
  | @closeHang result begun deadline phase mode =>
    rw [phase] at d
    have dealt : Settled true (dealings ++ (if begun then [] else [ConnectionEvent.closeBegun])) :=
      d.ask
    refine deals_own (own _) ?_ ?_
    · cases begun <;> simp [phase, Phase.Allows]
    · cases begun <;> exact dealt
  | @conclude result begun deadline b remarks phase closed =>
    rw [phase] at d
    obtain ⟨allowed, settled⟩ := closed.settled d
    refine deals_own ((own remarks).note (.returned c.peer result)) ?_ ?_
    · intro e he dealt
      rw [phase]
      rcases List.mem_append.mp he with remark | returned
      · exact allowed e remark dealt
      · rw [List.mem_singleton.mp returned] at dealt
        cases dealt
    · have dealt : (remarks ++ [ConnectionEvent.returned c.peer result]).filter
          ConnectionEvent.isDealing = remarks.filter ConnectionEvent.isDealing := by
        rw [List.filter_append]
        exact List.append_nil _
      rw [dealt]
      exact settled

end Steps

end Connection

end ChatRelay
