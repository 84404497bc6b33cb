import ChatRelay.Proofs.Relay.Stages

/-!
# What a task makes of what it reads

A task reads the inbound items in their order. The first text is the client's name, and each text
behind it becomes one message. A fault of the transport and the end of the stream are the last that
is read.
-/

namespace ChatRelay

namespace Inbound

def text? : Inbound → Option String
  | .text words => some words
  | _ => none

/-- Nothing is read behind the item. -/
def isEnd : Inbound → Bool
  | .fault _ => true
  | .streamEnd => true
  | _ => false

end Inbound

namespace Event

/-- The item that a task read, if that is the event. -/
def item? : Event → Option Inbound
  | .connection _ (.consumed item) => some item
  | _ => none

def name? : Event → Option String
  | .connection _ (.named name) => some name
  | _ => none

def message? : Event → Option Message
  | .broadcast message _ _ => some message
  | _ => none

end Event

def texts (items : List Inbound) : List String := items.filterMap Inbound.text?

/-- The messages that a client's items make: the first text is the name under which it speaks. -/
def speech (id : ConnectionId) (items : List Inbound) : List Message :=
  match texts items with
  | [] => []
  | name :: lines => lines.map fun text => ⟨id, name, text⟩

def itemsOf (events : List Event) : List Inbound := events.filterMap Event.item?

def namesOf (events : List Event) : List String := events.filterMap Event.name?

def messagesOf (events : List Event) : List Message := events.filterMap Event.message?

section Lists

variable {id : ConnectionId} {items : List Inbound} {events told : List Event}

@[simp] theorem texts_append (items more : List Inbound) :
    texts (items ++ more) = texts items ++ texts more := List.filterMap_append

@[simp] theorem itemsOf_append (events told : List Event) :
    itemsOf (events ++ told) = itemsOf events ++ itemsOf told := List.filterMap_append

@[simp] theorem namesOf_append (events told : List Event) :
    namesOf (events ++ told) = namesOf events ++ namesOf told := List.filterMap_append

@[simp] theorem messagesOf_append (events told : List Event) :
    messagesOf (events ++ told) = messagesOf events ++ messagesOf told := List.filterMap_append

theorem texts_wordless {item : Inbound} (wordless : item.text? = none) : texts [item] = [] := by
  simp [texts, wordless]

theorem speech_wordless {item : Inbound} (wordless : item.text? = none) :
    speech id (items ++ [item]) = speech id items := by
  rw [speech, texts_append, texts_wordless wordless, List.append_nil]
  rfl

theorem speech_name {name : String} (nameless : texts items = []) :
    speech id (items ++ [.text name]) = [] := by
  rw [speech, texts_append, nameless]
  rfl

/-- A text behind the name is one more message. -/
theorem speech_line {name text : String} (named : (texts items).head? = some name) :
    speech id (items ++ [.text text]) = speech id items ++ [⟨id, name, text⟩] := by
  obtain ⟨lines, said⟩ := List.head?_eq_some_iff.mp named
  simp only [speech, texts_append, said]
  simp [texts, Inbound.text?]

/-- One more item may be an end if none before it is. -/
theorem final_concat (going : ∀ item ∈ items, item.isEnd = false) (last : Inbound) :
    (items ++ [last]).Pairwise fun item _ => item.isEnd = false := by
  have before : items.Pairwise fun item _ => item.isEnd = false :=
    List.Pairwise.imp_of_mem (fun ha _ _ => going _ ha) (List.pairwise_of_forall fun _ _ => trivial)
  exact List.pairwise_append.mpr
    ⟨before, List.pairwise_singleton _ _, fun item hi _ _ => going item hi⟩

theorem going_concat (going : ∀ item ∈ items, item.isEnd = false) {last : Inbound}
    (goes : last.isEnd = false) : ∀ item ∈ items ++ [last], item.isEnd = false := by
  intro item hi
  rcases List.mem_append.mp hi with hi | hi
  · exact going item hi
  · rw [List.mem_singleton.mp hi]
    exact goes

/-- Events that say neither that something was read or named nor that a message was sent. -/
structure Quiet (told : List Event) : Prop where
  items : itemsOf told = []
  names : namesOf told = []
  messages : messagesOf told = []

theorem Quiet.append (h : Quiet events) (more : Quiet told) : Quiet (events ++ told) := by
  constructor
  · rw [itemsOf_append, h.items, more.items, List.append_nil]
  · rw [namesOf_append, h.names, more.names, List.append_nil]
  · rw [messagesOf_append, h.messages, more.messages, List.append_nil]

theorem Write.announcement_quiet (w : Write) (id : ConnectionId) :
    Quiet (w.announcement.map (Event.connection id)) := by
  unfold announcement
  split <;> exact ⟨rfl, rfl, rfl⟩

end Lists

/-- The name under which a task serves its client. -/
def Phase.name? : Phase → Option String
  | .active session => some session.name
  | .writing session _ => some session.name
  | _ => none

theorem Phase.rank_of_name {phase : Phase} {name : String} (h : phase.name? = some name) :
    phase.rank = 3 := by
  cases phase <;> simp_all [name?, rank]

/-- What a task has made of what it has read, given where it stands and whether it was ever
registered. -/
structure Ledger (id : ConnectionId) (admitted : Prop) (phase : Phase) (events : List Event) :
    Prop where
  names : namesOf events = (texts (itemsOf events)).take 1
  sent : admitted → messagesOf events = speech id (itemsOf events)
  silent : ¬ admitted → messagesOf events = []
  waiting : phase.rank ≤ 2 → ¬ admitted ∧ texts (itemsOf events) = []
  serving : ∀ name, phase.name? = some name →
    admitted ∧ (texts (itemsOf events)).head? = some name
  going : phase.rank ≤ 3 → ∀ item ∈ itemsOf events, item.isEnd = false
  final : (itemsOf events).Pairwise fun item _ => item.isEnd = false

section Ledger

variable {id : ConnectionId} {admitted : Prop} {phase phase' : Phase} {events told : List Event}

theorem ledger_start (id : ConnectionId) : Ledger id False .connecting [] where
  names := rfl
  sent := False.elim
  silent _ := rfl
  waiting _ := ⟨not_false, rfl⟩
  serving := by simp [Phase.name?]
  going := by simp [itemsOf]
  final := .nil

/-- Nothing is read. -/
theorem Ledger.keep (h : Ledger id admitted phase events) (quiet : Quiet told)
    (forward : phase.rank ≤ phase'.rank)
    (names : ∀ name, phase'.name? = some name → phase.name? = some name) :
    Ledger id admitted phase' (events ++ told) := by
  have items : itemsOf (events ++ told) = itemsOf events := by simp [quiet.items]
  have messages : messagesOf (events ++ told) = messagesOf events := by simp [quiet.messages]
  constructor
  · rw [items, namesOf_append, quiet.names, List.append_nil]
    exact h.names
  · rw [items, messages]
    exact h.sent
  · rw [messages]
    exact h.silent
  · rw [items]
    exact fun early => h.waiting (Nat.le_trans forward early)
  · rw [items]
    exact fun name found => h.serving name (names name found)
  · rw [items]
    exact fun early => h.going (Nat.le_trans forward early)
  · rw [items]
    exact h.final

/-- An item that is no text is read. It may be the last. -/
theorem Ledger.item (h : Ledger id admitted phase events) {item : Inbound}
    (items : itemsOf told = [item]) (named : namesOf told = []) (said : messagesOf told = [])
    (wordless : item.text? = none) (reading : phase.rank ≤ 3)
    (last : item.isEnd = false ∨ 4 ≤ phase'.rank) (forward : phase.rank ≤ phase'.rank)
    (names : ∀ name, phase'.name? = some name → phase.name? = some name) :
    Ledger id admitted phase' (events ++ told) := by
  have read : itemsOf (events ++ told) = itemsOf events ++ [item] := by simp [items]
  have words : texts (itemsOf (events ++ told)) = texts (itemsOf events) := by
    rw [read, texts_append, texts_wordless wordless, List.append_nil]
  have messages : messagesOf (events ++ told) = messagesOf events := by simp [said]
  constructor
  · rw [words, namesOf_append, named, List.append_nil]
    exact h.names
  · rw [messages, read, speech_wordless wordless]
    exact h.sent
  · rw [messages]
    exact h.silent
  · rw [words]
    exact fun early => h.waiting (Nat.le_trans forward early)
  · rw [words]
    exact fun name found => h.serving name (names name found)
  · rw [read]
    exact fun early => going_concat (h.going reading) (last.resolve_right (by omega))
  · rw [read]
    exact final_concat (h.going reading) _

/-- The name is read, and the task is registered under it or comes to its end. -/
theorem Ledger.name (h : Ledger id admitted phase events) {name : String} {enrols : Prop}
    (items : itemsOf told = [.text name]) (named : namesOf told = [name])
    (said : messagesOf told = []) (early : phase.rank ≤ 2)
    (outcome : 4 ≤ phase'.rank ∨ phase'.name? = some name ∧ enrols) :
    Ledger id (admitted ∨ enrols) phase' (events ++ told) := by
  obtain ⟨out, nameless⟩ := h.waiting early
  have read : itemsOf (events ++ told) = itemsOf events ++ [.text name] := by simp [items]
  have words : texts (itemsOf (events ++ told)) = [name] := by
    rw [read, texts_append, nameless]
    rfl
  have messages : messagesOf (events ++ told) = [] := by simp [said, h.silent out]
  have late : 3 ≤ phase'.rank := by
    rcases outcome with gone | ⟨serving, -⟩
    · omega
    · exact Nat.le_of_eq (Phase.rank_of_name serving).symm
  constructor
  · rw [words, namesOf_append, named, h.names, nameless]
    rfl
  · rw [messages, read, speech_name nameless]
    exact fun _ => rfl
  · exact fun _ => messages
  · omega
  · rw [words]
    intro other serving
    rcases outcome with gone | ⟨found, enrolled⟩
    · exact absurd (Phase.rank_of_name serving) (by omega)
    · rw [found] at serving
      exact ⟨Or.inr enrolled, by simpa using serving⟩
  · rw [read]
    exact fun _ => going_concat (h.going (by omega)) rfl
  · rw [read]
    exact final_concat (h.going (by omega)) _

/-- A line is read, and becomes a message. -/
theorem Ledger.line (h : Ledger id admitted phase events) {name text : String}
    (items : itemsOf told = [.text text]) (named : namesOf told = [])
    (said : messagesOf told = [⟨id, name, text⟩]) (before : phase.name? = some name)
    (after : phase'.name? = some name) : Ledger id admitted phase' (events ++ told) := by
  obtain ⟨inside, first⟩ := h.serving name before
  have reading := Phase.rank_of_name before
  have late := Phase.rank_of_name after
  have read : itemsOf (events ++ told) = itemsOf events ++ [.text text] := by simp [items]
  have words : texts (itemsOf (events ++ told)) = texts (itemsOf events) ++ [text] := by
    rw [read, texts_append]
    rfl
  obtain ⟨lines, firstly⟩ := List.head?_eq_some_iff.mp first
  constructor
  · rw [words, namesOf_append, named, h.names, firstly]
    rfl
  · rw [messagesOf_append, said, h.sent inside, read, speech_line first]
    exact fun _ => rfl
  · exact fun out => absurd inside out
  · omega
  · rw [words]
    intro other serving
    rw [after] at serving
    exact ⟨inside, by rw [firstly]; simpa using serving⟩
  · rw [read]
    exact fun _ => going_concat (h.going (Nat.le_of_eq reading)) rfl
  · rw [read]
    exact final_concat (h.going (Nat.le_of_eq reading)) _

end Ledger

namespace Connection

section Steps

variable {config : RelayConfig} {s : Surroundings} {c : Connection} {hub : Hub} {key : QueueKey}

/-- The step reads the client's name, and the registration under it succeeds. -/
def Enrols (c : Connection) (hub : Hub) (key : QueueKey) (b : Branch) : Prop :=
  b = .read ∧ ∃ deadline name rest registry, c.phase = .handshake deadline ∧
    c.transport.inbound = .text name :: rest ∧
    hub.registry.register ⟨c.id, name, key⟩ = .ok registry

/-- What a step of a task reads, and what it makes of it. -/
inductive Intake (c : Connection) (hub : Hub) (key : QueueKey) (b : Branch)
    (next : Hub × Connection) : Prop where
  | nothing {told} (story : next.1.story = hub.story ++ told) (quiet : Quiet told)
      (inbound : next.2.transport.inbound = c.transport.inbound)
      (names : ∀ name, next.2.phase.name? = some name → c.phase.name? = some name)
      (out : ¬ c.Enrols hub key b)
  | item {item rest told} (inbound : c.transport.inbound = item :: rest)
      (left : next.2.transport.inbound = rest)
      (story : next.1.story = hub.story ++ .connection c.id (.consumed item) :: told)
      (quiet : Quiet told) (wordless : item.text? = none) (reading : c.phase.rank ≤ 3)
      (last : item.isEnd = false ∨ 4 ≤ next.2.phase.rank)
      (names : ∀ name, next.2.phase.name? = some name → c.phase.name? = some name)
  | name {name rest told} (inbound : c.transport.inbound = .text name :: rest)
      (left : next.2.transport.inbound = rest)
      (story : next.1.story = hub.story ++ .connection c.id (.consumed (.text name)) ::
        .connection c.id (.named name) :: told)
      (quiet : Quiet told) (early : c.phase.rank ≤ 2)
      (outcome : 4 ≤ next.2.phase.rank ∨
        next.2.phase.name? = some name ∧ c.Enrols hub key b)
  | line {session text rest delivered failed} (phase : c.phase = .active session)
      (inbound : c.transport.inbound = .text text :: rest)
      (left : next.2.transport.inbound = rest)
      (story : next.1.story = hub.story ++ [.connection c.id (.consumed (.text text)),
        .connection c.id (.received text.utf8ByteSize),
        .broadcast ⟨c.id, session.name, text⟩ delivered failed])
      (after : next.2.phase.name? = some session.name)

/-- Only a task in the handshake is registered. -/
theorem not_enrols (b : Branch) (h : c.phase.rank ≠ 2) : ¬ c.Enrols hub key b := by
  rintro ⟨-, deadline, name, rest, registry, phase, -⟩
  rw [phase] at h
  exact h rfl

theorem Leaving.intake {b : Branch} {c' : Connection} {remarks : List ConnectionEvent}
    {result : Option ConnectionFault} (h : Leaving config s c hub key b c' remarks result) :
    Intake c hub key b (c'.leave config (c.noteAll hub remarks) key result) := by
  obtain ⟨serving, id, same⟩ := h.serving
  have serving := Phase.isServing_iff.mp serving
  have out : ¬ c.Enrols hub key b := not_enrols b (by omega)
  have story : (c'.leave config (c.noteAll hub remarks) key result).1.story = hub.story ++
      (remarks.map (Event.connection c.id) ++
        [.connection c'.id (.moved c'.phase.stage .closing)]) := by
    rw [leave_eq, wrapUp_story, Hub.unregister_story, noteAll_story, List.append_assoc]
  have names : ∀ name, (c'.leave config (c.noteAll hub remarks) key result).2.phase.name? =
      some name → c.phase.name? = some name := fun name found => by cases found
  cases h with
  | readFailed phase inbound =>
    exact .item inbound rfl story ⟨rfl, rfl, rfl⟩ rfl (Nat.le_of_eq serving)
      (Or.inr (Nat.le_refl 4)) names
  | hungUp phase inbound =>
    exact .item inbound rfl story ⟨rfl, rfl, rfl⟩ rfl (Nat.le_of_eq serving)
      (Or.inr (Nat.le_refl 4)) names
  | @writeFailed session write fault phase mode =>
    refine .nothing story ?_ rfl names out
    rw [List.map_append]
    exact ((write.announcement_quiet c.id).append ⟨rfl, rfl, rfl⟩).append ⟨rfl, rfl, rfl⟩
  | _ => exact .nothing story ⟨rfl, rfl, rfl⟩ rfl names out

theorem GivingUp.intake {deadline : Nat} {b : Branch} {meters : Meters} {c' : Connection}
    {remarks : List ConnectionEvent} {result : Option ConnectionFault}
    (phase : c.phase = .handshake deadline)
    (h : GivingUp config s c hub key b meters c' remarks result) :
    Intake c hub key b (c'.wrapUp config (c.noteAll { hub with meters } remarks) key result) := by
  have waiting : c.phase.rank = 2 := by rw [phase]; rfl
  have story : (c'.wrapUp config (c.noteAll { hub with meters } remarks) key result).1.story =
      hub.story ++ (remarks.map (Event.connection c.id) ++
        [.connection c'.id (.moved c'.phase.stage .closing)]) := by
    rw [wrapUp_story, noteAll_story, List.append_assoc]
    rfl
  have names : ∀ name, (c'.wrapUp config (c.noteAll { hub with meters } remarks) key
      result).2.phase.name? = some name → c.phase.name? = some name :=
    fun name found => by cases found
  cases h with
  | readFailed inbound =>
    exact .item inbound rfl story ⟨rfl, rfl, rfl⟩ rfl (by omega) (Or.inr (Nat.le_refl 4)) names
  | hungUp inbound =>
    exact .item inbound rfl story ⟨rfl, rfl, rfl⟩ rfl (by omega) (Or.inr (Nat.le_refl 4)) names
  | refused inbound =>
    exact .name inbound rfl story ⟨rfl, rfl, rfl⟩ (by omega) (Or.inl (Nat.le_refl 4))
  | overdue => exact .nothing story ⟨rfl, rfl, rfl⟩ rfl names fun enrols => by cases enrols.1
  | shutdown => exact .nothing story ⟨rfl, rfl, rfl⟩ rfl names fun enrols => by cases enrols.1

theorem Transition.intake {b : Branch} {next : Hub × Connection}
    (h : Transition config s c hub key b next) : Intake c hub key b next := by
  have own := own_noteAll c hub key
  cases h with
  | start phase =>
    exact .nothing ((own [.began c.peer]).note _).story ⟨rfl, rfl, rfl⟩ rfl
      (fun name found => by cases found) (not_enrols _ (by simp [phase, Phase.rank]))
  | @ignore deadline item rest phase inbound wordless =>
    have text : item.text? = none ∧ item.isEnd = false := by
      rcases wordless with rfl | ⟨size, rfl⟩ <;> exact ⟨rfl, rfl⟩
    exact .item inbound rfl (own [.consumed item]).story ⟨rfl, rfl, rfl⟩ text.1
      (by simp [phase, Phase.rank]) (Or.inl text.2) fun name found => found
  | giveUp phase reason => exact reason.intake phase
  | @enter deadline name rest hub' tick phase inbound small registered scheduled =>
    obtain ⟨registry, done, -⟩ := Hub.register_eq_ok_iff.mp registered
    exact .name inbound rfl (((own _).register registered).note (.moved .handshake .active)).story
      ⟨rfl, rfl, rfl⟩ (by simp [phase, Phase.rank])
      (Or.inr ⟨rfl, rfl, deadline, name, rest, registry, phase, inbound, by simpa using done⟩)
  | @enterLate deadline name rest hub' phase inbound small registered late =>
    have noted := ((own _).register registered).note (.moved .handshake .active)
    have died := Own.die (c := { c.reading rest with
      phase := .active ⟨name, hub'.now, hub'.now⟩ }) noted .panicked
    exact .name inbound rfl died.story ⟨rfl, rfl, rfl⟩ (by simp [phase, Phase.rank])
      (Or.inl (by simp [Phase.rank]))
  | @tooLarge deadline name rest phase inbound large =>
    have died := Own.die (c := c.reading rest) (own [.consumed (.text name), .named name]) .panicked
    exact .name inbound rfl died.story ⟨rfl, rfl, rfl⟩ (by simp [phase, Phase.rank])
      (Or.inl (by simp [Phase.rank]))
  | @line session text rest phase inbound =>
    have story := (Hub.broadcast_frame (c.noteAll hub [.consumed (.text text),
      .received text.utf8ByteSize]) ⟨c.id, session.name, text⟩).2.2.2
    rw [noteAll_story, List.append_assoc] at story
    exact .line phase inbound rfl story rfl
  | @sign session rest phase inbound =>
    refine .item inbound rfl (own [.consumed .lifeSign]).story ⟨rfl, rfl, rfl⟩ rfl
      (by simp [phase, Phase.rank]) (Or.inl rfl) ?_
    rw [phase]
    exact fun name found => found
  | @drop session size rest phase inbound =>
    exact .item inbound rfl (own [.consumed (.binary size)]).story ⟨rfl, rfl, rfl⟩ rfl
      (by simp [phase, Phase.rank]) (Or.inl rfl) fun name found => found
  | @take session text hub' phase taken =>
    refine .nothing (((own []).take taken).note (.taken text)).story ⟨rfl, rfl, rfl⟩ rfl ?_
      (not_enrols _ (by simp [phase, Phase.rank]))
    rw [phase]
    exact fun name found => found
  | ping phase due heard =>
    refine .nothing (own []).story ⟨rfl, rfl, rfl⟩ rfl ?_
      (not_enrols _ (by simp [phase, Phase.rank]))
    rw [phase]
    exact fun name found => found
  | @written session write phase mode =>
    refine .nothing (own _).story ?_ rfl ?_ (not_enrols _ (by simp [phase, Phase.rank]))
    · rw [List.map_append]
      exact (write.announcement_quiet c.id).append ⟨rfl, rfl, rfl⟩
    · rw [phase]
      exact fun name found => found
  | @hang session write phase mode =>
    refine .nothing (own _).story (write.announcement_quiet c.id) rfl ?_
      (not_enrols _ (by simp [phase, Phase.rank]))
    rw [phase]
    exact fun name found => found
  | leave reason => exact reason.intake
  | @closeHang result begun deadline phase mode =>
    refine .nothing (own _).story ?_ rfl (fun name found => by cases found)
      (not_enrols _ (by simp [phase, Phase.rank]))
    cases begun <;> exact ⟨rfl, rfl, rfl⟩
  | @conclude result begun deadline b remarks phase closed =>
    refine .nothing ((own remarks).note (.returned c.peer result)).story ?_ rfl
      (fun name found => by cases found) (not_enrols _ (by simp [phase, Phase.rank]))
    cases closed <;> cases begun <;> exact ⟨rfl, rfl, rfl⟩

/-- A step takes what it reads off the transport, and enters it. -/
theorem Intake.ledger {b : Branch} {next : Hub × Connection} (h : Intake c hub key b next)
    (forward : c.phase.rank ≤ next.2.phase.rank) {admitted : Prop} {events : List Event}
    (l : Ledger c.id admitted c.phase events) :
    ∃ told, next.1.story = hub.story ++ told ∧
      c.transport.inbound = itemsOf told ++ next.2.transport.inbound ∧
      Ledger c.id (admitted ∨ c.Enrols hub key b) next.2.phase (events ++ told) := by
  cases h with
  | @nothing told story quiet inbound names out =>
    refine ⟨told, story, by rw [quiet.items, inbound]; rfl, ?_⟩
    rw [or_iff_left out]
    exact l.keep quiet forward names
  | @item item rest told inbound left story quiet wordless reading last names =>
    have out : ¬ c.Enrols hub key b := by
      rintro ⟨-, deadline, name, more, registry, -, inbound', -⟩
      rw [inbound] at inbound'
      rw [(List.cons.inj inbound').1] at wordless
      cases wordless
    have items : itemsOf (.connection c.id (.consumed item) :: told) = [item] :=
      congrArg (item :: ·) quiet.items
    refine ⟨_, story, by rw [items, inbound, left]; rfl, ?_⟩
    rw [or_iff_left out]
    exact l.item items quiet.names quiet.messages wordless reading last forward names
  | @name name rest told inbound left story quiet early outcome =>
    have items : itemsOf (.connection c.id (.consumed (.text name)) ::
        .connection c.id (.named name) :: told) = [.text name] :=
      congrArg (Inbound.text name :: ·) quiet.items
    exact ⟨_, story, by rw [items, inbound, left]; rfl,
      l.name items (congrArg (name :: ·) quiet.names) quiet.messages early outcome⟩
  | @line session text rest delivered failed phase inbound left story after =>
    refine ⟨_, story, by rw [inbound, left]; rfl, ?_⟩
    rw [or_iff_left (not_enrols b (by simp [phase, Phase.rank]))]
    exact l.line rfl rfl rfl (by rw [phase]; rfl) after

/-- A task that goes on serving its client does so under the same name. -/
theorem Intake.title {b : Branch} {next : Hub × Connection} (h : Intake c hub key b next) :
    ∀ name, c.phase.name? = some name → next.2.phase.isServing = true →
      next.2.phase.name? = some name := by
  intro name before serving
  have named : ∃ other, next.2.phase.name? = some other := by
    cases phase : next.2.phase <;> simp_all [Phase.isServing, Phase.name?]
  obtain ⟨other, after⟩ := named
  have reading := Phase.rank_of_name before
  cases h with
  | nothing _ _ _ names => exact (names other after).symm.trans before ▸ after
  | item _ _ _ _ _ _ _ names => exact (names other after).symm.trans before ▸ after
  | name _ _ _ _ early => omega
  | line phase _ _ _ same =>
    rw [phase] at before
    exact same.trans before

/-- A new member has the queue of the task and the name under which the task goes on to serve. -/
theorem Transition.newcomer {b : Branch} {next : Hub × Connection}
    (h : Transition config s c hub key b next) : ∀ m ∈ next.1.registry.members,
      m ∈ hub.registry.members ∨ m.queue = key ∧ next.2.phase.name? = some m.name := by
  intro m hm
  cases h.outline with
  | stay _ _ _ registry => exact Or.inl (registry ▸ hm)
  | part _ _ _ _ registry =>
    rw [registry] at hm
    exact Or.inl (Registry.mem_unregister.mp hm).1
  | speak _ _ _ _ registry _ _ spoken =>
    rw [spoken, Hub.broadcast_registry, registry] at hm
    exact Or.inl (Registry.mem_without.mp hm).1
  | join _ _ waiting serving =>
    cases h with
    | @enter deadline name rest hub' tick phase inbound small registered scheduled =>
      obtain ⟨registry, done, same⟩ := Hub.register_eq_ok_iff.mp registered
      have members : m ∈ registry.members := by simpa [same, note] using hm
      rw [(Registry.register_eq_ok_iff.mp done).2.2] at members
      rcases Registry.mem_insertById.mp members with rfl | old
      · exact Or.inr ⟨rfl, rfl⟩
      · exact Or.inl (by simpa using old)
    | leave reason => simp [reason.serving.1] at waiting
    | ignore phase => simp [phase, Phase.isServing] at serving
    | drop phase => simp [phase, Phase.isServing] at waiting
    | giveUp => simp [wrapUp, move, Phase.isServing] at serving
    | conclude => simp [Phase.isServing] at serving
    | _ => simp_all [Phase.isServing, move]

end Steps

end Connection

end ChatRelay
