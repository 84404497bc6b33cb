import ChatRelay.Proofs.Relay.Sound

/-!
# The stages of a task

A task goes through its stages in one of two ways: from the handshake straight to closing, or by way
of its registration. It may be aborted or panic anywhere, and never goes back.
-/

namespace ChatRelay

def Event.move? : Event → Option (Stage × Stage)
  | .connection _ (.moved before after) => some (before, after)
  | _ => none

/-- The way of a task that is never registered. -/
def Stage.shortWay : List (Stage × Stage) :=
  [(.connecting, .handshake), (.handshake, .closing)]

/-- The way of a task that is registered. -/
def Stage.longWay : List (Stage × Stage) :=
  [(.connecting, .handshake), (.handshake, .active), (.active, .closing)]

namespace Phase

/-- The moves by which a task came to where it stands. -/
def Passed (moves : List (Stage × Stage)) : Phase → Prop
  | .connecting => moves = []
  | .handshake _ => moves = [(.connecting, .handshake)]
  | .active _ => moves = [(.connecting, .handshake), (.handshake, .active)]
  | .writing .. => moves = [(.connecting, .handshake), (.handshake, .active)]
  | .closing .. => moves = Stage.shortWay ∨ moves = Stage.longWay
  | .ended (.returned _) => moves = Stage.shortWay ∨ moves = Stage.longWay
  | .ended _ => moves <+: Stage.shortWay ∨ moves <+: Stage.longWay

/-- How far a task is on its way. -/
def rank : Phase → Nat
  | .connecting => 1
  | .handshake _ => 2
  | .active _ => 3
  | .writing .. => 3
  | .closing .. => 4
  | .ended _ => 5

theorem isServing_iff {phase : Phase} : phase.isServing = true ↔ phase.rank = 3 := by
  cases phase <;> simp [isServing, rank]

theorem idle_of_isOver {phase : Phase} (h : phase.isOver = true) : phase.isServing = false := by
  cases phase <;> simp_all [isOver, isServing]

/-- Wherever a task stands, its moves are the beginning of one of the two ways. -/
theorem Passed.beginning {phase : Phase} {moves : List (Stage × Stage)} (h : phase.Passed moves) :
    moves <+: Stage.shortWay ∨ moves <+: Stage.longWay := by
  have whole : moves = Stage.shortWay ∨ moves = Stage.longWay →
      moves <+: Stage.shortWay ∨ moves <+: Stage.longWay := by
    rintro (rfl | rfl)
    · exact Or.inl (List.prefix_refl _)
    · exact Or.inr (List.prefix_refl _)
  cases phase with
  | connecting => exact Or.inl (h ▸ List.nil_prefix)
  | handshake deadline => exact Or.inl ⟨[(.handshake, .closing)], by rw [h]; rfl⟩
  | active session => exact Or.inr ⟨[(.active, .closing)], by rw [h]; rfl⟩
  | writing session write => exact Or.inr ⟨[(.active, .closing)], by rw [h]; rfl⟩
  | closing result begun deadline => exact whole h
  | ended outcome =>
    cases outcome with
    | returned fault => exact whole h
    | aborted => exact h
    | panicked => exact h

end Phase

namespace Connection

section Steps

variable {config : RelayConfig} {s : Surroundings} {c : Connection} {hub : Hub} {key : QueueKey}

theorem unmoved_of_remarks {events : List ConnectionEvent}
    (h : ∀ e ∈ events, e.isRemark = true) (id : ConnectionId) :
    (events.map (Event.connection id)).filterMap Event.move? = [] := by
  refine filterMap_remarks ?_ h id
  intro id e remark
  cases e with
  | moved => cases remark
  | _ => rfl

/-- A registered task is active or writing, and has come the same way to both. -/
theorem passed_of_serving {phase : Phase} {moves : List (Stage × Stage)} (h : phase.Passed moves)
    (serving : phase.isServing = true) :
    moves = [(.connecting, .handshake), (.handshake, .active)] ∧ phase.stage = .active := by
  cases phase with
  | active session => exact ⟨h, rfl⟩
  | writing session write => exact ⟨h, rfl⟩
  | _ => simp [Phase.isServing] at serving

/-- A step within a stage. -/
theorem passed_within {phase : Phase} {moves : List (Stage × Stage)} {hub' : Hub}
    {told : List Event} (story : hub'.story = hub.story ++ told)
    (unmoved : told.filterMap Event.move? = []) (p : phase.Passed moves) :
    ∃ told, hub'.story = hub.story ++ told ∧
      phase.Passed (moves ++ told.filterMap Event.move?) :=
  ⟨told, story, by rw [unmoved, List.append_nil]; exact p⟩

theorem Transition.passed {b : Branch} {next : Hub × Connection}
    (h : Transition config s c hub key b next) {moves : List (Stage × Stage)}
    (p : c.phase.Passed moves) :
    ∃ told, next.1.story = hub.story ++ told ∧
      next.2.phase.Passed (moves ++ told.filterMap Event.move?) := by
  cases h with
  | start phase =>
    refine ⟨_, ((own_noteAll c hub key [.began c.peer]).note _).story, ?_⟩
    rw [phase] at p ⊢
    rw [show moves = [] from p]
    rfl
  | @ignore deadline item rest phase inbound wordless =>
    exact passed_within (own_noteAll c hub key [.consumed item]).story rfl p
  | @giveUp deadline b meters c' remarks result phase reason =>
    obtain ⟨id, same⟩ := reason.same
    refine ⟨remarks.map (Event.connection c.id) ++
      [.connection c'.id (.moved c'.phase.stage .closing)], ?_, ?_⟩
    · rw [wrapUp_story, noteAll_story, List.append_assoc]
      rfl
    · rw [List.filterMap_append, unmoved_of_remarks reason.remarks, same, phase]
      rw [phase] at p
      rw [show moves = [(.connecting, .handshake)] from p]
      exact Or.inl rfl
  | @enter deadline name rest hub' tick phase inbound small registered scheduled =>
    refine ⟨_, (((own_noteAll c hub key _).register registered).note
      (.moved .handshake .active)).story, ?_⟩
    rw [phase] at p
    rw [show moves = [(.connecting, .handshake)] from p]
    rfl
  | @enterLate deadline name rest hub' phase inbound small registered late =>
    have noted := ((own_noteAll c hub key _).register registered).note (.moved .handshake .active)
    have died := Own.die (c := { c.reading rest with
      phase := .active ⟨name, hub'.now, hub'.now⟩ }) noted .panicked
    refine ⟨_, died.story, ?_⟩
    rw [phase] at p
    rw [show moves = [(.connecting, .handshake)] from p]
    exact Or.inr ⟨[(.active, .closing)], rfl⟩
  | @tooLarge deadline name rest phase inbound large =>
    have died := Own.die (c := c.reading rest)
      (own_noteAll c hub key [.consumed (.text name), .named name]) .panicked
    exact passed_within died.story rfl p.beginning
  | @line session text rest phase inbound =>
    rw [phase] at p
    exact passed_within
      (by rw [(Hub.broadcast_frame _ _).2.2.2, noteAll_story, List.append_assoc]) rfl p
  | @sign session rest phase inbound =>
    rw [phase] at p
    exact passed_within (own_noteAll c hub key [.consumed .lifeSign]).story rfl p
  | @drop session size rest phase inbound =>
    exact passed_within (own_noteAll c hub key [.consumed (.binary size)]).story rfl p
  | @take session text hub' phase taken =>
    rw [phase] at p
    exact passed_within (((own_noteAll c hub key []).take taken).note (.taken text)).story rfl p
  | ping phase due heard =>
    rw [phase] at p
    exact passed_within (own_noteAll c hub key []).story rfl p
  | @written session write phase mode =>
    rw [phase] at p
    refine passed_within (noteAll_story _ _ _) ?_ p
    rw [List.map_append, List.filterMap_append, unmoved_of_remarks (announcement_remarks write)]
    rfl
  | @hang session write phase mode =>
    rw [phase] at p
    exact passed_within (noteAll_story _ _ _) (unmoved_of_remarks (announcement_remarks write) _) p
  | @leave b c' remarks result reason =>
    obtain ⟨serving, id, same⟩ := reason.serving
    obtain ⟨rfl, active⟩ := passed_of_serving p serving
    refine ⟨remarks.map (Event.connection c.id) ++
      [.connection c'.id (.moved c'.phase.stage .closing)], ?_, ?_⟩
    · rw [leave_eq, wrapUp_story, Hub.unregister_story, noteAll_story, List.append_assoc]
    · rw [List.filterMap_append, unmoved_of_remarks reason.remarks, same, active]
      exact Or.inr rfl
  | @closeHang result begun deadline phase mode =>
    rw [phase] at p
    refine passed_within (noteAll_story _ _ _) ?_ p
    cases begun <;> rfl
  | @conclude result begun deadline b remarks phase closed =>
    rw [phase] at p
    refine passed_within (by rw [conclude_story, noteAll_story, List.append_assoc]) ?_ p
    rw [List.filterMap_append, unmoved_of_remarks closed.remarks]
    rfl

/-- A task never goes back. -/
theorem Transition.rank_le {b : Branch} {next : Hub × Connection}
    (h : Transition config s c hub key b next) : c.phase.rank ≤ next.2.phase.rank := by
  cases h with
  | giveUp phase reason =>
    rw [phase]
    exact Nat.le_of_lt (by decide : 2 < 4)
  | leave reason =>
    rw [Phase.isServing_iff.mp reason.serving.1]
    exact Nat.le_succ 3
  | ignore => exact Nat.le_refl _
  | drop => exact Nat.le_refl _
  | _ => simp_all [Phase.rank, move, prepare]

end Steps

end Connection

namespace Relay

def Moment.moves (s : Moment) (key : Nat) : List (Stage × Stage) :=
  if s.action.actor? = some key then s.news.filterMap Event.move? else []

def moves (key : Nat) (history : List Moment) : List (Stage × Stage) :=
  history.flatMap fun s => s.moves key

/-- The moves by which a task came to where it stands, if there is one. -/
def Passed (r : Relay) (key : Nat) (moves : List (Stage × Stage)) : Prop :=
  match r.task? key with
  | none => moves = []
  | some (_, phase) => phase.Passed moves

/-- How far a task is on its way; nothing of it has begun as long as its client is not there. -/
def rank (r : Relay) (key : Nat) : Nat := (r.task? key).elim 0 fun task => task.2.rank

section Actions

variable {r r' : Relay} {key : Nat} {moves : List (Stage × Stage)}

theorem passed_of_some {id : ConnectionId} {phase : Phase} (here : r.task? key = some (id, phase)) :
    r.Passed key moves ↔ phase.Passed moves := by
  rw [Passed, here]

theorem rank_of_some {id : ConnectionId} {phase : Phase} (here : r.task? key = some (id, phase)) :
    r.rank key = phase.rank := by
  simp [rank, here]

theorem Passed.keep (p : r.Passed key moves) (task : r'.task? key = r.task? key) :
    r'.Passed key moves := by
  rw [Passed, task]
  exact p

/-- What an action does to a task that is not its own: nothing, unless it begins the task. -/
theorem Change.task_other {a : Action} (change : Change r a r') (other : a.actor? ≠ some key) :
    r'.task? key = r.task? key ∨
      r.task? key = none ∧ ∃ id, r'.task? key = some (id, .connecting) := by
  cases change with
  | calm _ calm => exact Or.inl (calm.tasks key)
  | @connect a upgrades peer transport slot =>
    have task := task?_connect { r with upgrades } peer transport slot key
    by_cases last : key = r.connections.size
    · rw [if_pos last] at task
      exact Or.inr ⟨by simp [task?, last], _, task⟩
    · rw [if_neg last] at task
      exact Or.inl task
  | @step k b c next here transition =>
    rw [task?_update next.1 next.2 here, if_neg]
    · exact Or.inl rfl
    · rintro rfl
      exact other rfl
  | @abort k c here alive =>
    rw [task?_update _ _ here, if_neg]
    · exact Or.inl rfl
    · rintro rfl
      exact other rfl
  | unregister => exact Or.inl rfl
  | endRegistry => exact Or.inl rfl
  | broadcast => exact Or.inl rfl

/-- What an action does to its own task: a transition of it, or its death. -/
theorem Change.task_own {a : Action} (change : Change r a r') (own : a.actor? = some key) :
    r'.task? key = r.task? key ∧ r'.hub.story = r.hub.story ∨
      ∃ c next, r.connections[key]? = some c ∧ r' = r.update key next.1 next.2 ∧
        ((∃ b, a = .step key b ∧
            Connection.Transition r.config (r.surroundings key) c r.hub key b next) ∨
          next = c.die r.hub key .aborted ∧ c.phase.isOver = false) := by
  cases change with
  | calm _ calm => exact Or.inl ⟨calm.tasks key, calm.story⟩
  | connect mild nobody => simp [nobody] at own
  | @step k b c next here transition =>
    obtain rfl : k = key := by simpa [Action.actor?] using own
    exact Or.inr ⟨c, next, here, rfl, Or.inl ⟨b, rfl, transition⟩⟩
  | @abort k c here alive =>
    obtain rfl : k = key := by simpa [Action.actor?] using own
    exact Or.inr ⟨c, _, here, rfl, Or.inr ⟨rfl, alive⟩⟩
  | unregister => simp [Action.actor?] at own
  | endRegistry => simp [Action.actor?] at own
  | broadcast => simp [Action.actor?] at own

/-- The story only grows. -/
theorem Change.story {a : Action} (change : Change r a r') :
    ∃ told, r'.hub.story = r.hub.story ++ told := by
  cases change with
  | calm _ calm => exact ⟨[], by simp [calm.story]⟩
  | connect => exact ⟨[], by simp⟩
  | step here transition =>
    rw [update_hub]
    exact transition.outline.story
  | abort here alive =>
    rw [update_hub]
    exact (Connection.outline_die .aborted).story
  | unregister => exact ⟨[], by simp⟩
  | endRegistry => exact ⟨[], by simp⟩
  | broadcast => exact ⟨_, (Hub.broadcast_frame _ _).2.2.2⟩

theorem Change.passed {a : Action} (change : Change r a r') (p : r.Passed key moves) :
    ∃ told, r'.hub.story = r.hub.story ++ told ∧
      r'.Passed key (moves ++ if a.actor? = some key then told.filterMap Event.move? else []) := by
  by_cases own : a.actor? = some key
  · simp only [if_pos own]
    rcases change.task_own own with ⟨task, story⟩ | ⟨c, next, here, rfl, step⟩
    · exact ⟨[], by simp [story], by simpa using p.keep task⟩
    · have before := (passed_of_some (task?_of_some here)).mp p
      rw [update_hub]
      rcases step with ⟨b, -, transition⟩ | ⟨rfl, -⟩
      · obtain ⟨told, story, after⟩ := transition.passed before
        refine ⟨told, story, ?_⟩
        rwa [passed_of_some (task?_update_self here _ _)]
      · refine ⟨_, Connection.die_story c r.hub key .aborted, ?_⟩
        rw [passed_of_some (task?_update_self here _ _),
          List.filterMap_cons_none rfl, List.filterMap_nil, List.append_nil]
        exact before.beginning
  · obtain ⟨told, story⟩ := change.story
    refine ⟨told, story, ?_⟩
    rw [if_neg own, List.append_nil]
    rcases change.task_other own with task | ⟨absent, id, task⟩
    · exact p.keep task
    · rw [Passed, absent] at p
      rw [passed_of_some task]
      exact p

/-- No task goes back. -/
theorem Change.rank_le {a : Action} (change : Change r a r') (key : Nat) :
    r.rank key ≤ r'.rank key := by
  by_cases own : a.actor? = some key
  · rcases change.task_own own with ⟨task, -⟩ | ⟨c, next, here, rfl, step⟩
    · exact Nat.le_of_eq (by rw [rank, rank, task])
    · rw [rank_of_some (task?_of_some here), rank_of_some (task?_update_self here _ _)]
      rcases step with ⟨b, -, transition⟩ | ⟨rfl, -⟩
      · exact transition.rank_le
      · rw [Connection.die_phase]
        cases c.phase <;> simp [Phase.rank]
  · rcases change.task_other own with task | ⟨absent, id, task⟩
    · exact Nat.le_of_eq (by rw [rank, rank, task])
    · simp [rank, absent]

end Actions

theorem run_passed (config : RelayConfig) (actions : List Action) (key : Nat) :
    (run config actions).Passed key (moves key (history config actions)) := by
  induction actions using List.reverseRecOn with
  | nil => simp [Passed, run, ofConfig, task?, moves, history, historyFrom]
  | append_singleton actions a ih =>
    obtain ⟨told, story, after⟩ := (act_change _ a).passed ih
    have news : (Moment.mk (run config actions) a).news = told := Moment.news_eq story
    have more : moves key (history config (actions ++ [a])) =
        moves key (history config actions) ++
          if a.actor? = some key then told.filterMap Event.move? else [] := by
      simp [moves, history_append, Moment.moves, news]
    rw [run_append, more]
    exact after

theorem rank_le_run (config : RelayConfig) (actions more : List Action) (key : Nat) :
    (run config actions).rank key ≤ (run config (actions ++ more)).rank key := by
  induction more using List.reverseRecOn with
  | nil => simp
  | append_singleton more a ih =>
    rw [← List.append_assoc, run_append]
    exact Nat.le_trans ih ((act_change _ a).rank_le key)

end Relay

end ChatRelay
