import ChatRelay.Proofs.Relay.Stages

/-!
# What a task has done

The part of the story that one task has told: by its own steps, and by its abort. What each of these
keeps in agreement with where the task stands holds of every task in every run.
-/

namespace ChatRelay

namespace Relay

def Moment.own (s : Moment) (key : Nat) : List Event :=
  if s.action.actor? = some key then s.news else []

def own (key : Nat) (history : List Moment) : List Event := history.flatMap fun s => s.own key

/-- A statement about where a task stands and what it has told that every step of the task keeps. -/
structure Chronicle (P : Phase → List Event → Prop) : Prop where
  start : P .connecting []
  step : ∀ {config s c hub key b next events}, Connection.Transition config s c hub key b next →
    P c.phase events → ∃ told, next.1.story = hub.story ++ told ∧ P next.2.phase (events ++ told)
  abort : ∀ {phase events} (id : ConnectionId), phase.isOver = false → P phase events →
    P (.ended .aborted) (events ++ [.connection id .aborted])

namespace Chronicle

variable {P : Phase → List Event → Prop}

/-- The statement about the task of a connection, or that nothing was told if there is none. -/
def At (P : Phase → List Event → Prop) (r : Relay) (key : Nat) (events : List Event) : Prop :=
  match r.task? key with
  | none => events = []
  | some (_, phase) => P phase events

theorem at_of_some {r : Relay} {key : Nat} {events : List Event} {id : ConnectionId} {phase : Phase}
    (here : r.task? key = some (id, phase)) : At P r key events ↔ P phase events := by
  rw [At, here]

theorem change (h : Chronicle P) {r r' : Relay} {a : Action} (change : Change r a r') {key : Nat}
    {events : List Event} (p : At P r key events) :
    ∃ told, r'.hub.story = r.hub.story ++ told ∧
      At P r' key (events ++ if a.actor? = some key then told else []) := by
  by_cases own : a.actor? = some key
  · simp only [if_pos own]
    rcases change.task_own own with ⟨task, story⟩ | ⟨c, next, here, rfl, step⟩
    · refine ⟨[], by simp [story], ?_⟩
      rw [List.append_nil, At, task]
      exact p
    · have before := (at_of_some (task?_of_some here)).mp p
      simp only [update_hub, at_of_some (task?_update_self here next.1 next.2)]
      rcases step with ⟨b, -, transition⟩ | ⟨rfl, alive⟩
      · exact h.step transition before
      · exact ⟨_, Connection.die_story c r.hub key .aborted, h.abort c.id alive before⟩
  · obtain ⟨told, story⟩ := change.story
    refine ⟨told, story, ?_⟩
    rw [if_neg own, List.append_nil]
    rcases change.task_other own with task | ⟨absent, id, task⟩
    · rw [At, task]
      exact p
    · rw [At, absent] at p
      rw [at_of_some task, p]
      exact h.start

/-- A statement that every step of a task keeps holds in every run. -/
theorem run_at (h : Chronicle P) (config : RelayConfig) (actions : List Action) (key : Nat) :
    At P (run config actions) key (own key (history config actions)) := by
  induction actions using List.reverseRecOn with
  | nil => simp [At, run, ofConfig, task?, own, history, historyFrom]
  | append_singleton actions a ih =>
    obtain ⟨told, story, after⟩ := h.change (act_change _ a) ih
    have news : (Moment.mk (run config actions) a).news = told := Moment.news_eq story
    have more : own key (history config (actions ++ [a])) =
        own key (history config actions) ++ if a.actor? = some key then told else [] := by
      simp [own, history_append, Moment.own, news]
    rw [run_append, more]
    exact after

theorem run (h : Chronicle P) {config : RelayConfig} {actions : List Action} {key : Nat}
    {c : Connection} (here : (run config actions).connections[key]? = some c) :
    P c.phase (own key (history config actions)) :=
  (at_of_some (task?_of_some here)).mp (h.run_at config actions key)

end Chronicle

end Relay

end ChatRelay
