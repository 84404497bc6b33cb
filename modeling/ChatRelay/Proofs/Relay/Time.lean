import ChatRelay.Proofs.Connection.Timing
import ChatRelay.Proofs.Relay.Membership

/-!
# Time in runs

The clock moves only when time passes, and what tasks wait for was set when the clock said so. To
follow one task through a run is to know, for each action, whether the task takes a step, is aborted
or stays where it is.
-/

namespace ChatRelay

namespace Relay

theorem Effect.now {r r' : Relay} {a : Action} (effect : Effect r a r') :
    r'.hub.now = r.hub.now + a.span := by
  cases effect with
  | nothing mild still => rw [still, Nat.add_zero]
  | abort =>
    rw [update_hub]
    exact (Connection.outline_die _).frame.2.2.2.1
  | step here transition =>
    rw [update_hub]
    exact transition.outline.frame.2.2.2.1
  | unregister => exact Hub.unregister_now _ _
  | endRegistry => exact Hub.endRegistry_now _
  | broadcast => exact (Hub.broadcast_frame _ _).2.1
  | _ => rfl

theorem act_now (r : Relay) (a : Action) : (r.act a).hub.now = r.hub.now + a.span :=
  (act_effect r a).now

theorem now_le_act (r : Relay) (a : Action) : r.hub.now ≤ (r.act a).hub.now := by
  rw [act_now]
  exact Nat.le_add_right _ _

theorem Change.config {r r' : Relay} {a : Action} (change : Change r a r') :
    r'.config = r.config := by
  cases change with
  | calm _ calm => exact calm.config
  | connect => rfl
  | step => exact update_config _ _ _ _
  | abort => exact update_config _ _ _ _
  | unregister => rfl
  | endRegistry => rfl
  | broadcast => rfl

@[simp] theorem run_config (config : RelayConfig) (actions : List Action) :
    (run config actions).config = config := by
  induction actions using List.reverseRecOn with
  | nil => rfl
  | append_singleton actions a ih => rw [run_append, (act_change _ a).config, ih]

/-- The signal stays set unless somebody takes it back. -/
theorem Effect.isSet {r r' : Relay} {a : Action} (effect : Effect r a r') (kept : a ≠ .send false)
    (set : r.signal.isSet = true) : r'.signal.isSet = true := by
  cases effect with
  | @send value signal sent =>
    have same : signal.isSet = value := by
      unfold Signal.send? at sent
      split at sent
      · cases sent
        rfl
      · cases sent
    cases value with
    | true => exact same
    | false => exact absurd rfl kept
  | step => rwa [update_signal]
  | abort => rwa [update_signal]
  | _ => exact set

/-- Whether the registry has ended after an action. -/
theorem Change.ended {r r' : Relay} {a : Action} (change : Change r a r') :
    r'.hub.registry.ended = true ↔ r.hub.registry.ended = true ∨ a = .endRegistry := by
  cases change with
  | calm mild calm =>
    have other : a ≠ .endRegistry := by
      rintro rfl
      cases mild
    rw [calm.registry, or_iff_left other]
  | connect mild =>
    have other : a ≠ .endRegistry := by
      rintro rfl
      cases mild
    rw [or_iff_left other]
    rfl
  | step here transition => simp [update_hub, transition.outline.ended]
  | abort => simp [update_hub, (Connection.outline_die .aborted).ended]
  | unregister => simp [Registry.unregister]
  | endRegistry => simp [Registry.close]
  | broadcast => simp [Hub.broadcast_registry, Registry.without]

/-- What becomes of a task in an action, told by where it stands. -/
inductive Went (r : Relay) (key : Nat) (c : Connection) (a : Action) : Phase → Prop where
  | still : Went r key c a c.phase
  | step {b next} (act : a = .step key b)
      (transition : Connection.Transition r.config (r.surroundings key) c r.hub key b next) :
      Went r key c a next.2.phase
  | aborted (own : a.actor? = some key) : Went r key c a (.ended .aborted)

theorem act_went {r : Relay} {key : Nat} {c : Connection} (here : r.connections[key]? = some c)
    (a : Action) : ∃ c', (r.act a).connections[key]? = some c' ∧ c'.id = c.id ∧
      Went r key c a c'.phase := by
  have before := task?_of_some here
  have stays : (r.act a).task? key = r.task? key → ∃ c', (r.act a).connections[key]? = some c' ∧
      c'.id = c.id ∧ Went r key c a c'.phase := by
    intro task
    obtain ⟨c', here', id, phase⟩ := task?_eq_some.mp (task.trans before)
    exact ⟨c', here', id, phase ▸ .still⟩
  by_cases own : a.actor? = some key
  · rcases (act_change r a).task_own own with ⟨task, -⟩ | ⟨c₀, next, here₀, after, step⟩
    · exact stays task
    · obtain rfl : c₀ = c := Option.some.inj (here₀.symm.trans here)
      have task : (r.act a).task? key = some (next.2.id, next.2.phase) := by
        rw [after, task?_update_self here]
      obtain ⟨c', here', id, phase⟩ := task?_eq_some.mp task
      rcases step with ⟨b, act, transition⟩ | ⟨died, -⟩
      · exact ⟨c', here', id.trans transition.outline.frame.1, phase ▸ .step act transition⟩
      · subst died
        exact ⟨c', here', id, phase ▸ .aborted own⟩
  · rcases (act_change r a).task_other own with task | ⟨absent, -⟩
    · exact stays task
    · rw [before] at absent
      cases absent

/-- A task that an action begins has not moved yet. -/
theorem act_begins {r : Relay} {key : Nat} (absent : r.connections[key]? = none) {a : Action}
    {c : Connection} (here : (r.act a).connections[key]? = some c) : c.phase = .connecting := by
  have before : r.task? key = none := by simp [task?, absent]
  have after := task?_of_some here
  by_cases own : a.actor? = some key
  · rcases (act_change r a).task_own own with ⟨task, -⟩ | ⟨c₀, next, here₀, -⟩
    · rw [task, before] at after
      cases after
    · rw [absent] at here₀
      cases here₀
  · rcases (act_change r a).task_other own with task | ⟨-, id, task⟩
    · rw [task, before] at after
      cases after
    · rw [task] at after
      exact (Prod.mk.inj (Option.some.inj after)).2.symm

section Runs

variable {config : RelayConfig} {actions more : List Action}

theorem historyFrom_split (a : Action) (later : List Action) :
    historyFrom (run config actions) (more ++ a :: later) = historyFrom (run config actions) more ++
      ⟨run config (actions ++ more), a⟩ ::
        historyFrom (run config (actions ++ more ++ [a])) later := by
  rw [historyFrom_append, run_append, run, run, List.foldl_append]
  rfl

theorem historyFrom_concat (a : Action) : historyFrom (run config actions) (more ++ [a]) =
    historyFrom (run config actions) more ++ [⟨run config (actions ++ more), a⟩] :=
  historyFrom_split a []

/-- The registry has ended if somebody ended it. -/
theorem run_ended : (run config actions).hub.registry.ended = true ↔ .endRegistry ∈ actions := by
  induction actions using List.reverseRecOn with
  | nil => simp [run, ofConfig]
  | append_singleton actions a ih =>
    rw [run_append, (act_change _ a).ended, ih]
    simp [eq_comm]

theorem now_le_more (config : RelayConfig) (actions more : List Action) :
    (run config actions).hub.now ≤ (run config (actions ++ more)).hub.now := by
  induction more using List.reverseRecOn with
  | nil => simp
  | append_singleton more a ih =>
    rw [← List.append_assoc, run_append]
    exact Nat.le_trans ih (now_le_act _ a)

/-- What every later moment keeps holds at the end. -/
theorem run_later {P : Relay → Prop} (start : P (run config actions))
    (keep : ∀ s ∈ historyFrom (run config actions) more, P s.before → P s.after) :
    P (run config (actions ++ more)) := by
  induction more using List.reverseRecOn with
  | nil => simpa using start
  | append_singleton more a ih =>
    rw [historyFrom_concat] at keep
    rw [← List.append_assoc, run_append]
    refine keep ⟨run config (actions ++ more), a⟩ (by simp) (ih ?_)
    exact fun s hs => keep s (List.mem_append_left _ hs)

theorem reached_of_mem {s : Moment} (h : s ∈ historyFrom (run config actions) more) :
    ∃ earlier, s.before = run config earlier := by
  obtain ⟨earlier, a, later, -, rfl⟩ := mem_historyFrom h
  exact ⟨actions ++ earlier, (List.foldl_append ..).symm⟩

/-- A task does not go back in the moments that follow. -/
theorem rank_le_of_mem {s : Moment} (h : s ∈ historyFrom (run config actions) more) (key : Nat) :
    (run config actions).rank key ≤ s.before.rank key := by
  obtain ⟨earlier, a, later, -, rfl⟩ := mem_historyFrom h
  have reached : earlier.foldl act (run config actions) = run config (actions ++ earlier) :=
    (List.foldl_append ..).symm
  rw [reached]
  exact rank_le_run config actions earlier key

/-- What a task waits for was set by now. -/
theorem run_dated {key : Nat} {c : Connection}
    (here : (run config actions).connections[key]? = some c) :
    c.phase.Dated config (run config actions).hub.now := by
  induction actions using List.reverseRecOn generalizing c with
  | nil => simp [run, ofConfig] at here
  | append_singleton actions a ih =>
    rw [run_append] at here ⊢
    cases before : (run config actions).connections[key]? with
    | none =>
      rw [act_begins before here]
      trivial
    | some c₀ =>
      have dated := ih before
      obtain ⟨c', here', -, went⟩ := act_went before a
      obtain rfl : c' = c := Option.some.inj (here'.symm.trans here)
      have past := now_le_act (run config actions) a
      generalize c'.phase = phase at went ⊢
      cases went with
      | still => exact dated.later past
      | step act transition =>
        rw [run_config] at transition
        exact (transition.dated rfl dated).later past
      | aborted => trivial

theorem resting_of_unready {r : Relay} {key : Nat} (unready : ∀ b, r.ready key b = false)
    {c : Connection} (here : r.connections[key]? = some c) : c.Resting (r.surroundings key) := by
  apply Connection.resting_of_unready
  intro b
  simpa [ready, here] using unready b

theorem resting_of_quiet {r : Relay} (quiet : r.isQuiet = true) {key : Nat} {c : Connection}
    (here : r.connections[key]? = some c) : c.Resting (r.surroundings key) :=
  resting_of_unready (not_ready_of_quiet quiet (Array.getElem?_eq_some_iff.mp here).1) here

end Runs

/-- Time passes only when the task of a connection has no step to take. -/
def Moment.Attentive (s : Moment) (key : Nat) : Prop :=
  0 < s.action.span → ∀ b ∈ Branch.all, s.before.ready key b = false

instance (s : Moment) (key : Nat) : Decidable (s.Attentive key) :=
  inferInstanceAs (Decidable
    (0 < s.action.span → ∀ b ∈ Branch.all, s.before.ready key b = false))

theorem Moment.Attentive.resting {s : Moment} {key : Nat} (h : s.Attentive key)
    (passes : 0 < s.action.span) {c : Connection} (here : s.before.connections[key]? = some c) :
    c.Resting (s.before.surroundings key) :=
  resting_of_unready (fun b => h passes b (by cases b <;> decide)) here

end Relay

end ChatRelay
