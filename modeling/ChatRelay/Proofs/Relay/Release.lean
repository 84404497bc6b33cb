import ChatRelay.Proofs.Connection.Dealings
import ChatRelay.Proofs.Relay.Chronicle
import ChatRelay.Proofs.Relay.Membership

/-!
# How a task lets go

However a task ends, it leaves the registry first and touches nobody else by that, and only then
asks its transport to close, once. It writes only while it serves its client.
-/

namespace ChatRelay

namespace Relay

def Moment.dealings (s : Moment) (key : Nat) : List ConnectionEvent :=
  (s.own key).filterMap Event.dealing?

def dealings (key : Nat) (history : List Moment) : List ConnectionEvent :=
  history.flatMap fun s => s.dealings key

theorem dealings_eq (key : Nat) (history : List Moment) :
    dealings key history = (own key history).filterMap Event.dealing? := by
  simp [dealings, own, Moment.dealings, List.filterMap_flatMap]

theorem chronicle_dealt : Chronicle fun phase events =>
    phase.Dealt (events.filterMap Event.dealing?) where
  start := rfl
  step := by
    intro config s c hub key b next events transition d
    obtain ⟨told, story, -, dealt⟩ := transition.deals d
    exact ⟨told, story, by rwa [List.filterMap_append]⟩
  abort := by
    intro phase events id alive d
    rw [List.filterMap_append]
    exact (List.append_nil (events.filterMap Event.dealing?)).symm ▸ d.settled

section Runs

variable {config : RelayConfig} {actions : List Action} {key : Nat} {c : Connection}

theorem run_dealt (here : (run config actions).connections[key]? = some c) :
    c.phase.Dealt (dealings key (history config actions)) := by
  rw [dealings_eq]
  exact chronicle_dealt.run here

/-- In each moment a task deals with its transport as its phase allows it. -/
theorem allows_of_dealing {s : Moment} (hs : s ∈ history config actions) {e : ConnectionEvent}
    (dealt : e ∈ s.dealings key) :
    ∃ c, s.before.connections[key]? = some c ∧ c.phase.Allows e := by
  by_cases own : s.action.actor? = some key
  · rw [Moment.dealings, Moment.own, if_pos own] at dealt
    rcases (act_change s.before s.action).task_own own with
      ⟨-, story⟩ | ⟨c, next, here, after, ⟨b, -, transition⟩ | ⟨died, -⟩⟩
    · have silent : s.news = [] := Moment.news_eq (by rw [Moment.after, story, List.append_nil])
      rw [silent] at dealt
      cases dealt
    · obtain ⟨earlier, a, later, -, before, -⟩ := mem_history hs
      have d := run_dealt (before ▸ here)
      obtain ⟨told, story, allowed, -⟩ := transition.deals d
      have news : s.news = told := Moment.news_eq (by rw [Moment.after, after, update_hub, story])
      rw [news] at dealt
      exact ⟨c, here, allowed e dealt⟩
    · have news : s.news = [.connection c.id .aborted] :=
        Moment.news_eq (by rw [Moment.after, after, update_hub, died, Connection.die_story]; rfl)
      rw [news] at dealt
      cases dealt
  · rw [Moment.dealings, Moment.own, if_neg own] at dealt
    cases dealt

/-- A task comes to serve its client only by its admission. -/
theorem Change.admits {r r' : Relay} {a : Action} (change : Change r a r')
    (waiting : r.serves key = false) (serving : r'.serves key = true) : r.Admits a key := by
  by_cases own : a.actor? = some key
  · rcases change.task_own own with ⟨task, -⟩ | ⟨c, next, here, rfl, step⟩
    · rw [serves_of_task task, waiting] at serving
      cases serving
    · rw [serves_update here] at serving
      rw [serves_of_some here] at waiting
      rcases step with ⟨b, rfl, transition⟩ | ⟨rfl, -⟩
      · obtain ⟨rfl, deadline, name, rest, registry, facts⟩ := transition.admission waiting serving
        exact ⟨rfl, c, deadline, name, rest, registry, here, facts⟩
      · simp [Phase.isServing] at serving
  · rcases change.task_other own with task | ⟨-, id, task⟩
    · rw [serves_of_task task, waiting] at serving
      cases serving
    · rw [serves_iff, rank_of_some task] at serving
      simp [Phase.rank] at serving

/-- Who serves its client has read its name, was registered, and serves it since then. -/
theorem since_of_serves (serving : (run config actions).serves key = true) :
    Since (fun s => s.Admits key ∧ s.after.serves key = true)
      (fun s => s.after.serves key = true) (history config actions) := by
  induction actions using List.reverseRecOn with
  | nil => simp [run, ofConfig, serves] at serving
  | append_singleton actions a ih =>
    rw [run_append] at serving
    rw [history_append, since_append]
    cases before : (run config actions).serves key with
    | true => exact Or.inr ⟨ih before, serving⟩
    | false => exact Or.inl ⟨(act_change _ a).admits before serving, serving⟩

end Runs

/-- A task that is not registered after its own action has touched no registration but its own, and
no queue of another. -/
theorem Change.alone {r r' : Relay} {a : Action} (change : Change r a r') (sound : r.Sound)
    {key : Nat} (own : a.actor? = some key) (left : r'.serves key = false) :
    r'.hub.registry.unregister (.nth key) = r.hub.registry.unregister (.nth key) ∧
      ∀ k, k ≠ key → r'.hub.queues[k]? = r.hub.queues[k]? := by
  have outlined : ∀ {c : Connection} {next : Hub × Connection}, r.connections[key]? = some c →
      Connection.Outline c r.hub key next → next.2.phase.isServing = false →
      next.1.registry.unregister (.nth key) = r.hub.registry.unregister (.nth key) ∧
        ∀ k, k ≠ key → next.1.queues[k]? = r.hub.queues[k]? := by
    intro c next here outline left
    cases outline with
    | stay _ own _ registry => exact ⟨by rw [registry], own.elsewhere⟩
    | join _ _ _ serving => rw [left] at serving; cases serving
    | part _ own _ _ registry =>
      rw [registry, sound.id_nth here]
      exact ⟨Registry.unregister_unregister _ _, own.elsewhere⟩
    | speak _ _ _ serving => rw [left] at serving; cases serving
  cases change with
  | calm mild calm => exact ⟨by rw [calm.registry], fun k _ => by rw [calm.queues]⟩
  | connect mild nobody => rw [nobody] at own; cases own
  | @step k b c next here transition =>
    obtain rfl : k = key := by simpa [Action.actor?] using own
    rw [update_hub]
    refine outlined here transition.outline ?_
    rwa [serves_update here] at left
  | @abort k c here alive =>
    obtain rfl : k = key := by simpa [Action.actor?] using own
    rw [update_hub]
    refine outlined here (Connection.outline_die _) ?_
    rwa [serves_update here] at left
  | unregister => cases own
  | endRegistry => cases own
  | broadcast => cases own

/-- How a task lets go: of its registration, of its transport and of what it was writing. -/
structure Release (config : RelayConfig) (actions : List Action) (key : Nat) (c : Connection) :
    Prop where
  /-- Who is over is not registered, however that came about. -/
  unregistered : c.phase.isOver = true → (run config actions).hub.registry.contains c.id = false
  /-- The leaving and the end of a task touch no other registration and no queue of another. -/
  alone : ∀ s ∈ history config actions, s.action.actor? = some key →
    s.after.stage? key = some .closing →
    s.after.hub.registry.unregister c.id = s.before.hub.registry.unregister c.id ∧
      ∀ k, k ≠ key → s.after.hub.queues[k]? = s.before.hub.queues[k]?
  returned : ∀ fault, c.phase = .ended (.returned fault) →
    (dealings key (history config actions)).count .closeBegun = 1
  once : (dealings key (history config actions)).count .closeBegun ≤ 1
  /-- The transport is asked to close when the connection is no longer registered. -/
  ordered : ∀ s ∈ history config actions, .closeBegun ∈ s.dealings key →
    s.before.hub.registry.contains c.id = false
  /-- The transport is asked for nothing after it was asked to close. -/
  final : ∀ earlier later,
    dealings key (history config actions) = earlier ++ .closeBegun :: later → later = []
  /-- A write is begun by a task that was registered and has not left since. -/
  attended : ∀ earlier a later, actions = earlier ++ a :: later → ∀ item,
    .writeBegun item ∈ (Moment.mk (run config earlier) a).dealings key →
    Since (fun s => s.Admits key ∧ s.after.serves key = true)
      (fun s => s.after.serves key = true) (history config earlier)
  /-- Every write that was begun has succeeded, except perhaps for the last one. -/
  succeeded : ∀ attempt ∈ (attempts (dealings key (history config actions))).dropLast,
    attempt.2 = some (.written attempt.1)

section Theorem

variable {config : RelayConfig} {actions : List Action} {key : Nat} {c : Connection}

/-- However a task went and ended, it let go in this order, and of nothing that belongs to others.
-/
theorem run_release (few : (run config actions).connections.size ≤ UInt64.size)
    (here : (run config actions).connections[key]? = some c) : Release config actions key c := by
  have dealt := run_dealt here
  obtain ⟨asked, settled⟩ := dealt.settled
  have sound := run_sound config actions
  constructor
  case unregistered => exact fun ended => sound.absent few here (Phase.idle_of_isOver ended)
  case alone =>
    intro s hs own after
    obtain ⟨earlier, a, later, -, before, -⟩ := mem_history hs
    rw [id_eq_nth here]
    refine (act_change s.before s.action).alone (before ▸ run_sound config earlier) own ?_
    have rank : 4 ≤ (s.before.act s.action).rank key := rank_of_closing after
    rw [← Bool.not_eq_true, serves_iff]
    omega
  case returned =>
    intro fault phase
    rw [phase] at dealt
    exact dealt.count
  case once =>
    rw [settled.count]
    split <;> omega
  case ordered =>
    intro s hs dealing
    obtain ⟨c', there, allowed⟩ := allows_of_dealing hs dealing
    obtain ⟨earlier, a, later, split, before, -⟩ := mem_history hs
    rw [before] at there ⊢
    rw [id_eq_nth here, ← id_eq_nth there]
    have within : earlier <+: actions := ⟨[a] ++ later, by rw [split, List.append_assoc]⟩
    refine (run_sound config earlier).absent (few_earlier few within) there ?_
    cases phase : c'.phase <;> simp_all [Phase.Allows, Phase.isServing]
  case final => exact fun earlier later split => settled.final split
  case attended =>
    intro earlier a later split item dealing
    have within : Moment.mk (run config earlier) a ∈ history config actions := by
      rw [split, history, historyFrom_append]
      exact List.mem_append_right _ List.mem_cons_self
    obtain ⟨c', there, allowed⟩ := allows_of_dealing within dealing
    apply since_of_serves
    rw [serves_of_some there]
    cases phase : c'.phase <;> simp_all [Phase.Allows, Phase.isServing]
  case succeeded => exact settled.attempts

end Theorem

/-- Alice's transport fails, Bob's hangs until the relay shuts down, and Carol's task is aborted
while it writes. -/
def threeExits : List Action :=
  [.connect "a" { inbound := [.text "alice"], writing := .fails ⟨"broken"⟩ },
    .connect "b" { inbound := [.text "bob"], writing := .hangs, closing := .hangs },
    .connect "c" { inbound := [.text "carol"], writing := .hangs },
    .step 0 .start, .step 1 .start, .step 2 .start, .step 0 .read, .step 1 .read, .step 2 .read,
    .broadcast ⟨⟨9⟩, "dave", "hi"⟩, .step 0 .take, .step 0 .write, .step 0 .close, .step 1 .take,
    .step 1 .write, .step 2 .take, .step 2 .write, .abort 2, .send true, .step 1 .shutdown,
    .step 1 .close, .pass 10000, .step 1 .closeDeadline]

theorem run_release_threeExits :
    let r := run {} threeExits
    let history := history {} threeExits
    r.connections.size ≤ UInt64.size ∧
      (∃ alice, r.connections[0]? = some alice ∧
        alice.phase = .ended (.returned (some (.writeFailed (.reported ⟨"broken"⟩)))) ∧
        dealings 0 history = [.writeBegun (.text "hi"),
          .writeFailed (.text "hi") (.reported ⟨"broken"⟩), .closeBegun] ∧
        Release {} threeExits 0 alice) ∧
      (∃ bob, r.connections[1]? = some bob ∧ bob.phase = .ended (.returned none) ∧
        dealings 1 history = [.writeBegun (.text "hi"), .shutdownInWrite, .closeBegun] ∧
        Release {} threeExits 1 bob) ∧
      ∃ carol, r.connections[2]? = some carol ∧ carol.phase = .ended .aborted ∧
        dealings 2 history = [.writeBegun (.text "hi")] ∧ Release {} threeExits 2 carol := by
  have few : (run {} threeExits).connections.size ≤ UInt64.size := by decide +kernel
  have alice : (run {} threeExits).connections[0]? = some
      { id := ⟨1⟩, peer := "a", transport := { writing := .fails ⟨"broken"⟩ },
        phase := .ended (.returned (some (.writeFailed (.reported ⟨"broken"⟩)))) } := by
    decide +kernel
  have bob : (run {} threeExits).connections[1]? = some
      { id := ⟨2⟩, peer := "b", transport := { writing := .hangs, closing := .hangs },
        phase := .ended (.returned none) } := by decide +kernel
  have carol : (run {} threeExits).connections[2]? = some
      { id := ⟨3⟩, peer := "c", transport := { writing := .hangs },
        phase := .ended .aborted } := by decide +kernel
  exact ⟨few, ⟨_, alice, rfl, by decide +kernel, run_release few alice⟩,
    ⟨_, bob, rfl, by decide +kernel, run_release few bob⟩,
    _, carol, rfl, by decide +kernel, run_release few carol⟩

end Relay

end ChatRelay
