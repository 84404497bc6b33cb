import ChatRelay.Proofs.Relay.Inbound
import ChatRelay.Proofs.Relay.Time

/-!
# After a removal

A connection that was removed learns of it only from its queue, of which no handle is left then.
Its task can look there whenever it is not in a write, but it can also read what waits for it, and
then it sends a line although it is not registered. A task that has nothing to do has looked, and
never sends again.
-/

namespace ChatRelay

namespace Connection

/-- Only an active connection sends, and what it sends it has read. -/
theorem Intake.speaker {c : Connection} {hub : Hub} {key : QueueKey} {b : Branch}
    {next : Hub × Connection} (h : Intake c hub key b next) {told : List Event}
    (story : next.1.story = hub.story ++ told) (said : messagesOf told ≠ []) :
    ∃ session text rest, c.phase = .active session ∧ c.transport.inbound = .text text :: rest := by
  cases h with
  | nothing known quiet =>
    obtain rfl := List.append_cancel_left (story.symm.trans known)
    exact absurd quiet.messages said
  | item inbound left known quiet =>
    obtain rfl := List.append_cancel_left (story.symm.trans known)
    exact absurd quiet.messages said
  | name inbound left known quiet =>
    obtain rfl := List.append_cancel_left (story.symm.trans known)
    exact absurd quiet.messages said
  | line phase inbound => exact ⟨_, _, _, phase, inbound⟩

end Connection

namespace Relay

def Moment.Speaks (s : Moment) (key : Nat) : Prop := messagesOf (s.own key) ≠ []

instance (s : Moment) (key : Nat) : Decidable (s.Speaks key) :=
  inferInstanceAs (Decidable (messagesOf (s.own key) ≠ []))

/-- Who sends is active, and takes the line from its own client. -/
theorem Moment.Speaks.active {s : Moment} {key : Nat} (h : s.Speaks key) :
    ∃ c session text rest, s.before.connections[key]? = some c ∧ c.phase = .active session ∧
      c.transport.inbound = .text text :: rest := by
  have own : s.action.actor? = some key := by
    by_contra other
    exact h (by rw [Moment.own, if_neg other]; rfl)
  have said : messagesOf s.news ≠ [] := by rwa [Speaks, Moment.own, if_pos own] at h
  rcases (act_change s.before s.action).task_own own with ⟨-, story⟩ | ⟨c, next, here, after, step⟩
  · have silent : s.news = [] := news_eq (by rw [List.append_nil]; exact story)
    exact absurd (by rw [silent]; rfl) said
  · have hub : s.after.hub = next.1 := by rw [Moment.after, after, update_hub]
    rcases step with ⟨b, -, transition⟩ | ⟨rfl, -⟩
    · obtain ⟨told, story⟩ := transition.outline.story
      rw [news_eq (hub ▸ story)] at said
      obtain ⟨session, text, rest, phase, inbound⟩ := transition.intake.speaker story said
      exact ⟨c, session, text, rest, here, phase, inbound⟩
    · rw [news_eq (by rw [hub, Connection.die_story])] at said
      exact absurd rfl said

section Runs

variable {config : RelayConfig} {actions more : List Action} {key : Nat} {c : Connection}

theorem sent_append : sent key (history config (actions ++ more)) =
    sent key (history config actions) ++ sent key (historyFrom (run config actions) more) := by
  rw [history_add, sent, own, List.flatMap_append, messagesOf_append]
  rfl

/-- A task that turned to closing sends nothing any more. -/
theorem silent_of_closing (late : 4 ≤ (run config actions).rank key) :
    sent key (history config (actions ++ more)) = sent key (history config actions) := by
  have silent : sent key (historyFrom (run config actions) more) = [] := by
    rw [sent, own, messagesOf, List.filterMap_flatMap, List.flatMap_eq_nil_iff]
    intro s hs
    by_contra speaks
    have speaks : s.Speaks key := speaks
    obtain ⟨c, session, text, rest, here, phase, -⟩ := speaks.active
    have still := rank_le_of_mem hs key
    rw [rank_of_some (task?_of_some here), phase] at still
    exact absurd (Nat.le_trans late still) (by simp [Phase.rank])
  rw [sent_append, silent, List.append_nil]

/-- A connection that was registered, and of whose queue no handle is left, can notice that whenever
it is active. When its task has no step left and is not in a write, it never sends again. -/
theorem run_silenced (here : (run config actions).connections[key]? = some c)
    (admitted : Admitted key (history config actions))
    (removed : (run config actions).holds key = false) :
    (∀ session, c.phase = .active session → (run config actions).ready key .take = true) ∧
    ((∀ b, (run config actions).ready key b = false) →
      (∀ session write, c.phase ≠ .writing session write) → ∀ more,
        sent key (history config (actions ++ more)) = sent key (history config actions)) := by
  have noticed : ∀ session, c.phase = .active session →
      (run config actions).ready key .take = true := by
    intro session phase
    simp [Relay.ready, here, Connection.ready, phase, surroundings, removed]
  refine ⟨noticed, fun unready idle more => silent_of_closing ?_⟩
  obtain ⟨-, ledger⟩ := (ledgered_of_some here).mp (run_ledgered config actions key)
  rw [rank_of_some (task?_of_some here)]
  cases resting_of_unready unready here with
  | handshake phase => exact absurd admitted (ledger.waiting (by simp [phase, Phase.rank])).1
  | active phase =>
    have ready := noticed _ phase
    rw [unready] at ready
    cases ready
  | writing phase => exact absurd phase (idle _ _)
  | closing phase => simp [phase, Phase.rank]
  | ended phase => simp [phase, Phase.rank]

end Runs

/-- Bob's client does not take the first line, and the third does not fit into his queue any more. -/
def fullQueue : List Action :=
  [.connect "a" { inbound := [.text "alice", .text "1", .text "2", .text "3"] },
    .connect "b" { inbound := [.text "bob"] }, .step 0 .start, .step 0 .read, .step 1 .start,
    .step 1 .read, .setModes 1 .hangs .ok .ok, .step 0 .read, .step 1 .take, .step 1 .write,
    .step 0 .read, .step 0 .read]

/-- Then he says a line, his client takes what it has not taken, and his task looks for its queue
when it has read the line. -/
def fullQueueLater : List Action :=
  [.arrive 1 (.text "hello"), .setModes 1 .ok .ok .ok, .step 1 .write, .step 1 .read,
    .step 1 .take, .step 1 .write, .step 1 .take, .step 1 .close]

theorem run_silenced_fullQueue :
    let config : RelayConfig := { queueSize := 1 }
    let actions := fullQueue ++ fullQueueLater
    ∃ bob, (run config actions).connections[1]? = some bob ∧
      Admitted 1 (history config actions) ∧ (run config actions).holds 1 = false ∧
      (∀ b, (run config actions).ready 1 b = false) ∧
      (∀ session write, bob.phase ≠ .writing session write) ∧
      sent 1 (history config actions) = [⟨⟨2⟩, "bob", "hello"⟩] ∧
      ∀ more, sent 1 (history config (actions ++ more)) = [⟨⟨2⟩, "bob", "hello"⟩] := by
  intro config actions
  have bob : (run config actions).connections[1]? = some
      { id := ⟨2⟩, peer := "b", phase := .ended (.returned (some .removed)) } := by decide +kernel
  have said : sent 1 (history config actions) = [⟨⟨2⟩, "bob", "hello"⟩] := by decide +kernel
  have admitted : Admitted 1 (history config actions) := by
    have within : fullQueue <+: actions := List.prefix_append _ _
    exact admitted_of_active within (by decide +kernel)
  have removed : (run config actions).holds 1 = false := by decide +kernel
  have unready : ∀ b, (run config actions).ready 1 b = false := by
    intro b
    cases b <;> decide +kernel
  refine ⟨_, bob, admitted, removed, unready, by simp, said, fun more => ?_⟩
  rw [← said]
  exact (run_silenced bob admitted removed).2 unready (by simp) more

/-- Who was removed may send a line although the registry has not ended. -/
theorem removed_speaks :
    ¬ ∀ (config : RelayConfig) (actions : List Action) (key : Nat) (c : Connection),
      ∀ s ∈ history config actions, s.before.connections[key]? = some c → s.Speaks key →
        s.before.hub.registry.ended = false → s.before.hub.registry.contains c.id = true := by
  intro claim
  let config : RelayConfig := { queueSize := 1 }
  let earlier := fullQueue ++ [.arrive 1 (.text "hello"), .setModes 1 .ok .ok .ok, .step 1 .write]
  have moment : ⟨run config earlier, .step 1 .read⟩ ∈
      history config (earlier ++ [.step 1 .read]) := by
    rw [history_append]
    exact List.mem_append_right _ (List.mem_singleton.mpr rfl)
  have bob : (run config earlier).connections[1]? = some
      { id := ⟨2⟩, peer := "b", transport := { inbound := [.text "hello"] },
        phase := .active ⟨"bob", 0, 30000⟩ } := by decide +kernel
  have registered := claim config _ 1 _ _ moment bob (by decide +kernel) (by decide +kernel)
  revert registered
  decide +kernel

end Relay

end ChatRelay
