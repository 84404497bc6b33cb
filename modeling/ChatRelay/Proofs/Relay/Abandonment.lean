import ChatRelay.Proofs.Connection.Pending
import ChatRelay.Proofs.Relay.Release
import ChatRelay.Proofs.Relay.Rest
import ChatRelay.Proofs.Relay.Time

/-!
# What the shutdown signal abandons

Once the signal is set, the tasks come to rest without waiting for the clock. Then no text and no
ping is pending at any transport: each has been written, has failed or was given up. A close is not
given up for the signal. Whoever is not over then waits for one that hangs, up to its own deadline.
-/

namespace ChatRelay

namespace Relay

def stepsOf (schedule : List (Nat × Branch)) : List Action :=
  schedule.map fun step => .step step.1 step.2

theorem chronicle_pending : Chronicle fun phase events =>
    phase.Dealt (events.filterMap Event.dealing?) ∧
      phase.Attended (events.filterMap Event.dealing?) where
  start := ⟨rfl, answered_completed []⟩
  step := by
    rintro config s c hub key b next events transition ⟨dealt, attended⟩
    obtain ⟨told, story, after⟩ := transition.attended dealt attended
    obtain ⟨told', story', after'⟩ := chronicle_dealt.step transition dealt
    obtain rfl := List.append_cancel_left (story'.symm.trans story)
    exact ⟨told', story, after', by rwa [List.filterMap_append]⟩
  abort id alive := fun ⟨dealt, _⟩ => ⟨chronicle_dealt.abort id alive dealt, trivial⟩

section Runs

variable {config : RelayConfig} {actions : List Action} {key : Nat} {c : Connection}

/-- A schedule is a run. -/
theorem run_stepsOf {schedule : List (Nat × Branch)}
    (permitted : (run config actions).permits schedule = true) :
    run config (actions ++ stepsOf schedule) = (run config actions).performAll schedule := by
  induction schedule generalizing actions with
  | nil => simp [stepsOf, performAll]
  | cons step rest ih =>
    obtain ⟨ready, permitted⟩ := Bool.and_eq_true_iff.mp permitted
    have stepped : run config (actions ++ [.step step.1 step.2]) =
        (run config actions).perform step.1 step.2 := by rw [run_append, act_step ready]
    rw [← stepped] at permitted
    have split : actions ++ stepsOf (step :: rest) =
        actions ++ [.step step.1 step.2] ++ stepsOf rest := by simp [stepsOf]
    rw [split, ih permitted, stepped]
    rfl

/-- A write that its task does not wait for any more has come to its end. -/
theorem answered_of_idle (here : (run config actions).connections[key]? = some c)
    (idle : ∀ item, c.phase.pending? ≠ some (.write item)) (whole : c.phase ≠ .ended .aborted) :
    Answered (dealings key (history config actions)) := by
  rw [dealings_eq]
  exact (chronicle_pending.run here).2.answered idle whole

end Runs

/-- What is pending at the transport of a connection when its task is at rest under the signal. -/
structure Abandoned (config : RelayConfig) (actions : List Action) (key : Nat) (c : Connection) :
    Prop where
  /-- No write is pending, of a text or of a ping. -/
  idle : ∀ item, c.phase.pending? ≠ some (.write item)
  /-- Each write has succeeded, failed or been given up. -/
  answered : c.phase ≠ .ended .aborted → Answered (dealings key (history config actions))
  closing : c.phase.pending? = some .close ↔ c.phase.isOver = false
  /-- A close is pending only because it hangs, and no longer than a write may take. -/
  hanging : c.phase.pending? = some .close → c.transport.closing = .hangs ∧
    ∃ deadline, c.due? = some deadline ∧ (run config actions).hub.now < deadline ∧
      Clock.IsSet (run config actions).hub.now config.writeTimeout deadline
  /-- The signal makes no difference to the task any more. -/
  deaf : ∀ b shutdown, c.ready { (run config actions).surroundings key with shutdown } b =
    c.ready ((run config actions).surroundings key) b

section Theorem

variable {config : RelayConfig} {actions : List Action}

theorem abandoned_of_quiet (set : (run config actions).signal.isSet = true)
    (quiet : (run config actions).isQuiet = true) {key : Nat} {c : Connection}
    (here : (run config actions).connections[key]? = some c) :
    Abandoned config actions key c := by
  have dated := run_dated here
  have under : ((run config actions).surroundings key).shutdown = true := set
  have answered := answered_of_idle here
  cases resting_of_quiet quiet here with
  | handshake phase unset => rw [under] at unset; cases unset
  | active phase unset => rw [under] at unset; cases unset
  | writing phase unset => rw [under] at unset; cases unset
  | @closing result deadline phase hangs early =>
    rw [phase] at dated
    have idle : ∀ item, c.phase.pending? ≠ some (.write item) := by simp [phase, Phase.pending?]
    refine ⟨idle, answered idle, by simp [phase, Phase.pending?, Phase.isOver], ?_, ?_⟩
    · exact fun _ => ⟨hangs, deadline, by simp [Connection.due?, phase], early, dated⟩
    · intro b shutdown
      cases b <;> simp [Connection.ready, phase]
  | @ended outcome phase =>
    have idle : ∀ item, c.phase.pending? ≠ some (.write item) := by simp [phase, Phase.pending?]
    refine ⟨idle, answered idle, by simp [phase, Phase.pending?, Phase.isOver], ?_, ?_⟩
    · simp [phase, Phase.pending?]
    · intro b shutdown
      cases b <;> simp [Connection.ready, phase]

/-- Under the signal, whatever steps were taken: the tasks come to rest while the clock stands
still, and wherever they are at rest, nothing is pending but closes that hang. -/
theorem run_abandons (set : (run config actions).signal.isSet = true)
    {schedule : List (Nat × Branch)} (permitted : (run config actions).permits schedule = true) :
    (∃ more, (run config actions).permits (schedule ++ more) = true ∧
      (run config (actions ++ stepsOf (schedule ++ more))).isQuiet = true) ∧
    (run config (actions ++ stepsOf schedule)).hub.now = (run config actions).hub.now ∧
    ((run config (actions ++ stepsOf schedule)).isQuiet = true → ∀ key c,
      (run config (actions ++ stepsOf schedule)).connections[key]? = some c →
        Abandoned config (actions ++ stepsOf schedule) key c) := by
  have rests := run_comesToRest config actions
  obtain ⟨more, goesOn, quiet⟩ := rests.reached schedule permitted
  refine ⟨⟨more, goesOn, by rwa [run_stepsOf goesOn]⟩, ?_, fun quiet key c here => ?_⟩
  · rw [run_stepsOf permitted]
    exact rests.clock schedule permitted
  · have still : (run config (actions ++ stepsOf schedule)).signal.isSet = true := by
      rw [run_stepsOf permitted]
      exact performAll_keeps (P := fun r => r.signal.isSet = true)
        (fun r key b ready set => by
          obtain ⟨c, next, -, -, done⟩ := perform_of_ready ready
          rwa [done, update_signal]) set permitted
    exact abandoned_of_quiet still quiet here

end Theorem

/-- When the signal is set, Alice's transport hangs in a text, Bob's in a ping and Carol's in its
closing, and Dave has not said his name. -/
def threeTransfers : List Action :=
  [.connect "a" { inbound := [.text "alice"], writing := .hangs },
    .connect "b" { inbound := [.text "bob"], pinging := .hangs, closing := .hangs },
    .connect "c" { inbound := [.streamEnd], closing := .hangs }, .connect "d" {}, .step 0 .start,
    .step 1 .start, .step 2 .start, .step 3 .start, .step 0 .read, .step 1 .read, .step 2 .read,
    .step 2 .close, .pass 1000, .step 0 .tick, .step 0 .write, .step 1 .tick, .step 1 .write,
    .broadcast ⟨⟨9⟩, "erin", "hi"⟩, .step 0 .take, .step 0 .write, .send true]

/-- The steps that they take then. Bob's transport hangs again, and Carol's still does. -/
def lastSteps : List (Nat × Branch) :=
  [(0, .shutdown), (1, .shutdown), (3, .shutdown), (1, .close), (0, .close), (3, .close)]

theorem run_abandons_threeTransfers :
    let config : RelayConfig := { keepalive := 1000 }
    let actions := threeTransfers ++ stepsOf lastSteps
    (run config threeTransfers).signal.isSet = true ∧
      (run config threeTransfers).permits lastSteps = true ∧
      (run config threeTransfers).connections.toList.map (fun c => c.phase.pending?) =
        [some (.write (.text "hi")), some (.write .ping), some .close, none] ∧
      (run config actions).connections.toList.map (fun c => c.phase.pending?) =
        [none, some .close, some .close, none] ∧
      dealings 0 (history config actions) = [.writeBegun .ping, .written .ping,
        .writeBegun (.text "hi"), .shutdownInWrite, .closeBegun] ∧
      (run config actions).hub.now = (run config threeTransfers).hub.now ∧
      ∀ key c, (run config actions).connections[key]? = some c →
        Abandoned config actions key c := by
  intro config actions
  have set : (run config threeTransfers).signal.isSet = true := by decide +kernel
  have permitted : (run config threeTransfers).permits lastSteps = true := by decide +kernel
  have quiet : (run config actions).isQuiet = true := by decide +kernel
  have pending : (run config threeTransfers).connections.toList.map (fun c => c.phase.pending?) =
      [some (.write (.text "hi")), some (.write .ping), some .close, none] := by decide +kernel
  have left : (run config actions).connections.toList.map (fun c => c.phase.pending?) =
      [none, some .close, some .close, none] := by decide +kernel
  have told : dealings 0 (history config actions) = [.writeBegun .ping, .written .ping,
      .writeBegun (.text "hi"), .shutdownInWrite, .closeBegun] := by decide +kernel
  have now : (run config actions).hub.now = (run config threeTransfers).hub.now := by
    decide +kernel
  obtain ⟨-, -, abandoned⟩ := run_abandons set permitted
  exact ⟨set, permitted, pending, left, told, now, abandoned quiet⟩

/-- A close that hangs stays pending under the signal, although no step is left. -/
theorem close_outlasts_signal :
    ¬ ∀ (config : RelayConfig) (actions : List Action) (key : Nat) (c : Connection),
      (run config actions).connections[key]? = some c →
        (run config actions).signal.isSet = true → (run config actions).isQuiet = true →
          c.phase.pending? = none := by
  intro claim
  let actions : List Action :=
    [.connect "a" { inbound := [.text "alice"] }, .step 0 .start, .step 0 .read,
      .setModes 0 .ok .ok .hangs, .send true, .step 0 .shutdown, .step 0 .close]
  have alice : (run {} actions).connections[0]? = some
      { id := ⟨1⟩, peer := "a", transport := { closing := .hangs },
        phase := .closing none true 10000 } := by decide +kernel
  have nothing := claim {} actions 0 _ alice (by decide +kernel) (by decide +kernel)
  cases nothing

end Relay

end ChatRelay
