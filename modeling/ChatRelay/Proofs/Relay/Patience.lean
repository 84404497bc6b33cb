import ChatRelay.Proofs.Connection.Patience
import ChatRelay.Proofs.Relay.Inbound
import ChatRelay.Proofs.Relay.Stuck
import ChatRelay.Proofs.Settings.Accepted

/-!
# A client that answers its pings

No accepted settings cut a client that answers, however late within what the timeout leaves between
two pings, and whatever else happens: a task that keeps up with time never ends for its client's
silence.
-/

namespace ChatRelay

namespace Relay

/-- Whatever the task of a connection has to do while it serves its client, it does at once. -/
def Moment.Prompt (s : Moment) (key : Nat) : Prop :=
  0 < s.action.span → ∀ c ∈ s.before.connections[key]?, c.isFree s.after.hub.now = true

instance (s : Moment) (key : Nat) : Decidable (s.Prompt key) :=
  inferInstanceAs (Decidable
    (0 < s.action.span → ∀ c ∈ s.before.connections[key]?, c.isFree s.after.hub.now = true))

/-- A task is prompt if time passes only when it has no step to take, and no further than to the
next moment for which it waits, and if the client takes at once what it is sent. -/
theorem Moment.prompt_of_unready {s : Moment} {key : Nat}
    (unready : 0 < s.action.span → ∀ b, s.before.ready key b = false) (punctual : s.Punctual key)
    (taken : ∀ c ∈ s.before.connections[key]?, c.phase.isServing = true →
      ∀ item, c.transport.mode item ≠ .hangs) : s.Prompt key := by
  intro passes c here
  have next : ∀ due, c.due? = some due → s.after.hub.now ≤ due := by
    intro due waits
    have known : s.before.due? key = some due := by
      rw [due?, Option.mem_def.mp here]
      exact waits
    exact punctual due known passes
  cases resting_of_unready (unready passes) here with
  | handshake phase => simp [Connection.isFree, phase]
  | @active session phase unset silent =>
    have within : s.after.hub.now ≤ session.tick := next _ (by simp [Connection.due?, phase])
    simp [Connection.isFree, phase, silent, within]
  | writing phase unset begun hangs =>
    exact absurd hangs (taken c here (by simp [phase, Phase.isServing]) _)
  | closing phase => simp [Connection.isFree, phase]
  | ended phase => simp [Connection.isFree, phase]

def pingTimes (key : Nat) (history : List Moment) : List Nat :=
  history.flatMap fun s => pingsAt s.before.hub.now (s.own key)

/-- The times at which texts and life signs arrived for a connection. -/
def signTimes (key : Nat) (history : List Moment) : List Nat :=
  history.flatMap fun s => if (s.arrived key).any Inbound.isSign then [s.before.hub.now] else []

def arrivalTimes (kind : Inbound → Bool) (key : Nat) (history : List Moment) : List Nat :=
  history.flatMap fun s => if (s.arrived key).any kind then [s.before.hub.now] else []

section Runs

variable {config : RelayConfig} {actions : List Action} {key : Nat}

/-- The clock did not stand later in any moment of a run than at its end. -/
theorem now_le_run {s : Moment} (hs : s ∈ history config actions) :
    s.before.hub.now ≤ (run config actions).hub.now := by
  induction actions using List.reverseRecOn with
  | nil => simp [history, historyFrom] at hs
  | append_singleton actions a ih =>
    rw [history_append] at hs
    rw [run_append]
    have passed := now_le_act (run config actions) a
    rcases List.mem_append.mp hs with old | last
    · exact Nat.le_trans (ih old) passed
    · rw [List.mem_singleton.mp last]
      exact passed

theorem sign_le_run {sign : Nat} (hs : sign ∈ signTimes key (history config actions)) :
    sign ≤ (run config actions).hub.now := by
  obtain ⟨s, hs, arrived⟩ := List.mem_flatMap.mp hs
  split at arrived
  · rw [List.mem_singleton.mp arrived]
    exact now_le_run hs
  · cases arrived

theorem mem_arrivalTimes {kind : Inbound → Bool} {time : Nat} {history : List Moment} :
    time ∈ arrivalTimes kind key history ↔
      ∃ s ∈ history, time = s.before.hub.now ∧ ∃ item ∈ s.arrived key, kind item = true := by
  rw [arrivalTimes, List.mem_flatMap]
  refine exists_congr fun s => and_congr_right fun _ => ?_
  rw [← List.any_eq_true]
  split <;> simp_all

/-- Every ping whose time for an answer is over was answered in it. -/
def Answered (config : RelayConfig) (patience key : Nat) (actions : List Action) : Prop :=
  ∀ ping ∈ pingTimes key (history config actions), ping + patience < (run config actions).hub.now →
    ∃ sign ∈ signTimes key (history config actions), ping ≤ sign ∧ sign ≤ ping + patience

instance (config : RelayConfig) (patience key : Nat) (actions : List Action) :
    Decidable (Answered config patience key actions) :=
  inferInstanceAs (Decidable (∀ ping ∈ pingTimes key (history config actions),
    ping + patience < (run config actions).hub.now →
      ∃ sign ∈ signTimes key (history config actions), ping ≤ sign ∧ sign ≤ ping + patience))

/-- What arrives later is no answer to a ping whose time for an answer is over. -/
theorem Answered.before {patience : Nat} {a : Action}
    (h : Answered config patience key (actions ++ [a])) : Answered config patience key actions := by
  intro ping hp late
  rw [Answered, history_append, run_append] at h
  simp only [pingTimes, signTimes, List.flatMap_append, List.mem_append] at h
  have passed := now_le_act (run config actions) a
  obtain ⟨sign, hs, after, within⟩ := h ping (Or.inl hp) (by omega)
  rcases hs with old | last
  · exact ⟨sign, old, after, within⟩
  · simp only [List.flatMap_singleton] at last
    split at last
    · have now : sign = (run config actions).hub.now := List.mem_singleton.mp last
      omega
    · cases last

/-- What becomes of the task in a moment whose client has answered its pings, if the task keeps up
with time. -/
theorem Met.patient {r : Relay} {c c' : Connection} {a : Action} {pings signs : List Nat}
    (met : Met r key c a c') (same : r.config = config) (here : r.connections[key]? = some c)
    (shorter : config.period < config.idleTimeout) (prompt : (Moment.mk r a).Prompt key)
    (readable : r.hub.now ≤ Clock.last) (past : ∀ sign ∈ signs, sign ≤ r.hub.now)
    (answered : ∀ ping ∈ pings, ping + (config.idleTimeout - config.period) < r.hub.now →
      ∃ sign ∈ signs, ping ≤ sign ∧ sign ≤ ping + (config.idleTimeout - config.period))
    (p : c.phase.Patient config r.hub.now pings signs c.hasSign) :
    c'.phase.Patient config (r.hub.now + a.span)
      (pings ++ pingsAt r.hub.now ((Moment.mk r a).own key))
      (signs ++ if ((Moment.mk r a).arrived key).any Inbound.isSign then [r.hub.now] else [])
      c'.hasSign := by
  cases met with
  | waits silent out phase inbound =>
    have q := (Connection.patient_arrive p phase inbound).mono
      (List.subset_append_left _ (pingsAt r.hub.now ((Moment.mk r a).own key)))
    by_cases passes : 0 < a.span
    · have nothing : (Moment.mk r a).arrived key = [] := by
        cases a <;> first | rfl | exact absurd passes (Nat.lt_irrefl 0)
      have free : c.isFree (r.hub.now + a.span) = true := by
        have free := prompt passes c here
        rwa [Moment.after, act_now] at free
      rw [nothing, List.append_nil] at inbound
      refine Connection.patient_pass q (Nat.le_add_right _ _) ?_
      rwa [Connection.isFree, phase, inbound]
    · rw [Nat.eq_zero_of_not_pos passes]
      exact q
  | @acts b next act transition hub phase transport =>
    subst act
    rw [same] at transition
    obtain ⟨told, story⟩ := transition.outline.story
    have own : (Moment.mk r (.step key b)).own key = told :=
      own_of_story rfl (by rw [hub, story])
    have sign := Connection.hasSign_of_transport transport
    rw [own, phase, sign]
    simp only [Moment.arrived, List.any_nil, Bool.false_eq_true, if_false, List.append_nil]
    exact transition.patient rfl story shorter readable past answered p
  | dies act phase told transport =>
    rw [phase]
    exact ⟨by simp [Phase.fault?], trivial⟩

/-- Where the task stands whose client answers its pings, if it keeps up with time. -/
theorem run_patient (shorter : config.period < config.idleTimeout)
    (prompt : ∀ s ∈ history config actions, s.Prompt key)
    (answered : Answered config (config.idleTimeout - config.period) key actions)
    (readable : (run config actions).hub.now ≤ Clock.last) {c : Connection}
    (here : (run config actions).connections[key]? = some c) :
    c.phase.Patient config (run config actions).hub.now (pingTimes key (history config actions))
      (signTimes key (history config actions)) c.hasSign := by
  induction actions using List.reverseRecOn generalizing c with
  | nil => simp [run, ofConfig] at here
  | append_singleton actions a ih =>
    have now : (run config (actions ++ [a])).hub.now = (run config actions).hub.now + a.span := by
      rw [run_append, act_now]
    rw [history_append] at prompt
    have earlier : (run config actions).hub.now ≤ Clock.last := by omega
    rw [run_append] at here
    cases before : (run config actions).connections[key]? with
    | none =>
      rw [act_begins before here]
      exact ⟨by simp [Phase.fault?], trivial⟩
    | some c₀ =>
      have p := ih (fun s hs => prompt s (List.mem_append_left _ hs)) answered.before earlier before
      obtain ⟨c', here', -, met⟩ := act_met before a
      obtain rfl : c' = c := Option.some.inj (here'.symm.trans here)
      rw [pingTimes, signTimes, now, history_append, List.flatMap_append, List.flatMap_append,
        List.flatMap_singleton, List.flatMap_singleton]
      exact met.patient (run_config config actions) before shorter
        (prompt _ (List.mem_append_right _ (List.mem_singleton.mpr rfl))) earlier
        (fun sign => sign_le_run) answered.before p

/-- Under accepted settings the connection of a client that answers each ping in what the timeout
leaves beyond a period never ends for the client's silence, whatever else happens. Its task is
prompt, and the clock can be read. -/
theorem run_answered {path : String} {content : FileContent} {settings : Settings}
    (loaded : (Settings.load path content).1 = .ok settings) {actions : List Action} {key : Nat}
    (prompt : ∀ s ∈ history settings.relayConfig actions, s.Prompt key)
    (answered : Answered settings.relayConfig
      (settings.relayConfig.idleTimeout - settings.relayConfig.keepalive) key actions)
    (readable : (run settings.relayConfig actions).hub.now ≤ Clock.last) :
    ∀ earlier, earlier <+: actions → ∀ c,
      (run settings.relayConfig earlier).connections[key]? = some c →
        c.phase.fault? ≠ some .idleTimeout := by
  have accepted := Settings.load_accepted loaded
  have shorter := accepted.keepalive_lt
  rw [← accepted.period_eq] at answered shorter
  rintro earlier ⟨more, rfl⟩ c here
  induction more using List.reverseRecOn with
  | nil =>
    rw [List.append_nil] at prompt answered readable
    exact (run_patient shorter prompt answered readable here).1
  | append_singleton more a ih =>
    rw [← List.append_assoc] at prompt answered readable
    rw [run_append] at readable
    refine ih ?_ answered.before (Nat.le_trans (now_le_act _ a) readable)
    intro s hs
    exact prompt s (by rw [history_append]; exact List.mem_append_left _ hs)

end Runs

/-- A ping every two seconds, and a timeout of five. -/
def briskFile : String := "[chat]\nkeepalive_sek = 2\nverbindungs_timeout_sek = 5\n"

/-- Alice's client answers its pings at the last moment: the first and the second at five seconds,
the third at nine. -/
def slowAnswers : List Action :=
  [.connect "a" { inbound := [.text "alice"] }, .step 0 .start, .step 0 .read, .pass 2000,
    .step 0 .tick, .step 0 .write, .pass 2000, .step 0 .tick, .step 0 .write, .pass 1000,
    .arrive 0 .lifeSign, .step 0 .read, .pass 1000, .step 0 .tick, .step 0 .write, .pass 2000,
    .step 0 .tick, .step 0 .write, .pass 1000, .arrive 0 (.binary 3), .arrive 0 (.text "here"),
    .step 0 .read, .step 0 .read, .pass 1000, .step 0 .tick, .step 0 .write]

theorem run_answered_slowAnswers :
    ∃ settings, (Settings.load "parlor.toml" (.text briskFile)).1 = .ok settings ∧
      pingTimes 0 (history settings.relayConfig slowAnswers) = [2000, 4000, 6000, 8000, 10000] ∧
      signTimes 0 (history settings.relayConfig slowAnswers) = [0, 5000, 9000] ∧
      ∀ earlier, earlier <+: slowAnswers → ∀ c,
        (run settings.relayConfig earlier).connections[0]? = some c →
          c.phase.fault? ≠ some .idleTimeout := by
  have loaded : (Settings.load "parlor.toml" (.text briskFile)).1 =
      .ok { chat := { keepalive := 2, idleTimeout := 5 } } := by decide +kernel
  exact ⟨_, loaded, by decide +kernel, by decide +kernel,
    run_answered loaded (by decide +kernel) (by decide +kernel) (by decide +kernel)⟩

end Relay

end ChatRelay
