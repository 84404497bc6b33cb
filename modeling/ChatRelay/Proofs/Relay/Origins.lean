import ChatRelay.Proofs.Connection.Origins
import ChatRelay.Proofs.Relay.Keepalive

/-!
# Since when things are as they are

What did not hold of the relay at first holds since some moment of the run. A task is where it
stands since a step of its own, and so each of its deadlines counts from a moment at which the task
began to wait; a connection that is not registered any more is so since somebody removed it.
-/

namespace ChatRelay

namespace Relay

theorem Since.imp {began began' held held' : Moment → Prop} {history : List Moment}
    (h : Since began held history) (starts : ∀ s ∈ history, began s → began' s)
    (stays : ∀ s ∈ history, held s → held' s) : Since began' held' history := by
  obtain ⟨earlier, s, later, rfl, start, since⟩ := h
  exact ⟨earlier, s, later, rfl, starts s (by simp) start,
    fun t ht => stays t (by simp [ht]) (since t ht)⟩

/-- Someone removes a connection by its identity, or because a line did not get into its queue. -/
def Moment.Expels (s : Moment) (id : ConnectionId) : Prop :=
  s.action = .unregister id ∨
    ∃ message delivered failed, .broadcast message delivered failed ∈ s.news ∧ id ∈ failed

def writes (r : Relay) (key : Nat) (item : Outgoing) : Prop :=
  ∃ c session write, r.connections[key]? = some c ∧ c.phase = .writing session write ∧
    write.item = item

section Runs

variable {config : RelayConfig} {actions : List Action} {key : Nat} {c : Connection}

/-- What holds of the relay, and did not hold when nobody had connected to it, holds since a moment
of the run. -/
theorem since_began {P : Relay → Prop} (fresh : ¬ P (ofConfig config))
    (now : P (run config actions)) :
    Since (fun s => ¬ P s.before ∧ P s.after) (fun s => P s.after) (history config actions) := by
  induction actions using List.reverseRecOn with
  | nil => exact absurd now fresh
  | append_singleton actions a ih =>
    rw [run_append] at now
    rw [history_append, since_append]
    by_cases before : P (run config actions)
    · exact Or.inr ⟨ih before, now⟩
    · exact Or.inl ⟨before, now⟩

/-- Where a task stands in its life, it stands since a step with which it came there. -/
theorem since_of_phase {P : Phase → Prop} (start : ¬ P .connecting) (alive : ¬ P (.ended .aborted))
    (here : (run config actions).connections[key]? = some c) (now : P c.phase) :
    Since (fun s => (∃ c, s.after.connections[key]? = some c ∧ P c.phase) ∧
        ∃ b c next, s.action = .step key b ∧ s.before.connections[key]? = some c ∧
          Connection.Transition config (s.before.surroundings key) c s.before.hub key b next ∧
          ¬ P c.phase ∧ P next.2.phase)
      (fun s => ∃ c, s.after.connections[key]? = some c ∧ P c.phase) (history config actions) := by
  have since := since_began (P := fun r => ∃ c, r.connections[key]? = some c ∧ P c.phase)
    (by simp [ofConfig]) ⟨c, here, now⟩
  refine since.imp ?_ fun s _ held => held
  rintro s hs ⟨before, c', there, after⟩
  obtain ⟨earlier, a, later, -, atBefore, -⟩ := mem_history hs
  cases found : s.before.connections[key]? with
  | none =>
    rw [act_begins found there] at after
    exact absurd after start
  | some c =>
    have was : ¬ P c.phase := fun held => before ⟨c, found, held⟩
    obtain ⟨c'', there', -, went⟩ := act_went found s.action
    obtain rfl : c'' = c' := Option.some.inj (there'.symm.trans there)
    refine ⟨⟨c'', there, after⟩, ?_⟩
    generalize c''.phase = phase at went after
    cases went with
    | still => exact absurd after was
    | @step b next act transition =>
      rw [atBefore, run_config, ← atBefore] at transition
      exact ⟨b, c, next, act, rfl, transition, was, after⟩
    | aborted => exact absurd after alive

/-- The deadline of a handshake was set when the handshake began. -/
theorem handshake_began (here : (run config actions).connections[key]? = some c) {deadline : Nat}
    (phase : c.phase = .handshake deadline) : ∃ s ∈ history config actions,
      s.action = .step key .start ∧ s.before.ready key .start = true ∧
      deadline = Clock.deadline s.before.hub.now config.handshakeTimeout := by
  have since : Since _ _ (history config actions) :=
    since_of_phase (P := fun phase => phase = .handshake deadline) (by simp) (by simp) here phase
  obtain ⟨earlier, s, later, same, ⟨-, b, c₀, next, act, here₀, transition, before, after⟩, -⟩ :=
    since
  refine ⟨s, by simp [same], ?_⟩
  rcases transition.handshaking after with was | ⟨rfl, connecting, set⟩
  · exact absurd was before
  · exact ⟨act, by simp [Relay.ready, here₀, Connection.ready, connecting], set⟩

/-- A task writes something since it has taken it up, and then it set the deadline of the write. -/
theorem write_taken (here : (run config actions).connections[key]? = some c) {session : Session}
    {write : Write} (phase : c.phase = .writing session write) :
    Since (fun s => (∃ c session, s.before.connections[key]? = some c ∧ c.phase = .active session) ∧
        s.after.writes key write.item ∧
        write.deadline = Clock.deadline s.before.hub.now config.writeTimeout)
      (fun s => s.after.writes key write.item) (history config actions) := by
  have since := since_of_phase
    (P := fun phase => ∃ session before, phase = .writing session before ∧
      before.item = write.item ∧ before.deadline = write.deadline)
    (by simp) (by simp) here ⟨session, write, phase, rfl, rfl⟩
  have stays : ∀ s : Moment, (∃ c, s.after.connections[key]? = some c ∧ ∃ session before,
      c.phase = .writing session before ∧ before.item = write.item ∧
      before.deadline = write.deadline) → s.after.writes key write.item := by
    rintro s ⟨c, there, session, before, phase, item, -⟩
    exact ⟨c, session, before, there, phase, item⟩
  refine since.imp ?_ fun s _ => stays s
  rintro s - ⟨now, b, c₀, next, act, here₀, transition, before, session', write', after, item, set⟩
  rcases transition.taking after with ⟨old, was, same, date⟩ | ⟨⟨session, active⟩, date⟩
  · exact absurd ⟨session', old, was, same.trans item, date.trans set⟩ before
  · exact ⟨⟨c₀, session, here₀, active⟩, stays s now, set.symm.trans date⟩

theorem mem_hearTimes {history : List Moment} {time : Nat} (h : time ∈ hearTimes key history) :
    ∃ s ∈ history, time = s.before.hub.now := by
  obtain ⟨s, hs, heard⟩ := List.mem_flatMap.mp h
  unfold hearsAt at heard
  split at heard
  · exact ⟨s, hs, List.mem_singleton.mp heard⟩
  · cases heard

/-- What a task remembers of its client is not older than any sign that it has read, and not older
than its registration. -/
theorem run_lastSeen (here : (run config actions).connections[key]? = some c) {session : Session}
    (found : c.phase.session? = some session) :
    (∀ time ∈ hearTimes key (history config actions), time ≤ session.lastSeen) ∧
      ∀ s ∈ history config actions, s.Admits key → s.before.hub.now ≤ session.lastSeen := by
  induction actions using List.reverseRecOn generalizing c session with
  | nil => simp [run, ofConfig] at here
  | append_singleton actions a ih =>
    rw [run_append] at here
    cases before : (run config actions).connections[key]? with
    | none =>
      rw [act_begins before here] at found
      cases found
    | some c₀ =>
      obtain ⟨c', here', -, met⟩ := act_met before a
      obtain rfl : c' = c := Option.some.inj (here'.symm.trans here)
      have past : ∀ s ∈ history config (actions ++ [a]), s.before.hub.now ≤
          (run config actions).hub.now := by
        rw [history_append]
        intro s hs
        rcases List.mem_append.mp hs with old | last
        · exact now_le_run old
        · rw [List.mem_singleton.mp last]
      -- The task remembers what it remembered, and neither hears its client nor is registered.
      have keep : ∀ {session₀ : Session}, c₀.phase.session? = some session₀ →
          session.lastSeen = session₀.lastSeen →
          ((Moment.mk (run config actions) a).own key).any Event.isHearing = false →
          ¬ (run config actions).Admits a key →
          (∀ time ∈ hearTimes key (history config (actions ++ [a])), time ≤ session.lastSeen) ∧
            ∀ s ∈ history config (actions ++ [a]), s.Admits key →
              s.before.hub.now ≤ session.lastSeen := by
        intro session₀ found₀ same unheard out
        obtain ⟨heard, since⟩ := ih before found₀
        have nothing : hearTimes key (history config (actions ++ [a])) =
            hearTimes key (history config actions) := by
          rw [history_append, hearTimes, List.flatMap_append, List.flatMap_singleton, hearsAt,
            if_neg (by rw [unheard]; decide), List.append_nil]
          rfl
        rw [nothing, history_append, same]
        refine ⟨heard, fun s hs admits => ?_⟩
        rcases List.mem_append.mp hs with old | last
        · exact since s old admits
        · rw [List.mem_singleton.mp last] at admits
          exact absurd admits out
      cases met with
      | waits silent out phase => exact keep (phase ▸ found) rfl (by rw [silent]; rfl) out
      | @acts b next act transition hub phase =>
        obtain ⟨told, story⟩ := transition.outline.story
        obtain rfl : a = .step key b := act
        have own : (Moment.mk (run config actions) (.step key b)).own key = told :=
          own_of_story rfl (by rw [hub, story])
        rw [phase] at found
        rcases transition.lastSeen found story with now | ⟨unheard, session₀, found₀, same⟩
        · rw [now]
          refine ⟨fun time ht => ?_, fun s hs _ => past s hs⟩
          obtain ⟨s, hs, rfl⟩ := mem_hearTimes ht
          exact past s hs
        · refine keep found₀ same (by rw [own, unheard]) ?_
          rw [admits_step before]
          refine Connection.not_enrols b ?_
          cases phase : c₀.phase <;> simp_all [Phase.session?, Phase.rank]
      | dies act phase =>
        rw [phase] at found
        cases found

/-- A task that serves its client ceases to be registered only because somebody removes it. -/
theorem expels_of_gone {s : Moment} (hs : s ∈ history config actions)
    (few : (run config actions).connections.size ≤ UInt64.size) (hk : key < UInt64.size)
    (going : (run config actions).hub.registry.ended = false)
    (before : ¬ (s.before.serves key = true ∧ s.before.hub.registry.holds key = false))
    (serving : s.after.serves key = true) (gone : s.after.hub.registry.holds key = false) :
    s.before.hub.registry.holds key = true ∧ s.Expels (.nth key) := by
  obtain ⟨earlier, a, later, rfl, rfl⟩ := mem_historyFrom hs
  have left : (run config (earlier ++ [a])).hub.registry.holds key = false := by
    rw [run_append]
    exact gone
  have few' := few_earlier few (List.prefix_append earlier (a :: later))
  have holds := (holds_append few' hk).not.mp (Bool.eq_false_iff.mp left)
  rw [not_or, not_and, not_and] at holds
  have served : (run config earlier).serves key = true := by
    by_contra waiting
    rw [Bool.not_eq_true] at waiting
    exact holds.1 ((act_change _ a).admits waiting serving) serving
  have held : (run config earlier).hub.registry.holds key = true := by
    rw [← Bool.not_eq_false]
    exact fun out => before ⟨served, out⟩
  refine ⟨held, ?_⟩
  rcases not_not.mp fun kept => holds.2 held ⟨serving, kept⟩ with act | act | failed
  · exact Or.inl act
  · have ended : (run config (earlier ++ a :: later)).hub.registry.ended = true :=
      run_ended.mpr (by simp [show a = .endRegistry from act])
    rw [going] at ended
    cases ended
  · exact Or.inr failed

/-- A connection that was registered and serves its client, but is not registered any more, was
removed. -/
theorem since_expelled (few : (run config actions).connections.size ≤ UInt64.size)
    (serving : (run config actions).serves key = true)
    (gone : (run config actions).hub.registry.holds key = false)
    (going : (run config actions).hub.registry.ended = false) :
    Since (fun s => s.before.hub.registry.contains (.nth key) = true ∧
        s.after.hub.registry.contains (.nth key) = false ∧ s.Expels (.nth key))
      (fun s => s.after.hub.registry.contains (.nth key) = false) (history config actions) := by
  have hk : key < UInt64.size := by
    obtain ⟨c, here, -⟩ := connection_of_serves serving
    exact Nat.lt_of_lt_of_le (task?_lt (task?_of_some here)) few
  have contains : ∀ s ∈ history config actions,
      s.before.hub.registry.contains (.nth key) = s.before.hub.registry.holds key ∧
        s.after.hub.registry.contains (.nth key) = s.after.hub.registry.holds key := by
    intro s hs
    obtain ⟨earlier, a, later, rfl, before, after⟩ := mem_history hs
    rw [before, after]
    have within : earlier <+: earlier ++ [a] ++ later := ⟨[a] ++ later, by simp⟩
    exact ⟨(run_sound config _).contains_nth (few_earlier few within) hk,
      (run_sound config _).contains_nth (few_earlier few (List.prefix_append _ _)) hk⟩
  have since := since_began
    (P := fun r => r.serves key = true ∧ r.hub.registry.holds key = false)
    (by simp [serves, ofConfig]) ⟨serving, gone⟩
  refine since.imp ?_ fun s hs held => (contains s hs).2.trans held.2
  rintro s hs ⟨before, serves, out⟩
  obtain ⟨held, expels⟩ := expels_of_gone hs few hk going before serves out
  exact ⟨(contains s hs).1.trans held, (contains s hs).2.trans out, expels⟩

end Runs

end Relay

end ChatRelay
