import ChatRelay.Proofs.Connection.Handshake
import ChatRelay.Proofs.Relay.Parting
import ChatRelay.Proofs.Relay.Patience

/-!
# How a handshake is decided

A task that keeps up with time leaves the handshake with the first thing that decides it: a text, a
fault of the transport, the end of the stream, the shutdown signal, or the deadline that was set
when the handshake began. What is read before decides nothing, and nothing behind it is read.
-/

namespace ChatRelay

namespace Relay

/-- The task of a connection is in the handshake before the moment, and not any more after it. -/
def Moment.EndsHandshake (s : Moment) (key : Nat) : Prop :=
  s.before.stage? key = some .handshake ∧ s.after.stage? key ≠ some .handshake

/-- A step of the task of a connection decides its handshake. What is behind the item that it read
for this stays in the transport. -/
structure Moment.Decided (s : Moment) (key : Nat) (b : Branch) (item : Option Inbound)
    (c c' : Connection) : Prop where
  act : s.action = .step key b
  here : s.before.connections[key]? = some c
  after : s.after.connections[key]? = some c'
  decision : c.Decision s.before.config (s.before.surroundings key) s.before.hub key b item c'.phase
  left : c.transport.inbound = item.toList ++ c'.transport.inbound

/-- The task of a connection gives up its handshake because that has come to its deadline. -/
def Moment.timesOut (s : Moment) (key : Nat) : Bool :=
  s.before.stage? key = some .handshake ∧ s.after.verdict? key = some (some .handshakeTimeout)

/-- A handshake that was begun and is not decided. -/
structure Undecided (config : RelayConfig) (entry more : List Action) (key : Nat) : Prop where
  /-- Whatever was read did not move the deadline. -/
  deadline : (run config (entry ++ more)).due? key =
    some (Clock.deadline (run config entry).hub.now config.handshakeTimeout)
  within : (run config (entry ++ more)).hub.now ≤
    Clock.deadline (run config entry).hub.now config.handshakeTimeout
  unregistered : ¬ Admitted key (history config (entry ++ more))
  read : ∀ item ∈ consumed key (history config (entry ++ more)), item.decides = false
  /-- No item that decides arrived earlier than now, unless it was there before the beginning. -/
  arrived : ∀ time ∈ arrivalTimes Inbound.decides key (history config (entry ++ more)),
    (run config (entry ++ more)).hub.now ≤ max time (run config entry).hub.now
  /-- The shutdown signal was not set whenever time passed. -/
  unset : ∀ s ∈ historyFrom (run config entry) more, 0 < s.action.span →
    s.before.signal.isSet = false

section Runs

variable {config : RelayConfig} {actions before entry more : List Action} {key : Nat}

theorem connection_of_stage {r : Relay} {stage : Stage} (h : r.stage? key = some stage) :
    ∃ c, r.connections[key]? = some c ∧ c.phase.stage = stage := by
  simpa [stage?] using h

theorem deadline_of_stage {c : Connection} (h : c.phase.stage = .handshake) :
    ∃ deadline, c.phase = .handshake deadline := by
  cases phase : c.phase <;> simp_all [Phase.stage]

/-- What a task has read in the handshake does not decide it. -/
theorem run_undecisive (waiting : (run config actions).stage? key = some .handshake) :
    ¬ Admitted key (history config actions) ∧
      ∀ item ∈ consumed key (history config actions), item.decides = false := by
  obtain ⟨c, here, stage⟩ := connection_of_stage waiting
  obtain ⟨deadline, phase⟩ := deadline_of_stage stage
  obtain ⟨-, ledger⟩ := (ledgered_of_some here).mp (run_ledgered config actions key)
  rw [phase] at ledger
  obtain ⟨out, nameless⟩ := ledger.waiting (Nat.le_refl 2)
  refine ⟨out, fun item hi => Inbound.decides_eq_false ?_ (ledger.going (Nat.le_succ 2) item hi)⟩
  exact List.filterMap_eq_nil_iff.mp nameless item hi

/-- A task to which nothing waits has read all that arrived. -/
theorem arrived_eq_consumed {c : Connection}
    (here : (run config actions).connections[key]? = some c) (silent : c.transport.inbound = []) :
    arrived key (history config actions) = consumed key (history config actions) := by
  have all := ((ledgered_of_some here).mp (run_ledgered config actions key)).1
  rwa [silent, List.append_nil] at all

/-- A task that has no step to take in the handshake waits for something to arrive, for the signal
or for the deadline. -/
theorem Resting.undecided {c : Connection} {deadline : Nat}
    (here : (run config actions).connections[key]? = some c)
    (phase : c.phase = .handshake deadline)
    (resting : c.Resting ((run config actions).surroundings key)) :
    (∀ item ∈ arrived key (history config actions), item.decides = false) ∧
      (run config actions).signal.isSet = false ∧ (run config actions).hub.now < deadline := by
  cases resting with
  | @handshake deadline' phase' unset silent early =>
    obtain rfl := Phase.handshake.inj (phase'.symm.trans phase)
    have waiting : (run config actions).stage? key = some .handshake := by
      simp [stage?, here, phase, Phase.stage]
    refine ⟨?_, unset, early⟩
    rw [arrived_eq_consumed here silent]
    exact (run_undecisive waiting).2
  | active phase' => simp [phase] at phase'
  | writing phase' => simp [phase] at phase'
  | closing phase' => simp [phase] at phase'
  | ended phase' => simp [phase] at phase'

/-- A task that is in the handshake after an action, and had begun it before, was in it before. -/
theorem handshake_before {r : Relay} {a : Action} (begun : 2 ≤ r.rank key) {c' : Connection}
    (there : (r.act a).connections[key]? = some c') {deadline : Nat}
    (phase : c'.phase = .handshake deadline) :
    ∃ c, r.connections[key]? = some c ∧ c.phase = .handshake deadline := by
  cases here : r.connections[key]? with
  | none => simp [rank, task?, here] at begun
  | some c =>
    rw [rank_of_some (task?_of_some here)] at begun
    obtain ⟨c'', there', -, went⟩ := act_went here a
    obtain rfl : c'' = c' := Option.some.inj (there'.symm.trans there)
    refine ⟨c, rfl, ?_⟩
    rw [phase] at went
    generalize same : Phase.handshake deadline = next at went
    cases went with
    | still => rfl
    | aborted => cases same
    | @step b next act transition =>
      have forward := transition.rank_le
      rw [← same] at forward
      obtain ⟨deadline', waiting⟩ : ∃ deadline', c.phase = .handshake deadline' := by
        cases waiting : c.phase <;> simp_all [Phase.rank]
      rcases transition.decision waiting with stays | ⟨item, decision, -⟩
      · rw [waiting, ← stays, ← same]
      · rw [← same] at decision
        cases decision

theorem start_handshake (ready : (run config before).ready key .start = true) :
    ∃ c, (run config (before ++ [.step key .start])).connections[key]? = some c ∧
      c.phase = .handshake (Clock.deadline (run config (before ++ [.step key .start])).hub.now
        config.handshakeTimeout) := by
  obtain ⟨c, next, here, transition, done⟩ := perform_of_ready ready
  have waiting : c.phase = .connecting := by
    simpa [Relay.ready, here, Connection.ready] using ready
  have after : (run config before).act (.step key .start) =
      (run config before).update key next.1 next.2 := by simp [act, ready, done]
  have phase := transition.beginning waiting
  rw [run_config] at phase
  rw [run_append, act_now, after]
  exact ⟨_, update_here here _ _, phase⟩

theorem undecided_begin {c : Connection} (entered : (run config entry).connections[key]? = some c)
    (began : c.phase = .handshake (Clock.deadline (run config entry).hub.now
      config.handshakeTimeout)) : Undecided config entry [] key := by
  have waiting : (run config entry).stage? key = some .handshake := by
    simp [stage?, entered, began, Phase.stage]
  obtain ⟨out, read⟩ := run_undecisive waiting
  constructor
  case unset => simp [historyFrom]
  all_goals rw [List.append_nil]
  case deadline => simp [due?, entered, Connection.due?, began]
  case within => exact Clock.le_deadline _ _
  case unregistered => exact out
  case read => exact read
  case arrived => exact fun time _ => Nat.le_max_right _ _

theorem Undecided.due (h : Undecided config entry more key) {c : Connection} {deadline : Nat}
    (here : (run config (entry ++ more)).connections[key]? = some c)
    (phase : c.phase = .handshake deadline) :
    deadline = Clock.deadline (run config entry).hub.now config.handshakeTimeout := by
  have due := h.deadline
  rw [due?, here] at due
  simpa [Connection.due?, phase] using due

/-- An action that leaves the task in its handshake decides nothing. -/
theorem Undecided.act {a : Action} (h : Undecided config entry more key) {c c' : Connection}
    {deadline : Nat} (here : (run config (entry ++ more)).connections[key]? = some c)
    (before : c.phase = .handshake deadline)
    (there : (run config (entry ++ (more ++ [a]))).connections[key]? = some c')
    (after : c'.phase = .handshake deadline)
    (attentive : (Moment.mk (run config (entry ++ more)) a).Attentive key)
    (punctual : (Moment.mk (run config (entry ++ more)) a).Punctual key) :
    Undecided config entry (more ++ [a]) key := by
  have due := h.due here before
  have now : (run config (entry ++ (more ++ [a]))).hub.now =
      (run config (entry ++ more)).hub.now + a.span := by
    rw [← List.append_assoc, run_append, act_now]
  have past : history config (entry ++ (more ++ [a])) =
      history config (entry ++ more) ++ [⟨run config (entry ++ more), a⟩] := by
    rw [← List.append_assoc, history_append]
  have waiting : (run config (entry ++ (more ++ [a]))).stage? key = some .handshake := by
    simp [stage?, there, after, Phase.stage]
  obtain ⟨out, read⟩ := run_undecisive waiting
  -- When time passes, nothing has arrived and the signal is not set.
  have resting : 0 < a.span →
      (∀ item ∈ Relay.arrived key (history config (entry ++ more)), item.decides = false) ∧
        (run config (entry ++ more)).signal.isSet = false ∧
        (run config (entry ++ more)).hub.now < deadline :=
    fun passes => Resting.undecided here before (attentive.resting passes here)
  constructor
  case deadline => simp [due?, there, Connection.due?, after, due]
  case unregistered => exact out
  case read => exact read
  case within =>
    by_cases passes : 0 < a.span
    · have soon := punctual deadline (by simp [due?, here, Connection.due?, before]) passes
      rw [← due, ← List.append_assoc, run_append]
      exact soon
    · rw [now, Nat.eq_zero_of_not_pos passes]
      exact h.within
  case arrived =>
    rw [past]
    intro time came
    obtain ⟨s, hs, rfl, item, hi, decides⟩ := mem_arrivalTimes.mp came
    by_cases passes : 0 < a.span
    · have undecisive : item.decides = false := by
        rcases List.mem_append.mp hs with old | last
        · exact (resting passes).1 item (List.mem_flatMap.mpr ⟨s, old, hi⟩)
        · rw [List.mem_singleton.mp last] at hi
          cases a <;> first | exact absurd passes (Nat.lt_irrefl 0) | cases hi
      rw [undecisive] at decides
      cases decides
    · rw [now, Nat.eq_zero_of_not_pos passes]
      rcases List.mem_append.mp hs with old | last
      · exact h.arrived _ (mem_arrivalTimes.mpr ⟨s, old, rfl, item, hi, decides⟩)
      · rw [List.mem_singleton.mp last]
        exact Nat.le_max_left _ _
  case unset =>
    rw [historyFrom_concat]
    intro s hs passes
    rcases List.mem_append.mp hs with old | new
    · exact h.unset s old passes
    · rw [List.mem_singleton.mp new] at passes ⊢
      exact (resting passes).2.1

/-- As long as a task is in the handshake, nothing that decides it has happened before now. -/
theorem run_undecided {c₀ : Connection} (entered : (run config entry).connections[key]? = some c₀)
    (began : c₀.phase = .handshake (Clock.deadline (run config entry).hub.now
      config.handshakeTimeout))
    (attentive : ∀ s ∈ historyFrom (run config entry) more, s.Attentive key)
    (punctual : ∀ s ∈ historyFrom (run config entry) more, s.Punctual key)
    (waiting : (run config (entry ++ more)).stage? key = some .handshake) :
    Undecided config entry more key := by
  induction more using List.reverseRecOn with
  | nil => exact undecided_begin entered began
  | append_singleton more a ih =>
    rw [historyFrom_concat] at attentive punctual
    obtain ⟨c', there, stage⟩ := connection_of_stage waiting
    obtain ⟨deadline, after⟩ := deadline_of_stage stage
    have begun : 2 ≤ (run config (entry ++ more)).rank key := by
      have rank := rank_le_run config entry more key
      rwa [rank_of_some (task?_of_some entered), began] at rank
    have next := there
    rw [← List.append_assoc, run_append] at next
    obtain ⟨c, here, before⟩ := handshake_before begun next after
    have last : Moment.mk (run config (entry ++ more)) a ∈
        historyFrom (run config entry) more ++ [⟨run config (entry ++ more), a⟩] :=
      List.mem_append_right _ (List.mem_singleton.mpr rfl)
    refine (ih (fun s hs => attentive s (List.mem_append_left _ hs))
      (fun s hs => punctual s (List.mem_append_left _ hs)) ?_).act here before there after
      (attentive _ last) (punctual _ last)
    simp [stage?, here, before, Phase.stage]

/-- A task that leaves its handshake is aborted, or decides it with a step. -/
theorem decided_of_ends {s : Moment} (h : s.EndsHandshake key) :
    (s.action = .abort key ∧
        ∃ c', s.after.connections[key]? = some c' ∧ c'.phase = .ended .aborted) ∨
      ∃ b item c c', s.Decided key b item c c' := by
  obtain ⟨waiting, left⟩ := h
  obtain ⟨c, here, stage⟩ := connection_of_stage waiting
  obtain ⟨deadline, phase⟩ := deadline_of_stage stage
  obtain ⟨c', there, -, met⟩ := act_met here s.action
  have moved : c'.phase.stage ≠ .handshake := by
    intro stays
    exact left (by simp [stage?, Moment.after, there, stays])
  cases met with
  | waits _ _ same =>
    rw [same] at moved
    exact absurd stage moved
  | @acts b next act transition hub same transport =>
    rcases transition.decision phase with stays | ⟨item, decision, read⟩
    · rw [same, stays] at moved
      exact absurd rfl moved
    · exact Or.inr ⟨b, item, c, c', act, here, there, same ▸ decision, by rw [transport, read]⟩
  | dies act gone => exact Or.inl ⟨act, c', there, gone⟩

/-- The task has read what decides, and nothing behind it. -/
theorem Moment.Decided.consumed {a : Action} {b : Branch} {item : Option Inbound}
    {c c' : Connection} (h : (Moment.mk (run config actions) a).Decided key b item c c') :
    Relay.consumed key (history config (actions ++ [a])) =
      Relay.consumed key (history config actions) ++ item.toList := by
  have act : a = .step key b := h.act
  have here : (run config actions).connections[key]? = some c := h.here
  have there : (run config (actions ++ [a])).connections[key]? = some c' := by
    rw [run_append]
    exact h.after
  have before := ((ledgered_of_some here).mp (run_ledgered config actions key)).1
  have after := ((ledgered_of_some there).mp (run_ledgered config (actions ++ [a]) key)).1
  have nothing : (Moment.mk (run config actions) a).arrived key = [] := by rw [act]; rfl
  rw [history_append, arrived_append, nothing, List.append_nil, before, h.left,
    ← List.append_assoc] at after
  rw [history_append]
  exact (List.append_cancel_right after).symm

theorem Moment.ends_of_timesOut {s : Moment} (h : s.timesOut key = true) :
    s.EndsHandshake key := by
  obtain ⟨waiting, result⟩ := of_decide_eq_true h
  exact ⟨waiting, by simp [stage_of_verdict result]⟩

/-- A handshake times out with the step that finds its deadline over and nothing to read. -/
theorem Moment.overdue_of_timesOut {s : Moment} (h : s.timesOut key = true) :
    ∃ c c' deadline, s.Decided key .handshakeDeadline none c c' ∧ c.phase = .handshake deadline ∧
      c.transport.inbound = [] ∧ deadline ≤ s.before.hub.now ∧
      s.after.stage? key = some .closing := by
  have result := (of_decide_eq_true h).2
  obtain ⟨c', there, found⟩ := connection_of_verdict result
  rcases decided_of_ends (Moment.ends_of_timesOut h) with
    ⟨-, c'', gone, phase⟩ | ⟨b, item, c, c'', decided⟩
  · obtain rfl : c'' = c' := Option.some.inj (gone.symm.trans there)
    rw [phase] at found
    cases found
  · obtain rfl : c'' = c' := Option.some.inj (decided.after.symm.trans there)
    have decision := decided.decision
    generalize c''.phase = phase at decision found
    cases decision with
    | overdue waiting silent late =>
      exact ⟨c, c'', _, decided, waiting, silent, late, stage_of_verdict result⟩
    | _ => cases found

theorem Moment.timesOut_iff {s : Moment} : s.timesOut key = true ↔ s.timedOut? = some key := by
  constructor
  · intro h
    have waiting := (Moment.ends_of_timesOut h).1
    obtain ⟨c, c', deadline, decided, -, -, -, closing⟩ := Moment.overdue_of_timesOut h
    simp [Moment.timedOut?, decided.act, waiting, closing]
  · intro h
    unfold Moment.timedOut? at h
    split at h
    · rename_i k act
      split at h
      · rename_i stages
        obtain rfl : k = key := Option.some.inj h
        have ends : s.EndsHandshake k := ⟨stages.1, by simp [stages.2]⟩
        rcases decided_of_ends ends with ⟨aborted, -⟩ | ⟨b, item, c, c', decided⟩
        · rw [act] at aborted
          cases aborted
        · obtain rfl : Branch.handshakeDeadline = b :=
            (Action.step.inj (act.symm.trans decided.act)).2
          have decision := decided.decision
          generalize phase : c'.phase = next at decision
          cases decision
          simp [Moment.timesOut, stages.1, verdict?, decided.after, phase, Phase.verdict?]
      · cases h
    · cases h

/-- The task of a connection counts its handshake when that comes to its deadline, and only then. -/
theorem timeouts_act {a : Action} (own : a.actor? = some key) :
    (run config (actions ++ [a])).hub.meters.handshakeTimeouts =
      (run config actions).hub.meters.handshakeTimeouts +
        if (Moment.mk (run config actions) a).timesOut key then 1 else 0 := by
  have before := (run_meters config actions).timeouts
  have after := (run_meters config (actions ++ [a])).timeouts
  rw [history_append, timedOut, List.filterMap_append, List.length_append, UInt64.ofNat_add]
    at after
  rw [after, before]
  congr 1
  cases late : (Moment.mk (run config actions) a).timedOut? with
  | none =>
    have timely : (Moment.mk (run config actions) a).timesOut key = false := by
      rw [← Bool.not_eq_true, Moment.timesOut_iff, late]
      simp
    simp [late, timely]
  | some k =>
    have same : k = key := by
      unfold Moment.timedOut? at late
      split at late
      · rename_i k' act
        split at late
        · obtain rfl : k' = k := Option.some.inj late
          obtain rfl : a = .step k' .handshakeDeadline := act
          exact Option.some.inj own
        · cases late
      · cases late
    have timesOut := Moment.timesOut_iff.mpr (same ▸ late)
    simp [late, timesOut]

/-- A task that has a result right after the handshake was and is never registered. -/
theorem unadmitted_of_verdict {a : Action} {later : List Action} {result : Option ConnectionFault}
    (waiting : (run config actions).stage? key = some .handshake)
    (closing : (run config (actions ++ [a])).verdict? key = some result) :
    ¬ Admitted key (history config (actions ++ a :: later)) := by
  rw [history_split]
  rintro ⟨s, hs, admits⟩
  rcases List.mem_append.mp hs with old | new
  · exact (run_undecisive waiting).1 ⟨s, old, admits⟩
  rcases List.mem_cons.mp new with rfl | late
  · obtain ⟨c', there, found⟩ := connection_of_verdict closing
    rw [run_append] at there
    have ends : (Moment.mk (run config actions) a).EndsHandshake key := by
      refine ⟨waiting, ?_⟩
      rw [Moment.after, ← run_append, stage_of_verdict closing]
      decide
    rcases decided_of_ends ends with ⟨-, c'', gone, phase⟩ | ⟨b, item, c, c'', decided⟩
    · obtain rfl : c'' = c' := Option.some.inj (gone.symm.trans there)
      rw [phase] at found
      cases found
    · obtain rfl : c'' = c' := Option.some.inj (decided.after.symm.trans there)
      obtain rfl : a = .step key b := decided.act
      have enrols := (admits_step decided.here b).mp admits
      rw [decided.decision.verdict_eq_none decided.left enrols] at found
      cases found
  · have gone := Nat.le_trans (rank_of_closing (stage_of_verdict closing)) (rank_le_of_mem late key)
    obtain ⟨-, c, deadline, name, rest, registry, here, phase, -⟩ := admits
    rw [rank_of_some (task?_of_some here), phase] at gone
    exact absurd gone (by simp [Phase.rank])

end Runs

/-- How a handshake goes that begins with the last action of a run: until it is decided, what
decides it, and what follows from that. -/
structure Handshake (config : RelayConfig) (entry more : List Action) (key : Nat) : Prop where
  undecided : (run config (entry ++ more)).stage? key = some .handshake →
    Undecided config entry more key
  /-- A task that has no step to take in the handshake has read all that arrived, and that decided
  nothing; the signal is not set, and the deadline is still to come. -/
  lasting : (run config (entry ++ more)).stage? key = some .handshake →
    (∀ b ∈ Branch.all, (run config (entry ++ more)).ready key b = false) →
    (∀ item ∈ arrived key (history config (entry ++ more)), item.decides = false) ∧
      (run config (entry ++ more)).signal.isSet = false ∧
      (run config (entry ++ more)).hub.now <
        Clock.deadline (run config entry).hub.now config.handshakeTimeout
  /-- Unless the task is aborted, the first thing that decides does so when it happens. Of what has
  arrived, no more is read for this than the item that decides. -/
  decided : ∀ earlier a later, more = earlier ++ a :: later →
    (Moment.mk (run config (entry ++ earlier)) a).EndsHandshake key →
    Undecided config entry earlier key ∧
      (a = .abort key ∨ ∃ b item c c',
        (Moment.mk (run config (entry ++ earlier)) a).Decided key b item c c' ∧
        consumed key (history config (entry ++ earlier ++ [a])) =
          consumed key (history config (entry ++ earlier)) ++ item.toList)
  /-- A handshake times out at its deadline, if nothing that decides has arrived by then. -/
  timedOut : ∀ earlier a later, more = earlier ++ a :: later →
    (Moment.mk (run config (entry ++ earlier)) a).timesOut key = true →
    (∀ item ∈ arrived key (history config (entry ++ earlier)), item.decides = false) ∧
      (run config (entry ++ earlier)).hub.now =
        Clock.deadline (run config entry).hub.now config.handshakeTimeout ∧
      ((run config entry).hub.now + config.handshakeTimeout ≤ Clock.last →
        (run config (entry ++ earlier)).hub.now =
          (run config entry).hub.now + config.handshakeTimeout)
  counted : ∀ earlier a later, more = earlier ++ a :: later → a.actor? = some key →
    (run config (entry ++ earlier ++ [a])).hub.meters.handshakeTimeouts =
      (run config (entry ++ earlier)).hub.meters.handshakeTimeouts +
        if (Moment.mk (run config (entry ++ earlier)) a).timesOut key then 1 else 0
  /-- Whoever turns to closing in the handshake is at no time registered. -/
  unregistered : ∀ earlier a later, more = earlier ++ a :: later →
    (run config (entry ++ earlier)).stage? key = some .handshake →
    ((run config (entry ++ earlier ++ [a])).verdict? key).isSome = true →
    ¬ Admitted key (history config (entry ++ more))

section Theorem

variable {config : RelayConfig} {before more : List Action} {key : Nat}

/-- Whatever arrives and whenever: a task that keeps up with time decides its handshake with the
first thing that can decide it. -/
theorem run_handshake (ready : (run config before).ready key .start = true)
    (attentive : ∀ s ∈ historyFrom (run config (before ++ [.step key .start])) more,
      s.Attentive key)
    (punctual : ∀ s ∈ historyFrom (run config (before ++ [.step key .start])) more,
      s.Punctual key) :
    Handshake config (before ++ [.step key .start]) more key := by
  obtain ⟨c₀, entered, began⟩ := start_handshake ready
  generalize before ++ [.step key .start] = entry at *
  have undecided : ∀ earlier, earlier <+: more →
      (run config (entry ++ earlier)).stage? key = some .handshake →
      Undecided config entry earlier key := by
    rintro earlier ⟨later, rfl⟩ waiting
    rw [historyFrom_append] at attentive punctual
    exact run_undecided entered began (fun s hs => attentive s (List.mem_append_left _ hs))
      (fun s hs => punctual s (List.mem_append_left _ hs)) waiting
  have within : ∀ {earlier a later}, more = earlier ++ a :: later → earlier <+: more :=
    fun split => ⟨_, split.symm⟩
  constructor
  case undecided => exact undecided more (List.prefix_refl _)
  case lasting =>
    intro waiting unready
    obtain ⟨c, here, stage⟩ := connection_of_stage waiting
    obtain ⟨deadline, phase⟩ := deadline_of_stage stage
    obtain rfl := (undecided more (List.prefix_refl _) waiting).due here phase
    exact Resting.undecided here phase
      (resting_of_unready (fun b => unready b (by cases b <;> decide)) here)
  case decided =>
    intro earlier a later split ends
    refine ⟨undecided earlier (within split) ends.1, ?_⟩
    rcases decided_of_ends ends with ⟨aborted, -⟩ | ⟨b, item, c, c', decided⟩
    · exact Or.inl aborted
    · exact Or.inr ⟨b, item, c, c', decided, decided.consumed⟩
  case timedOut =>
    intro earlier a later split late
    have u := undecided earlier (within split) (Moment.ends_of_timesOut late).1
    obtain ⟨c, c', deadline, decided, phase, silent, passed, -⟩ := Moment.overdue_of_timesOut late
    have here : (run config (entry ++ earlier)).connections[key]? = some c := decided.here
    obtain rfl := u.due here phase
    have now := Nat.le_antisymm u.within passed
    refine ⟨?_, now, fun readable => now.trans (Clock.deadline_eq readable)⟩
    rw [arrived_eq_consumed here silent]
    exact u.read
  case counted => exact fun earlier a later split own => timeouts_act own
  case unregistered =>
    intro earlier a later split waiting closing
    obtain ⟨result, found⟩ := Option.isSome_iff_exists.mp closing
    rw [split, ← List.append_assoc]
    exact unadmitted_of_verdict waiting found

end Theorem

/-- Alice's client sends a life sign, and its name just before the deadline, with a line behind it.
-/
def nameInTime : List Action :=
  [.pass 2000, .arrive 0 .lifeSign, .step 0 .read, .pass 2999, .arrive 0 (.text "alice"),
    .arrive 0 (.text "hi"), .step 0 .read]

/-- Her client sends life signs, but no name. -/
def noName : List Action :=
  [.pass 2000, .arrive 0 .lifeSign, .step 0 .read, .pass 2000, .arrive 0 .lifeSign, .step 0 .read,
    .pass 1000, .step 0 .handshakeDeadline]

theorem run_handshake_alice :
    let config : RelayConfig := { handshakeTimeout := 5000 }
    let before : List Action := [.pass 100, .connect "a" {}]
    let entry := before ++ [.step 0 .start]
    (run config before).ready 0 .start = true ∧
      ((∀ s ∈ historyFrom (run config entry) nameInTime, s.Attentive 0) ∧
        (∀ s ∈ historyFrom (run config entry) nameInTime, s.Punctual 0) ∧
        consumed 0 (history config (entry ++ nameInTime)) = [.lifeSign, .text "alice"] ∧
        (run config (entry ++ nameInTime)).serves 0 = true ∧
        Handshake config entry nameInTime 0) ∧
      (∀ s ∈ historyFrom (run config entry) noName, s.Attentive 0) ∧
        (∀ s ∈ historyFrom (run config entry) noName, s.Punctual 0) ∧
        (run config (entry ++ noName)).verdict? 0 = some (some .handshakeTimeout) ∧
        (run config (entry ++ noName)).hub.now = 5100 ∧
        (run config (entry ++ noName)).hub.meters.handshakeTimeouts = 1 ∧
        Handshake config entry noName 0 := by
  intro config before entry
  have ready : (run config before).ready 0 .start = true := by decide +kernel
  have attentive : ∀ s ∈ historyFrom (run config entry) nameInTime, s.Attentive 0 := by
    decide +kernel
  have punctual : ∀ s ∈ historyFrom (run config entry) nameInTime, s.Punctual 0 := by
    decide +kernel
  have attentive' : ∀ s ∈ historyFrom (run config entry) noName, s.Attentive 0 := by
    decide +kernel
  have punctual' : ∀ s ∈ historyFrom (run config entry) noName, s.Punctual 0 := by decide +kernel
  exact ⟨ready,
    ⟨attentive, punctual, by decide +kernel, by decide +kernel,
      run_handshake ready attentive punctual⟩,
    attentive', punctual', by decide +kernel, by decide +kernel, by decide +kernel,
    run_handshake ready attentive' punctual'⟩

end Relay

end ChatRelay
