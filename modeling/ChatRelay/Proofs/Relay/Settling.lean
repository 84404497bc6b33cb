import ChatRelay.Proofs.Connection.Weight
import ChatRelay.Proofs.Relay.Inbound
import Mathlib.Algebra.BigOperators.Ring.List

/-!
# Schedules come to rest

Between two moments of the clock a schedule performs ready steps until none is left, and this
happens: each step takes weight away from the relay. So time passes from one moment at which
something is due to the next, and up to its end nothing is ready that was not performed.
-/

namespace ChatRelay

/-- A step that is ready later is ready now, or falls due meanwhile. -/
theorem Connection.due_of_ready_later {c : Connection} {s : Surroundings} {t : Nat} {b : Branch}
    (ready : c.ready { s with now := t } b = true)
    (unready : c.ready s b = false) : ∃ due, c.due? = some due ∧ s.now < due ∧ due ≤ t := by
  have falls {deadline : Nat} (waits : c.due? = some deadline) (reached : deadline ≤ t)
      (early : ¬ deadline ≤ s.now) : ∃ due, c.due? = some due ∧ s.now < due ∧ due ≤ t :=
    ⟨deadline, waits, Nat.lt_of_not_le early, reached⟩
  have contradiction {P : Prop} (same : c.ready { s with now := t } b = c.ready s b) : P := by
    rw [same, unready] at ready
    cases ready
  cases b with
  | handshakeDeadline =>
    cases phase : c.phase with
    | handshake deadline =>
      have waits : c.due? = some deadline := by simp [Connection.due?, phase]
      simp only [Connection.ready, phase, Bool.and_eq_true, decide_eq_true_eq,
        Bool.and_eq_false_iff, decide_eq_false_iff_not] at ready unready
      exact falls waits ready.2 (unready.resolve_left (by simp [ready.1]))
    | _ => simp [Connection.ready, phase] at ready
  | tick =>
    cases phase : c.phase with
    | active session =>
      have waits : c.due? = some session.tick := by simp [Connection.due?, phase]
      simp only [Connection.ready, phase, decide_eq_true_eq, decide_eq_false_iff_not]
        at ready unready
      exact falls waits ready unready
    | _ => simp [Connection.ready, phase] at ready
  | writeDeadline =>
    cases phase : c.phase with
    | writing session write =>
      have waits : c.due? = some write.deadline := by simp [Connection.due?, phase]
      simp only [Connection.ready, phase, Bool.and_eq_true, decide_eq_true_eq,
        Bool.and_eq_false_iff, decide_eq_false_iff_not] at ready unready
      exact falls waits ready.2 (unready.resolve_left (by simp [ready.1]))
    | _ => simp [Connection.ready, phase] at ready
  | closeDeadline =>
    cases phase : c.phase with
    | closing result begun deadline =>
      have waits : c.due? = some deadline := by simp [Connection.due?, phase]
      simp only [Connection.ready, phase, Bool.and_eq_true, decide_eq_true_eq,
        Bool.and_eq_false_iff, decide_eq_false_iff_not] at ready unready
      exact falls waits ready.2 (unready.resolve_left (by simp [ready.1]))
    | _ => simp [Connection.ready, phase] at ready
  | _ => exact contradiction rfl

namespace Relay

section Weight

variable {r : Relay} {key : Nat} {b : Branch}

theorem weight_eq (r : Relay) : r.weight =
    (r.connections.toList.map
      (Connection.weight (4 * r.connections.size + 1) r.hub.now)).sum + 4 * r.hub.load := by
  have queued : (r.hub.queues.toList.map fun q => 4 * q.pending.length).sum = 4 * r.hub.load :=
    List.sum_map_mul_left ..
  rw [← queued]
  rfl

/-- A member has a queue of its own, so there are no more members than connections. -/
theorem Sound.size_le (h : r.Sound) : r.hub.registry.size ≤ r.connections.size := by
  have places : r.hub.registry.members.map Member.queue ⊆ List.range r.connections.size := by
    intro key hk
    obtain ⟨m, hm, rfl⟩ := List.mem_map.mp hk
    exact List.mem_range.mpr (h.member_id hm).2
  have shorter := (List.subperm_of_subset h.distinct places).length_le
  rwa [List.length_map, List.length_range] at shorter

theorem perform_size (ready : r.ready key b = true) :
    (r.perform key b).connections.size = r.connections.size := by
  obtain ⟨c, next, -, -, done⟩ := perform_of_ready ready
  rw [done, update_size]

theorem weight_perform_lt (sound : r.Sound) (ready : r.ready key b = true) :
    (r.perform key b).weight < r.weight := by
  have now := perform_now ready
  obtain ⟨c, next, here, transition, done⟩ := perform_of_ready ready
  have able : c.ready (r.surroundings key) b = true := by simpa [Relay.ready, here] using ready
  have lighter := transition.lighter able rfl sound.size_le
  obtain ⟨stored, connections, weighs⟩ : ∃ stored : Connection,
      (r.update key next.1 next.2).connections = r.connections.setIfInBounds key stored ∧
        ∀ item now, stored.weight item now = next.2.weight item now :=
    ⟨_, update_connections r key next.1 next.2, fun _ _ => rfl⟩
  have replaced :=
    sum_set (Connection.weight (4 * r.connections.size + 1) r.hub.now) here stored
  rw [weighs] at replaced
  rw [weight_eq, weight_eq, now, done, update_size, update_hub, connections]
  omega

theorem act_step (ready : r.ready key b = true) : r.act (.step key b) = r.perform key b :=
  if_pos ready

theorem Sound.act (h : r.Sound) (a : Action) : (r.act a).Sound := h.change (act_change r a)

end Weight

section Next

variable {r : Relay} {key : Nat} {b : Branch}

/-- The next step is the first that is ready at the first place that has one. -/
theorem firstReady_of_next (next : r.next? = some (key, b)) :
    r.firstReady? key = some b ∧ ∀ k, k < key → r.firstReady? k = none := by
  obtain ⟨before, k, after, split, found, none⟩ := List.findSome?_eq_some_iff.mp next
  obtain ⟨b', first, same⟩ := Option.map_eq_some_iff.mp found
  cases same
  refine ⟨first, fun j below => ?_⟩
  have sorted : (before ++ key :: after).Pairwise (· < ·) := split ▸ List.pairwise_lt_range
  have above := (List.pairwise_cons.mp (List.pairwise_append.mp sorted).2.1).1
  have inside : key ∈ List.range r.connections.size := by simp [split]
  have among : j ∈ before ++ key :: after := by
    rw [← split, List.mem_range]
    exact Nat.lt_trans below (List.mem_range.mp inside)
  rcases List.mem_append.mp among with earlier | later
  · exact Option.map_eq_none_iff.mp (none j earlier)
  · rcases List.mem_cons.mp later with rfl | later
    · omega
    · have := above j later
      omega

/-- Who comes to rest takes the next step first. -/
theorem settleWithin_of_next (next : r.next? = some (key, b)) {steps : Nat}
    (rest : (r.settleWithin steps).isQuiet = true) :
    ∃ fewer, steps = fewer + 1 ∧
      r.settleWithin steps = (r.act (.step key b)).settleWithin fewer := by
  cases steps with
  | zero =>
    rw [settleWithin, isQuiet, next] at rest
    cases rest
  | succ steps => exact ⟨steps, rfl, by simp [settleWithin, next, act_step (ready_of_next next)]⟩

end Next

section Rest

variable {r : Relay} {limit : Nat}

theorem isQuiet_iff : r.isQuiet = true ↔ ∀ key b, r.ready key b = false := by
  constructor
  · intro quiet key b
    by_cases inBounds : key < r.connections.size
    · exact not_ready_of_quiet quiet inBounds b
    · have absent : r.connections[key]? = none := by simpa using inBounds
      simp [Relay.ready, absent]
  · intro unready
    rw [isQuiet, Option.isNone_iff_eq_none, next?, List.findSome?_eq_none_iff]
    intro key _
    rw [Option.map_eq_none_iff, firstReady?, List.find?_eq_none]
    intro b _
    simp [unready key b]

/-- What every ready step keeps holds when no more steps are taken. -/
theorem settleWithin_keeps {P : Relay → Prop}
    (step : ∀ r key b, r.ready key b = true → P r → P (r.act (.step key b))) (start : P r)
    (steps : Nat) : P (r.settleWithin steps) := by
  induction steps generalizing r with
  | zero => exact start
  | succ steps ih =>
    cases next : r.next? with
    | none => simpa [settleWithin, next] using start
    | some found =>
      obtain ⟨key, b⟩ := found
      have ready := ready_of_next next
      have stepped := ih (step r key b ready start)
      simpa [settleWithin, next, act_step ready] using stepped

/-- Enough steps, and none is ready. -/
theorem settleWithin_isQuiet (sound : r.Sound) {steps : Nat} (enough : r.weight ≤ steps) :
    (r.settleWithin steps).isQuiet = true := by
  induction steps generalizing r with
  | zero =>
    cases next : r.next? with
    | none => simp [settleWithin, isQuiet, next]
    | some found =>
      have lighter := weight_perform_lt sound (ready_of_next next)
      omega
  | succ steps ih =>
    cases next : r.next? with
    | none => simp [settleWithin, isQuiet, next]
    | some found =>
      obtain ⟨key, b⟩ := found
      have ready := ready_of_next next
      have lighter := weight_perform_lt sound ready
      have settled := ih (r := r.perform key b) (act_step ready ▸ sound.act _) (by omega)
      simpa [settleWithin, next] using settled

theorem settle_isQuiet (sound : r.Sound) : r.settle.isQuiet = true :=
  settleWithin_isQuiet sound (Nat.le_refl _)

theorem Sound.settle (h : r.Sound) : r.settle.Sound :=
  settleWithin_keeps (fun _ _ _ _ sound => sound.act _) h _

theorem settle_now (r : Relay) : r.settle.hub.now = r.hub.now := (settleWithin_run r _).2

theorem settle_size (r : Relay) : r.settle.connections.size = r.connections.size :=
  settleWithin_keeps (P := fun s => s.connections.size = r.connections.size)
    (fun _ _ _ ready size => by rw [act_step ready, perform_size ready, size]) rfl _

theorem settleWithin_of_quiet (quiet : r.isQuiet = true) (steps : Nat) :
    r.settleWithin steps = r := by
  cases steps with
  | zero => rfl
  | succ steps => rw [settleWithin, Option.isNone_iff_eq_none.mp quiet]

theorem settle_of_quiet (quiet : r.isQuiet = true) : r.settle = r :=
  settleWithin_of_quiet quiet _

theorem Sound.withClock (h : r.Sound) (now : Nat) : (r.withClock now).Sound :=
  h.calm ⟨rfl, rfl, rfl, rfl, rfl, rfl, rfl, fun _ => rfl⟩

/-- Nothing falls due up to a time. -/
def IdleUntil (r : Relay) (t : Nat) : Prop := ∀ due, r.nextDue? = some due → t < due

theorem mem_dues {c : Connection} (here : c ∈ r.connections) {due : Nat}
    (waits : c.due? = some due) (later : r.hub.now < due) :
    due ∈ (r.connections.toList.filterMap Connection.due?).filter fun t => r.hub.now < t :=
  List.mem_filter.mpr ⟨List.mem_filterMap.mpr ⟨c, Array.mem_toList_iff.mpr here, waits⟩,
    by simpa using later⟩

theorem nextDue_le {t : Nat} (next : r.nextDue? = some t) {c : Connection}
    (here : c ∈ r.connections) {due : Nat} (waits : c.due? = some due) (later : r.hub.now < due) :
    t ≤ due :=
  (List.min?_eq_some_iff.mp next).2 due (mem_dues here waits later)

theorem IdleUntil.lt {t : Nat} (h : r.IdleUntil t) {c : Connection} (here : c ∈ r.connections)
    {due : Nat} (waits : c.due? = some due) (later : r.hub.now < due) : t < due := by
  cases first : r.nextDue? with
  | none =>
    have among := mem_dues here waits later
    rw [nextDue?, List.min?_eq_none_iff] at first
    rw [first] at among
    cases among
  | some soonest => exact Nat.lt_of_lt_of_le (h soonest first) (nextDue_le first here waits later)

/-- A relay at rest stays so until something falls due. -/
theorem isQuiet_withClock (quiet : r.isQuiet = true) {t : Nat} (idle : r.IdleUntil t) :
    (r.withClock t).isQuiet = true := by
  rw [isQuiet_iff]
  intro key b
  rw [← Bool.not_eq_true]
  intro ready
  cases here : r.connections[key]? with
  | none => simp [Relay.ready, withClock, here] at ready
  | some c =>
    have able : c.ready { r.surroundings key with now := t } b = true := by
      have there : (r.withClock t).connections[key]? = some c := here
      rw [Relay.ready, there] at ready
      exact ready
    have unready : c.ready (r.surroundings key) b = false := by
      simpa [Relay.ready, here] using isQuiet_iff.mp quiet key b
    obtain ⟨due, waits, after, reached⟩ := Connection.due_of_ready_later able unready
    have := idle.lt (Array.mem_of_getElem? here) waits after
    omega

theorem nextDue?_withClock {t : Nat} (later : r.hub.now ≤ t) (idle : r.IdleUntil t) :
    (r.withClock t).nextDue? = r.nextDue? := by
  simp only [nextDue?, withClock]
  congr 1
  apply List.filter_congr
  intro due waits
  obtain ⟨c, here, waits⟩ := List.mem_filterMap.mp waits
  exact decide_eq_decide.mpr ⟨fun after => Nat.lt_of_le_of_lt later after,
    fun after => idle.lt (Array.mem_toList_iff.mp here) waits after⟩

/-- What ready steps and the passing of time keep holds when a schedule has come to its end. -/
theorem runUntil_keeps {P : Relay → Prop}
    (step : ∀ r key b, r.ready key b = true → P r → P (r.act (.step key b)))
    (pass : ∀ r t, r.hub.now ≤ t → P r → P (r.withClock t)) (start : P r)
    (within : r.hub.now ≤ limit) (moments : Nat) : P (runUntil limit moments r) := by
  have settled (r : Relay) (t : Nat) (later : r.hub.now ≤ t) (p : P r) :
      P (r.withClock t).settle := settleWithin_keeps step (pass r t later p) _
  induction moments generalizing r with
  | zero => exact settled r limit within start
  | succ moments ih =>
    cases next : r.nextDue? with
    | none => simpa [runUntil, next] using pass r limit within start
    | some t =>
      by_cases soon : t ≤ limit
      · have later := Nat.le_of_lt (now_lt_of_nextDue next)
        simpa [runUntil, next, soon] using
          ih (settled r t later start) (by rw [settle_now]; exact soon)
      · simpa [runUntil, next, soon] using pass r limit within start

/-- A relay at rest is at rest again when time has passed. -/
theorem runUntil_rest (sound : r.Sound) (quiet : r.isQuiet = true) (within : r.hub.now ≤ limit)
    {moments : Nat} (enough : limit - r.hub.now < moments) :
    (runUntil limit moments r).isQuiet = true ∧ (runUntil limit moments r).hub.now = limit := by
  induction moments generalizing r with
  | zero => omega
  | succ moments ih =>
    have waited (idle : r.IdleUntil limit) :
        (r.withClock limit).isQuiet = true ∧ (r.withClock limit).hub.now = limit :=
      ⟨isQuiet_withClock quiet idle, rfl⟩
    cases next : r.nextDue? with
    | none => simpa [runUntil, next] using waited (fun due found => by simp [next] at found)
    | some t =>
      by_cases soon : t ≤ limit
      · have later := now_lt_of_nextDue next
        have now : (r.withClock t).settle.hub.now = t := settle_now _
        have rested := ih (sound.withClock t).settle (settle_isQuiet (sound.withClock t))
          (by rw [now]; exact soon) (by rw [now]; omega)
        simpa [runUntil, next, soon] using rested
      · have idle : r.IdleUntil limit := by
          intro due found
          obtain rfl : t = due := Option.some.inj (next.symm.trans found)
          omega
        simpa [runUntil, next, soon] using waited idle

/-- Until something falls due only the clock moves. -/
theorem runUntil_skip {t : Nat} (later : r.hub.now ≤ t) (idle : r.IdleUntil t) (moments : Nat) :
    runUntil limit (moments + 1) (r.withClock t) = runUntil limit (moments + 1) r := by
  rw [runUntil, runUntil, nextDue?_withClock later idle]
  rfl

/-- Beyond what is enough, the number of moments makes no difference. -/
theorem runUntil_moments (within : r.hub.now ≤ limit) {moments more : Nat}
    (enough : limit - r.hub.now < moments) (enough' : limit - r.hub.now < more) :
    runUntil limit moments r = runUntil limit more r := by
  induction moments generalizing r more with
  | zero => omega
  | succ moments ih =>
    cases more with
    | zero => omega
    | succ more =>
      cases next : r.nextDue? with
      | none => simp only [runUntil, next]
      | some t =>
        by_cases soon : t ≤ limit
        · have later := now_lt_of_nextDue next
          have now : (r.withClock t).settle.hub.now = t := settle_now _
          simp only [runUntil, next, soon, if_true]
          exact ih (by rw [now]; exact soon) (by rw [now]; omega) (by rw [now]; omega)
        · simp only [runUntil, next, soon, if_false]

/-- A schedule may stop on its way and go on. -/
theorem runUntil_runUntil {t : Nat} (later : r.hub.now ≤ t) (within : t ≤ limit)
    {first second whole : Nat} (enough : t - r.hub.now < first) (enough' : limit - t < second)
    (enough'' : limit - r.hub.now < whole) :
    runUntil limit second (runUntil t first r) = runUntil limit whole r := by
  induction first generalizing r whole with
  | zero => omega
  | succ first ih =>
    have waits (idle : r.IdleUntil t) :
        runUntil limit second (r.withClock t) = runUntil limit whole r := by
      cases whole with
      | zero => omega
      | succ whole =>
        rw [← runUntil_skip later idle]
        have now : (r.withClock t).hub.now = t := rfl
        exact runUntil_moments (by rw [now]; exact within) (by rw [now]; exact enough')
          (by rw [now]; omega)
    cases next : r.nextDue? with
    | none => simpa [runUntil, next] using waits (fun due found => by simp [next] at found)
    | some u =>
      by_cases soon : u ≤ t
      · have ahead := now_lt_of_nextDue next
        have now : (r.withClock u).settle.hub.now = u := settle_now _
        cases whole with
        | zero => omega
        | succ whole =>
          simp only [runUntil, next, soon, Nat.le_trans soon within, if_true]
          exact ih (by rw [now]; exact soon) (by rw [now]; omega) (by rw [now]; omega)
      · have idle : r.IdleUntil t := by
          intro due found
          obtain rfl : u = due := Option.some.inj (next.symm.trans found)
          omega
        simpa [runUntil, next, soon] using waits idle

theorem advance_rest (sound : r.Sound) (quiet : r.isQuiet = true) (length : Nat) :
    (r.advance length).isQuiet = true ∧ (r.advance length).hub.now = r.hub.now + length :=
  runUntil_rest sound quiet (Nat.le_add_right _ _) (by omega)

theorem advance_size (r : Relay) (length : Nat) :
    (r.advance length).connections.size = r.connections.size :=
  runUntil_keeps (P := fun s => s.connections.size = r.connections.size)
    (fun _ _ _ ready size => by rw [act_step ready, perform_size ready, size])
    (fun _ _ _ size => size) rfl (Nat.le_add_right _ _) _

/-- Time may pass in any portions. -/
theorem advance_advance (sound : r.Sound) (quiet : r.isQuiet = true) (first second : Nat) :
    (r.advance first).advance second = r.advance (first + second) := by
  have now := (advance_rest sound quiet first).2
  rw [advance, now, Nat.add_assoc]
  exact runUntil_runUntil (Nat.le_add_right _ _) (by omega) (by omega) (by omega) (by omega)

/-- No time passes. -/
theorem runUntil_now (r : Relay) (moments : Nat) : runUntil r.hub.now (moments + 1) r = r := by
  rw [runUntil]
  cases next : r.nextDue? with
  | none => rfl
  | some t =>
    have later := now_lt_of_nextDue next
    exact if_neg (by omega)

theorem advance_zero (r : Relay) : r.advance 0 = r := runUntil_now r 0

/-- A relay at rest goes to a time before which nothing falls due. -/
theorem runUntil_of_first (quiet : r.isQuiet = true)
    (first : ∀ due, r.nextDue? = some due → limit ≤ due) {moments : Nat}
    (enough : limit - r.hub.now < moments) :
    runUntil limit moments r = (r.withClock limit).settle := by
  have waits (idle : r.IdleUntil limit) : r.withClock limit = (r.withClock limit).settle :=
    (settle_of_quiet (isQuiet_withClock quiet idle)).symm
  cases moments with
  | zero => omega
  | succ moments =>
    cases next : r.nextDue? with
    | none => simpa [runUntil, next] using waits (fun due found => by simp [next] at found)
    | some t =>
      have later := now_lt_of_nextDue next
      have least := first t next
      by_cases soon : t ≤ limit
      · obtain rfl : limit = t := Nat.le_antisymm least soon
        have now : (r.withClock limit).settle.hub.now = limit := settle_now _
        obtain ⟨moments, rfl⟩ : ∃ fewer, moments = fewer + 1 :=
          ⟨moments - 1, by omega⟩
        have stays := runUntil_now (r.withClock limit).settle moments
        rw [now] at stays
        simpa [runUntil, next] using stays
      · have idle : r.IdleUntil limit := by
          intro due found
          obtain rfl : t = due := Option.some.inj (next.symm.trans found)
          omega
        simpa [runUntil, next, soon] using waits idle

theorem lt_nextDue {r : Relay} {limit : Nat} (ahead : r.hub.now < limit) :
    r.hub.now < r.nextDue?.getD limit := by
  cases found : r.nextDue? with
  | none => exact ahead
  | some due => exact now_lt_of_nextDue found

/-- A schedule may settle at a time before which nothing falls due, and go on from there. -/
theorem runUntil_stop (quiet : r.isQuiet = true) {t moments : Nat} (later : r.hub.now ≤ t)
    (within : t ≤ limit) (first : ∀ due, r.nextDue? = some due → t ≤ due)
    (enough : limit - r.hub.now < moments) :
    runUntil limit (limit + 1) (r.withClock t).settle = runUntil limit moments r := by
  have stop : runUntil t (limit + 1) r = (r.withClock t).settle :=
    runUntil_of_first quiet first (by omega)
  rw [← stop]
  exact runUntil_runUntil later within (by omega) (by omega) enough

end Rest

end Relay

end ChatRelay
