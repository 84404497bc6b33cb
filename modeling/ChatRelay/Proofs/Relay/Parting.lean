import ChatRelay.Proofs.Connection.Parting
import ChatRelay.Proofs.Relay.Inbound
import ChatRelay.Proofs.Relay.Time

/-!
# The step with which a task gets its result

A task that is closing its transport or has returned has its result from one step, with which it
turned to closing. Since then it has read nothing, and has told only of its closing.
-/

namespace ChatRelay

namespace Relay

/-- The result that the task of a connection has, if it is closing its transport or has returned. -/
def verdict? (r : Relay) (key : Nat) : Option (Option ConnectionFault) :=
  (r.connections[key]?).bind fun c => c.phase.verdict?

section Results

variable {r : Relay} {key : Nat} {result : Option ConnectionFault}

theorem verdict_of_some {c : Connection} (here : r.connections[key]? = some c) :
    r.verdict? key = c.phase.verdict? := by
  rw [verdict?, here]
  rfl

theorem connection_of_verdict (h : r.verdict? key = some result) :
    ∃ c, r.connections[key]? = some c ∧ c.phase.verdict? = some result :=
  Option.bind_eq_some_iff.mp h

/-- A task that has a result is in the last stage. -/
theorem stage_of_verdict (h : r.verdict? key = some result) : r.stage? key = some .closing := by
  obtain ⟨c, here, found⟩ := connection_of_verdict h
  cases phase : c.phase <;> simp_all [stage?, Phase.verdict?, Phase.stage]

end Results

/-- The task of a connection got its result with a step of a run: where it stood then, why it parted
with the step, and what it has told since. -/
structure Parted (config : RelayConfig) (actions earlier : List Action) (b : Branch) (key : Nat)
    (c c' : Connection) (remarks : List ConnectionEvent) (result : Option ConnectionFault) :
    Prop where
  split : earlier ++ [.step key b] <+: actions
  here : (run config earlier).connections[key]? = some c
  parting : c.Parting config ((run config earlier).surroundings key) (run config earlier).hub key b
    c' remarks result
  after : (run config (earlier ++ [.step key b])).verdict? key = some result
  told : ∃ farewell : List ConnectionEvent, (∀ e ∈ farewell, e.isFarewell = true) ∧
    own key (history config actions) = own key (history config earlier) ++
      (remarks ++ farewell).map (Event.connection c.id)

section Runs

variable {config : RelayConfig} {actions earlier : List Action} {b : Branch} {key : Nat}
  {c c' : Connection} {remarks : List ConnectionEvent} {result : Option ConnectionFault}

/-- In a further action the task tells only of its closing. -/
theorem Parted.act (h : Parted config actions earlier b key c c' remarks result) {a : Action}
    {more : List ConnectionEvent} (closing : ∀ e ∈ more, e.isFarewell = true)
    (told : (Moment.mk (run config actions) a).own key = more.map (Event.connection c.id)) :
    Parted config (actions ++ [a]) earlier b key c c' remarks result := by
  obtain ⟨farewell, before, same⟩ := h.told
  refine { h with split := h.split.trans (List.prefix_append _ _), told := ?_ }
  refine ⟨farewell ++ more, fun e he => (List.mem_append.mp he).elim (before e) (closing e), ?_⟩
  rw [history_append, own_append, same, told, List.append_assoc, ← List.map_append,
    List.append_assoc]

/-- A task that has a result got it with a step of its own. -/
theorem run_parted (closing : (run config actions).verdict? key = some result) :
    ∃ earlier b c c' remarks, Parted config actions earlier b key c c' remarks result := by
  induction actions using List.reverseRecOn with
  | nil => simp [run, ofConfig, verdict?] at closing
  | append_singleton actions a ih =>
    obtain ⟨c', there, found⟩ := connection_of_verdict closing
    rw [run_append] at there
    cases here : (run config actions).connections[key]? with
    | none =>
      rw [act_begins here there] at found
      cases found
    | some c =>
      obtain ⟨c₁, there', -, met⟩ := act_met here a
      obtain rfl : c₁ = c' := Option.some.inj (there'.symm.trans there)
      -- The task had its result before, and only closes its transport with the action.
      have closes : ∀ farewell : List ConnectionEvent, c.phase.verdict? = some result →
          (∀ e ∈ farewell, e.isFarewell = true) →
          (Moment.mk (run config actions) a).own key = farewell.map (Event.connection c.id) →
          ∃ earlier b c c' remarks,
            Parted config (actions ++ [a]) earlier b key c c' remarks result := by
        intro farewell before farewells told
        obtain ⟨earlier, b, c₀, c₀', remarks, parted⟩ := ih ((verdict_of_some here).trans before)
        have same : c.id = c₀.id := (id_eq_nth here).trans (id_eq_nth parted.here).symm
        exact ⟨earlier, b, c₀, c₀', remarks, parted.act farewells (same ▸ told)⟩
      cases met with
      | waits silent out phase => exact closes [] (phase ▸ found) (by simp) silent
      | @acts b next act transition hub phase =>
        rw [phase] at found
        rw [run_config] at transition
        obtain rfl : a = .step key b := act
        rcases transition.parting found with
          ⟨before, farewell, farewells, story⟩ | ⟨c₀', remarks, parting, story⟩
        · exact closes farewell before farewells (own_of_story rfl (by rw [hub, story]))
        · refine ⟨actions, b, c, c₀', remarks, List.prefix_refl _, here, parting, closing,
            [.moved c.phase.stage .closing], by simp [ConnectionEvent.isFarewell], ?_⟩
          rw [history_append, own_append, own_of_story rfl (by rw [hub, story])]
      | dies act phase =>
        rw [phase] at found
        cases found

namespace Parted

variable (h : Parted config actions earlier b key c c' remarks result)

include h

/-- The task had no result before the step. -/
theorem before : (run config earlier).verdict? key = none := by
  rw [verdict_of_some h.here]
  exact h.parting.verdict_eq_none

theorem late : 4 ≤ (run config (earlier ++ [.step key b])).rank key :=
  rank_of_closing (stage_of_verdict h.after)

/-- The task has read since then no more than it read with the step. -/
theorem consumed : Relay.consumed key (history config actions) =
    Relay.consumed key (history config earlier) ++
      itemsOf (remarks.map (Event.connection c.id)) := by
  obtain ⟨farewell, closing, told⟩ := h.told
  have unread : itemsOf (farewell.map (Event.connection c.id)) = [] := by
    rw [itemsOf, List.filterMap_map, List.filterMap_eq_nil_iff]
    intro e he
    have farewells := closing e he
    cases e with
    | consumed => cases farewells
    | _ => rfl
  rw [Relay.consumed, told, itemsOf_append, List.map_append, itemsOf_append, unread,
    List.append_nil]
  rfl

end Parted

end Runs

end Relay

end ChatRelay
