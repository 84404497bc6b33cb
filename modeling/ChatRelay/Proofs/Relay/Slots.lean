import ChatRelay.Proofs.Relay.Sound

/-!
# Who holds the slots

Every slot that is taken belongs to an accepted upgrade whose connection is not there yet, to a
label or to a connection whose task is not over.
-/

namespace ChatRelay

theorem Slots.reserve?_eq_some_iff {s s' : Slots} :
    s.reserve? = some s' ↔ s.taken < s.capacity ∧ s' = { s with taken := s.taken + 1 } := by
  unfold reserve?
  split
  · rename_i free
    simp [free, eq_comm]
  · rename_i full
    simp [full]

namespace Connection

section Steps

variable {config : RelayConfig} {s : Surroundings} {c : Connection} {hub : Hub} {key : QueueKey}

theorem GivingUp.slot {b : Branch} {meters : Meters} {c' : Connection}
    {remarks : List ConnectionEvent} {result : Option ConnectionFault}
    (h : GivingUp config s c hub key b meters c' remarks result) : c'.holdsSlot = c.holdsSlot := by
  cases h <;> rfl

theorem Leaving.slot {b : Branch} {c' : Connection} {remarks : List ConnectionEvent}
    {result : Option ConnectionFault} (h : Leaving config s c hub key b c' remarks result) :
    c'.holdsSlot = c.holdsSlot := by
  cases h <;> rfl

/-- Whether a connection holds a slot is none of its task's business. -/
theorem Transition.slot {b : Branch} {next : Hub × Connection}
    (h : Transition config s c hub key b next) : next.2.holdsSlot = c.holdsSlot := by
  cases h with
  | giveUp phase reason => exact reason.slot
  | leave reason => exact reason.slot
  | _ => rfl

end Steps

def holders (connections : List Connection) : Nat := connections.countP Connection.holdsSlot

/-- A connection takes the place of another, and the slots are counted again. -/
theorem holders_set {connections : List Connection} {key : Nat} {old : Connection}
    (here : connections[key]? = some old) (new : Connection) :
    holders (connections.set key new) + (if old.holdsSlot then 1 else 0) =
      holders connections + if new.holdsSlot then 1 else 0 := by
  induction connections generalizing key with
  | nil => simp at here
  | cons first rest ih =>
    cases key with
    | zero =>
      obtain rfl : first = old := by simpa using here
      simp only [List.set_cons_zero, holders, List.countP_cons]
      omega
    | succ key =>
      have among : rest[key]? = some old := by simpa using here
      have counted := ih among
      simp only [holders] at counted
      simp only [List.set_cons_succ, holders, List.countP_cons]
      omega

end Connection

namespace Relay

/-- Every slot that is taken is held by somebody, and nobody holds one whose task is over. -/
structure Accounted (r : Relay) : Prop where
  taken : r.slots.taken =
    r.upgrades + r.reserved.length + Connection.holders r.connections.toList
  free : ∀ c ∈ r.connections.toList, c.phase.isOver = true → c.holdsSlot = false

section Preservation

variable {r r' : Relay}

/-- Nothing changes that has to do with slots. -/
theorem Accounted.keep (h : r.Accounted) (slots : r'.slots = r.slots)
    (upgrades : r'.upgrades = r.upgrades) (reserved : r'.reserved = r.reserved)
    (connections : r'.connections = r.connections) : r'.Accounted where
  taken := by rw [slots, upgrades, reserved, connections]; exact h.taken
  free := by rw [connections]; exact h.free

/-- A client comes. A slot that it gets is that of an upgrade. -/
theorem Accounted.connect (h : r.Accounted) {upgrades : Nat} (peer : String) (transport : Transport)
    {slot : Bool} (paid : upgrades + (if slot then 1 else 0) = r.upgrades) :
    ({ r with upgrades }.connect peer transport slot).2.Accounted where
  taken := by
    have taken := h.taken
    simp only [Relay.connect, Connection.holders, Array.toList_push, List.countP_append,
      List.countP_singleton] at taken ⊢
    omega
  free := by
    intro c hc ended
    rcases List.mem_append.mp (Array.toList_push ▸ hc) with old | new
    · exact h.free c old ended
    · rw [List.mem_singleton.mp new] at ended
      cases ended

/-- A connection takes the place of another; if only one of them holds a slot, the difference is
made up for. -/
theorem Accounted.set (h : r.Accounted) {key : Nat} {old new : Connection}
    (here : r.connections[key]? = some old) (free : new.phase.isOver = true → new.holdsSlot = false)
    (connections : r'.connections.toList = r.connections.toList.set key new)
    (upgrades : r'.upgrades = r.upgrades) (reserved : r'.reserved = r.reserved)
    (taken : r'.slots.taken + (if old.holdsSlot then 1 else 0) =
      r.slots.taken + if new.holdsSlot then 1 else 0) : r'.Accounted where
  taken := by
    have before := h.taken
    have counted := Connection.holders_set (Array.getElem?_toList ▸ here) new
    rw [upgrades, reserved, connections]
    omega
  free := by
    intro c hc ended
    rw [connections] at hc
    rcases List.mem_or_eq_of_mem_set hc with kept | rfl
    · exact h.free c kept ended
    · exact free ended

theorem Accounted.update (h : r.Accounted) {key : Nat} {old : Connection}
    (here : r.connections[key]? = some old) (hub : Hub) {c : Connection}
    (slot : c.holdsSlot = old.holdsSlot) : (r.update key hub c).Accounted := by
  unfold Relay.update
  split
  · rename_i freed
    obtain ⟨-, holds⟩ := Bool.and_eq_true_iff.mp freed
    have before := h.taken
    have counted :=
      Connection.holders_set (Array.getElem?_toList ▸ here) { c with holdsSlot := false }
    rw [if_pos (slot ▸ holds), if_neg Bool.false_ne_true] at counted
    have paid : r.slots.taken - 1 + 1 = r.slots.taken + 0 := by omega
    refine h.set here (fun _ => rfl) Array.toList_setIfInBounds rfl rfl ?_
    rw [if_pos (slot ▸ holds), if_neg Bool.false_ne_true]
    exact paid
  · rename_i stays
    refine h.set here ?_ Array.toList_setIfInBounds rfl rfl (by rw [slot])
    intro ended
    simpa [ended] using stays

theorem Accounted.modifyTransport (h : r.Accounted) (key : Nat) (f : Transport → Transport) :
    (r.modifyTransport key f).Accounted := by
  have connections : (r.modifyTransport key f).connections.toList =
      ((fun c => r.connections.toList.set key { c with transport := f c.transport }) <$>
        r.connections.toList[key]?).getD r.connections.toList := by
    rw [← List.modify_eq_set_getElem?, ← Array.toList_modify]
    rfl
  rw [Array.getElem?_toList] at connections
  cases here : r.connections[key]? with
  | none =>
    rw [here] at connections
    exact h.keep rfl rfl rfl (Array.toList_inj.mp connections)
  | some c =>
    rw [here] at connections
    have among := List.mem_of_getElem? (Array.getElem?_toList ▸ here)
    refine h.set here ?_ connections rfl rfl rfl
    exact h.free c among

theorem Accounted.effect {a : Action} (h : r.Accounted) (effect : Effect r a r') :
    r'.Accounted := by
  have taken := h.taken
  cases effect with
  | nothing => exact h
  | connect => exact h.connect _ _ rfl
  | arrive => exact h.modifyTransport _ _
  | hangUp => exact h.modifyTransport _ _
  | setModes => exact h.modifyTransport _ _
  | abort here => exact h.update here _ rfl
  | step here transition => exact h.update here _ transition.slot
  | reserve free new =>
    obtain ⟨-, rfl⟩ := Slots.reserve?_eq_some_iff.mp free
    refine ⟨?_, h.free⟩
    simp only [List.length_cons]
    omega
  | release reserved =>
    have among := List.contains_iff_mem.mp reserved
    have some := List.length_pos_of_mem among
    refine ⟨?_, h.free⟩
    simp only [Slots.release, List.length_erase_of_mem among]
    omega
  | accept unset free =>
    obtain ⟨-, rfl⟩ := Slots.reserve?_eq_some_iff.mp free
    refine ⟨?_, h.free⟩
    dsimp only
    omega
  | completeUpgrade waiting => exact h.connect _ _ (Nat.sub_add_cancel (Nat.pos_of_ne_zero waiting))
  | failUpgrade waiting =>
    refine ⟨?_, h.free⟩
    simp only [Slots.release]
    omega
  | _ => exact h.keep rfl rfl rfl rfl

end Preservation

theorem run_accounted (config : RelayConfig) (actions : List Action) :
    (run config actions).Accounted := by
  induction actions using List.reverseRecOn with
  | nil => exact ⟨rfl, by simp [run, ofConfig]⟩
  | append_singleton actions a ih =>
    rw [run_append]
    exact ih.effect (act_effect _ a)

end Relay

end ChatRelay
