import ChatRelay.Proofs.Relay.Alike
import ChatRelay.Proofs.Relay.Settling

/-!
# Silent peers in schedules

A peer that is told no more than its name sends nothing, so none of its steps is seen by anybody
else. A schedule that lets it move in between, or stops at a time at which only the peer is due,
leads the others to the same.
-/

namespace ChatRelay

namespace Relay

def textsTold (d : Nat) (moments : List Moment) : Nat := (texts (arrived d moments)).length

/-- The relay was reached with a number of texts told to a connection on the way. -/
def Heard (config : RelayConfig) (d count : Nat) (r : Relay) : Prop :=
  ∃ actions, run config actions = r ∧ textsTold d (history config actions) = count

section Heard

variable {config : RelayConfig} {d count : Nat} {r : Relay} {a : Action}

theorem textsTold_append (d : Nat) (moments more : List Moment) :
    textsTold d (moments ++ more) = textsTold d moments + textsTold d more := by
  rw [textsTold, arrived, List.flatMap_append, texts_append, List.length_append]
  rfl

theorem textsTold_of_arrived {s : Moment} (unheard : s.arrived d = []) :
    textsTold d [s] = 0 := by
  rw [textsTold, arrived, List.flatMap_singleton, unheard]
  rfl

theorem Heard.sound (h : Heard config d count r) : r.Sound := by
  obtain ⟨actions, rfl, -⟩ := h
  exact run_sound config actions

theorem Heard.act (h : Heard config d count r) (a : Action) :
    Heard config d (count + textsTold d [⟨r, a⟩]) (r.act a) := by
  obtain ⟨actions, rfl, heard⟩ := h
  refine ⟨actions ++ [a], run_append config actions a, ?_⟩
  rw [history_append, textsTold_append, heard]

/-- A step of a task tells nobody a text. -/
theorem Heard.step (h : Heard config d count r) (key : Nat) (b : Branch) :
    Heard config d count (r.act (.step key b)) := h.act (.step key b)

theorem Heard.withClock (h : Heard config d count r) {t : Nat} (later : r.hub.now ≤ t) :
    Heard config d count (r.withClock t) := by
  rw [withClock_run later]
  exact h.act (.pass _)

theorem Heard.settle (h : Heard config d count r) : Heard config d count r.settle :=
  settleWithin_keeps (fun _ key b _ heard => heard.step key b) h _

theorem Heard.advance (h : Heard config d count r) (length : Nat) :
    Heard config d count (r.advance length) :=
  runUntil_keeps (fun _ key b _ heard => heard.step key b) (fun _ _ later heard =>
    heard.withClock later) h (Nat.le_add_right _ _) _

/-- Who is told no more than a name says nothing. -/
theorem sent_of_textsTold {actions : List Action}
    (quiet : textsTold d (history config actions) ≤ 1) : sent d (history config actions) = [] := by
  have ledgered := run_ledgered config actions d
  cases here : (run config actions).connections[d]? with
  | none =>
    obtain ⟨-, silent, -⟩ := (ledgered_of_none here).mp ledgered
    rw [sent, silent]
    rfl
  | some c =>
    obtain ⟨waits, ledger⟩ := (ledgered_of_some here).mp ledgered
    by_cases admitted : Admitted d (history config actions)
    · have said := ledger.sent admitted
      rw [textsTold, waits, texts_append, List.length_append] at quiet
      rw [sent, said, speech]
      cases read : texts (itemsOf (own d (history config actions))) with
      | nil => rfl
      | cons name lines =>
        have short : (texts (consumed d (history config actions))).length ≤ 1 := by omega
        rw [consumed, read] at short
        have none : lines = [] := by simpa using short
        rw [none]
        rfl
    · exact ledger.silent admitted

theorem Heard.silent (h : Heard config d count r) (quiet : count + textsTold d [⟨r, a⟩] ≤ 1) :
    messagesOf ((Moment.mk r a).own d) = [] := by
  obtain ⟨actions, rfl, heard⟩ := h
  have said : sent d (history config (actions ++ [a])) = [] := by
    apply sent_of_textsTold
    rw [history_append, textsTold_append, heard]
    exact quiet
  rw [sent, history_append, own_append, messagesOf_append] at said
  exact (List.append_eq_nil_iff.mp said).2

/-- What is addressed to a silent peer leaves everything else as it was. -/
theorem Heard.act_own (h : Heard config d count r) (quiet : count + textsTold d [⟨r, a⟩] ≤ 1)
    (few : r.connections.size ≤ UInt64.size) (numbered : d < UInt64.size)
    (own : a.isFor d = true) : Alike d (r.act a) r :=
  Alike.act_own h.sound few numbered own (h.silent quiet)

end Heard

section Next

variable {d : Nat} {r r' : Relay}

theorem Alike.firstReady? (alike : Alike d r r') {k : Nat} (apart : k ≠ d) :
    r.firstReady? k = r'.firstReady? k := by
  rw [Relay.firstReady?, Relay.firstReady?]
  congr 1
  funext b
  exact alike.ready apart b

/-- Apart from the peer, the same task is next. -/
theorem Alike.next? (alike : Alike d r r') {key : Nat} {b : Branch} (apart : key ≠ d)
    (next : r.next? = some (key, b)) :
    r'.next? = some (key, b) ∨ ∃ b', r'.next? = some (d, b') := by
  obtain ⟨first, before⟩ := firstReady_of_next next
  cases next' : r'.next? with
  | none =>
    have quiet : r'.isQuiet = true := by rw [isQuiet, next']; rfl
    have ready := ready_of_next next
    rw [alike.ready apart, isQuiet_iff.mp quiet] at ready
    cases ready
  | some found =>
    obtain ⟨key', b'⟩ := found
    obtain ⟨first', before'⟩ := firstReady_of_next next'
    by_cases own : key' = d
    · exact Or.inr ⟨b', by rw [own]⟩
    · rw [alike.firstReady? apart] at first
      rw [← alike.firstReady? own] at first'
      rcases Nat.lt_trichotomy key key' with below | rfl | above
      · rw [before' key below] at first
        cases first
      · rw [← alike.firstReady? own, first'] at first
        rw [Option.some.inj first]
        exact Or.inl rfl
      · rw [before key' above] at first'
        cases first'

end Next

/-- Two relays on their ways differ in a peer that was told no more than its name on either. -/
structure Apart (config : RelayConfig) (d : Nat) (r r' : Relay) : Prop where
  alike : Alike d r r'
  hushed : ∃ count ≤ 1, Heard config d count r
  hushed' : ∃ count ≤ 1, Heard config d count r'
  few : r.connections.size ≤ UInt64.size
  numbered : d < UInt64.size

section Schedules

variable {config : RelayConfig} {d : Nat} {r r' : Relay}

theorem Apart.symm (h : Apart config d r r') : Apart config d r' r :=
  ⟨h.alike.symm, h.hushed', h.hushed, h.alike.size ▸ h.few, h.numbered⟩

theorem Apart.sound (h : Apart config d r r') : r.Sound := by
  obtain ⟨count, -, heard⟩ := h.hushed
  exact heard.sound

/-- The peer's task moves on one side. -/
theorem Apart.step_own (h : Apart config d r r') (b : Branch) :
    Apart config d (r.act (.step d b)) r' := by
  obtain ⟨count, quiet, heard⟩ := h.hushed
  have seen := heard.act_own (a := .step d b) quiet h.few h.numbered
    (by simp [Action.isFor, Action.target?])
  exact ⟨seen.trans h.alike, ⟨count, quiet, heard.step d b⟩, h.hushed', seen.size ▸ h.few,
    h.numbered⟩

/-- The task of somebody else takes the same step on both sides. -/
theorem Apart.step_other (h : Apart config d r r') {key : Nat} (apart : key ≠ d) {b : Branch}
    (ready : r.ready key b = true) :
    Apart config d (r.act (.step key b)) (r'.act (.step key b)) := by
  obtain ⟨count, quiet, heard⟩ := h.hushed
  obtain ⟨count', quiet', heard'⟩ := h.hushed'
  have other : (Action.step key b).isFor d = false := by
    simpa [Action.isFor, Action.target?] using apart
  have alike := h.alike.act_other heard.sound heard'.sound h.few h.numbered other
    (fun _ _ same => by cases same)
  refine ⟨alike, ⟨count, quiet, heard.step key b⟩, ⟨count', quiet', heard'.step key b⟩, ?_,
    h.numbered⟩
  rw [act_step ready, perform_size ready]
  exact h.few

theorem Apart.withClock (h : Apart config d r r') {t : Nat} (later : r.hub.now ≤ t) :
    Apart config d (r.withClock t) (r'.withClock t) := by
  obtain ⟨count, quiet, heard⟩ := h.hushed
  obtain ⟨count', quiet', heard'⟩ := h.hushed'
  have later' : r'.hub.now ≤ t := h.alike.hub.now ▸ later
  exact ⟨h.alike.withClock t, ⟨count, quiet, heard.withClock later⟩,
    ⟨count', quiet', heard'.withClock later'⟩, h.few, h.numbered⟩

/-- While the tasks settle on both sides, the peer's task may take steps in between. -/
theorem Apart.settleWithin (h : Apart config d r r') {steps steps' : Nat}
    (rest : (r.settleWithin steps).isQuiet = true)
    (rest' : (r'.settleWithin steps').isQuiet = true) :
    Apart config d (r.settleWithin steps) (r'.settleWithin steps') := by
  induction total : steps + steps' using Nat.strong_induction_on generalizing r r' steps steps' with
  | h total ih =>
    -- The peer's steps come first, on either side; then both sides have the same task next.
    by_cases peer : ∃ b, r.next? = some (d, b)
    · obtain ⟨b, next⟩ := peer
      obtain ⟨fewer, rfl, stepped⟩ := settleWithin_of_next next rest
      rw [stepped] at rest ⊢
      exact ih _ (by omega) (h.step_own b) rest rest' rfl
    by_cases peer' : ∃ b, r'.next? = some (d, b)
    · obtain ⟨b, next'⟩ := peer'
      obtain ⟨fewer, rfl, stepped⟩ := settleWithin_of_next next' rest'
      rw [stepped] at rest' ⊢
      exact ih _ (by omega) (h.symm.step_own b).symm rest rest' rfl
    cases next : r.next? with
    | some found =>
      obtain ⟨key, b⟩ := found
      have apart : key ≠ d := fun own => peer ⟨b, own ▸ next⟩
      have next' := (h.alike.next? apart next).resolve_right peer'
      obtain ⟨fewer, rfl, stepped⟩ := settleWithin_of_next next rest
      obtain ⟨fewer', rfl, stepped'⟩ := settleWithin_of_next next' rest'
      rw [stepped] at rest ⊢
      rw [stepped'] at rest' ⊢
      exact ih _ (by omega) (h.step_other apart (ready_of_next next)) rest rest' rfl
    | none =>
      have quiet : r.isQuiet = true := by rw [isQuiet, next]; rfl
      have quiet' : r'.isQuiet = true := by
        cases next' : r'.next? with
        | none => rw [isQuiet, next']; rfl
        | some found' =>
          obtain ⟨key, b⟩ := found'
          have apart : key ≠ d := fun own => peer' ⟨b, own ▸ next'⟩
          rcases h.alike.symm.next? apart next' with same | ⟨b', own⟩
          · rw [next] at same
            cases same
          · exact absurd ⟨b', own⟩ peer
      rw [settleWithin_of_quiet quiet, settleWithin_of_quiet quiet']
      exact h

theorem Apart.settle (h : Apart config d r r') : Apart config d r.settle r'.settle :=
  h.settleWithin (settle_isQuiet h.sound) (settle_isQuiet h.symm.sound)

/-- While time passes on both sides, something may fall due for the peer in between. -/
theorem Apart.runUntil (h : Apart config d r r') (rest : r.isQuiet = true)
    (rest' : r'.isQuiet = true) {limit : Nat} (within : r.hub.now ≤ limit) {moments moments' : Nat}
    (enough : limit - r.hub.now < moments) (enough' : limit - r'.hub.now < moments') :
    Alike d (runUntil limit moments r) (runUntil limit moments' r') := by
  induction left : limit - r.hub.now using Nat.strong_induction_on
    generalizing r r' moments moments' with
  | h left ih =>
    have same := h.alike.hub.now
    rcases Nat.eq_or_lt_of_le within with done | ahead
    · obtain ⟨moments, rfl⟩ : ∃ fewer, moments = fewer + 1 := ⟨moments - 1, by omega⟩
      obtain ⟨moments', rfl⟩ : ∃ fewer, moments' = fewer + 1 := ⟨moments' - 1, by omega⟩
      rw [← done, runUntil_now, same, runUntil_now]
      exact h.alike
    -- Both go to the first moment at which something falls due on either side.
    · let t := min limit (min (r.nextDue?.getD limit) (r'.nextDue?.getD limit))
      have before : t ≤ limit := Nat.min_le_left _ _
      have first : ∀ due, r.nextDue? = some due → t ≤ due := by
        intro due found
        simp only [t, found, Option.getD_some]
        omega
      have first' : ∀ due, r'.nextDue? = some due → t ≤ due := by
        intro due found
        simp only [t, found, Option.getD_some]
        omega
      have later : r.hub.now < t := by
        have next := lt_nextDue ahead
        have next' := lt_nextDue (same ▸ ahead)
        simp only [t]
        omega
      have now : (r.withClock t).settle.hub.now = t := settle_now _
      have now' : (r'.withClock t).settle.hub.now = t := settle_now _
      have arrives := h.withClock (Nat.le_of_lt later)
      have stop := runUntil_stop rest (Nat.le_of_lt later) before first enough
      have stop' := runUntil_stop rest' (by omega) before first' enough'
      rw [← stop, ← stop']
      exact ih (limit - t) (by omega) arrives.settle (settle_isQuiet arrives.sound)
        (settle_isQuiet arrives.symm.sound) (by rw [now]; exact before) (by omega) (by omega)
        (by rw [now])

theorem Apart.advance (h : Apart config d r r') (rest : r.isQuiet = true)
    (rest' : r'.isQuiet = true) (length : Nat) :
    Alike d (r.advance length) (r'.advance length) := by
  rw [Relay.advance, Relay.advance, ← h.alike.hub.now]
  exact h.runUntil rest rest' (Nat.le_add_right _ _) (by omega)
    (by rw [← h.alike.hub.now]; omega)

end Schedules

end Relay

end ChatRelay
