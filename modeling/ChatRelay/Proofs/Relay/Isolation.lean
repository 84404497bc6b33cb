import ChatRelay.Proofs.Relay.SilentPeer

/-!
# Nobody sees a silent peer

A connection that says nothing behind its name can fail, hang, be flooded, be removed or be aborted:
for everybody else the run is the one that it would have been otherwise, at the same times. This
holds for any order of the steps that the others take, and also if the schedule alone decides when
tasks move.
-/

namespace ChatRelay

def Event.isOf (id : ConnectionId) : Event → Bool
  | .connection own _ => own == id
  | _ => false

namespace Hub

/-- What a connection has done, and when; the latest first. -/
def diary (h : Hub) (id : ConnectionId) : List Entry :=
  h.journal.filter fun entry => entry.event.isOf id

theorem Alike.diary {d : QueueKey} {id own : ConnectionId} {h h' : Hub} (alike : Alike d id h h')
    (other : own ≠ id) : h.diary own = h'.diary own := by
  have within (h : Hub) : h.diary own =
      (h.elsewhere id).filter fun entry => entry.event.isOf own := by
    rw [Hub.diary, Hub.elsewhere, List.filter_filter]
    apply List.filter_congr
    intro entry _
    cases entry.event with
    | connection i e => by_cases mine : i = own <;> simp_all [Event.isOf, Event.isElsewhere]
    | _ => rfl
  rw [within, within, alike.elsewhere]

end Hub

namespace Relay

inductive Pace where
  /-- The run itself: a step of a task is one of its actions. -/
  | stepwise
  /-- The schedule: tasks take what steps are ready after each action, and when something is due. -/
  | scheduled
deriving DecidableEq

/-- The relay after an action, and after what the schedule makes of it. -/
def proceed : Pace → Relay → Action → Relay
  | .stepwise, r, a => r.act a
  | .scheduled, r, .pass length => r.advance length
  | .scheduled, r, a => (r.act a).settle

def conducted (pace : Pace) (config : RelayConfig) (actions : List Action) : Relay :=
  actions.foldl (proceed pace) (ofConfig config)

def momentsFrom (pace : Pace) : Relay → List Action → List Moment
  | _, [] => []
  | r, a :: rest => ⟨r, a⟩ :: momentsFrom pace (r.proceed pace a) rest

def moments (pace : Pace) (config : RelayConfig) (actions : List Action) : List Moment :=
  momentsFrom pace (ofConfig config) actions

/-- What happens elsewhere than at a place, and when. Of the connection that begins there only its
beginning counts, and not how its transport is. -/
def Moment.elsewhere (d : Nat) (s : Moment) : Option (Nat × Action) :=
  match s.action with
  | .pass _ => none
  | .connect peer transport =>
    some (s.before.hub.now,
      .connect peer (if s.before.connections.size = d then {} else transport))
  | a => if a.isFor d then none else some (s.before.hub.now, a)

def elsewhere (d : Nat) (moments : List Moment) : List (Nat × Action) :=
  moments.filterMap (Moment.elsewhere d)

def wait (pace : Pace) (r : Relay) (t : Nat) : Relay := r.proceed pace (.pass (t - r.hub.now))

/-- Waits for the time of an action and proceeds with it. -/
def follow (pace : Pace) (r : Relay) (timed : Nat × Action) : Relay :=
  (r.wait pace timed.1).proceed pace timed.2

section Conduct

variable {pace : Pace} {config : RelayConfig} {d count count' : Nat} {r r' : Relay} {a a' : Action}

theorem conducted_append (pace : Pace) (config : RelayConfig) (actions : List Action)
    (a : Action) :
    conducted pace config (actions ++ [a]) = (conducted pace config actions).proceed pace a := by
  simp [conducted]

theorem momentsFrom_append (pace : Pace) (r : Relay) (actions more : List Action) :
    momentsFrom pace r (actions ++ more) =
      momentsFrom pace r actions ++ momentsFrom pace (actions.foldl (proceed pace) r) more := by
  induction actions generalizing r with
  | nil => rfl
  | cons first rest ih => simp [momentsFrom, ih]

theorem moments_append (pace : Pace) (config : RelayConfig) (actions : List Action) (a : Action) :
    moments pace config (actions ++ [a]) =
      moments pace config actions ++ [⟨conducted pace config actions, a⟩] :=
  momentsFrom_append _ _ _ _

theorem proceed_scheduled (r : Relay) (timeless : ∀ length, a ≠ .pass length) :
    r.proceed .scheduled a = (r.act a).settle := by
  cases a with
  | pass length => exact absurd rfl (timeless length)
  | _ => rfl

theorem size_le_proceed (pace : Pace) (r : Relay) (a : Action) :
    r.connections.size ≤ (r.proceed pace a).connections.size := by
  have acted := (act_change r a).size_le
  cases pace with
  | stepwise => exact acted
  | scheduled =>
    cases a with
    | pass length => exact Nat.le_of_eq (advance_size r length).symm
    | _ =>
      rw [proceed_scheduled r (fun _ same => by cases same), settle_size]
      exact acted

/-- Nothing is ready if the schedule has seen to that. -/
structure Rested (pace : Pace) (r : Relay) : Prop where
  sound : r.Sound
  rest : pace = .scheduled → r.isQuiet = true

theorem rested_start (pace : Pace) (config : RelayConfig) : Rested pace (ofConfig config) where
  sound := ofConfig_sound config
  rest _ := isQuiet_iff.mpr fun key b => by simp [Relay.ready, ofConfig]

theorem Rested.proceed (h : Rested pace r) (a : Action) : Rested pace (r.proceed pace a) := by
  cases pace with
  | stepwise => exact ⟨h.sound.act a, fun scheduled => by cases scheduled⟩
  | scheduled =>
    by_cases timed : ∃ length, a = .pass length
    · obtain ⟨length, rfl⟩ := timed
      have kept := runUntil_keeps (P := Sound) (fun _ _ _ _ sound => sound.act _)
        (fun _ t _ sound => sound.withClock t) h.sound (Nat.le_add_right _ length) (length + 1)
      exact ⟨kept, fun _ => (advance_rest h.sound (h.rest rfl) length).1⟩
    · rw [proceed_scheduled r (not_exists.mp timed)]
      exact ⟨(h.sound.act a).settle, fun _ => settle_isQuiet (h.sound.act a)⟩

/-- Where a run is after an action: it has told the peer a number of texts, and nothing is ready if
the schedule has seen to that. -/
structure Reached (pace : Pace) (config : RelayConfig) (d count : Nat) (r : Relay) : Prop where
  heard : Heard config d count r
  rest : pace = .scheduled → r.isQuiet = true

theorem Reached.rested (h : Reached pace config d count r) : Rested pace r :=
  ⟨h.heard.sound, h.rest⟩

theorem reached_start (pace : Pace) (config : RelayConfig) (d : Nat) :
    Reached pace config d 0 (ofConfig config) where
  heard := ⟨[], rfl, rfl⟩
  rest := (rested_start pace config).rest

theorem Reached.proceed (h : Reached pace config d count r) (a : Action) :
    Reached pace config d (count + textsTold d [⟨r, a⟩]) (r.proceed pace a) := by
  refine ⟨?_, (h.rested.proceed a).rest⟩
  cases pace with
  | stepwise => exact h.heard.act a
  | scheduled =>
    by_cases timed : ∃ length, a = .pass length
    · obtain ⟨length, rfl⟩ := timed
      exact h.heard.advance length
    · rw [proceed_scheduled r (not_exists.mp timed)]
      exact (h.heard.act a).settle

/-- What is addressed to a silent peer leaves everything else as it was. -/
theorem Reached.proceed_own (h : Reached pace config d count r)
    (quiet : count + textsTold d [⟨r, a⟩] ≤ 1) (few : r.connections.size ≤ UInt64.size)
    (numbered : d < UInt64.size) (own : a.isFor d = true) : Alike d (r.proceed pace a) r := by
  have alike := h.heard.act_own quiet few numbered own
  cases pace with
  | stepwise => exact alike
  | scheduled =>
    have apart : Apart config d (r.act a) r :=
      ⟨alike, ⟨_, quiet, h.heard.act a⟩, ⟨count, Nat.le_of_add_right_le quiet, h.heard⟩,
        alike.size ▸ few, numbered⟩
    have settled := apart.settle.alike
    rw [settle_of_quiet (h.rest rfl)] at settled
    rwa [proceed_scheduled r (fun _ same => by subst same; cases own)]

theorem Rested.wait (h : Rested pace r) (t : Nat) : Rested pace (r.wait pace t) :=
  h.proceed (.pass (t - r.hub.now))

theorem Rested.wait_now (h : Rested pace r) {t : Nat} (later : r.hub.now ≤ t) :
    (r.wait pace t).hub.now = t := by
  cases pace with
  | stepwise => exact Nat.add_sub_cancel' later
  | scheduled =>
    exact (advance_rest h.sound (h.rest rfl) _).2.trans (Nat.add_sub_cancel' later)

/-- Who waits can do so in portions. -/
theorem Rested.wait_pass (h : Rested pace r) {t : Nat} (later : r.hub.now ≤ t) (length : Nat) :
    (r.wait pace t).proceed pace (.pass length) = r.wait pace (t + length) := by
  have whole : t + length - r.hub.now = t - r.hub.now + length := by omega
  rw [Relay.wait, Relay.wait, whole]
  cases pace with
  | stepwise => simp only [Relay.proceed, Relay.act, withClock, Nat.add_assoc]
  | scheduled => exact advance_advance h.sound (h.rest rfl) _ _

theorem wait_self (pace : Pace) (r : Relay) : r.wait pace r.hub.now = r := by
  rw [Relay.wait, Nat.sub_self]
  cases pace with
  | stepwise => rfl
  | scheduled => exact advance_zero r

theorem Reached.wait (h : Reached pace config d count r) (t : Nat) :
    Reached pace config d count (r.wait pace t) := h.proceed (.pass (t - r.hub.now))

structure Follows (pace : Pace) (config : RelayConfig) (d count : Nat) (r follower : Relay) :
    Prop where
  reached : Reached pace config d count r
  reached' : Reached pace config d 0 follower
  behind : follower.hub.now ≤ r.hub.now
  /-- They differ in the peer once the follower has waited. -/
  alike : Alike d r (follower.wait pace r.hub.now)

theorem elsewhere_plain (r : Relay) (timeless : ∀ length, a ≠ .pass length)
    (old : ∀ peer transport, a ≠ .connect peer transport) :
    (Moment.mk r a).elsewhere d = if a.isFor d then none else some (r.hub.now, a) := by
  cases a with
  | pass length => exact absurd rfl (timeless length)
  | connect peer transport => exact absurd rfl (old peer transport)
  | _ => rfl

theorem elsewhere_eq_none (none : (Moment.mk r a).elsewhere d = none) :
    (∃ length, a = .pass length) ∨ a.isFor d = true := by
  by_cases timed : ∃ length, a = .pass length
  · exact Or.inl timed
  by_cases new : ∃ peer transport, a = .connect peer transport
  · obtain ⟨peer, transport, rfl⟩ := new
    cases none
  · rw [elsewhere_plain r (not_exists.mp timed) fun peer transport same =>
      new ⟨peer, transport, same⟩] at none
    exact Or.inr (by simpa using none)

/-- What happens elsewhere is told to both relays, and to the peer of neither. -/
theorem Alike.act_elsewhere (alike : Alike d r r') (sound : r.Sound) (sound' : r'.Sound)
    (few : r.connections.size ≤ UInt64.size) (numbered : d < UInt64.size)
    (direct : ∀ peer transport, a ≠ .completeUpgrade peer transport) {t : Nat}
    (found : (Moment.mk r a).elsewhere d = some (t, a')) :
    t = r.hub.now ∧ (∀ length, a ≠ .pass length) ∧ (∀ length, a' ≠ .pass length) ∧
      textsTold d [⟨r', a'⟩] = 0 ∧ Alike d (r.act a) (r'.act a') := by
  have timeless : ∀ length, a ≠ .pass length := by
    rintro length rfl
    cases found
  by_cases new : ∃ peer transport, a = .connect peer transport
  · obtain ⟨peer, transport, rfl⟩ := new
    cases found
    refine ⟨rfl, timeless, (fun _ same => by cases same), textsTold_of_arrived ?_,
      alike.connect peer ?_⟩
    · simp only [Moment.arrived, ← alike.size]
      split
      · rename_i last
        rw [if_pos last.symm]
      · rfl
    · by_cases own : r.connections.size = d
      · exact Or.inl own
      · exact Or.inr (if_neg own).symm
  · have old : ∀ peer transport, a ≠ .connect peer transport :=
      fun peer transport same => new ⟨peer, transport, same⟩
    rw [elsewhere_plain r timeless old] at found
    split at found
    · cases found
    · rename_i other
      cases found
      have other : a.isFor d = false := by simpa using other
      have target : a.target? ≠ some d := by
        cases a <;> simp_all [Action.isFor, Action.target?]
      have begun : r'.begins a = false := by
        cases a with
        | connect => exact absurd rfl (old _ _)
        | completeUpgrade => exact absurd rfl (direct _ _)
        | _ => rfl
      exact ⟨rfl, timeless, timeless, textsTold_of_arrived (arrived_other target begun),
        alike.act_other sound sound' few numbered other direct⟩

section Step

variable {follower : Relay} (h : Follows pace config d count r follower)
  (quiet : count + textsTold d [⟨r, a⟩] ≤ 1)
  (few : (r.proceed pace a).connections.size ≤ UInt64.size) (numbered : d < UInt64.size)

include h quiet few numbered

theorem Follows.apart : Apart config d r (follower.wait pace r.hub.now) :=
  ⟨h.alike, ⟨count, Nat.le_of_add_right_le quiet, h.reached.heard⟩,
    ⟨0, Nat.zero_le 1, (h.reached'.wait _).heard⟩, Nat.le_trans (size_le_proceed _ _ _) few,
    numbered⟩

/-- Time passes, and the follower waits longer. -/
theorem Follows.pass {length : Nat} (timed : a = .pass length) :
    Follows pace config d (count + textsTold d [⟨r, a⟩]) (r.proceed pace a) follower := by
  have apart := h.apart quiet few numbered
  have waits := h.reached'.wait r.hub.now
  subst timed
  have passed : Alike d (r.proceed pace (.pass length))
      ((follower.wait pace r.hub.now).proceed pace (.pass length)) := by
    cases pace with
    | stepwise =>
      exact h.alike.act_other (a := .pass length) apart.sound apart.symm.sound apart.few numbered
        rfl (fun _ _ same => by cases same)
    | scheduled => exact apart.advance (h.reached.rest rfl) (waits.rest rfl) length
  rw [h.reached'.rested.wait_pass h.behind] at passed
  have now := passed.hub.now
  rw [h.reached'.rested.wait_now (Nat.le_add_right_of_le h.behind)] at now
  refine ⟨h.reached.proceed _, h.reached', ?_, ?_⟩
  · rw [now]
    exact Nat.le_add_right_of_le h.behind
  · rw [now]
    exact passed

/-- What is addressed to the peer is not followed. -/
theorem Follows.own (own : a.isFor d = true) :
    Follows pace config d (count + textsTold d [⟨r, a⟩]) (r.proceed pace a) follower := by
  have seen := h.reached.proceed_own quiet (h.apart quiet few numbered).few numbered own
  refine ⟨h.reached.proceed a, h.reached', ?_, ?_⟩
  · rw [seen.hub.now]
    exact h.behind
  · rw [seen.hub.now]
    exact seen.trans h.alike

/-- What happens elsewhere happens to the follower at the same time. -/
theorem Follows.other (direct : ∀ peer transport, a ≠ .completeUpgrade peer transport) {t : Nat}
    (found : (Moment.mk r a).elsewhere d = some (t, a')) :
    Follows pace config d (count + textsTold d [⟨r, a⟩]) (r.proceed pace a)
      (follower.follow pace (t, a')) := by
  have apart := h.apart quiet few numbered
  have waits := h.reached'.wait r.hub.now
  obtain ⟨rfl, timeless, timeless', unheard, acts⟩ :=
    h.alike.act_elsewhere apart.sound apart.symm.sound apart.few numbered direct found
  have reached' := waits.proceed a'
  rw [unheard] at reached'
  have alike : Alike d (r.proceed pace a)
      ((follower.wait pace r.hub.now).proceed pace a') := by
    cases pace with
    | stepwise => exact acts
    | scheduled =>
      rw [proceed_scheduled r timeless, settle_size] at few
      rw [proceed_scheduled r timeless, proceed_scheduled _ timeless']
      have acted : Apart config d (r.act a) ((follower.wait .scheduled r.hub.now).act a') :=
        ⟨acts, ⟨_, quiet, h.reached.heard.act a⟩, ⟨_, by omega, waits.heard.act a'⟩, few,
          numbered⟩
      exact acted.settle.alike
  refine ⟨h.reached.proceed a, reached', ?_, ?_⟩
  · rw [alike.hub.now]
    exact Nat.le_refl _
  · rw [alike.hub.now, follow, wait_self]
    exact alike

/-- A follower follows one action. -/
theorem Follows.step (direct : ∀ peer transport, a ≠ .completeUpgrade peer transport) :
    Follows pace config d (count + textsTold d [⟨r, a⟩]) (r.proceed pace a)
      ((elsewhere d [⟨r, a⟩]).foldl (follow pace) follower) := by
  cases found : (Moment.mk r a).elsewhere d with
  | none =>
    rw [elsewhere, List.filterMap_cons_none found]
    rcases elsewhere_eq_none found with ⟨length, timed⟩ | own
    · exact h.pass quiet few numbered timed
    · exact h.own quiet few numbered own
  | some timed =>
    rw [elsewhere, List.filterMap_cons_some found]
    exact h.other quiet few numbered direct found

end Step

/-- A run and its follower stay together. -/
theorem conducted_follows (actions : List Action)
    (few : (conducted pace config actions).connections.size ≤ UInt64.size)
    (numbered : d < UInt64.size)
    (direct : ∀ peer transport, .completeUpgrade peer transport ∉ actions)
    (silent : textsTold d (moments pace config actions) ≤ 1) :
    Follows pace config d (textsTold d (moments pace config actions))
      (conducted pace config actions)
      ((elsewhere d (moments pace config actions)).foldl (follow pace) (ofConfig config)) := by
  induction actions using List.reverseRecOn with
  | nil =>
    have start := reached_start pace config d
    refine ⟨start, start, Nat.le_refl _, ?_⟩
    change Alike d (ofConfig config) ((ofConfig config).wait pace (ofConfig config).hub.now)
    rw [wait_self]
    exact .refl _
  | append_singleton actions a ih =>
    rw [moments_append, textsTold_append] at silent
    rw [conducted_append] at few
    have follows := ih (Nat.le_trans (size_le_proceed _ _ _) few)
      (fun peer transport among => direct peer transport (by simp [among]))
      (Nat.le_of_add_right_le silent)
    rw [moments_append, textsTold_append, conducted_append, elsewhere, List.filterMap_append,
      List.foldl_append]
    exact follows.step silent few numbered
      (fun peer transport same => direct peer transport (by simp [same]))

end Conduct

/-- A run in which every connection begins without a slot, and the one at a place is told no text
behind its name. -/
structure Silent (pace : Pace) (config : RelayConfig) (d : Nat) (actions : List Action) :
    Prop where
  there : d < (conducted pace config actions).connections.size
  /-- The counter of identities has not wrapped. -/
  few : (conducted pace config actions).connections.size ≤ UInt64.size
  direct : ∀ peer transport, .completeUpgrade peer transport ∉ actions
  texts : (texts (arrived d (moments pace config actions))).length ≤ 1

/-- Nobody but the connection at a place can tell two relays apart. -/
structure Unseen (d : Nat) (r r' : Relay) : Prop where
  /-- Others stand where they stand, with the same result if they are over. -/
  connections : ∀ key, key ≠ d → r.connections[key]? = r'.connections[key]?
  /-- What they were written, their pings, how they were closed and how they ended, and when. -/
  diaries : ∀ key, key ≠ d → key < r.connections.size →
    r.hub.diary (.nth key) = r'.hub.diary (.nth key)
  queues : ∀ key, key ≠ d → r.hub.queues[key]? = r'.hub.queues[key]?
  registered : r.hub.registry.others d = r'.hub.registry.others d

/-- Of two runs that differ in nothing but what is addressed to one connection, and in what its task
does, the others see the same at the same times, unless a text is told behind its name. -/
theorem silent_peer_unseen {pace : Pace} {config : RelayConfig} {d : Nat}
    {actions actions' : List Action} (one : Silent pace config d actions)
    (other : Silent pace config d actions')
    (same : elsewhere d (moments pace config actions) = elsewhere d (moments pace config actions'))
    (clock : (conducted pace config actions).hub.now =
      (conducted pace config actions').hub.now) :
    Unseen d (conducted pace config actions) (conducted pace config actions') := by
  have numbered : d < UInt64.size := Nat.lt_of_lt_of_le one.there one.few
  have follows := conducted_follows actions one.few numbered one.direct one.texts
  have follows' := conducted_follows actions' other.few numbered other.direct other.texts
  have alike := follows.alike
  rw [same, clock] at alike
  have alike := alike.trans follows'.alike.symm
  refine ⟨alike.connections, ?_, alike.hub.queues, alike.hub.others⟩
  intro key apart inBounds
  refine alike.hub.diary fun own => apart ?_
  exact ConnectionId.nth_inj (Nat.lt_of_lt_of_le inBounds one.few) numbered own

deriving instance DecidableEq for Action

/-- Bob stops reading while Alice and Carol talk, and is removed with a full queue. -/
def deafPeer : List Action :=
  [.connect "a" {}, .connect "b" {}, .connect "c" {}, .arrive 0 (.text "alice"),
    .arrive 1 (.text "bob"), .arrive 2 (.text "carol"), .setModes 1 .hangs .hangs .hangs,
    .arrive 0 (.text "one"), .arrive 0 (.text "two"), .arrive 2 (.text "three"), .pass 30000,
    .hangUp 1]

/-- Bob reads all that he gets until he is aborted. -/
def abortedPeer : List Action :=
  [.connect "a" {}, .connect "b" { inbound := [.lifeSign] }, .connect "c" {},
    .arrive 0 (.text "alice"), .arrive 1 (.text "bob"), .arrive 2 (.text "carol"),
    .arrive 0 (.text "one"), .arrive 1 .lifeSign, .arrive 0 (.text "two"), .abort 1,
    .arrive 2 (.text "three"), .pass 12000, .pass 18000]

theorem silent_peer_unseen_twoFates :
    let r := conducted .scheduled { queueSize := 1 } deafPeer
    let r' := conducted .scheduled { queueSize := 1 } abortedPeer
    r.task? 1 = some (⟨2⟩, .ended (.returned (some (.writeFailed (.overdue 10000))))) ∧
      r'.task? 1 = some (⟨2⟩, .ended .aborted) ∧
      ⟨0, .connection ⟨3⟩ (.written (.text "one"))⟩ ∈ r.hub.diary ⟨3⟩ ∧ Unseen 1 r r' := by
  have deaf : Silent .scheduled { queueSize := 1 } 1 deafPeer :=
    ⟨by decide +kernel, by decide +kernel, by simp [deafPeer], by decide +kernel⟩
  have aborted : Silent .scheduled { queueSize := 1 } 1 abortedPeer :=
    ⟨by decide +kernel, by decide +kernel, by simp [abortedPeer], by decide +kernel⟩
  exact ⟨by decide +kernel, by decide +kernel, by decide +kernel,
    silent_peer_unseen deaf aborted (by decide +kernel) (by decide +kernel)⟩

end Relay

end ChatRelay
