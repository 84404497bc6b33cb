import ChatRelay.Proofs.Connection.Origins
import ChatRelay.Proofs.Relay.Keepalive

/-!
# Silence across slow writes

While a write hangs, nothing is read and no tick is seen. When a task ends its connection for its
client's silence, each text and each life sign that it has read arrived longer ago than the timeout.
What came in a slow write may still be unread then, if the task looks for the tick first; so the
connection of a client that answered may end for its silence.
-/

namespace ChatRelay

namespace Relay

def Moment.arrivals (key : Nat) (s : Moment) : List (Nat × Inbound) :=
  (s.arrived key).map fun item => (s.before.hub.now, item)

/-- All that has arrived for a connection, each item with the time of its arrival. -/
def arrivals (key : Nat) (history : List Moment) : List (Nat × Inbound) :=
  history.flatMap (Moment.arrivals key)

/-- The arrivals that the task of a connection has read: it reads them in their order. -/
def readArrivals (key : Nat) (history : List Moment) : List (Nat × Inbound) :=
  (arrivals key history).take (consumed key history).length

def unreadArrivals (key : Nat) (history : List Moment) : List (Nat × Inbound) :=
  (arrivals key history).drop (consumed key history).length

/-- What waits to be read from the client of a connection. -/
def inbound (r : Relay) (key : Nat) : List Inbound :=
  (r.connections[key]?).elim [] fun c => c.transport.inbound

def isWriting (r : Relay) (key : Nat) : Bool :=
  (r.connections[key]?).any fun c => match c.phase with
    | .writing .. => true
    | _ => false

/-- The time up to which the task of a connection waits in a moment for something else than a
write. -/
def Moment.waits (s : Moment) (key : Nat) : List Nat :=
  if 0 < s.action.span ∧ s.before.isWriting key = false then [s.after.hub.now] else []

def waitTimes (key : Nat) (history : List Moment) : List Nat :=
  history.flatMap fun s => s.waits key

theorem arrivals_items (key : Nat) (history : List Moment) :
    (arrivals key history).map Prod.snd = arrived key history := by
  rw [arrivals, List.map_flatMap]
  exact List.flatMap_congr fun s _ => by simp [Moment.arrivals, Function.comp_def]

theorem arrivals_append (key : Nat) (history : List Moment) (s : Moment) :
    arrivals key (history ++ [s]) = arrivals key history ++ s.arrivals key := by
  simp [arrivals]

theorem consumed_append (key : Nat) (history : List Moment) (s : Moment) :
    consumed key (history ++ [s]) = consumed key history ++ itemsOf (s.own key) := by
  rw [consumed, own_append, itemsOf_append]
  rfl

section Arrivals

variable (config : RelayConfig) (actions : List Action) (key : Nat)

/-- What has arrived was read or waits at the transport. -/
theorem arrived_eq : arrived key (history config actions) =
    consumed key (history config actions) ++ (run config actions).inbound key := by
  have ledgered := run_ledgered config actions key
  cases here : (run config actions).connections[key]? with
  | none =>
    obtain ⟨arrived, silent, -⟩ := (ledgered_of_none here).mp ledgered
    simp [arrived, consumed, silent, inbound, here, itemsOf]
  | some c =>
    rw [inbound, here]
    exact ((ledgered_of_some here).mp ledgered).1

theorem consumed_length_le : (consumed key (history config actions)).length ≤
    (arrivals key (history config actions)).length := by
  have same := congrArg List.length (arrivals_items key (history config actions))
  rw [List.length_map, arrived_eq, List.length_append] at same
  omega

theorem readArrivals_items :
    (readArrivals key (history config actions)).map Prod.snd =
      consumed key (history config actions) := by
  rw [readArrivals, List.map_take, arrivals_items, arrived_eq, List.take_left]

theorem unreadArrivals_items :
    (unreadArrivals key (history config actions)).map Prod.snd =
      (run config actions).inbound key := by
  rw [unreadArrivals, List.map_drop, arrivals_items, arrived_eq, List.drop_left]

variable {actions}

/-- In a moment the task reads some of what waits, from its front. -/
theorem readArrivals_append (a : Action) :
    readArrivals key (history config (actions ++ [a])) =
      readArrivals key (history config actions) ++
        (unreadArrivals key (history config actions) ++
          (Moment.mk (run config actions) a).arrivals key).take
            (itemsOf ((Moment.mk (run config actions) a).own key)).length := by
  have within := consumed_length_le config actions key
  rw [history_append, readArrivals, consumed_append, arrivals_append, List.length_append,
    List.take_add, List.take_append_of_le_length within, List.drop_append_of_le_length within]
  rfl

theorem unreadArrivals_append (a : Action) :
    unreadArrivals key (history config (actions ++ [a])) =
      (unreadArrivals key (history config actions) ++
        (Moment.mk (run config actions) a).arrivals key).drop
          (itemsOf ((Moment.mk (run config actions) a).own key)).length := by
  have within := consumed_length_le config actions key
  rw [history_append, unreadArrivals, consumed_append, arrivals_append, List.length_append,
    ← List.drop_drop, List.drop_append_of_le_length within]
  rfl

/-- What was read after a moment was read before, or in the moment. -/
theorem mem_readArrivals {a : Action} {arrival : Nat × Inbound}
    (read : arrival ∈ readArrivals key (history config (actions ++ [a]))) :
    arrival ∈ readArrivals key (history config actions) ∨
      arrival.2 ∈ itemsOf ((Moment.mk (run config actions) a).own key) := by
  have items := readArrivals_items config (actions ++ [a]) key
  rw [readArrivals_append] at read items
  rw [List.map_append, readArrivals_items, history_append, consumed_append] at items
  rcases List.mem_append.mp read with old | new
  · exact Or.inl old
  · exact Or.inr (List.append_cancel_left items ▸ List.mem_map_of_mem new)

end Arrivals

section Runs

variable {config : RelayConfig} {actions : List Action} {key : Nat} {c : Connection}

theorem arrival_le_run {arrival : Nat × Inbound}
    (h : arrival ∈ arrivals key (history config actions)) :
    arrival.1 ≤ (run config actions).hub.now := by
  obtain ⟨s, hs, arrived⟩ := List.mem_flatMap.mp h
  obtain ⟨item, -, rfl⟩ := List.mem_map.mp arrived
  exact now_le_run hs

theorem waits_le_run {time : Nat} (h : time ∈ waitTimes key (history config actions)) :
    time ≤ (run config actions).hub.now := by
  obtain ⟨s, hs, waited⟩ := List.mem_flatMap.mp h
  unfold Moment.waits at waited
  split at waited
  · obtain ⟨earlier, a, later, rfl, -, after⟩ := mem_history hs
    rw [List.mem_singleton.mp waited, after]
    exact now_le_more config (earlier ++ [a]) later
  · cases waited

/-- The items that a task read without hearing its client are no signs. -/
theorem isSign_of_unheard {told : List Event} (unheard : told.any Event.isHearing = false)
    {item : Inbound} (read : item ∈ itemsOf told) : item.isSign = false := by
  obtain ⟨e, he, consumed⟩ := List.mem_filterMap.mp read
  have silent := List.any_eq_false.mp unheard e he
  unfold Event.item? at consumed
  split at consumed
  · obtain rfl := Option.some.inj consumed
    exact Bool.eq_false_iff.mpr silent
  · cases consumed

/-- Each sign that a registered task has read arrived no later than the task remembers. -/
theorem run_read (here : (run config actions).connections[key]? = some c) {session : Session}
    (found : c.phase.session? = some session) :
    ∀ arrival ∈ readArrivals key (history config actions), arrival.2.isSign = true →
      arrival.1 ≤ session.lastSeen := by
  induction actions using List.reverseRecOn generalizing c session with
  | nil => simp [run, ofConfig] at here
  | append_singleton actions a ih =>
    intro arrival read sign
    rw [run_append] at here
    cases before : (run config actions).connections[key]? with
    | none =>
      rw [act_begins before here] at found
      cases found
    | some c₀ =>
      obtain ⟨c', here', -, met⟩ := act_met before a
      obtain rfl : c' = c := Option.some.inj (here'.symm.trans here)
      -- The task remembers what it remembered, and what it reads is no sign.
      have keep : ∀ {session₀ : Session}, c₀.phase.session? = some session₀ →
          session.lastSeen = session₀.lastSeen →
          ((Moment.mk (run config actions) a).own key).any Event.isHearing = false →
          arrival.1 ≤ session.lastSeen := by
        intro session₀ found₀ same unheard
        rcases mem_readArrivals config key read with old | new
        · exact same ▸ ih before found₀ arrival old sign
        · rw [isSign_of_unheard unheard new] at sign
          cases sign
      cases met with
      | waits silent out phase => exact keep (phase ▸ found) rfl (by rw [silent]; rfl)
      | @acts b next act transition hub phase =>
        obtain rfl : a = .step key b := act
        obtain ⟨told, story⟩ := transition.outline.story
        have own : (Moment.mk (run config actions) (.step key b)).own key = told :=
          own_of_story rfl (by rw [hub, story])
        rw [phase] at found
        rcases transition.lastSeen found story with now | ⟨unheard, session₀, found₀, same⟩
        · have came : arrival ∈ arrivals key (history config actions) := by
            simpa [history_append, arrivals_append, Moment.arrivals, Moment.arrived] using
              List.mem_of_mem_take read
          exact now ▸ arrival_le_run came
        · exact keep found₀ same (by rw [own, unheard])
      | dies act phase =>
        rw [phase] at found
        cases found

/-- Time passes for a task outside of its writes only if it has read everything. -/
theorem unread_of_waits {a : Action} (attentive : (Moment.mk (run config actions) a).Attentive key)
    (going : (run config actions).rank key < 4) {time : Nat}
    (waited : time ∈ (Moment.mk (run config actions) a).waits key) :
    unreadArrivals key (history config actions) ++
      (Moment.mk (run config actions) a).arrivals key = [] := by
  unfold Moment.waits at waited
  split at waited
  · rename_i passing
    obtain ⟨passes, idle⟩ := passing
    have nothing : (Moment.mk (run config actions) a).arrivals key = [] := by
      cases a <;> first | rfl | exact absurd passes (Nat.lt_irrefl 0)
    rw [nothing, List.append_nil, ← List.map_eq_nil_iff, unreadArrivals_items]
    cases here : (run config actions).connections[key]? with
    | none => simp [inbound, here]
    | some c =>
      rw [rank_of_some (task?_of_some here)] at going
      rw [inbound, here]
      cases attentive.resting passes here with
      | handshake _ _ silent => exact silent
      | active _ _ silent => exact silent
      | writing phase => simp [isWriting, here, phase] at idle
      | closing phase => simp [phase, Phase.rank] at going
      | ended phase => simp [phase, Phase.rank] at going
  · cases waited

/-- What a task that is not closing has not read yet came after it waited last for something else
than a write. -/
theorem run_unread (attentive : ∀ s ∈ history config actions, s.Attentive key)
    (going : (run config actions).rank key < 4) :
    ∀ arrival ∈ unreadArrivals key (history config actions),
      ∀ time ∈ waitTimes key (history config actions), time ≤ arrival.1 := by
  induction actions using List.reverseRecOn with
  | nil => exact fun _ unread => absurd unread List.not_mem_nil
  | append_singleton actions a ih =>
    rw [run_append] at going
    have before : (run config actions).rank key < 4 :=
      Nat.lt_of_le_of_lt ((act_change _ a).rank_le key) going
    rw [history_append] at attentive
    intro arrival unread time waited
    rw [unreadArrivals_append] at unread
    have unread := List.mem_of_mem_drop unread
    rw [history_append, waitTimes, List.flatMap_append, List.flatMap_singleton] at waited
    rcases List.mem_append.mp waited with earlier | last
    · rcases List.mem_append.mp unread with old | new
      · have attended := fun s hs => attentive s (List.mem_append_left _ hs)
        exact ih attended before arrival old time earlier
      · obtain ⟨item, -, rfl⟩ := List.mem_map.mp new
        exact waits_le_run earlier
    · rw [unread_of_waits (attentive _ (List.mem_append_right _ List.mem_cons_self)) before last]
        at unread
      cases unread

/-- What a task may have missed that ends its connection for its client's silence. -/
structure Neglect (config : RelayConfig) (actions : List Action) (key : Nat) : Prop where
  /-- Each text and each life sign that it has read arrived longer ago than the timeout. -/
  read : ∀ arrival ∈ readArrivals key (history config actions), arrival.2.isSign = true →
    arrival.1 + config.idleTimeout < (run config actions).hub.now
  /-- All time that passed since the arrival of anything else passed in writes. -/
  unread : ∀ arrival ∈ unreadArrivals key (history config actions),
    ∀ time ∈ waitTimes key (history config actions), time ≤ arrival.1
  /-- It is what waits at the transport. -/
  waiting : (unreadArrivals key (history config actions)).map Prod.snd =
    (run config actions).inbound key

/-- In every run in which time passes only when the task has no step to take, however its writes and
pings hang: a connection ends for its client's silence only if each text and each life sign arrived
longer ago than the timeout, but for those which the task has not read because it has been writing
since they arrived. -/
theorem run_silence (attentive : ∀ s ∈ history config actions, s.Attentive key) :
    ∀ earlier a later, actions = earlier ++ a :: later →
      (Moment.mk (run config earlier) a).Cuts key → Neglect config earlier key := by
  rintro earlier a later rfl cuts
  obtain ⟨-, -, c, session, here, phase, -, silent, -⟩ := cuts.silence
  dsimp only at here silent
  rw [run_config] at silent
  rw [history_add] at attentive
  constructor
  case read =>
    intro arrival read sign
    have seen := run_read here (by rw [phase]; rfl) arrival read sign
    omega
  case unread =>
    refine run_unread (fun s hs => attentive s (List.mem_append_left _ hs)) ?_
    rw [rank_of_some (task?_of_some here), phase]
    exact (by decide : 3 < 4)
  case waiting => exact unreadArrivals_items config earlier key

end Runs

/-- A ping every second, and a timeout of two and a half. -/
def shortPatience : RelayConfig := { keepalive := 1000, idleTimeout := 2500 }

/-- Alice's client takes a line only after two and a half seconds, and sends two life signs in the
meantime; her task looks for the tick before it reads them. -/
def slowTaker : List Action :=
  [.connect "a" { inbound := [.text "alice"] }, .step 0 .start, .step 0 .read, .pass 500,
    .setModes 0 .hangs .ok .ok, .broadcast ⟨⟨9⟩, "dave", "hi"⟩, .step 0 .take, .step 0 .write,
    .pass 1000, .arrive 0 .lifeSign, .pass 1400, .arrive 0 .lifeSign, .pass 100,
    .setModes 0 .ok .ok .ok, .step 0 .write]

theorem slowTaker_cuts : (Moment.mk (run shortPatience slowTaker) (.step 0 .tick)).Cuts 0 := by
  have alice : ((run shortPatience slowTaker).act (.step 0 .tick)).connections[0]? = some
      { id := ⟨1⟩, peer := "a", transport := { inbound := [.lifeSign, .lifeSign] },
        phase := .closing (some .idleTimeout) false 13000 } := by decide +kernel
  exact ⟨by decide +kernel, _, alice, rfl⟩

theorem run_silence_slowTaker :
    let history := history shortPatience slowTaker
    (∀ s ∈ Relay.history shortPatience (slowTaker ++ [.step 0 .tick]), s.Attentive 0) ∧
      (Moment.mk (run shortPatience slowTaker) (.step 0 .tick)).Cuts 0 ∧
      (run shortPatience slowTaker).hub.now = 3000 ∧ waitTimes 0 history = [500] ∧
      readArrivals 0 history = [(0, .text "alice")] ∧
      unreadArrivals 0 history = [(1500, .lifeSign), (2900, .lifeSign)] ∧
      Neglect shortPatience slowTaker 0 := by
  have attentive : ∀ s ∈ history shortPatience (slowTaker ++ [.step 0 .tick]), s.Attentive 0 := by
    decide +kernel
  have cuts := slowTaker_cuts
  exact ⟨attentive, cuts, by decide +kernel, by decide +kernel, by decide +kernel,
    by decide +kernel, run_silence attentive slowTaker _ [] rfl cuts⟩

/-- A connection may end for its client's silence although a life sign has arrived within the
timeout: one that came in a slow write, and that the task has not read when it sees the tick. -/
theorem overlooked_sign :
    ¬ ∀ (config : RelayConfig) (actions : List Action) (key : Nat),
      (∀ s ∈ history config actions, s.Attentive key) →
      ∀ earlier a later, actions = earlier ++ a :: later →
      (Moment.mk (run config earlier) a).Cuts key →
      ∀ arrival ∈ arrivals key (history config earlier), arrival.2.isSign = true →
        arrival.1 + config.idleTimeout < (run config earlier).hub.now := by
  intro claim
  have attentive : ∀ s ∈ history shortPatience (slowTaker ++ [.step 0 .tick]), s.Attentive 0 := by
    decide +kernel
  have came : (2900, .lifeSign) ∈ arrivals 0 (history shortPatience slowTaker) := by decide +kernel
  have older := claim shortPatience _ 0 attentive slowTaker (.step 0 .tick) [] rfl
    slowTaker_cuts _ came rfl
  revert older
  decide +kernel

end Relay

end ChatRelay
