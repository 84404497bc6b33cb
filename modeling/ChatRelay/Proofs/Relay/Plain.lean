import ChatRelay.Proofs.Connection.Journal
import ChatRelay.Proofs.Relay.Settling

/-!
# Relays without binary frames

Take the binary frames away from all that waits in a relay, and from its journal that they were
read. What is left does the same: an action that brings or reads a binary frame changes nothing of
it, every other action does to it what it does to the relay, and the schedule takes the other steps
in the same order.
-/

namespace ChatRelay

def Inbound.plain (items : List Inbound) : List Inbound := items.filter fun item => !item.isBinary

/-- A journal that does not tell that binary frames were read. -/
def Entry.plain (journal : List Entry) : List Entry :=
  journal.filter fun entry => !entry.event.isBinary

def Hub.plain (h : Hub) : Hub := h.retell Entry.plain

def Transport.plain (t : Transport) : Transport := { t with inbound := Inbound.plain t.inbound }

def Connection.plain (c : Connection) : Connection := c.await Inbound.plain

theorem faithful_plain : Hub.Faithful Entry.plain := by
  intro entry past told
  simp [Entry.plain, told]

theorem Inbound.plain_cons {item : Inbound} (other : item.isBinary = false)
    (rest : List Inbound) : plain (item :: rest) = item :: plain rest := by
  simp [plain, other]

namespace Connection

def skips (c : Connection) : Bool := c.transport.inbound.head?.any Inbound.isBinary

variable {c : Connection}

/-- Before another item none of the binary frames is left out. -/
theorem inbound_of_other (waits : c.transport.inbound ≠ []) (other : c.skips = false) :
    ∃ item rest, c.transport.inbound = item :: rest ∧
      Inbound.plain (item :: rest) = item :: Inbound.plain rest ∧ item.isBinary = false := by
  cases inbound : c.transport.inbound with
  | nil => exact absurd inbound waits
  | cons item rest =>
    have other : item.isBinary = false := by simpa [skips, inbound] using other
    exact ⟨item, rest, rfl, Inbound.plain_cons other rest, other⟩

/-- A step is ready without the binary frames too, unless it would read one. -/
theorem ready_plain {s : Surroundings} {b : Branch} (ready : c.ready s b = true)
    (other : b = .read → c.skips = false) : c.plain.ready s b = true := by
  have phase : c.plain.phase = c.phase := rfl
  cases b with
  | read =>
    have waits : c.transport.inbound ≠ [] := by
      intro nothing
      cases same : c.phase <;> simp [Connection.ready, same, nothing] at ready
    obtain ⟨item, rest, inbound, first, -⟩ := inbound_of_other waits (other rfl)
    have inbound' : c.plain.transport.inbound = item :: Inbound.plain rest :=
      (congrArg Inbound.plain inbound).trans first
    cases same : c.phase <;>
      simp_all [Connection.ready]
  | handshakeDeadline =>
    cases same : c.phase with
    | handshake deadline =>
      have ready : c.transport.inbound = [] ∧ deadline ≤ s.now := by
        simpa [Connection.ready, same] using ready
      have inbound' : c.plain.transport.inbound = [] := congrArg Inbound.plain ready.1
      simp [Connection.ready, phase, same, inbound', ready.2]
    | _ => simp [Connection.ready, same] at ready
  | write =>
    have mode (item : Outgoing) : c.plain.transport.mode item = c.transport.mode item := by
      cases item <;> rfl
    cases same : c.phase <;> simp_all [Connection.ready]
  | writeDeadline =>
    have mode (item : Outgoing) : c.plain.transport.mode item = c.transport.mode item := by
      cases item <;> rfl
    cases same : c.phase <;> simp_all [Connection.ready]
  | _ => exact ready

/-- Without the binary frames no step is ready that was not, as long as nothing can be read. -/
theorem unready_plain {s : Surroundings} {b : Branch} (unread : c.ready s .read = false)
    (unready : c.ready s b = false) : c.plain.ready s b = false := by
  have phase : c.plain.phase = c.phase := rfl
  have silent : ∀ deadline, c.phase = .handshake deadline →
      c.plain.transport.inbound = c.transport.inbound := by
    intro deadline same
    have nothing : c.transport.inbound = [] := by
      simpa [Connection.ready, same] using unread
    exact (congrArg Inbound.plain nothing).trans nothing.symm
  have mode (item : Outgoing) : c.plain.transport.mode item = c.transport.mode item := by
    cases item <;> rfl
  cases b with
  | read =>
    cases same : c.phase with
    | handshake deadline =>
      have nothing := silent deadline same
      simpa [Connection.ready, phase, same, nothing] using unread
    | active session =>
      have nothing : c.transport.inbound = [] := by simpa [Connection.ready, same] using unread
      have inbound' : c.plain.transport.inbound = [] := congrArg Inbound.plain nothing
      simp [Connection.ready, phase, same, inbound']
    | _ => simp [Connection.ready, phase, same]
  | handshakeDeadline =>
    cases same : c.phase with
    | handshake deadline =>
      have nothing := silent deadline same
      simpa [Connection.ready, phase, same, nothing] using unready
    | _ => simp [Connection.ready, phase, same]
  | write => cases same : c.phase <;> simp_all [Connection.ready]
  | writeDeadline => cases same : c.phase <;> simp_all [Connection.ready]
  | _ => exact unready

/-- A binary frame is taken off the transport, and nothing else is done with it. -/
theorem perform_skips {s : Surroundings} (ready : c.ready s .read = true)
    (skips : c.skips = true) (config : RelayConfig) (hub : Hub) (key : QueueKey) :
    ∃ size rest, c.transport.inbound = .binary size :: rest ∧ c.phase.isOver = false ∧
      c.perform config hub key .read = (c.note hub (.consumed (.binary size)), c.reading rest) := by
  obtain ⟨size, rest, inbound⟩ : ∃ size rest, c.transport.inbound = .binary size :: rest := by
    cases inbound : c.transport.inbound with
    | nil => simp [Connection.skips, inbound] at skips
    | cons item rest =>
      have binary : item.isBinary = true := by simpa [Connection.skips, inbound] using skips
      cases item <;> first | exact ⟨_, rest, rfl⟩ | cases binary
  refine ⟨size, rest, inbound, ?_⟩
  cases phase : c.phase with
  | handshake deadline => exact ⟨rfl, read_of_handshake phase inbound⟩
  | active session => exact ⟨rfl, read_of_active phase inbound⟩
  | _ => simp [Connection.ready, phase] at ready

end Connection

namespace Relay

def plain (r : Relay) : Relay :=
  { r with hub := r.hub.plain, connections := r.connections.map Connection.plain }

/-- The action brings a binary frame, or a task reads one in it. -/
def skips (r : Relay) : Action → Bool
  | .arrive _ item => item.isBinary
  | .step key b => r.ready key b && decide (b = .read) &&
    (r.connections[key]?).any Connection.skips
  | _ => false

/-- The action without the binary frames that the client of a new connection has already sent. -/
def Action.plain : Action → Action
  | .connect peer transport => .connect peer transport.plain
  | .completeUpgrade peer transport => .completeUpgrade peer transport.plain
  | a => a

section Plain

variable {r : Relay} {key : Nat} {b : Branch} {a : Action}

theorem plain_getElem? (r : Relay) (key : Nat) :
    r.plain.connections[key]? = (r.connections[key]?).map Connection.plain := by
  simp [plain]

theorem plain_of_some {c : Connection} (here : r.connections[key]? = some c) :
    r.plain.connections[key]? = some c.plain := by
  rw [plain_getElem?, here]
  rfl

theorem plain_size (r : Relay) : r.plain.connections.size = r.connections.size := by
  simp [plain]

theorem task?_plain (r : Relay) (key : Nat) : r.plain.task? key = r.task? key := by
  rw [task?, plain_getElem?, Option.map_map]
  rfl

theorem update_plain (r : Relay) (key : Nat) (hub : Hub) (c : Connection) :
    (r.update key hub c).plain = r.plain.update key hub.plain c.plain := by
  have gone : (c.plain.phase.isOver && c.plain.holdsSlot) = (c.phase.isOver && c.holdsSlot) := rfl
  unfold update
  rw [gone]
  split
  · simp only [plain, Array.map_setIfInBounds]
    rfl
  · simp only [plain, Array.map_setIfInBounds]

theorem modifyTransport_plain (r : Relay) (key : Nat) {f g : Transport → Transport}
    (same : ∀ t, (f t).plain = g t.plain) :
    (r.modifyTransport key f).plain = r.plain.modifyTransport key g := by
  have connections : ((r.modifyTransport key f).connections.map Connection.plain) =
      (r.connections.map Connection.plain).modify key
        fun c => { c with transport := g c.transport } := by
    apply Array.ext_getElem?
    intro k
    simp only [modifyTransport, Array.getElem?_map, Array.getElem?_modify]
    split
    · cases r.connections[k]? with
      | none => rfl
      | some c =>
        have transport := same c.transport
        simp only [Option.map_some, Connection.plain, Connection.await]
        exact congrArg (fun t => some { c with transport := t }) transport
    · rfl
  exact congrArg (fun connections => { r with hub := r.hub.plain, connections }) connections

theorem Sound.plain (h : r.Sound) : r.plain.Sound where
  sizes := h.sizes.trans (plain_size r).symm
  ascending := h.ascending
  serving := by
    intro m hm
    rw [task?_plain]
    exact h.serving m hm
  numbered := by
    intro key id phase here
    rw [task?_plain] at here
    exact h.numbered key id phase here
  next := by
    rw [plain_size]
    exact h.next
  options := h.options

/-- What a change of a transport makes of the binary frames is not seen. -/
theorem modifyTransport_plain_eq (r : Relay) (key : Nat) {f : Transport → Transport}
    (same : ∀ t, (f t).plain = t.plain) : (r.modifyTransport key f).plain = r.plain := by
  rw [modifyTransport_plain r key (g := id) same]
  have connections : (r.plain.connections.modify key fun c =>
      { c with transport := id c.transport }) = r.plain.connections := by
    apply Array.ext_getElem?
    intro k
    rw [Array.getElem?_modify]
    split <;> simp
  exact congrArg (fun connections => { r.plain with connections }) connections

/-- A connection that is stored as it is. -/
theorem update_self {c : Connection} (here : r.connections[key]? = some c)
    (going : c.phase.isOver = false) : r.update key r.hub c = r := by
  have stored : r.connections.setIfInBounds key c = r.connections := by
    apply Array.ext_getElem?
    intro k
    rw [Array.getElem?_setIfInBounds]
    split
    · rename_i same
      rw [← same, here, if_pos (Array.getElem?_eq_some_iff.mp here).1]
    · rfl
  rw [update, going, Bool.false_and, if_neg Bool.false_ne_true, stored]

/-- Nothing that is left knows of the binary frame. -/
theorem act_skips (skips : r.skips a = true) : (r.act a).plain = r.plain := by
  cases a with
  | arrive key item =>
    have binary : item.isBinary = true := skips
    have still : (r.modifyTransport key fun t => t.arrive item).plain = r.plain := by
      apply modifyTransport_plain_eq
      intro t
      simp [Transport.plain, Transport.arrive, Inbound.plain, binary]
    simp only [act, arrive]
    cases here : r.connections[key]? with
    | none => rfl
    | some c =>
      dsimp only
      split
      · exact still
      · rfl
  | step key b =>
    simp only [Relay.skips, Bool.and_eq_true, decide_eq_true_eq] at skips
    obtain ⟨⟨ready, rfl⟩, skips⟩ := skips
    cases here : r.connections[key]? with
    | none => simp [Relay.ready, here] at ready
    | some c =>
      have ready' : c.ready (r.surroundings key) .read = true := by
        simpa [Relay.ready, here] using ready
      have first : c.skips = true := by simpa [here] using skips
      obtain ⟨size, rest, inbound, going, read⟩ :=
        Connection.perform_skips ready' first r.config r.hub key
      have noted : (c.note r.hub (.consumed (.binary size))).plain = r.plain.hub := by
        simp [Hub.plain, Hub.retell, Connection.note, Hub.note, Entry.plain, Event.isBinary, plain]
      have rested : (c.reading rest).plain = c.plain := by
        simp [Connection.plain, Connection.await, Connection.reading, inbound, Inbound.plain,
          Inbound.isBinary]
      have done : r.act (.step key .read) = r.update key
          (c.note r.hub (.consumed (.binary size))) (c.reading rest) := by
        rw [act_step ready, perform, here]
        exact congrArg (fun next : Hub × Connection => r.update key next.1 next.2) read
      rw [done, update_plain, noted, rested]
      exact update_self (plain_of_some here) going
  | _ => cases skips

/-- A step is ready without the binary frames, unless one is read in it. -/
theorem ready_plain (ready : r.ready key b = true) (other : r.skips (.step key b) = false) :
    r.plain.ready key b = true := by
  cases here : r.connections[key]? with
  | none => simp [Relay.ready, here] at ready
  | some c =>
    have able : c.ready (r.surroundings key) b = true := by simpa [Relay.ready, here] using ready
    rw [Relay.ready, plain_of_some here]
    refine Connection.ready_plain able fun reads => ?_
    subst reads
    simpa [Relay.skips, ready, here] using other

theorem unready_plain (unready : ∀ b, r.ready key b = false) (b : Branch) :
    r.plain.ready key b = false := by
  cases here : r.connections[key]? with
  | none => simp [Relay.ready, plain_getElem?, here]
  | some c =>
    have unready : ∀ b, c.ready (r.surroundings key) b = false := by
      simpa [Relay.ready, here] using unready
    rw [Relay.ready, plain_of_some here]
    exact Connection.unready_plain (unready .read) (unready b)

theorem perform_plain (ready : r.ready key b = true) (other : r.skips (.step key b) = false) :
    (r.perform key b).plain = r.plain.perform key b := by
  cases here : r.connections[key]? with
  | none => simp [Relay.ready, here] at ready
  | some c =>
    have able : c.ready (r.surroundings key) b = true := by simpa [Relay.ready, here] using ready
    have legible : b = .read → ∃ item rest, c.transport.inbound = item :: rest ∧
        Inbound.plain (item :: rest) = item :: Inbound.plain rest ∧ item.isBinary = false := by
      rintro rfl
      refine Connection.inbound_of_other ?_ (by simpa [Relay.skips, ready, here] using other)
      intro nothing
      cases phase : c.phase <;> simp [Connection.ready, phase, nothing] at able
    have performed := Connection.perform_retell faithful_plain Inbound.plain r.config c r.hub key
      legible
    rw [perform, here, perform, plain_of_some here]
    dsimp only
    rw [update_plain]
    exact congrArg (fun next : Hub × Connection => r.plain.update key next.1 next.2)
      performed.symm

theorem connect_plain (r : Relay) (peer : String) (transport : Transport) (slot : Bool) :
    (r.connect peer transport slot).2.plain = (r.plain.connect peer transport.plain slot).2 := by
  have connections : ((r.connect peer transport slot).2.connections.map Connection.plain) =
      (r.plain.connect peer transport.plain slot).2.connections := Array.map_push
  exact congrArg (fun connections => { (r.connect peer transport slot).2 with
    hub := (r.connect peer transport slot).2.hub.plain, connections }) connections

theorem arrive_plain (r : Relay) (key : Nat) {item : Inbound} (other : item.isBinary = false) :
    (r.arrive key item).2.plain = (r.plain.arrive key item).2 := by
  have arrives := modifyTransport_plain r key (f := fun t => t.arrive item)
    (g := fun t => t.arrive item) fun t => by
      simp [Transport.plain, Transport.arrive, Inbound.plain, other]
  simp only [arrive, plain_getElem?]
  cases r.connections[key]? with
  | none => rfl
  | some c =>
    have listening : c.plain.isListening = c.isListening := rfl
    simp only [Option.map_some, listening]
    split
    · exact arrives
    · rfl

theorem hangUp_plain (r : Relay) (key : Nat) :
    (r.hangUp key).2.plain = (r.plain.hangUp key).2 := by
  have ends := modifyTransport_plain r key (f := Transport.finish) (g := Transport.finish)
    fun t => by simp [Transport.plain, Transport.finish, Transport.arrive, Inbound.plain,
      Inbound.isBinary]
  simp only [hangUp, plain_getElem?]
  cases r.connections[key]? with
  | none => rfl
  | some c =>
    have going : c.plain.transport.isOpen = c.transport.isOpen := rfl
    simp only [Option.map_some, going]
    split
    · exact ends
    · rfl

theorem abort_plain (r : Relay) (key : Nat) : (r.abort key).plain = r.plain.abort key := by
  simp only [abort, plain_getElem?]
  cases r.connections[key]? with
  | none => rfl
  | some c =>
    have gone : c.plain.phase.isOver = c.phase.isOver := rfl
    simp only [Option.map_some, gone]
    split
    · rfl
    · have died := Connection.die_retell faithful_plain Inbound.plain c r.hub key .aborted
      rw [update_plain]
      exact congrArg (fun next : Hub × Connection => r.plain.update key next.1 next.2) died.symm

theorem send?_plain (r : Relay) (value : Bool) :
    r.plain.send? value = (r.send? value).map Relay.plain := by
  have signal : r.plain.signal = r.signal := rfl
  simp only [send?, signal, Option.map_map]
  rfl

theorem reserve_plain (r : Relay) (label : String) :
    (r.reserve label).2.plain = (r.plain.reserve label).2 := by
  have slots : r.plain.slots = r.slots := rfl
  have reserved : r.plain.reserved = r.reserved := rfl
  simp only [reserve, slots, reserved]
  cases r.slots.reserve? with
  | none => rfl
  | some slots =>
    dsimp only
    split <;> rfl

theorem release_plain (r : Relay) (label : String) :
    (r.release label).2.plain = (r.plain.release label).2 := by
  have reserved : r.plain.reserved = r.reserved := rfl
  simp only [release, reserved]
  split <;> rfl

theorem requestUpgrade_plain (r : Relay) (peer : String) :
    r.plain.requestUpgrade peer =
      ((r.requestUpgrade peer).1, (r.requestUpgrade peer).2.plain) := by
  have signal : r.plain.signal = r.signal := rfl
  have slots : r.plain.slots = r.slots := rfl
  simp only [requestUpgrade, signal, slots]
  split
  · rfl
  · cases r.slots.reserve? with
    | none =>
      have noted := Hub.note_retell faithful_plain r.hub
        (e := .turnedAway peer r.slots.capacity) rfl
      exact congrArg (fun hub => (UpgradeAnswer.full, { r.plain with hub })) noted
    | some slots => rfl

/-- Any other action does the same without the binary frames. -/
theorem act_plain (other : r.skips a = false)
    (ready : ∀ key b, a = .step key b → r.ready key b = true) :
    (r.act a).plain = r.plain.act a.plain := by
  cases a with
  | connect peer transport => exact connect_plain r peer transport false
  | arrive key item => exact arrive_plain r key other
  | hangUp key => exact hangUp_plain r key
  | setModes key writing pinging closing =>
    exact modifyTransport_plain r key (f := fun t => { t with writing, pinging, closing })
      (g := fun t => { t with writing, pinging, closing }) fun t => rfl
  | abort key => exact abort_plain r key
  | step key b =>
    have able := ready key b rfl
    have performed := perform_plain able other
    rw [← act_step able, ← act_step (ready_plain able other)] at performed
    exact performed
  | unregister id =>
    have gone := congrArg Prod.snd (Hub.unregister_retell faithful_plain r.hub id)
    exact congrArg (fun hub => { r.plain with hub }) gone.symm
  | endRegistry =>
    have ended := congrArg Prod.snd (Hub.endRegistry_retell faithful_plain r.hub)
    exact congrArg (fun hub => { r.plain with hub }) ended.symm
  | broadcast message =>
    have said := congrArg Prod.fst (Hub.broadcast_retell faithful_plain r.hub message)
    exact congrArg (fun hub => { r.plain with hub }) said.symm
  | send value =>
    change ((r.send? value).getD r).plain = (r.plain.send? value).getD r.plain
    rw [send?_plain]
    cases r.send? value <;> rfl
  | reserve label => exact reserve_plain r label
  | release label => exact release_plain r label
  | requestUpgrade peer => exact (congrArg Prod.snd (requestUpgrade_plain r peer)).symm
  | completeUpgrade peer transport =>
    change (if r.upgrades = 0 then r else (r.completeUpgrade peer transport).2).plain =
      if r.upgrades = 0 then r.plain else (r.plain.completeUpgrade peer transport.plain).2
    split
    · rfl
    · exact connect_plain { r with upgrades := r.upgrades - 1 } peer transport true
  | failUpgrade =>
    change (if r.upgrades = 0 then r else r.failUpgrade).plain =
      if r.upgrades = 0 then r.plain else r.plain.failUpgrade
    split <;> rfl
  | dropSender => rfl
  | keepSnapshot label => rfl
  | dropSnapshot label => rfl
  | pass length => rfl

/-- The first ready step of a task is the same without the binary frames, unless one is read in it:
the steps before it are not ready either. -/
theorem firstReady?_plain (first : r.firstReady? key = some b)
    (other : r.skips (.step key b) = false) : r.plain.firstReady? key = some b := by
  obtain ⟨ready, before, after, split, unready⟩ := List.find?_eq_some_iff_append.mp first
  refine List.find?_eq_some_iff_append.mpr
    ⟨ready_plain (by simpa using ready) other, before, after, split, ?_⟩
  have unready : ∀ b' ∈ before, r.ready key b' = false := by simpa using unready
  suffices ∀ b' ∈ before, r.plain.ready key b' = false by simpa using this
  intro b' among
  cases here : r.connections[key]? with
  | none => simp [Relay.ready, plain_getElem?, here]
  | some c =>
    have task : ∀ b, r.ready key b = c.ready (r.surroundings key) b := by simp [Relay.ready, here]
    rw [Relay.ready, plain_of_some here]
    have unready' : c.ready (r.surroundings key) b' = false := by
      rw [← task]
      exact unready b' among
    -- Only the start comes before the reading, and it has nothing to do with what waits.
    by_cases reads : .read ∈ before
    · exact Connection.unready_plain (task .read ▸ unready _ reads) unready'
    · cases before with
      | nil => cases among
      | cons first rest =>
        obtain ⟨rfl, behind⟩ := List.cons.inj split
        cases rest with
        | nil =>
          obtain rfl : b' = .start := by simpa using among
          exact unready'
        | cons second rest =>
          obtain ⟨rfl, -⟩ := List.cons.inj behind
          exact absurd (by simp) reads

/-- The next step is the same without the binary frames, unless one is read in it. -/
theorem next?_plain (next : r.next? = some (key, b)) (other : r.skips (.step key b) = false) :
    r.plain.next? = some (key, b) := by
  obtain ⟨first, earlier⟩ := firstReady_of_next next
  have first := firstReady?_plain first other
  cases next' : r.plain.next? with
  | none =>
    have quiet : r.plain.isQuiet = true := by rw [isQuiet, next']; rfl
    have ready := ready_plain (ready_of_next next) other
    rw [isQuiet_iff.mp quiet] at ready
    cases ready
  | some found =>
    obtain ⟨key', b'⟩ := found
    obtain ⟨first', earlier'⟩ := firstReady_of_next next'
    rcases Nat.lt_trichotomy key key' with below | rfl | above
    · rw [earlier' key below] at first
      cases first
    · rw [first'] at first
      rw [Option.some.inj first]
    · have unready : ∀ b, r.ready key' b = false := by
        intro b
        have none := List.find?_eq_none.mp (earlier key' above) b (by cases b <;> decide)
        simpa using none
      have ready := ready_of_next next'
      rw [unready_plain unready] at ready
      cases ready

theorem isQuiet_plain (quiet : r.isQuiet = true) : r.plain.isQuiet = true := by
  rw [isQuiet_iff] at quiet ⊢
  exact fun key b => unready_plain (quiet key) b

/-- Without the binary frames the same steps are taken, but for those that read one. -/
theorem settleWithin_plain (r : Relay) (steps : Nat) : ∃ fewer,
    (r.settleWithin steps).plain = r.plain.settleWithin fewer := by
  induction steps generalizing r with
  | zero => exact ⟨0, rfl⟩
  | succ steps ih =>
    cases next : r.next? with
    | none => exact ⟨0, by simp [settleWithin, next]⟩
    | some found =>
      obtain ⟨key, b⟩ := found
      have ready := ready_of_next next
      obtain ⟨fewer, settled⟩ := ih (r.perform key b)
      have first : r.settleWithin (steps + 1) = (r.perform key b).settleWithin steps := by
        simp [settleWithin, next]
      cases skips : r.skips (.step key b) with
      | true =>
        have still := act_skips skips
        rw [act_step ready] at still
        exact ⟨fewer, by rw [first, settled, still]⟩
      | false =>
        refine ⟨fewer + 1, ?_⟩
        rw [first, settled, settleWithin, next?_plain next skips, perform_plain ready skips]

/-- A schedule that has come to rest has done so for any number of steps that is large enough. -/
theorem settleWithin_stable {steps steps' : Nat} (rest : (r.settleWithin steps).isQuiet = true)
    (rest' : (r.settleWithin steps').isQuiet = true) :
    r.settleWithin steps = r.settleWithin steps' := by
  induction steps generalizing r steps' with
  | zero => exact (settleWithin_of_quiet rest steps').symm
  | succ steps ih =>
    cases next : r.next? with
    | none =>
      have quiet : r.isQuiet = true := by rw [isQuiet, next]; rfl
      rw [settleWithin_of_quiet quiet, settleWithin_of_quiet quiet]
    | some found =>
      obtain ⟨key, b⟩ := found
      obtain ⟨fewer, rfl, first⟩ := settleWithin_of_next next rest'
      obtain ⟨fewer', same, first'⟩ := settleWithin_of_next next rest
      obtain rfl : fewer' = steps := by omega
      rw [first'] at rest ⊢
      rw [first] at rest' ⊢
      exact ih rest rest'

theorem settle_plain (sound : r.Sound) : r.settle.plain = r.plain.settle := by
  obtain ⟨fewer, settled⟩ := settleWithin_plain r r.weight
  have rest := isQuiet_plain (settle_isQuiet sound)
  rw [settle, settled] at rest
  rw [settle, settled]
  exact settleWithin_stable rest (settle_isQuiet sound.plain)

theorem nextDue?_plain (r : Relay) : r.plain.nextDue? = r.nextDue? := by
  have dues : r.plain.connections.toList.filterMap Connection.due? =
      r.connections.toList.filterMap Connection.due? := by
    rw [plain, Array.toList_map, List.filterMap_map]
    rfl
  rw [nextDue?, dues]
  rfl

theorem runUntil_plain (sound : r.Sound) (limit moments : Nat) :
    (runUntil limit moments r).plain = runUntil limit moments r.plain := by
  induction moments generalizing r with
  | zero => exact settle_plain (sound.withClock limit)
  | succ moments ih =>
    rw [runUntil, runUntil, nextDue?_plain]
    cases r.nextDue? with
    | none => rfl
    | some t =>
      dsimp only
      split
      · rw [ih (sound.withClock t).settle, settle_plain (sound.withClock t)]
        rfl
      · rfl

/-- Time passes for the relay as it does without the binary frames. -/
theorem advance_plain (sound : r.Sound) (length : Nat) :
    (r.advance length).plain = r.plain.advance length :=
  runUntil_plain sound _ _

end Plain

end Relay

end ChatRelay
