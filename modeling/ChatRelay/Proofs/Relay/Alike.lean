import ChatRelay.Proofs.Connection.Alike
import ChatRelay.Proofs.Relay.Inbound

/-!
# Relays that differ in one connection

Two relays are alike but for a connection if nobody else can tell them apart. Whatever is not
addressed to this connection does the same to both, and what is addressed to it leaves everything
else as it was, as long as its task sends no message. Slots play no part here: the connections are
those that begin without one.
-/

namespace ChatRelay

namespace Relay

/-- A kept snapshot without the members at a queue. -/
def keptWithout (d : QueueKey) (entry : String × List Member) : String × List Member :=
  (entry.1, entry.2.filter fun m => m.queue != d)

/-- Two relays agree in all that does not belong to the connection at this place. -/
structure Alike (d : Nat) (r r' : Relay) : Prop where
  config : r.config = r'.config
  signal : r.signal = r'.signal
  hub : r.hub.Alike d (.nth d) r'.hub
  size : r.connections.size = r'.connections.size
  connections : ∀ k, k ≠ d → r.connections[k]? = r'.connections[k]?
  kept : r.kept.map (keptWithout d) = r'.kept.map (keptWithout d)

/-- The action is addressed to the connection at this place, or removes its registration. -/
def Action.isFor (d : Nat) : Action → Bool
  | .unregister id => id == .nth d
  | a => a.target? == some d

/-- Only slots and requests for upgrades see the action. -/
def Action.isAside : Action → Bool
  | .reserve _ | .release _ | .requestUpgrade _ | .failUpgrade => true
  | _ => false

theorem Sound.seats {r : Relay} (h : r.Sound) (few : r.connections.size ≤ UInt64.size) {d : Nat}
    (numbered : d < UInt64.size) : r.hub.registry.Seats d (.nth d) where
  ascending := h.ascending
  distinct := h.distinct
  peer m hm := by
    obtain ⟨id, below⟩ := h.member_id hm
    constructor
    · rintro rfl
      exact id
    · exact fun same => ConnectionId.nth_inj (Nat.lt_of_lt_of_le below few) numbered
        (id.symm.trans same)

theorem Sound.id_ne {r : Relay} (h : r.Sound) (few : r.connections.size ≤ UInt64.size) {d k : Nat}
    (numbered : d < UInt64.size) (apart : k ≠ d) {c : Connection}
    (here : r.connections[k]? = some c) : c.id ≠ .nth d := by
  rw [h.id_nth here]
  have below := (Array.getElem?_eq_some_iff.mp here).1
  exact fun same => apart (ConnectionId.nth_inj (Nat.lt_of_lt_of_le below few) numbered same)

namespace Alike

section Places

variable {d k : Nat} {r r' r'' : Relay}

theorem refl (r : Relay) : Alike d r r :=
  ⟨rfl, rfl, .refl r.hub, rfl, fun _ _ => rfl, rfl⟩

theorem symm (alike : Alike d r r') : Alike d r' r where
  config := alike.config.symm
  signal := alike.signal.symm
  hub := alike.hub.symm
  size := alike.size.symm
  connections k apart := (alike.connections k apart).symm
  kept := alike.kept.symm

theorem trans (first : Alike d r r') (second : Alike d r' r'') : Alike d r r'' where
  config := first.config.trans second.config
  signal := first.signal.trans second.signal
  hub := first.hub.trans second.hub
  size := first.size.trans second.size
  connections k apart := (first.connections k apart).trans (second.connections k apart)
  kept := first.kept.trans second.kept

theorem withHub (alike : Alike d r r') {hub hub' : Hub} (hubs : hub.Alike d (.nth d) hub') :
    Alike d { r with hub } { r' with hub := hub' } :=
  { alike with hub := hubs }

theorem withClock (alike : Alike d r r') (now : Nat) :
    Alike d (r.withClock now) (r'.withClock now) :=
  alike.withHub (alike.hub.withClock now)

theorem holds (alike : Alike d r r') (apart : k ≠ d) : r.holds k = r'.holds k := by
  have registered : r.hub.registry.holds k = r'.hub.registry.holds k := by
    rw [Bool.eq_iff_iff, Registry.holds_iff, Registry.holds_iff]
    constructor
    · rintro ⟨m, hm, rfl⟩
      exact ⟨m, (alike.hub.mem_iff apart).mp hm, rfl⟩
    · rintro ⟨m, hm, rfl⟩
      exact ⟨m, (alike.hub.mem_iff apart).mpr hm, rfl⟩
  -- A snapshot without the peer holds the queue of somebody else as it did with the peer.
  have seen (kept : Labelled (List Member)) :
      (kept.any fun entry => entry.2.any fun m => m.queue == k) =
        (kept.map (keptWithout d)).any fun entry => entry.2.any fun m => m.queue == k := by
    rw [List.any_map]
    congr 1
    funext entry
    simp only [Function.comp, keptWithout, List.any_filter]
    congr 1
    funext m
    by_cases own : m.queue = k <;> simp [own, apart]
  have snapshots : (r.kept.any fun entry => entry.2.any fun m => m.queue == k) =
      r'.kept.any fun entry => entry.2.any fun m => m.queue == k := by
    rw [seen r.kept, alike.kept, ← seen r'.kept]
  rw [Relay.holds, Relay.holds, registered, snapshots]

theorem surroundings (alike : Alike d r r') (apart : k ≠ d) :
    r.surroundings k = r'.surroundings k := by
  rw [Relay.surroundings, Relay.surroundings, alike.hub.now, alike.signal,
    alike.hub.queues k apart, alike.holds apart]

theorem ready (alike : Alike d r r') (apart : k ≠ d) (b : Branch) :
    r.ready k b = r'.ready k b := by
  rw [Relay.ready, Relay.ready, alike.connections k apart, alike.surroundings apart]

theorem update_other (alike : Alike d r r') (apart : k ≠ d) {c : Connection}
    (here : r.connections[k]? = some c) {next next' : Hub × Connection}
    (agree : Connection.Agree d (.nth d) next next') :
    Alike d (r.update k next.1 next.2) (r'.update k next'.1 next'.2) := by
  have here' : r'.connections[k]? = some c := alike.connections k apart ▸ here
  constructor
  · simp [alike.config]
  · simp [alike.signal]
  · rw [update_hub, update_hub]
    exact agree.1
  · simp [alike.size]
  · intro j other
    by_cases same : j = k
    · subst same
      rw [update_here here, update_here here', agree.2]
    · rw [update_elsewhere same, update_elsewhere same, alike.connections j other]
  · simp [alike.kept]

/-- A change at the place of the peer is a change of the hub at most. -/
theorem update_own {hub : Hub} (alike : hub.Alike d (.nth d) r.hub) (c : Connection) :
    Alike d (r.update d hub c) r where
  config := by simp
  signal := by simp
  hub := by rwa [update_hub]
  size := by simp
  connections k apart := update_elsewhere apart hub c
  kept := by simp

theorem modifyTransport (alike : Alike d r r') (k : Nat) (f : Transport → Transport) :
    Alike d (r.modifyTransport k f) (r'.modifyTransport k f) :=
  { alike with
    size := by simp [Relay.modifyTransport, alike.size]
    connections := fun j apart => by
      simp only [Relay.modifyTransport, Array.getElem?_modify, alike.connections j apart] }

theorem modifyTransport_own (r : Relay) (f : Transport → Transport) :
    Alike d (r.modifyTransport d f) r :=
  { refl r with
    size := by simp [Relay.modifyTransport]
    connections := fun _ apart => modifyTransport_elsewhere apart f }

/-- Somebody connects. How the peer's transport is at first makes no difference. -/
theorem connect (alike : Alike d r r') (peer : String) {transport transport' : Transport}
    (same : r.connections.size = d ∨ transport = transport') :
    Alike d (r.connect peer transport false).2 (r'.connect peer transport' false).2 := by
  constructor
  · exact alike.config
  · exact alike.signal
  · have counted := alike.hub.issueId.withMeters
      (r.hub.issueId.2.meters.increase .connections 1)
      (r'.hub.issueId.2.meters.increase .connections 1)
    have opened := counted.openQueue r.config.queueCapacity
    rw [Relay.connect, Relay.connect, ← alike.config]
    exact opened
  · simp [alike.size]
  · intro k apart
    simp only [Relay.connect, Hub.issueId, Array.getElem?_push, ← alike.size, ← alike.hub.nextId,
      alike.connections k apart]
    split
    · rename_i last
      rcases same with own | rfl
      · exact absurd (last.trans own) apart
      · rfl
    · rfl
  · exact alike.kept

/-- Slots, upgrades and what is noted about them concern no task. -/
theorem aside {r₁ : Relay} (config : r₁.config = r.config) (signal : r₁.signal = r.signal)
    (hub : r₁.hub.Alike d (.nth d) r.hub) (connections : r₁.connections = r.connections)
    (kept : r₁.kept = r.kept) : Alike d r₁ r :=
  ⟨config, signal, hub, by rw [connections], fun _ _ => by rw [connections], by rw [kept]⟩

end Places

section Actions

variable {d : Nat} {r r' : Relay} (alike : Alike d r r')

include alike

theorem arrive {k : Nat} (apart : k ≠ d) (item : Inbound) :
    Alike d (r.act (.arrive k item)) (r'.act (.arrive k item)) := by
  simp only [act, Relay.arrive, ← alike.connections k apart]
  split
  · exact alike
  · split
    · exact alike.modifyTransport k fun t => t.arrive item
    · exact alike

theorem hangUp {k : Nat} (apart : k ≠ d) :
    Alike d (r.act (.hangUp k)) (r'.act (.hangUp k)) := by
  simp only [act, Relay.hangUp, ← alike.connections k apart]
  split
  · exact alike
  · split
    · exact alike.modifyTransport k Transport.finish
    · exact alike

theorem abort {k : Nat} (apart : k ≠ d) : Alike d (r.act (.abort k)) (r'.act (.abort k)) := by
  simp only [act, Relay.abort, ← alike.connections k apart]
  split
  · exact alike
  · rename_i c here
    split
    · exact alike
    · exact alike.update_other apart here (Connection.Agree.die alike.hub c k .aborted)

theorem step {k : Nat} (apart : k ≠ d) (seats : r.hub.registry.Seats d (.nth d))
    (seats' : r'.hub.registry.Seats d (.nth d))
    (other : ∀ c, r.connections[k]? = some c → c.id ≠ .nth d) (b : Branch) :
    Alike d (r.act (.step k b)) (r'.act (.step k b)) := by
  simp only [act, ← alike.ready apart]
  split
  · simp only [Relay.perform, ← alike.connections k apart, ← alike.config]
    split
    · rename_i c here
      exact alike.update_other apart here
        (Connection.Agree.perform alike.hub r.config c apart seats seats' (other c here) b)
    · exact alike
  · exact alike

theorem send (value : Bool) : Alike d (r.act (.send value)) (r'.act (.send value)) := by
  simp only [act, send?, ← alike.signal]
  cases r.signal.send? value with
  | none => exact alike
  | some signal => exact { alike with signal := rfl }

omit alike in
theorem kept_erase (kept : Labelled (List Member)) (label : String) :
    (kept.erase label).map (keptWithout d) = Labelled.erase (kept.map (keptWithout d)) label := by
  simp only [Labelled.erase, List.filter_map]
  rfl

theorem keepSnapshot (label : String) :
    Alike d (r.act (.keepSnapshot label)) (r'.act (.keepSnapshot label)) := by
  have taken : keptWithout d (label, r.hub.registry.members) =
      keptWithout d (label, r'.hub.registry.members) := congrArg (label, ·) alike.hub.others
  refine { alike with kept := ?_ }
  simp only [act, Relay.keepSnapshot, Labelled.put, List.map_append, kept_erase, alike.kept,
    List.map_cons, List.map_nil, taken]

theorem dropSnapshot (label : String) :
    Alike d (r.act (.dropSnapshot label)) (r'.act (.dropSnapshot label)) := by
  refine { alike with kept := ?_ }
  simp only [act, Relay.dropSnapshot, kept_erase, alike.kept]

omit alike in
/-- What only slots and upgrades see. -/
theorem act_aside {a : Action} (r : Relay) (slots : a.isAside = true) : Alike d (r.act a) r := by
  have effect := act_effect r a
  generalize r.act a = after at effect ⊢
  cases effect with
  | nothing => exact refl r
  | turnAway => exact aside rfl rfl (.note_of_neg rfl _) rfl rfl
  | reserve | release | accept | failUpgrade => exact aside rfl rfl (.refl _) rfl rfl
  | _ => cases slots

/-- What is not addressed to the peer does the same to both relays. -/
theorem act_other (sound : r.Sound) (sound' : r'.Sound)
    (few : r.connections.size ≤ UInt64.size) (numbered : d < UInt64.size) {a : Action}
    (other : a.isFor d = false) (direct : ∀ peer transport, a ≠ .completeUpgrade peer transport) :
    Alike d (r.act a) (r'.act a) := by
  have seats := sound.seats few numbered
  have seats' := sound'.seats (alike.size ▸ few) numbered
  have apart {k : Nat} (target : (some k == some d) = false) : k ≠ d := by simpa using target
  by_cases slots : a.isAside = true
  · exact (act_aside r slots).trans (alike.trans (act_aside r' slots).symm)
  cases a with
  | connect peer transport => exact alike.connect peer (Or.inr rfl)
  | arrive k item => exact alike.arrive (apart other) item
  | hangUp k => exact alike.hangUp (apart other)
  | setModes k writing pinging closing =>
    exact alike.modifyTransport k fun t => { t with writing, pinging, closing }
  | abort k => exact alike.abort (apart other)
  | step k b =>
    exact alike.step (apart other) seats seats'
      (fun c here => sound.id_ne few numbered (apart other) here) b
  | unregister id => exact alike.withHub (alike.hub.unregister id)
  | endRegistry => exact alike.withHub alike.hub.endRegistry
  | broadcast message => exact alike.withHub (alike.hub.broadcast seats seats' message)
  | send value => exact alike.send value
  | dropSender =>
    exact { alike with signal := by simp only [act, Relay.dropSender, alike.signal] }
  | keepSnapshot label => exact alike.keepSnapshot label
  | dropSnapshot label => exact alike.dropSnapshot label
  | completeUpgrade peer transport => exact absurd rfl (direct peer transport)
  | pass length =>
    simp only [act, alike.hub.now]
    exact alike.withClock _
  | reserve | release | requestUpgrade | failUpgrade => exact absurd rfl slots

end Actions

section Own

variable {d : Nat} {r : Relay} {a : Action}

/-- The peer's task takes a step or dies, and sends no message. -/
theorem act_task (sound : r.Sound) (seats : r.hub.registry.Seats d (.nth d))
    (actor : a.actor? = some d) (silent : messagesOf ((Moment.mk r a).own d) = [])
    {c : Connection} {next : Hub × Connection} (here : r.connections[d]? = some c)
    (after : r.act a = r.update d next.1 next.2) (outline : Connection.Outline c r.hub d next)
    (elsewhere : next.1.elsewhere c.id = r.hub.elsewhere c.id) :
    Alike d (r.update d next.1 next.2) r := by
  have id : c.id = .nth d := sound.id_nth here
  have told : ∀ told, next.1.story = r.hub.story ++ told → messagesOf told = [] := by
    intro told story
    have news : (Moment.mk r a).news = told :=
      Moment.news_eq (by rw [Moment.after, after, update_hub, story])
    rwa [Moment.own, if_pos actor, news] at silent
  have alike := outline.alike (id ▸ seats) told elsewhere
  exact update_own (id ▸ alike) next.2

/-- What is addressed to the peer leaves everything else as it was, unless a message is sent. -/
theorem act_own (sound : r.Sound) (few : r.connections.size ≤ UInt64.size)
    (numbered : d < UInt64.size) (own : a.isFor d = true)
    (silent : messagesOf ((Moment.mk r a).own d) = []) : Alike d (r.act a) r := by
  have seats := sound.seats few numbered
  by_cases gone : a = .unregister (.nth d)
  · subst gone
    exact (refl r).withHub (Hub.Alike.unregister_own seats)
  have target : a.target? = some d := by
    cases a <;> simp_all [Action.isFor, Action.target?]
  cases actor : a.actor? with
  | none =>
    rcases act_transport target actor with ⟨still, -⟩ | ⟨c, f, -, after, -⟩
    · rw [still]
      exact refl r
    · rw [after]
      exact modifyTransport_own r f
  | some k =>
    obtain rfl : k = d := Option.some.inj ((Action.actor_of_target actor).symm.trans target)
    have effect := act_effect r a
    generalize after : r.act a = r₁ at effect ⊢
    cases effect with
    | nothing => exact refl r
    | abort here alive =>
      obtain rfl : _ = k := Option.some.inj actor
      exact act_task sound seats actor silent here after (Connection.outline_die _)
        (Connection.die_elsewhere _ _ _ _)
    | step here transition =>
      obtain rfl : _ = k := Option.some.inj actor
      exact act_task sound seats actor silent here after transition.outline transition.elsewhere
    | _ => cases actor

end Own

end Alike

end Relay

end ChatRelay
