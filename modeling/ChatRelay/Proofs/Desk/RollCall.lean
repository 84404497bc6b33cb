import ChatRelay.Observability
import ChatRelay.Proofs.Desk
import ChatRelay.Proofs.Gauge
import Mathlib.Data.List.Induction

/-!
# Who is registered, asked in several ways

The gauge, the count, a snapshot, the health of the relay and the questions for one identity all
speak of the same members, whatever was done at the desk before. It does not matter in which order
members came. Once the registry has ended nobody comes in again.
-/

namespace ChatRelay

theorem Health.json_eq {meters : Meters} {n : Nat} (shown : meters.connected.toInt = n)
    (uptime : Nat) : Health.json uptime meters =
      "\x7b\"status\":\"healthy\",\"version\":\"" ++ Health.version
        ++ "\",\"uptime_seconds\":" ++ toString uptime ++ ",\"connected_clients\":"
        ++ toString n ++ "\x7d" := by
  have number : toString (n : Int) = toString n := rfl
  unfold Health.json
  rw [shown, number]

namespace Observability

theorem answer_health {request : Http.Request} (read : request.method = "GET")
    (here : request.path = healthPath.toList) (uptime : Nat) (meters : Meters) :
    answer uptime meters request =
      { status := 200, contentType := some "application/json",
        body := Health.json uptime meters } := by
  have other : healthPath.toList ≠ metricsPath.toList := by decide
  rw [answer, here, if_neg other, if_pos rfl, Http.Request.read, if_pos read]

end Observability

namespace Hub

/-- What an action at a desk can do to registry and gauge. -/
inductive Operation (h : Hub) : Hub → Prop where
  | unnoticed {h'} (options : h'.options = h.options) (registry : h'.registry = h.registry)
      (shown : h'.meters.connected = h.meters.connected) : Operation h h'
  | register {h' m} (done : h.register m = .ok h') : Operation h h'
  | unregister (id) : Operation h (h.unregister id).2
  | broadcast (message) : Operation h (h.broadcast message).1
  | endRegistry : Operation h h.endRegistry.2

section Operation

variable {h h' : Hub} (op : Operation h h')

include op

theorem Operation.gauged (g : h.Gauged) : h'.Gauged := by
  cases op with
  | unnoticed options registry shown => exact g.unnoticed options registry shown
  | register done => exact g.register done
  | unregister id => exact g.unregister id
  | broadcast message => exact g.broadcast message
  | endRegistry => exact g.endRegistry

/-- The end of the registry is final, and it is empty from then on. -/
theorem Operation.closed (ended : h.registry.ended = true) (empty : h.registry.members = []) :
    h'.registry.ended = true ∧ h'.registry.members = [] := by
  cases op with
  | unnoticed options registry shown =>
    rw [registry]
    exact ⟨ended, empty⟩
  | @register _ m done =>
    obtain ⟨registry, done', -⟩ := register_eq_ok_iff.mp done
    have going := (Registry.register_eq_ok_iff.mp done').1
    rw [ended] at going
    cases going
  | unregister id =>
    rw [unregister_registry]
    exact ⟨ended, by simp [Registry.unregister, empty]⟩
  | broadcast message =>
    rw [broadcast_registry]
    exact ⟨ended, by simp [Registry.without, empty]⟩
  | endRegistry =>
    rw [endRegistry_registry]
    exact ⟨rfl, rfl⟩

end Operation

end Hub

namespace Desk

theorem readMany_connected (d : Desk) (key : QueueKey) (n : Nat) :
    (d.readMany key n).2.hub.meters.connected = d.hub.meters.connected := by
  induction n generalizing d with
  | zero => rfl
  | succ n ih =>
    cases taken : d.hub.take? key with
    | none =>
      have first : ∃ reading, d.readOne key = (reading, d) ∧ ∀ text, reading ≠ .text text := by
        refine ⟨if d.holds key then .empty else .closed, by simp [readOne, taken], ?_⟩
        intro text
        split <;> simp
      obtain ⟨reading, first, untold⟩ := first
      rw [readMany, first]
      cases reading with
      | text text => exact absurd rfl (untold text)
      | empty => rfl
      | closed => rfl
    | some next =>
      obtain ⟨text, hub⟩ := next
      obtain ⟨q, rest, -, -, rfl⟩ := Hub.take?_eq_some_iff.mp taken
      simpa [readMany, readOne, taken] using
        ih { d with hub := { d.hub with
          queues := d.hub.queues.setIfInBounds key { q with pending := rest } } }

theorem replaceReader_connected (d : Desk) (label : String) (key : QueueKey) :
    (d.replaceReader label key).hub.meters.connected = d.hub.meters.connected := by
  unfold replaceReader
  cases d.readers.get? label <;> rfl

theorem create_connected (d : Desk) (label name : String) (capacity : Nat)
    (id : Option ConnectionId) :
    (d.create label name capacity id).2.hub.meters.connected = d.hub.meters.connected := by
  cases id with
  | none =>
    exact replaceReader_connected { d with hub := (d.hub.openQueue capacity).2.issueId.2 } label
      d.hub.queues.size
  | some id =>
    exact replaceReader_connected { d with hub := (d.hub.openQueue capacity).2 } label
      d.hub.queues.size

theorem deliver_operation (d : Desk) (m : Member) (text : String) :
    Hub.Operation d.hub (d.deliver m text).2.hub := by
  cases done : d.hub.deliver m text with
  | error fault =>
    have same : (d.deliver m text).2.hub = d.hub := by simp [deliver, done]
    rw [same]
    exact .unnoticed rfl rfl rfl
  | ok hub =>
    obtain ⟨q, rfl⟩ := Hub.eq_of_deliver_ok done
    have changed : (d.deliver m text).2.hub = { d.hub with
        queues := d.hub.queues.setIfInBounds m.queue q }.note (.accepted m.queue text) := by
      simp [deliver, done]
    rw [changed]
    exact .unnoticed rfl rfl rfl

theorem act_operation (d : Desk) (a : Action) : Hub.Operation d.hub (d.act a).hub := by
  have nothing : Hub.Operation d.hub d.hub := .unnoticed rfl rfl rfl
  cases a with
  | issueId => exact .unnoticed rfl rfl rfl
  | create label name capacity id =>
    obtain ⟨registry, options, -, -⟩ := create_frame d label name capacity id
    exact .unnoticed options registry (create_connected d label name capacity id)
  | register label =>
    cases found : d.handles.get? label with
    | none => simpa [act, register?, found] using nothing
    | some m =>
      cases done : d.hub.register m with
      | error fault => simpa [act, register?, found, done] using nothing
      | ok hub => simpa [act, register?, found, done] using Hub.Operation.register done
  | copy label target =>
    cases found : d.handles.get? label <;> simpa [act, copy?, found] using nothing
  | discard label => exact nothing
  | unregister id => exact .unregister id
  | snapshot label =>
    have same : (d.act (.snapshot label)).hub = d.hub := by
      simp only [act, snapshot]
      split <;> rfl
    rw [same]
    exact nothing
  | dropSnapshot label => exact nothing
  | deliver label text =>
    cases found : d.handles.get? label with
    | none => simpa [act, deliverTo?, found] using nothing
    | some m => simpa [act, deliverTo?, found] using deliver_operation d m text
  | deliverInSnapshot label id text =>
    cases found : (d.snapshots.get? label).bind fun members =>
      members.find? fun m => m.id == id with
    | none => simpa [act, deliverInSnapshot?, found] using nothing
    | some m => simpa [act, deliverInSnapshot?, found] using deliver_operation d m text
  | broadcast message => exact .broadcast message
  | read label n =>
    cases found : d.readers.get? label with
    | none => simpa [act, read?, found] using nothing
    | some key =>
      obtain ⟨registry, -, options, -⟩ := readMany_frame d key n
      simpa [act, read?, found] using
        Hub.Operation.unnoticed options registry (readMany_connected d key n)
  | dropReader label =>
    cases found : d.readers.get? label with
    | none => simpa [act, dropReader, found] using nothing
    | some key =>
      have changed : (d.act (.dropReader label)).hub = d.hub.dropReader key := by
        simp [act, dropReader, found]
      rw [changed]
      exact .unnoticed rfl rfl rfl
  | endRegistry => exact .endRegistry

theorem run_gauged {options : HubOptions} (metered : options.registryMetered = true)
    (actions : List Action) : (run options actions).hub.Gauged := by
  induction actions using List.reverseRecOn with
  | nil => exact ⟨metered, rfl⟩
  | append_singleton actions a ih =>
    rw [run_append]
    exact (act_operation _ a).gauged ih

theorem foldl_closed {d : Desk} (ended : d.hub.registry.ended = true)
    (empty : d.hub.registry.members = []) (actions : List Action) :
    (actions.foldl act d).hub.registry.ended = true ∧
      (actions.foldl act d).hub.registry.members = [] := by
  induction actions generalizing d with
  | nil => exact ⟨ended, empty⟩
  | cons a rest ih =>
    obtain ⟨ended, empty⟩ := (act_operation d a).closed ended empty
    exact ih ended empty

/-- The handles under several labels are registered, one after the other, if all of them can be. -/
def registerAll? (d : Desk) : List String → Option Desk
  | [] => some d
  | label :: rest => match d.register? label with
    | some (.ok _, d) => d.registerAll? rest
    | _ => none

structure Alike (d d' : Desk) : Prop where
  registry : d'.hub.registry = d.hub.registry
  handles : d'.handles = d.handles

/-- A handle moves from its label into the registry. -/
def Enters (d : Desk) (label : String) (d' : Desk) : Prop :=
  ∃ m, d.handles.get? label = some m ∧ d.hub.registry.register m = .ok d'.hub.registry ∧
    d'.handles = d.handles.erase label

theorem registerAll?_cons {d e : Desk} {label : String} {rest : List String} :
    d.registerAll? (label :: rest) = some e ↔
      ∃ id d', d.register? label = some (.ok id, d') ∧ d'.registerAll? rest = some e := by
  rw [registerAll?]
  split
  · rename_i id d' answer
    simp [answer]
  · rename_i other
    simp only [false_iff, reduceCtorEq]
    rintro ⟨id, d', answer, -⟩
    exact other id d' answer

theorem enters_of_register? {d d' : Desk} {label : String} {id : ConnectionId}
    (h : d.register? label = some (.ok id, d')) : d.Enters label d' := by
  cases found : d.handles.get? label with
  | none => simp [register?, found] at h
  | some m =>
    cases done : d.hub.register m with
    | error fault => simp [register?, found, done] at h
    | ok hub =>
      obtain ⟨registry, done', same⟩ := Hub.register_eq_ok_iff.mp done
      simp only [register?, found, done, Option.map_some, Option.some.injEq, Prod.mk.injEq] at h
      obtain ⟨-, rfl⟩ := h
      exact ⟨m, found, by simpa [same] using done', rfl⟩

theorem register?_of_enters {d d' : Desk} {label : String} (h : d.Enters label d') :
    ∃ id e, d.register? label = some (.ok id, e) ∧ d'.Alike e := by
  obtain ⟨m, found, done, handles⟩ := h
  have entered := Hub.register_eq_ok_iff.mpr ⟨_, done, rfl⟩
  have answer : ∃ e, d.register? label = some (.ok m.id, e) ∧
      e.hub.registry = d'.hub.registry ∧ e.handles = d.handles.erase label := by
    simp [register?, found, entered]
  obtain ⟨e, answer, registry, erased⟩ := answer
  exact ⟨m.id, e, answer, registry, erased.trans handles.symm⟩

theorem Enters.alike {d d' e : Desk} {label : String} (h : d.Enters label e) (same : d.Alike d') :
    ∃ e', d'.Enters label e' ∧ e.Alike e' := by
  obtain ⟨m, found, done, handles⟩ := h
  refine ⟨e, ⟨m, ?_, ?_, ?_⟩, rfl, rfl⟩
  · rw [same.handles, found]
  · rw [same.registry, done]
  · rw [same.handles, handles]

/-- Two handles that enter one after the other can change places. -/
theorem Enters.swap {d d₁ d₂ : Desk} {a b : String} (first : d.Enters a d₁)
    (second : d₁.Enters b d₂) : ∃ d₁', d.Enters b d₁' ∧ d₁'.Enters a d₂ := by
  obtain ⟨m, foundA, doneA, handlesA⟩ := first
  obtain ⟨n, foundB, doneB, handlesB⟩ := second
  have apart : b ≠ a := by
    rintro rfl
    rw [handlesA, Labelled.get?_erase_self] at foundB
    cases foundB
  rw [handlesA, Labelled.get?_erase_of_ne apart] at foundB
  obtain ⟨registry, doneB', doneA'⟩ := Registry.register_comm doneA doneB
  refine ⟨{ d with hub := { d.hub with registry }, handles := d.handles.erase b },
    ⟨n, foundB, doneB', rfl⟩, m, ?_, doneA', ?_⟩
  · rw [Labelled.get?_erase_of_ne apart.symm]
    exact foundA
  · rw [handlesB, handlesA, Labelled.erase_comm]

theorem Alike.trans {d d' d'' : Desk} (h : d.Alike d') (h' : d'.Alike d'') : d.Alike d'' :=
  ⟨h'.registry.trans h.registry, h'.handles.trans h.handles⟩

/-- The first of several registrations. -/
theorem registerAll?_first {d e : Desk} {label : String} {rest : List String}
    (h : d.registerAll? (label :: rest) = some e) :
    ∃ d', d.Enters label d' ∧ d'.registerAll? rest = some e := by
  obtain ⟨id, d', answer, done⟩ := registerAll?_cons.mp h
  exact ⟨d', enters_of_register? answer, done⟩

/-- What can be registered in a row can be registered in the same row at a desk that is alike. -/
theorem Alike.registerAll? {d d' e : Desk} {labels : List String} (same : d.Alike d')
    (h : d.registerAll? labels = some e) : ∃ e', d'.registerAll? labels = some e' ∧ e.Alike e' := by
  induction labels generalizing d d' with
  | nil =>
    obtain rfl : d = e := Option.some.inj h
    exact ⟨d', rfl, same⟩
  | cons label rest ih =>
    obtain ⟨d₁, enters, done⟩ := registerAll?_first h
    obtain ⟨d₁', enters', same'⟩ := enters.alike same
    obtain ⟨id, d₂', answer, same''⟩ := register?_of_enters enters'
    obtain ⟨e', done', alike⟩ := ih (same'.trans same'') done
    exact ⟨e', registerAll?_cons.mpr ⟨id, d₂', answer, done'⟩, alike⟩

/-- What can be registered in a row can be registered in any order, with the same members. -/
theorem registerAll?_perm {labels labels' : List String} (perm : labels.Perm labels')
    {d d' e : Desk} (same : d.Alike d') (h : d.registerAll? labels = some e) :
    ∃ e', d'.registerAll? labels' = some e' ∧ e.Alike e' := by
  induction perm generalizing d d' e with
  | nil => exact same.registerAll? h
  | cons label perm ih =>
    obtain ⟨d₁, enters, done⟩ := registerAll?_first h
    obtain ⟨d₁', enters', same'⟩ := enters.alike same
    obtain ⟨id, d₂', answer, same''⟩ := register?_of_enters enters'
    obtain ⟨e', done', alike⟩ := ih (same'.trans same'') done
    exact ⟨e', registerAll?_cons.mpr ⟨id, d₂', answer, done'⟩, alike⟩
  | swap a b rest =>
    obtain ⟨d₁, first, done⟩ := registerAll?_first h
    obtain ⟨d₂, second, done⟩ := registerAll?_first done
    obtain ⟨d₁', first, second⟩ := first.swap second
    obtain ⟨d₁', first, same₁⟩ := first.alike same
    obtain ⟨id, f₁, answer, same₁'⟩ := register?_of_enters first
    obtain ⟨d₂', second, same₂⟩ := second.alike (same₁.trans same₁')
    obtain ⟨id', f₂, answer', same₂'⟩ := register?_of_enters second
    obtain ⟨e', done', alike⟩ := (same₂.trans same₂').registerAll? done
    exact ⟨e', registerAll?_cons.mpr ⟨id, f₁, answer,
      registerAll?_cons.mpr ⟨id', f₂, answer', done'⟩⟩, alike⟩
  | trans _ _ ih ih' =>
    obtain ⟨e₁, done, alike⟩ := ih same h
    obtain ⟨e₂, done, alike'⟩ := ih' ⟨rfl, rfl⟩ done
    exact ⟨e₂, done, alike.trans alike'⟩

/-- What all questions about the members of a desk have in common, whatever was done before. The
gauge is a signed word of 64 bits, so it shows a number of members that fits into one. -/
structure Counted (options : HubOptions) (actions : List Action) : Prop where
  gauge : (run options actions).hub.meters.connected = .ofNat (run options actions).hub.registry.size
  number : (run options actions).hub.registry.size < Nat.pow 2 63 →
    (run options actions).hub.meters.connected.toInt = (run options actions).hub.registry.size
  snapshot : ∀ label, ((run options actions).snapshot label).1.length =
    (run options actions).hub.registry.size
  health : (run options actions).hub.registry.size < Nat.pow 2 63 →
    ∀ (uptime : Nat) (request : Http.Request), request.method = "GET" →
    request.path = Observability.healthPath.toList →
    Observability.answer uptime (run options actions).hub.meters request =
      { status := 200, contentType := some "application/json",
        body := "\x7b\"status\":\"healthy\",\"version\":\"" ++ Health.version
          ++ "\",\"uptime_seconds\":" ++ toString uptime ++ ",\"connected_clients\":"
          ++ toString (run options actions).hub.registry.size ++ "\x7d" }
  ascending : ∀ label, ((run options actions).snapshot label).1.Pairwise fun a b => a.id < b.id
  /-- What is stored under an identity is the member of that identity. -/
  filed : ∀ label id m, (run options actions).hub.registry.find? id = some m ↔
    m ∈ ((run options actions).snapshot label).1 ∧ m.id = id
  registered : ∀ label id, (run options actions).hub.registry.contains id = true ↔
    ∃ m ∈ ((run options actions).snapshot label).1, m.id = id
  named : ∀ label id name, (run options actions).hub.registry.name? id = some name ↔
    ∃ m ∈ ((run options actions).snapshot label).1, m.id = id ∧ m.name = name
  /-- Registrations in a row can be made in any order. -/
  reordered : ∀ (labels labels' : List String) (d : Desk), labels.Perm labels' →
    (run options actions).registerAll? labels = some d →
    ∃ d', (run options actions).registerAll? labels' = some d' ∧
      ∀ label, (d'.snapshot label).1 = (d.snapshot label).1
  /-- Once the registry has ended, nobody is registered and nobody can be. -/
  ended : .endRegistry ∈ actions → (run options actions).hub.registry.ended = true ∧
    (run options actions).hub.registry.members = [] ∧
    (run options actions).hub.meters.connected = 0 ∧
    ∀ label m, (run options actions).handles.get? label = some m →
      ((run options actions).register? label).map Prod.fst = some (.error .ended)

theorem ended_of_mem (options : HubOptions) {actions : List Action}
    (h : .endRegistry ∈ actions) : (run options actions).hub.registry.ended = true ∧
      (run options actions).hub.registry.members = [] := by
  obtain ⟨earlier, later, rfl⟩ := List.append_of_mem h
  rw [run_append, List.foldl_cons]
  have close : ((run options earlier).act .endRegistry).hub.registry =
      (run options earlier).hub.registry.close := Hub.endRegistry_registry _
  exact foldl_closed (by rw [close]; rfl) (by rw [close]; rfl) later

/-- In every run at a metered desk, all questions about who is registered have one answer. -/
theorem run_counted (options : HubOptions) (metered : options.registryMetered = true)
    (actions : List Action) : Counted options actions := by
  have gauged := run_gauged metered actions
  have ascending := (run_sound options actions).ascending
  have shown : (run options actions).hub.registry.size < Nat.pow 2 63 →
      (run options actions).hub.meters.connected.toInt =
        (run options actions).hub.registry.size := by
    intro fits
    rw [gauged.shown, Int64.toInt_ofNat_of_lt fits]
  constructor
  case gauge => exact gauged.shown
  case number => exact shown
  case snapshot => exact fun _ => rfl
  case health =>
    intro fits uptime request read here
    rw [Observability.answer_health read here, Health.json_eq (shown fits)]
  case ascending => exact fun _ => ascending
  case filed => exact fun _ _ _ => ascending.find?_eq_some_iff
  case registered => exact fun _ _ => Registry.contains_iff
  case named =>
    intro label id name
    rw [Registry.name?, Option.map_eq_some_iff]
    constructor
    · rintro ⟨m, found, rfl⟩
      obtain ⟨hm, same⟩ := ascending.find?_eq_some_iff.mp found
      exact ⟨m, hm, same, rfl⟩
    · rintro ⟨m, hm, same, rfl⟩
      exact ⟨m, ascending.find?_eq_some_iff.mpr ⟨hm, same⟩, rfl⟩
  case reordered =>
    intro labels labels' d perm done
    obtain ⟨d', done', alike⟩ := registerAll?_perm perm ⟨rfl, rfl⟩ done
    exact ⟨d', done', fun _ => congrArg Registry.members alike.registry⟩
  case ended =>
    intro h
    obtain ⟨ended, empty⟩ := ended_of_mem options h
    refine ⟨ended, empty, ?_, ?_⟩
    · rw [gauged.shown, Registry.size, empty]
      rfl
    · intro label m found
      have refused : (run options actions).hub.register m = .error .ended := by
        rw [Hub.register_eq_error_iff, Registry.register, if_pos ended]
      simp [register?, found, refused]

/-- Bob and Alice are registered; a second handle of Bob and a stranger with the identity of Alice
are refused. Dave and Carol have not come in yet. -/
def earlyGuests : List Action :=
  [.create "alice" "alice" 4 none, .create "bob" "bob" 4 none, .copy "bob" "again",
    .create "stranger" "mallory" 4 (some ⟨1⟩), .create "carol" "carol" 4 none,
    .create "dave" "dave" 4 none, .register "bob", .register "alice", .register "again",
    .register "stranger"]

theorem run_counted_earlyGuests :
    let options : HubOptions := {}
    let closed := run options (earlyGuests ++ [.endRegistry])
    options.registryMetered = true ∧ (run options earlyGuests).hub.meters.connected = 2 ∧
      ((run options earlyGuests).registerAll? ["dave", "carol"]).isSome = true ∧
      Counted options earlyGuests ∧ closed.hub.meters.connected = 0 ∧
      (closed.register? "carol").map Prod.fst = some (.error .ended) ∧
      Counted options (earlyGuests ++ [.endRegistry]) :=
  ⟨rfl, by decide, by decide, run_counted {} rfl earlyGuests, by decide, rfl,
    run_counted {} rfl _⟩

end Desk

end ChatRelay
