import ChatRelay.Proofs.Desk.Queues

/-!
# Handles and readers of queues at a desk

The texts read from a queue, over everything that was done at a desk, are the texts accepted by it,
in their order. Where a handle can be is said once: in the registry, under a label or in a snapshot.
No action makes one for a queue that has none, but for the new queue of a new handle; so the reader
that has seen the end sees it ever after, and a snapshot keeps open what is removed from the
registry.
-/

namespace ChatRelay

def Reading.text? : Reading → Option String
  | .text line => some line
  | _ => none

namespace Desk

def Action.capacity? : Action → Option Nat
  | .create _ _ capacity _ => some capacity
  | _ => none

/-- The texts that an action reads from a queue. -/
def heard (d : Desk) (key : QueueKey) : Action → List String
  | .read label n =>
    if d.readers.get? label = some key then (d.readMany key n).1.filterMap Reading.text? else []
  | _ => []

def heardFrom (key : QueueKey) : Desk → List Action → List String
  | _, [] => []
  | d, a :: rest => d.heard key a ++ heardFrom key (d.act a) rest

/-- The texts read from a queue at a desk that was new at first. -/
def heardIn (options : HubOptions) (actions : List Action) (key : QueueKey) : List String :=
  heardFrom key { hub := { options } } actions

theorem heardFrom_append (key : QueueKey) (d : Desk) (actions more : List Action) :
    heardFrom key d (actions ++ more) =
      heardFrom key d actions ++ heardFrom key (actions.foldl act d) more := by
  induction actions generalizing d with
  | nil => rfl
  | cons a rest ih => simp [heardFrom, ih]

def everyHandle (d : Desk) : List Member :=
  d.hub.registry.members ++ d.handles.map Prod.snd ++ d.snapshots.flatMap Prod.snd

section Handles

variable {d : Desk} {m : Member} {key : QueueKey}

theorem mem_everyHandle : m ∈ d.everyHandle ↔ m ∈ d.hub.registry.members ∨
    (∃ entry ∈ d.handles, entry.2 = m) ∨ ∃ entry ∈ d.snapshots, m ∈ entry.2 := by
  simp [everyHandle]

theorem registered_mem (registered : m ∈ d.hub.registry.members) : m ∈ d.everyHandle :=
  mem_everyHandle.mpr (Or.inl registered)

theorem free_mem {entry : String × Member} (free : entry ∈ d.handles) : entry.2 ∈ d.everyHandle :=
  mem_everyHandle.mpr (Or.inr (Or.inl ⟨entry, free, rfl⟩))

theorem kept_mem {entry : String × List Member} (kept : entry ∈ d.snapshots) (hm : m ∈ entry.2) :
    m ∈ d.everyHandle :=
  mem_everyHandle.mpr (Or.inr (Or.inr ⟨entry, kept, hm⟩))

/-- No handle is new if none is new in any of the places. -/
theorem everyHandle_subset {d' : Desk} (members : ∀ m ∈ d'.hub.registry.members, m ∈ d.everyHandle)
    (handles : ∀ entry ∈ d'.handles, entry.2 ∈ d.everyHandle)
    (snapshots : ∀ entry ∈ d'.snapshots, ∀ m ∈ entry.2, m ∈ d.everyHandle) :
    ∀ m ∈ d'.everyHandle, m ∈ d.everyHandle := by
  intro m hm
  rcases mem_everyHandle.mp hm with registered | ⟨entry, free, rfl⟩ | ⟨entry, kept, hm⟩
  · exact members m registered
  · exact handles entry free
  · exact snapshots entry kept m hm

theorem holds_eq_false_iff : d.holds key = false ↔ ∀ m ∈ d.everyHandle, m.queue ≠ key := by
  simp only [holds, everyHandle, Registry.holds, Bool.or_eq_false_iff, List.any_eq_false,
    beq_iff_eq, List.mem_append, List.mem_map, List.mem_flatMap, List.any_eq_true]
  constructor
  · rintro ⟨⟨registered, free⟩, kept⟩ m ((hm | ⟨entry, he, rfl⟩) | ⟨entry, he, hm⟩)
    · exact registered m hm
    · exact free entry he
    · exact fun same => kept entry he ⟨m, hm, same⟩
  · intro away
    refine ⟨⟨fun m hm => away m (Or.inl (Or.inl hm)), fun entry he =>
      away entry.2 (Or.inl (Or.inr ⟨entry, he, rfl⟩))⟩, ?_⟩
    rintro entry he ⟨m, hm, same⟩
    exact away m (Or.inr ⟨entry, he, hm⟩) same

end Handles

section Read

variable {d : Desk} {key : QueueKey}

theorem readOne_of_pending {text : String} {rest : List String}
    (first : d.hub.pending key = text :: rest) :
    ∃ hub, d.hub.take? key = some (text, hub) ∧ hub.pending key = rest ∧
      d.readOne key = (.text text, { d with hub }) := by
  cases found : d.hub.queues[key]? with
  | none => simp [Hub.pending, found] at first
  | some q =>
    have inBounds := (Array.getElem?_eq_some_iff.mp found).1
    have first : q.pending = text :: rest := by simpa [Hub.pending, found] using first
    have taken := Hub.take?_eq_some_iff.mpr ⟨q, rest, found, first, rfl⟩
    exact ⟨_, taken, by simp [Hub.pending, inBounds], by simp [readOne, taken]⟩

theorem readOne_of_empty (empty : d.hub.pending key = []) :
    d.readOne key = (if d.holds key then .empty else .closed, d) := by
  simp [readOne, Hub.take?_eq_none_iff.mpr empty]

/-- The reader sees the end when nothing is pending and nobody can send any more. -/
theorem readOne_closed_iff : (d.readOne key).1 = .closed ↔
    d.hub.pending key = [] ∧ ∀ m ∈ d.everyHandle, m.queue ≠ key := by
  rw [← holds_eq_false_iff]
  cases pending : d.hub.pending key with
  | nil => cases held : d.holds key <;> simp [readOne_of_empty pending, held]
  | cons text rest =>
    obtain ⟨hub, -, -, answer⟩ := readOne_of_pending pending
    simp [answer]

/-- Reads yield what is pending, from its front. -/
theorem readMany_pending {n : Nat} (enough : n ≤ (d.hub.pending key).length) :
    (d.readMany key n).1 = ((d.hub.pending key).take n).map Reading.text := by
  induction n generalizing d with
  | zero => rfl
  | succ n ih =>
    cases pending : d.hub.pending key with
    | nil => simp [pending] at enough
    | cons text rest =>
      obtain ⟨hub, -, left, answer⟩ := readOne_of_pending pending
      have left : ({ d with hub } : Desk).hub.pending key = rest := left
      have more := ih (d := { d with hub }) (by simpa [left, pending] using enough)
      rw [left] at more
      simp [readMany, answer, more]

end Read

/-- An action lets texts pass through the handles that there are, or opens a queue for a label, or
takes the reader of a label away; with what it reads and the capacity it asks for. No handle comes
to be but those of the queue that is opened, and a snapshot shows the registry. -/
inductive Passage (d : Desk) : (QueueKey → List String) → List Nat → Desk → Prop where
  | traffic {read d'} (passed : d.hub.Traffic d.everyHandle read d'.hub)
      (readers : d'.readers = d.readers) (handles : ∀ m ∈ d'.everyHandle, m ∈ d.everyHandle) :
      Passage d read [] d'
  | opened {d'} (label : String) (capacity : Nat) {hub : Hub}
      (queues : hub.queues = (d.hub.openQueue capacity).2.queues)
      (accepted : ∀ key, hub.acceptedBy key = d.hub.acceptedBy key)
      (left : d'.hub = (d.readers.get? label).elim hub hub.dropReader)
      (readers : d'.readers = d.readers.put label d.hub.queues.size)
      (handles : ∀ m ∈ d'.everyHandle, m ∈ d.everyHandle ∨ m.queue = d.hub.queues.size) :
      Passage d (fun _ => []) [capacity] d'
  | closed {d'} {label : String} {key : QueueKey} (found : d.readers.get? label = some key)
      (left : d'.hub = d.hub.dropReader key) (readers : d'.readers = d.readers.erase label)
      (handles : ∀ m ∈ d'.everyHandle, m ∈ d.everyHandle) :
      Passage d (fun _ => []) [] d'

section Passage

variable (d : Desk)

/-- Reading changes the queues and nothing else at the desk. -/
theorem readMany_traffic (key : QueueKey) (n : Nat) :
    d.hub.Traffic d.everyHandle
        (fun k => if k = key then (d.readMany key n).1.filterMap Reading.text? else [])
        (d.readMany key n).2.hub ∧
      (d.readMany key n).2.readers = d.readers ∧
      (d.readMany key n).2.everyHandle = d.everyHandle := by
  induction n generalizing d with
  | zero => simpa [readMany] using Hub.Traffic.refl d.hub
  | succ n ih =>
    cases pending : d.hub.pending key with
    | nil =>
      have silent : (d.readMany key (n + 1)).1.filterMap Reading.text? = [] ∧
          (d.readMany key (n + 1)).2 = d := by
        rw [readMany, readOne_of_empty pending]
        cases d.holds key <;> exact ⟨rfl, rfl⟩
      simpa [silent] using Hub.Traffic.refl d.hub
    | cons text rest =>
      obtain ⟨hub, taken, -, answer⟩ := readOne_of_pending pending
      have registry : hub.registry = d.hub.registry := by
        obtain ⟨q, rest, -, -, rfl⟩ := Hub.take?_eq_some_iff.mp taken
        rfl
      have handles : ({ d with hub } : Desk).everyHandle = d.everyHandle := by
        simp [everyHandle, registry]
      obtain ⟨passed, readers, kept⟩ := ih { d with hub }
      let d' : Desk := { d with hub }
      have first : d.readMany key (n + 1) =
          (.text text :: (d'.readMany key n).1, (d'.readMany key n).2) := by
        simp only [readMany, answer, d']
      rw [first]
      refine ⟨?_, readers, kept.trans handles⟩
      rw [handles] at passed
      have both := Hub.Traffic.both (.take taken) passed
      refine cast (congrArg (fun read => Hub.Traffic d.everyHandle d.hub read _) ?_) both
      funext k
      by_cases same : k = key <;> simp [same, Reading.text?, d']

theorem deliver_passage {m : Member} (among : m ∈ d.everyHandle) (text : String) :
    d.Passage (fun _ => []) [] (d.deliver m text).2 := by
  cases done : d.hub.deliver m text with
  | error fault =>
    simp only [deliver, done]
    exact .traffic (.refl _) rfl fun _ hm => hm
  | ok hub =>
    have registry : hub.registry = d.hub.registry := by
      obtain ⟨q, rfl⟩ := Hub.eq_of_deliver_ok done
      rfl
    simp only [deliver, done]
    refine .traffic (.deliver among done) rfl ?_
    simp [everyHandle, registry]

theorem create_passage (label name : String) (capacity : Nat) (id : Option ConnectionId) :
    d.Passage (fun _ => []) [capacity] (d.create label name capacity id).2 := by
  have (hub : Hub) (id' : ConnectionId) (registry : hub.registry = d.hub.registry)
      (queues : hub.queues = (d.hub.openQueue capacity).2.queues)
      (accepted : ∀ key, hub.acceptedBy key = d.hub.acceptedBy key) :
      d.Passage (fun _ => []) [capacity]
        { ({ d with hub } : Desk).replaceReader label d.hub.queues.size with
          handles := d.handles.put label ⟨id', name, d.hub.queues.size⟩ } := by
    refine .opened label capacity queues accepted ?_ ?_ ?_
    · unfold replaceReader
      cases d.readers.get? label <;> rfl
    · rfl
    · intro m hm
      obtain ⟨registry', -⟩ := replaceReader_frame { d with hub } label d.hub.queues.size
      rcases mem_everyHandle.mp hm with hm | ⟨entry, hentry, rfl⟩ | ⟨entry, hentry, hm⟩
      · exact Or.inl (registered_mem (by rwa [registry', registry] at hm))
      · rcases Labelled.mem_put hentry with old | rfl
        · exact Or.inl (free_mem old)
        · exact Or.inr rfl
      · exact Or.inl (kept_mem hentry hm)
  cases id with
  | some id => exact this (d.hub.openQueue capacity).2 id rfl rfl fun _ => rfl
  | none => exact this (d.hub.openQueue capacity).2.issueId.2 _ rfl rfl fun _ => rfl

theorem register_passage (label : String) :
    d.Passage (fun _ => []) [] ((d.register? label).elim d Prod.snd) := by
  cases found : d.handles.get? label with
  | none => simpa [register?, found] using Passage.traffic (.refl d.hub) rfl fun _ hm => hm
  | some m =>
    have among : m ∈ d.everyHandle := free_mem (Labelled.mem_of_get? found)
    have handles (entry : String × Member) (left : entry ∈ d.handles.erase label) :
        entry.2 ∈ d.everyHandle := free_mem (Labelled.mem_of_mem_erase left)
    cases done : d.hub.register m with
    | error fault =>
      simp only [register?, found, done, Option.map_some, Option.elim_some]
      exact .traffic (.refl d.hub) rfl (everyHandle_subset (fun _ hm => registered_mem hm) handles
        fun _ kept _ hm => kept_mem kept hm)
    | ok hub =>
      obtain ⟨registry, done', rfl⟩ := Hub.register_eq_ok_iff.mp done
      obtain ⟨-, -, rfl⟩ := Registry.register_eq_ok_iff.mp done'
      simp only [register?, found, done, Option.map_some, Option.elim_some]
      refine .traffic (.still (by simp) (Hub.register_acceptedBy done)) rfl
        (everyHandle_subset ?_ handles fun _ kept _ hm => kept_mem kept hm)
      intro x hx
      simp only [Hub.note_registry, Hub.setGauge_registry, Registry.mem_insertById] at hx
      rcases hx with rfl | hx
      · exact among
      · exact registered_mem hx

theorem act_passage (a : Action) :
    d.Passage (fun key => d.heard key a) a.capacity?.toList (d.act a) := by
  have unchanged : d.Passage (fun _ => []) [] d := .traffic (.refl d.hub) rfl fun _ hm => hm
  have registered : ∀ m ∈ d.hub.registry.members, m ∈ d.everyHandle := fun _ hm => registered_mem hm
  have free : ∀ entry ∈ d.handles, entry.2 ∈ d.everyHandle := fun _ hentry => free_mem hentry
  have kept : ∀ entry ∈ d.snapshots, ∀ m ∈ entry.2, m ∈ d.everyHandle :=
    fun _ hentry _ hm => kept_mem hentry hm
  cases a with
  | issueId => exact .traffic (.still rfl fun _ => rfl) rfl fun _ hm => hm
  | create label name capacity id => exact d.create_passage label name capacity id
  | register label => exact d.register_passage label
  | copy label target =>
    cases found : d.handles.get? label with
    | none => simpa [act, heard, Action.capacity?, copy?, found] using unchanged
    | some m =>
      simp only [act, copy?, found, Option.map_some, Option.getD_some]
      refine .traffic (.refl d.hub) rfl (everyHandle_subset registered ?_ kept)
      intro entry hentry
      rcases Labelled.mem_put hentry with old | rfl
      · exact free entry old
      · exact free (label, m) (Labelled.mem_of_get? found)
  | discard label =>
    exact .traffic (.refl d.hub) rfl (everyHandle_subset registered
      (fun entry left => free entry (Labelled.mem_of_mem_erase left)) kept)
  | unregister id =>
    refine .traffic (.still (Hub.unregister_queues d.hub id)
      (Hub.unregister_acceptedBy d.hub id)) rfl (everyHandle_subset ?_ free kept)
    intro m hm
    simp only [act, unregister, Hub.unregister_registry, Registry.mem_unregister] at hm
    exact registered m hm.1
  | snapshot label =>
    simp only [act, snapshot]
    split
    · exact unchanged
    · refine .traffic (.refl d.hub) rfl (everyHandle_subset registered free ?_)
      intro entry hentry
      rcases Labelled.mem_put hentry with old | rfl
      · exact kept entry old
      · exact registered
  | dropSnapshot label =>
    exact .traffic (.refl d.hub) rfl (everyHandle_subset registered free
      fun entry left => kept entry (Labelled.mem_of_mem_erase left))
  | deliver label text =>
    cases found : d.handles.get? label with
    | none => simpa [act, heard, Action.capacity?, deliverTo?, found] using unchanged
    | some m =>
      have among := free _ (Labelled.mem_of_get? found)
      simpa [act, heard, Action.capacity?, deliverTo?, found] using d.deliver_passage among text
  | deliverInSnapshot label id text =>
    cases found : (d.snapshots.get? label).bind fun members =>
      members.find? fun m => m.id == id with
    | none => simpa [act, heard, Action.capacity?, deliverInSnapshot?, found] using unchanged
    | some m =>
      obtain ⟨members, shown, first⟩ := Option.bind_eq_some_iff.mp found
      have among := kept _ (Labelled.mem_of_get? shown) m (List.mem_of_find?_eq_some first)
      have passage := d.deliver_passage among text
      simpa [act, heard, Action.capacity?, deliverInSnapshot?, found] using passage
  | broadcast message =>
    refine .traffic (Hub.traffic_broadcast registered message) rfl
      (everyHandle_subset ?_ free kept)
    intro m hm
    simp only [act, broadcast, Hub.broadcast_registry, Registry.mem_without] at hm
    exact registered m hm.1
  | read label n =>
    cases found : d.readers.get? label with
    | none => simpa [act, heard, Action.capacity?, read?, found] using unchanged
    | some key =>
      obtain ⟨passed, readers, handles⟩ := d.readMany_traffic key n
      have read : (fun k => d.heard k (.read label n)) = fun k =>
          if k = key then (d.readMany key n).1.filterMap Reading.text? else [] := by
        funext k
        by_cases same : k = key
        · simp [heard, found, same]
        · simp [heard, found, same, Ne.symm same]
      simp only [act, read?, found, Option.map_some, Option.elim_some]
      rw [read]
      exact .traffic passed readers (by simp [handles])
  | dropReader label =>
    cases found : d.readers.get? label with
    | none => simpa [act, heard, Action.capacity?, dropReader, found] using unchanged
    | some key =>
      simp only [act, dropReader, found]
      exact .closed found rfl rfl fun _ hx => hx
  | endRegistry =>
    refine .traffic (.still (Hub.endRegistry_queues d.hub) (Hub.endRegistry_acceptedBy d.hub)) rfl
      (everyHandle_subset ?_ free kept)
    simp [act, endRegistry, Registry.close]

end Passage

/-- A desk at which some texts were read, and queues were opened with some capacities. A queue has
its reader as long as the reader is under a label. -/
structure Kept (d : Desk) (heard : QueueKey → List String) (opened : List Nat) : Prop where
  ledgered : d.hub.Ledgered heard
  capacities : d.hub.capacities = opened
  reader : ∀ key, d.hub.isRead key = true ↔ ∃ label, d.readers.get? label = some key
  apart : ∀ a b key, d.readers.get? a = some key → d.readers.get? b = some key → a = b
  handles : ∀ m ∈ d.everyHandle, m.queue < d.hub.queues.size

section Kept

variable {d d' : Desk} {heard read : QueueKey → List String} {opened more : List Nat}

theorem Kept.passage (k : d.Kept heard opened) (passage : d.Passage read more d') :
    d'.Kept (fun key => heard key ++ read key) (opened ++ more) := by
  cases passage with
  | traffic passed readers handles =>
    obtain ⟨capacities, isRead⟩ := passed.frame
    have size : d'.hub.queues.size = d.hub.queues.size := by
      rw [← Hub.length_capacities, capacities, Hub.length_capacities]
    refine ⟨k.ledgered.traffic passed, ?_, ?_, ?_, ?_⟩
    · rw [capacities, k.capacities, List.append_nil]
    · intro key
      rw [isRead, readers]
      exact k.reader key
    · rw [readers]
      exact k.apart
    · intro m hm
      rw [size]
      exact k.handles m (handles m hm)
  | @opened _ label capacity hub queues accepted left readers handles =>
    have ledgered : hub.Ledgered heard := by
      have still : Hub.Traffic [] (d.hub.openQueue capacity).2 (fun _ => []) hub :=
        .still queues accepted
      simpa using (k.ledgered.openQueue capacity).traffic still
    have capacities : hub.capacities = opened ++ [capacity] := by
      rw [Hub.capacities, queues, ← k.capacities]
      exact Hub.openQueue_capacities d.hub capacity
    have isRead (key : QueueKey) : hub.isRead key = true ↔
        key = d.hub.queues.size ∨ ∃ label, d.readers.get? label = some key := by
      rw [Hub.isRead_of_queues queues, Hub.openQueue_isRead, k.reader]
    -- The new queue has no reader under any label yet.
    have fresh (other : String) : d.readers.get? other ≠ some d.hub.queues.size := fun old =>
      Nat.lt_irrefl _ (Hub.lt_of_isRead ((k.reader _).mpr ⟨other, old⟩))
    have released : d'.hub.Ledgered heard ∧ d'.hub.capacities = opened ++ [capacity] ∧
        ∀ key, d'.hub.isRead key = true ↔
          hub.isRead key = true ∧ d.readers.get? label ≠ some key := by
      cases found : d.readers.get? label with
      | none =>
        have left : d'.hub = hub := by simpa [found] using left
        exact ⟨left ▸ ledgered, left ▸ capacities, by simp [left]⟩
      | some old =>
        have left : d'.hub = hub.dropReader old := by simpa [found] using left
        refine ⟨left ▸ ledgered.dropReader old, ?_, fun key => ?_⟩
        · rw [left, Hub.dropReader_capacities, capacities]
        · rw [left, Hub.dropReader_isRead, and_comm, ne_comm, ne_eq, ne_eq, Option.some.injEq]
    obtain ⟨ledgered', capacities', isRead'⟩ := released
    refine ⟨by simpa using ledgered', capacities', fun key => ?_, fun a b key => ?_, ?_⟩
    · rw [isRead', isRead, readers]
      simp only [Labelled.get?_put_eq_some_iff]
      constructor
      · rintro ⟨rfl | ⟨other, here⟩, unheld⟩
        · exact ⟨label, Or.inl ⟨rfl, rfl⟩⟩
        · exact ⟨other, Or.inr ⟨fun same => unheld (same ▸ here), here⟩⟩
      · rintro ⟨other, ⟨rfl, rfl⟩ | ⟨apart, here⟩⟩
        · exact ⟨Or.inl rfl, fresh _⟩
        · exact ⟨Or.inr ⟨other, here⟩, fun same => apart (k.apart _ _ key here same)⟩
    · rw [readers]
      simp only [Labelled.get?_put_eq_some_iff]
      rintro (⟨rfl, rfl⟩ | ⟨-, here⟩) (⟨rfl, same⟩ | ⟨-, there⟩)
      · rfl
      · exact absurd there (fresh b)
      · exact absurd (same ▸ here) (fresh a)
      · exact k.apart a b key here there
    · intro m hm
      have size : d'.hub.queues.size = d.hub.queues.size + 1 := by
        rw [← Hub.length_capacities, capacities', ← k.capacities, List.length_append,
          Hub.length_capacities, List.length_singleton]
      rw [size]
      rcases handles m hm with old | new
      · exact Nat.lt_succ_of_lt (k.handles m old)
      · exact new ▸ Nat.lt_succ_self _
  | @closed _ label key found left readers handles =>
    refine ⟨?_, ?_, fun other => ?_, fun a b other => ?_, ?_⟩
    · simpa [left] using k.ledgered.dropReader key
    · rw [left, Hub.dropReader_capacities, k.capacities, List.append_nil]
    · rw [left, Hub.dropReader_isRead, k.reader, readers]
      simp only [Labelled.get?_erase_eq_some_iff]
      constructor
      · rintro ⟨apart, a, here⟩
        exact ⟨a, fun same => apart (Option.some.inj ((same ▸ here).symm.trans found)), here⟩
      · rintro ⟨a, apart, here⟩
        exact ⟨fun same => apart (k.apart a label key (same ▸ here) found), a, here⟩
    · rw [readers]
      simp only [Labelled.get?_erase_eq_some_iff]
      rintro ⟨-, here⟩ ⟨-, there⟩
      exact k.apart a b other here there
    · intro m hm
      rw [left, Hub.dropReader_queues, Array.size_modify]
      exact k.handles m (handles m hm)

end Kept

theorem kept_start (options : HubOptions) :
    ({ hub := { options } } : Desk).Kept (fun _ => []) [] where
  ledgered := ⟨by simp, fun _ _ => ⟨rfl, rfl⟩⟩
  capacities := rfl
  reader := by simp [Hub.isRead, Labelled.get?]
  apart := by simp [Labelled.get?]
  handles := by simp [everyHandle]

theorem run_kept (options : HubOptions) (actions : List Action) :
    (run options actions).Kept (heardIn options actions) (actions.filterMap Action.capacity?) := by
  induction actions using List.reverseRecOn with
  | nil => exact kept_start options
  | append_singleton actions a ih =>
    have passage := act_passage (run options actions) a
    have next := ih.passage passage
    have heard : (fun key => heardIn options actions key ++ (run options actions).heard key a) =
        heardIn options (actions ++ [a]) := by
      funext key
      simp [heardIn, heardFrom_append, heardFrom, run]
    have opened : (actions ++ [a]).filterMap Action.capacity? =
        actions.filterMap Action.capacity? ++ a.capacity?.toList := by
      cases asked : a.capacity? <;> simp [asked]
    rw [heard, ← opened] at next
    simpa [run_append] using next

/-- Nothing is pending and nobody can send any more. -/
structure Spent (d : Desk) (key : QueueKey) : Prop where
  empty : d.hub.pending key = []
  unheld : ∀ m ∈ d.everyHandle, m.queue ≠ key
  present : key < d.hub.queues.size

theorem Spent.passage {d d' : Desk} {read : QueueKey → List String} {more : List Nat}
    {key : QueueKey} (spent : d.Spent key) (passage : d.Passage read more d') :
    d'.Spent key ∧ d'.hub.acceptedBy key = d.hub.acceptedBy key := by
  cases passage with
  | traffic passed readers handles =>
    obtain ⟨accepted, pending⟩ := passed.unreached spent.unheld
    have size : d'.hub.queues.size = d.hub.queues.size := by
      rw [← Hub.length_capacities, passed.frame.1, Hub.length_capacities]
    rw [spent.empty, List.suffix_nil] at pending
    exact ⟨⟨pending, fun m hm => spent.unheld m (handles m hm), size ▸ spent.present⟩, accepted⟩
  | @opened _ label capacity hub queues accepted left readers handles =>
    have before : hub.pending key = [] := by
      rw [← spent.empty]
      apply Hub.pending_of_queues
      rw [queues, Hub.openQueue, Array.getElem?_push, if_neg (Nat.ne_of_lt spent.present)]
    have size : hub.queues.size = d.hub.queues.size + 1 := by simp [queues, Hub.openQueue]
    have unheld (m : Member) (hm : m ∈ d'.everyHandle) : m.queue ≠ key := by
      rcases handles m hm with old | new
      · exact spent.unheld m old
      · exact new ▸ (Nat.ne_of_lt spent.present).symm
    have present : key < hub.queues.size := by
      rw [size]
      exact Nat.lt_succ_of_lt spent.present
    cases found : d.readers.get? label with
    | none =>
      have left : d'.hub = hub := by simpa [found] using left
      exact ⟨⟨left ▸ before, unheld, left ▸ present⟩, left ▸ accepted key⟩
    | some old =>
      have left : d'.hub = hub.dropReader old := by simpa [found] using left
      refine ⟨⟨?_, unheld, ?_⟩, ?_⟩
      · exact left ▸ Hub.dropReader_pending before
      · simpa [left] using present
      · rw [left]
        exact accepted key
  | @closed _ label old found left readers handles =>
    refine ⟨⟨?_, fun m hm => spent.unheld m (handles m hm), ?_⟩, ?_⟩
    · exact left ▸ Hub.dropReader_pending spent.empty
    · simpa [left] using spent.present
    · rw [left]
      rfl

theorem Spent.foldl {d : Desk} {key : QueueKey} (spent : d.Spent key) (actions : List Action) :
    (actions.foldl act d).Spent key ∧
      (actions.foldl act d).hub.acceptedBy key = d.hub.acceptedBy key := by
  induction actions generalizing d with
  | nil => exact ⟨spent, rfl⟩
  | cons a rest ih =>
    obtain ⟨next, accepted⟩ := spent.passage (d.act_passage a)
    obtain ⟨last, accepted'⟩ := ih next
    exact ⟨last, accepted'.trans accepted⟩

theorem readMany_snapshots (d : Desk) (key : QueueKey) (n : Nat) :
    (d.readMany key n).2.snapshots = d.snapshots := by
  induction n generalizing d with
  | zero => rfl
  | succ n ih =>
    cases pending : d.hub.pending key with
    | nil =>
      rw [readMany, readOne_of_empty pending]
      cases d.holds key <;> rfl
    | cons text rest =>
      obtain ⟨hub, -, -, answer⟩ := readOne_of_pending pending
      simp only [readMany, answer]
      exact ih _

theorem act_snapshots {d : Desk} {a : Action} {entry : String × List Member}
    (kept : entry ∈ (d.act a).snapshots) :
    entry ∈ d.snapshots ∨ entry.2 = d.hub.registry.members := by
  cases a with
  | snapshot label =>
    simp only [act, snapshot] at kept
    split at kept
    · exact Or.inl kept
    · refine (Labelled.mem_put kept).imp_right fun new => ?_
      rw [new]
  | dropSnapshot label => exact Or.inl (Labelled.mem_of_mem_erase kept)
  | register label =>
    left
    cases found : d.handles.get? label with
    | none => simpa [act, register?, found] using kept
    | some m => cases done : d.hub.register m <;> simpa [act, register?, found, done] using kept
  | copy label target =>
    left
    cases found : d.handles.get? label <;> simpa [act, copy?, found] using kept
  | deliver label text =>
    left
    cases found : d.handles.get? label with
    | none => simpa [act, deliverTo?, found] using kept
    | some m =>
      cases done : d.hub.deliver m text <;> simpa [act, deliverTo?, deliver, found, done] using kept
  | deliverInSnapshot label id text =>
    left
    cases found : (d.snapshots.get? label).bind fun members =>
      members.find? fun m => m.id == id with
    | none => simpa [act, deliverInSnapshot?, found] using kept
    | some m =>
      cases done : d.hub.deliver m text <;>
        simpa [act, deliverInSnapshot?, deliver, found, done] using kept
  | read label n =>
    left
    cases found : d.readers.get? label with
    | none => simpa [act, read?, found] using kept
    | some key => simpa [act, read?, found, readMany_snapshots] using kept
  | dropReader label =>
    left
    cases found : d.readers.get? label <;> simpa [act, dropReader, found] using kept
  | create label name capacity id => cases id <;> exact Or.inl kept
  | _ => exact Or.inl kept

/-- A kept snapshot has at most one handle for an identity, as the registry had. -/
theorem run_snapshots (options : HubOptions) (actions : List Action) :
    ∀ entry ∈ (run options actions).snapshots, ({ members := entry.2 } : Registry).Ascending := by
  induction actions using List.reverseRecOn with
  | nil => simp [run]
  | append_singleton actions a ih =>
    intro entry kept
    rw [run_append] at kept
    rcases act_snapshots kept with old | new
    · exact ih entry old
    · rw [new]
      exact (run_sound options actions).ascending

/-- What a delivery answers, and what the queue has accepted then. -/
theorem deliver_answer {d : Desk} {m : Member} {q : Queue}
    (found : d.hub.queues[m.queue]? = some q) (text : String) :
    ((d.deliver m text).1 = .error .queueClosed ↔ q.hasReader = false) ∧
      ((d.deliver m text).1 = .error .queueFull ↔
        q.hasReader = true ∧ ¬ q.pending.length < q.capacity) ∧
      ((d.deliver m text).1 = .ok () ↔ q.hasReader = true ∧ q.pending.length < q.capacity) ∧
      (d.deliver m text).2.hub.acceptedBy m.queue = d.hub.acceptedBy m.queue ++
        (if (d.deliver m text).1 = .ok () then [text] else []) := by
  cases reader : q.hasReader with
  | false => simp [deliver, Hub.deliver, found, Queue.offer, reader]
  | true =>
    by_cases short : q.pending.length < q.capacity
    · simp [deliver, Hub.deliver, found, Queue.offer, reader, short, Hub.note_acceptedBy,
        Event.acceptedBy?]
    · simp [deliver, Hub.deliver, found, Queue.offer, reader, short]

/-- The handle of a kept snapshot reaches the reader: the queue is open, and as long as there is
room, a text delivered through the snapshot is read behind the others. -/
structure Reaches (d : Desk) (label : String) (m : Member) (q : Queue) : Prop where
  unclosed : (d.readOne m.queue).1 ≠ .closed
  delivered : q.hasReader = true → q.pending.length < q.capacity → ∀ text,
    ∃ d', d.deliverInSnapshot? label m.id text = some (.ok (), d') ∧
      (d'.readMany m.queue (q.pending.length + 1)).1 = (q.pending ++ [text]).map .text

theorem reaches {d : Desk} {label : String} {members : List Member} {m : Member} {q : Queue}
    (found : d.hub.queues[m.queue]? = some q) (kept : d.snapshots.get? label = some members)
    (ascending : ({ members } : Registry).Ascending) (hm : m ∈ members) :
    d.Reaches label m q := by
  constructor
  · rw [Ne, readOne_closed_iff]
    rintro ⟨-, unheld⟩
    exact unheld m (kept_mem (Labelled.mem_of_get? kept) hm) rfl
  · intro reader short text
    have first : members.find? (fun other => other.id == m.id) = some m :=
      (@Registry.Ascending.find?_eq_some_iff _ ascending m.id m).mpr ⟨hm, rfl⟩
    have room : q.hasRoom = true := Queue.hasRoom_iff.mpr ⟨reader, short⟩
    obtain ⟨hub, done, pending⟩ := Hub.deliver_of_room found room text
    refine ⟨{ d with hub }, by simp [deliverInSnapshot?, kept, first, deliver, done], ?_⟩
    have all : (q.pending ++ [text]).length ≤ q.pending.length + 1 := by simp
    rw [readMany_pending (by simp [pending]), pending, List.take_of_length_le all]

/-- The law of the queue that the action number `key` among those that open one has opened. -/
structure QueueLaw (options : HubOptions) (actions : List Action) (key : QueueKey)
    (q : Queue) : Prop where
  capacity : (actions.filterMap Action.capacity?)[key]? = some q.capacity
  /-- What was read is what was accepted first, in the order of acceptance. -/
  order : heardIn options actions key <+: (run options actions).hub.acceptedBy key
  /-- As long as there is a reader, all the rest is pending. -/
  kept : q.hasReader = true →
    (run options actions).hub.acceptedBy key = heardIn options actions key ++ q.pending
  bounded : q.pending.length ≤ q.capacity
  reader : q.hasReader = true ↔ ∃ label, (run options actions).readers.get? label = some key
  closed : ∀ m text, m.queue = key →
    (((run options actions).deliver m text).1 = .error .queueClosed ↔ q.hasReader = false)
  full : ∀ m text, m.queue = key →
    (((run options actions).deliver m text).1 = .error .queueFull ↔
      q.hasReader = true ∧ q.pending.length = q.capacity)
  taken : ∀ m text, m.queue = key →
    (((run options actions).deliver m text).1 = .ok () ↔
      q.hasReader = true ∧ q.pending.length < q.capacity)
  /-- A text is accepted when the delivery says so. -/
  accepted : ∀ m text, m.queue = key →
    ((run options actions).deliver m text).2.hub.acceptedBy key =
      (run options actions).hub.acceptedBy key ++
        (if ((run options actions).deliver m text).1 = .ok () then [text] else [])
  ended : ((run options actions).readOne key).1 = .closed ↔ q.pending = [] ∧
    (∀ entry ∈ (run options actions).handles, entry.2.queue ≠ key) ∧
    (∀ m ∈ (run options actions).hub.registry.members, m.queue ≠ key) ∧
    ∀ entry ∈ (run options actions).snapshots, ∀ m ∈ entry.2, m.queue ≠ key
  /-- The end is for good. -/
  final : ((run options actions).readOne key).1 = .closed → ∀ more,
    ((run options (actions ++ more)).readOne key).1 = .closed ∧
      (run options (actions ++ more)).hub.acceptedBy key =
        (run options actions).hub.acceptedBy key
  /-- What is removed from the registry is still reached through a snapshot. -/
  snapshot : ∀ label members m, (run options actions).snapshots.get? label = some members →
    m ∈ members → m.queue = key →
      (∀ id, ((run options actions).act (.unregister id)).Reaches label m q) ∧
        ((run options actions).act .endRegistry).Reaches label m q

/-- At every desk, whatever was done before: every handle has its queue, and every queue keeps the
law. -/
theorem run_queues (options : HubOptions) (actions : List Action) :
    (∀ m ∈ (run options actions).everyHandle,
      ∃ q, (run options actions).hub.queues[m.queue]? = some q) ∧
    ∀ key q, (run options actions).hub.queues[key]? = some q →
      QueueLaw options actions key q := by
  have kept := run_kept options actions
  refine ⟨fun m hm => ⟨_, Array.getElem?_eq_getElem (kept.handles m hm)⟩, ?_⟩
  intro key q found
  have ledger := kept.ledgered.queues key q found
  have pending := Hub.pending_eq found
  have reader : (run options actions).hub.isRead key = q.hasReader := by simp [Hub.isRead, found]
  constructor
  case capacity =>
    rw [← kept.capacities, Hub.capacities, List.getElem?_map, Array.getElem?_toList, found,
      Option.map_some]
  case order => exact ledger.order
  case kept => exact ledger.kept
  case bounded => exact ledger.bounded
  case reader => rw [← reader, kept.reader]
  case closed =>
    rintro m text rfl
    exact (deliver_answer found text).1
  case full =>
    rintro m text rfl
    rw [(deliver_answer found text).2.1]
    have bounded := ledger.bounded
    exact and_congr_right fun _ => by omega
  case taken =>
    rintro m text rfl
    exact (deliver_answer found text).2.2.1
  case accepted =>
    rintro m text rfl
    exact (deliver_answer found text).2.2.2
  case ended =>
    rw [readOne_closed_iff, pending]
    refine and_congr_right fun _ => ⟨fun unheld => ⟨?_, ?_, ?_⟩, ?_⟩
    · exact fun entry free => unheld _ (free_mem free)
    · exact fun m registered => unheld m (registered_mem registered)
    · exact fun entry shown m hm => unheld m (kept_mem shown hm)
    · rintro ⟨free, registered, shown⟩ m hm
      rcases mem_everyHandle.mp hm with here | ⟨entry, here, rfl⟩ | ⟨entry, here, hm⟩
      · exact registered m here
      · exact free entry here
      · exact shown entry here m hm
  case final =>
    intro closed more
    obtain ⟨empty, unheld⟩ := readOne_closed_iff.mp closed
    have spent : (run options actions).Spent key :=
      ⟨empty, unheld, (Array.getElem?_eq_some_iff.mp found).1⟩
    obtain ⟨last, accepted⟩ := spent.foldl more
    rw [run_append]
    exact ⟨readOne_closed_iff.mpr ⟨last.empty, last.unheld⟩, accepted⟩
  case snapshot =>
    rintro label members m shown hm rfl
    have ascending := run_snapshots options actions _ (Labelled.mem_of_get? shown)
    refine ⟨fun id => reaches ?_ shown ascending hm, reaches ?_ shown ascending hm⟩
    · simpa [act, unregister] using found
    · simpa [act, endRegistry] using found

/-- Alice is registered, shown in a snapshot and removed; what she gets is what was sent through the
snapshot before it was dropped. -/
def farewell : List Action :=
  [.create "alice" "alice" 2 none, .register "alice", .deliver "alice" "nobody is here",
    .snapshot "early", .unregister ⟨1⟩, .deliverInSnapshot "early" ⟨1⟩ "hello",
    .deliverInSnapshot "early" ⟨1⟩ "bye", .deliverInSnapshot "early" ⟨1⟩ "too much",
    .read "alice" 1, .dropSnapshot "early"]

theorem run_queues_farewell :
    (run {} farewell).hub.queues[0]? = some ⟨2, ["bye"], true⟩ ∧
      heardIn {} farewell 0 = ["hello"] ∧ QueueLaw {} farewell 0 ⟨2, ["bye"], true⟩ ∧
      ((run {} (farewell ++ [.read "alice" 1])).readOne 0).1 = .closed :=
  ⟨by decide, by decide, (run_queues {} farewell).2 0 _ (by decide), by decide⟩

end Desk

end ChatRelay
