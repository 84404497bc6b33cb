import ChatRelay.Proofs.Desk.Journal
import ChatRelay.Proofs.Desk.RollCall

/-!
# What is rejected leaves no trace

A registration that is refused drops its handle and does nothing else. The removal of somebody who
is not registered does nothing, and the registry can end only once. So a run in which all this was
left out cannot be told from the run in which it was tried, but for the journal.
-/

namespace ChatRelay

theorem Hub.Operation.options_eq {h h' : Hub} (op : Hub.Operation h h') :
    h'.options = h.options := by
  cases op with
  | unnoticed options registry shown => exact options
  | register done =>
    obtain ⟨registry, -, rfl⟩ := Hub.register_eq_ok_iff.mp done
    simp
  | unregister id => simp
  | broadcast message => exact (Hub.broadcast_frame h message).1
  | endRegistry => simp

namespace Desk

deriving instance DecidableEq for Action

section Registration

variable {d : Desk} {label : String} {m : Member}

/-- How a registration is answered. -/
theorem answer_register (found : d.handles.get? label = some m) :
    d.answer (.register label) = .registration (some
      (if d.hub.registry.ended then .error .ended
      else if d.hub.registry.contains m.id then .error (.present m.id) else .ok m.id)) := by
  have refused {fault : RegistrationFault} (h : d.hub.registry.register m = .error fault) :
      d.answer (.register label) = .registration (some (.error fault)) := by
    simp [answer, register?, found, Hub.register_eq_error_iff.mpr h]
  cases ended : d.hub.registry.ended with
  | true => exact refused (by rw [Registry.register, if_pos ended])
  | false =>
    cases present : d.hub.registry.contains m.id with
    | true => exact refused (by rw [Registry.register, ended, present]; rfl)
    | false =>
      have entered : d.hub.registry.register m = .ok { d.hub.registry with
          members := Registry.insertById m d.hub.registry.members } := by
        simp only [Registry.register, ended, present]
        rfl
      simp [answer, register?, found, Hub.register_eq_ok_iff.mpr ⟨_, entered, rfl⟩]

/-- A refused registration only drops its handle. -/
theorem act_refused {fault : RegistrationFault}
    (refused : d.answer (.register label) = .registration (some (.error fault))) :
    d.act (.register label) = d.act (.discard label) := by
  cases found : d.handles.get? label with
  | none => simp [answer, register?, found] at refused
  | some m =>
    cases done : d.hub.register m with
    | error fault' => simp [act, register?, found, done, discard]
    | ok hub => simp [answer, register?, found, done] at refused

/-- No registration takes an entry away or changes one. -/
theorem register_keeps (label : String) {x : Member} (hx : x ∈ d.hub.registry.members) :
    x ∈ (d.act (.register label)).hub.registry.members := by
  cases found : d.handles.get? label with
  | none => simpa [act, register?, found] using hx
  | some m =>
    cases done : d.hub.register m with
    | error fault => simpa [act, register?, found, done] using hx
    | ok hub =>
      obtain ⟨registry, done', rfl⟩ := Hub.register_eq_ok_iff.mp done
      obtain ⟨-, -, rfl⟩ := Registry.register_eq_ok_iff.mp done'
      simp [act, register?, found, done, Registry.mem_insertById, hx]

end Registration

/-- A removal that finds nobody does nothing. -/
theorem act_absent {d : Desk} {id : ConnectionId}
    (absent : d.answer (.unregister id) = .existed false) :
    d.act (.unregister id) = d := by
  cases found : d.hub.registry.find? id with
  | none => simp [act, unregister, Hub.unregister, found]
  | some m => simp [answer, unregister, Hub.unregister, found] at absent

/-- Nothing but its end ends the registry. -/
theorem act_ended {d : Desk} {a : Action} (other : a ≠ .endRegistry) :
    (d.act a).hub.registry.ended = d.hub.registry.ended := by
  cases a with
  | create label name capacity id => rw [act, (create_frame d label name capacity id).1]
  | register label =>
    cases found : d.handles.get? label with
    | none => simp [act, register?, found]
    | some m =>
      cases done : d.hub.register m with
      | error fault => simp [act, register?, found, done]
      | ok hub =>
        obtain ⟨registry, done', rfl⟩ := Hub.register_eq_ok_iff.mp done
        obtain ⟨-, -, rfl⟩ := Registry.register_eq_ok_iff.mp done'
        simp [act, register?, found, done]
  | copy label target => cases found : d.handles.get? label <;> simp [act, copy?, found]
  | unregister id => simp [act, unregister, Registry.unregister]
  | snapshot label =>
    simp only [act, snapshot]
    split <;> rfl
  | deliver label text =>
    cases found : d.handles.get? label with
    | none => simp [act, deliverTo?, found]
    | some m => simp [act, deliverTo?, found, (deliver_frame d m text).1]
  | deliverInSnapshot label id text =>
    cases found : (d.snapshots.get? label).bind fun members =>
      members.find? fun m => m.id == id with
    | none => simp [act, deliverInSnapshot?, found]
    | some m => simp [act, deliverInSnapshot?, found, (deliver_frame d m text).1]
  | broadcast message => simp [act, broadcast, Hub.broadcast_registry, Registry.without]
  | read label n =>
    cases found : d.readers.get? label with
    | none => simp [act, read?, found]
    | some key => simp [act, read?, found, (readMany_frame d key n).1]
  | dropReader label => cases found : d.readers.get? label <;> simp [act, dropReader, found]
  | endRegistry => exact absurd rfl other
  | _ => rfl

theorem run_ended (options : HubOptions) (actions : List Action) :
    (run options actions).hub.registry.ended = true ↔ .endRegistry ∈ actions := by
  induction actions using List.reverseRecOn with
  | nil => simp [run]
  | append_singleton actions a ih =>
    rw [run_append, List.mem_append, List.mem_singleton]
    by_cases last : a = .endRegistry
    · subst last
      simp [act, endRegistry, Registry.close]
    · have other : .endRegistry ≠ a := Ne.symm last
      simp only [List.foldl_cons, List.foldl_nil, act_ended last, ih, other, or_false]

/-- The options of a desk are never changed. -/
theorem run_options (options : HubOptions) (actions : List Action) :
    (run options actions).hub.options = options := by
  induction actions using List.reverseRecOn with
  | nil => rfl
  | append_singleton actions a ih =>
    rw [run_append, List.foldl_cons, List.foldl_nil, (act_operation _ a).options_eq, ih]

/-- Two desks differ in nothing but their journals. -/
def Retold (d d' : Desk) : Prop := ∃ journal, d' = d.retell fun _ => journal

theorem faithful_behind (past : List Entry) : Hub.Faithful (· ++ past) := fun _ _ _ => rfl

section Retold

variable {d d' d'' : Desk}

theorem Retold.refl (d : Desk) : d.Retold d := ⟨d.hub.journal, rfl⟩

theorem Retold.symm (h : d.Retold d') : d'.Retold d := by
  obtain ⟨journal, rfl⟩ := h
  exact ⟨d.hub.journal, rfl⟩

theorem Retold.trans (h : d.Retold d') (h' : d'.Retold d'') : d.Retold d'' := by
  obtain ⟨journal, rfl⟩ := h
  obtain ⟨journal', rfl⟩ := h'
  exact ⟨journal', rfl⟩

theorem Retold.meters (h : d.Retold d') : d'.hub.meters = d.hub.meters := by
  obtain ⟨journal, rfl⟩ := h
  rfl

/-- Such desks answer alike, whatever is done. -/
theorem Retold.act (h : d.Retold d') (a : Action) :
    d'.answer a = d.answer a ∧ (d.act a).Retold (d'.act a) := by
  obtain ⟨journal, rfl⟩ := h
  -- Both are the desk that knows nothing, with a past behind it.
  let blank := d.retell fun _ => []
  have old : d = blank.retell (· ++ d.hub.journal) := rfl
  have new : d.retell (fun _ => journal) = blank.retell (· ++ journal) := rfl
  obtain ⟨answered, acted⟩ := act_retell blank (faithful_behind d.hub.journal) a
  obtain ⟨answered', acted'⟩ := act_retell blank (faithful_behind journal) a
  rw [← old] at answered acted
  rw [new]
  refine ⟨answered'.trans answered.symm, (blank.act a).hub.journal ++ journal, ?_⟩
  rw [acted, acted']
  rfl

theorem Retold.foldl (h : d.Retold d') (actions : List Action) :
    (actions.foldl Desk.act d).Retold (actions.foldl Desk.act d') := by
  induction actions generalizing d d' with
  | nil => exact h
  | cons a rest ih => exact ih (h.act a).2

/-- A registry that has ended and is empty can end again, and only the journal shows it. -/
theorem act_endRegistry_again (ended : d.hub.registry.ended = true)
    (empty : d.hub.registry.members = [])
    (shown : d.hub.options.registryMetered = true → d.hub.meters.connected = 0) :
    d.Retold (d.act .endRegistry) := by
  have closed : d.hub.registry.close = d.hub.registry := by
    rcases same : d.hub.registry with ⟨members, ended'⟩
    simp_all [Registry.close]
  refine ⟨(d.act .endRegistry).hub.journal, ?_⟩
  cases metered : d.hub.options.registryMetered with
  | false =>
    simp [Desk.act, endRegistry, Hub.endRegistry, Hub.setGauge, retell, Hub.retell, Hub.note,
      closed, metered]
  | true =>
    have still : d.hub.meters.setConnected (.ofNat d.hub.registry.size) = d.hub.meters := by
      rw [Registry.size, empty, List.length_nil, Meters.setConnected]
      exact congrArg (fun n => { d.hub.meters with connected := n }) (shown metered).symm
    simp [Desk.act, endRegistry, Hub.endRegistry, Hub.setGauge, retell, Hub.retell, Hub.note,
      closed, metered, still]

end Retold

theorem run_endRegistry_again (options : HubOptions) {actions : List Action}
    (before : .endRegistry ∈ actions) :
    (run options actions).Retold ((run options actions).act .endRegistry) := by
  obtain ⟨ended, empty⟩ := ended_of_mem options before
  apply act_endRegistry_again ended empty
  intro metered
  rw [run_options] at metered
  rw [(run_gauged metered actions).shown, Registry.size, empty]
  rfl

/-- Whether an action is rejected at a desk where others were done before: a registration that is
refused, a removal that finds nobody, an end of the registry after its end. -/
def Action.rejected (options : HubOptions) (earlier : List Action) : Action → Bool
  | .register label => match (run options earlier).answer (.register label) with
    | .registration (some (.error _)) => true
    | _ => false
  | .unregister id => !((run options earlier).unregister id).1
  | .endRegistry => decide (.endRegistry ∈ earlier)
  | _ => false

/-- What is done instead of an action that would be rejected: the handle that was to be registered
is dropped. -/
def Action.instead : Action → List Action
  | .register label => [.discard label]
  | _ => []

/-- What is left of an action after others. -/
def Action.remains (options : HubOptions) (earlier : List Action) (a : Action) : List Action :=
  if a.rejected options earlier then a.instead else [a]

/-- What is left of actions that are done after others. -/
def prunedAfter (options : HubOptions) (earlier : List Action) : List Action → List Action
  | [] => []
  | a :: rest => a.remains options earlier ++ prunedAfter options (earlier ++ [a]) rest

/-- The actions without those that were rejected. -/
def pruned (options : HubOptions) (actions : List Action) : List Action :=
  prunedAfter options [] actions

theorem prunedAfter_append (options : HubOptions) (earlier actions more : List Action) :
    prunedAfter options earlier (actions ++ more) = prunedAfter options earlier actions ++
      prunedAfter options (earlier ++ actions) more := by
  induction actions generalizing earlier with
  | nil => simp [prunedAfter]
  | cons a rest ih => simp [prunedAfter, ih]

theorem pruned_append (options : HubOptions) (actions more : List Action) :
    pruned options (actions ++ more) =
      pruned options actions ++ prunedAfter options actions more := by
  rw [pruned, prunedAfter_append, List.nil_append, pruned]

/-- What is done instead of a rejected action does what the action does. -/
theorem instead_retold {options : HubOptions} {actions : List Action} {a : Action}
    (rejected : a.rejected options actions = true) :
    ((run options actions).act a).Retold (a.instead.foldl act (run options actions)) := by
  cases a with
  | register label =>
    have refused : ∃ fault, (run options actions).answer (.register label) =
        .registration (some (.error fault)) := by
      simp only [Action.rejected] at rejected
      split at rejected
      · exact ⟨_, ‹_›⟩
      · cases rejected
    obtain ⟨fault, refused⟩ := refused
    rw [act_refused refused]
    exact .refl _
  | unregister id =>
    have absent : (run options actions).answer (.unregister id) = .existed false := by
      simpa [answer, Action.rejected] using rejected
    rw [act_absent absent]
    exact .refl _
  | endRegistry => exact (run_endRegistry_again options (of_decide_eq_true rejected)).symm
  | _ => cases rejected

/-- A run and the run without what is rejected come to the same desk, but for the journal. -/
theorem run_pruned (options : HubOptions) (actions : List Action) :
    (run options actions).Retold (run options (pruned options actions)) := by
  induction actions using List.reverseRecOn with
  | nil => exact .refl _
  | append_singleton actions a ih =>
    have left : pruned options (actions ++ [a]) =
        pruned options actions ++ a.remains options actions := by
      simp [pruned_append, prunedAfter]
    have same : ((run options actions).act a).Retold
        ((a.remains options actions).foldl act (run options actions)) := by
      cases rejected : a.rejected options actions with
      | true => simpa [Action.remains, rejected] using instead_retold rejected
      | false => simpa [Action.remains, rejected] using .refl _
    rw [left, run_append, run_append]
    exact same.trans (ih.foldl _)

-- Alice is registered by one of two handles, and the registry ends twice.
example : pruned {} [.create "a" "alice" 1 none, .copy "a" "b", .register "b", .register "a",
      .unregister ⟨2⟩, .endRegistry, .unregister ⟨1⟩, .endRegistry] =
    [.create "a" "alice" 1 none, .copy "a" "b", .register "b", .discard "a", .endRegistry] := by
  decide

/-- What can be said of rejections after some actions. -/
structure Traceless (options : HubOptions) (actions : List Action) : Prop where
  ended : ∀ label m, (run options actions).handles.get? label = some m →
    ((run options actions).answer (.register label) = .registration (some (.error .ended)) ↔
      .endRegistry ∈ actions)
  present : ∀ label m id, (run options actions).handles.get? label = some m →
    ((run options actions).answer (.register label) =
        .registration (some (.error (.present id))) ↔
      .endRegistry ∉ actions ∧ id = m.id ∧ ∃ x ∈ (run options actions).hub.registry.members,
        x.id = m.id)
  /-- Whoever is registered stays the same when others, or the same once more, are registered. -/
  kept : ∀ label id x, (run options actions).hub.registry.find? id = some x →
    ((run options actions).act (.register label)).hub.registry.find? id = some x
  refused : ∀ label fault, (run options actions).answer (.register label) =
      .registration (some (.error fault)) →
    (run options actions).act (.register label) = (run options actions).act (.discard label)
  absent : ∀ id, (run options actions).answer (.unregister id) = .existed false →
    (run options actions).act (.unregister id) = run options actions
  /-- The second end of the registry finds nobody, and does nothing. -/
  again : .endRegistry ∈ actions →
    (run options actions).answer .endRegistry = .removed 0 ∧
      (run options actions).Retold ((run options actions).act .endRegistry)
  /-- Any action that is not rejected is still done when all that was rejected before it is left
  out. It has the same answer then, and the meters show the same after it. -/
  answers : ∀ a later, a.rejected options actions = false →
    pruned options (actions ++ a :: later) = pruned options actions ++
      a :: prunedAfter options (actions ++ [a]) later ∧
    (run options (pruned options actions)).answer a = (run options actions).answer a ∧
    ((run options (pruned options actions)).act a).hub.meters =
      ((run options actions).act a).hub.meters
  whole : (run options actions).Retold (run options (pruned options actions))

/-- Nothing that is rejected at a desk leaves a trace there. -/
theorem run_traceless (options : HubOptions) (actions : List Action) :
    Traceless options actions := by
  have same := run_pruned options actions
  constructor
  case ended =>
    intro label m found
    rw [answer_register found, ← run_ended options actions]
    cases (run options actions).hub.registry.ended <;>
      cases (run options actions).hub.registry.contains m.id <;> simp
  case present =>
    intro label m id found
    rw [answer_register found, ← run_ended options actions, ← Registry.contains_iff]
    cases (run options actions).hub.registry.ended <;>
      cases (run options actions).hub.registry.contains m.id <;> simp [eq_comm]
  case kept =>
    intro label id x found
    have sound := run_sound options actions
    obtain ⟨hx, same⟩ := sound.ascending.find?_eq_some_iff.mp found
    exact (sound.act (.register label)).ascending.find?_eq_some_iff.mpr
      ⟨register_keeps label hx, same⟩
  case refused => exact fun _ _ => act_refused
  case absent => exact fun _ => act_absent
  case again =>
    intro before
    have empty := (ended_of_mem options before).2
    refine ⟨?_, run_endRegistry_again options before⟩
    simp [answer, endRegistry, Hub.endRegistry, Registry.size, empty]
  case answers =>
    intro a later accepted
    obtain ⟨answered, acted⟩ := same.act a
    refine ⟨?_, answered, acted.meters⟩
    simp [pruned_append, prunedAfter, Action.remains, accepted]
  case whole => exact same

end Desk

end ChatRelay
