import ChatRelay.Proofs.Connection.Dealings
import ChatRelay.Proofs.Connection.Parting
import ChatRelay.Proofs.Connection.Timing

/-!
# What a transport has not done yet

A task asks its transport for one thing at a time and waits until it is done. A write that is not
waited for any more has come to its end, unless its task was aborted in the middle of it. Nothing
but the transport and the deadline ends the waiting for a close.
-/

namespace ChatRelay

inductive Transfer where
  | write (item : Outgoing)
  | close
deriving DecidableEq

/-- What the transport was asked for and has not done. -/
def Phase.pending? : Phase → Option Transfer
  | .writing _ write => if write.begun then some (.write write.item) else none
  | .closing _ begun _ => if begun then some .close else none
  | _ => none

/-- Every write that was begun has come to its end. -/
def Answered (dealings : List ConnectionEvent) : Prop :=
  ∀ attempt ∈ attempts dealings, attempt.2.isSome = true

section Answered

variable {earlier later : List ConnectionEvent}

theorem answered_of_unbegun (none : ∀ e ∈ later, ∀ item, e ≠ .writeBegun item) :
    Answered later := by
  simp [Answered, attempts_eq_nil none]

theorem answered_completed (items : List Outgoing) : Answered (completed items) := by
  have all := attempts_completed items []
  simp only [List.append_nil, attempts] at all
  simp [Answered, all]

/-- What was answered stays answered. -/
theorem Answered.append (h : Answered earlier) (h' : Answered later) :
    Answered (earlier ++ later) := by
  induction earlier with
  | nil => exact h'
  | cons e rest ih =>
    cases e with
    | writeBegun item =>
      rw [Answered, attempts, List.forall_mem_cons] at h
      rw [Answered, List.cons_append, attempts, List.forall_mem_cons]
      refine ⟨?_, ih h.2⟩
      rw [List.find?_append, Option.isSome_or, h.1, Bool.true_or]
    | _ => exact ih h

/-- An end is the end of whatever was begun before it. -/
theorem answered_of_end (events : List ConnectionEvent) {last : ConnectionEvent}
    (ends : last.endsWrite = true) : Answered (events ++ [last]) := by
  induction events with
  | nil =>
    refine answered_of_unbegun ?_
    rintro e he item rfl
    obtain rfl := List.mem_singleton.mp he
    cases ends
  | cons e rest ih =>
    cases e with
    | writeBegun item =>
      rw [Answered, List.cons_append, attempts, List.forall_mem_cons]
      refine ⟨?_, ih⟩
      rw [List.find?_isSome]
      exact ⟨last, by simp, ends⟩
    | _ => exact ih

end Answered

namespace Phase

/-- The dealings of a task with its transport, given where it stands: every write has its end but
the one that is pending, or was when the task was aborted. -/
def Attended (dealings : List ConnectionEvent) : Phase → Prop
  | .writing _ write => ∃ earlier, Answered earlier ∧ dealings = earlier ++ write.asked
  | .ended .aborted => True
  | _ => Answered dealings

theorem Attended.answered {phase : Phase} {dealings : List ConnectionEvent}
    (h : phase.Attended dealings) (idle : ∀ item, phase.pending? ≠ some (.write item))
    (whole : phase ≠ .ended .aborted) : Answered dealings := by
  unfold Attended at h
  split at h
  · rename_i session write
    obtain ⟨earlier, answered, rfl⟩ := h
    have unbegun : write.begun = false := by
      by_contra begun
      exact idle write.item (by simp [pending?, begun])
    simpa [Write.asked, unbegun] using answered
  · exact absurd rfl whole
  · exact h

end Phase

namespace Connection

section Steps

variable {config : RelayConfig} {s : Surroundings} {c : Connection} {hub : Hub} {key : QueueKey}
  {dealings : List ConnectionEvent}

/-- Who leaves in the middle of a write tells last how the write came to its end. -/
theorem Leaving.answers {b : Branch} {c' : Connection} {remarks : List ConnectionEvent}
    {result : Option ConnectionFault} (h : Leaving config s c hub key b c' remarks result)
    {session : Session} {write : Write} (phase : c.phase = .writing session write) :
    ∃ earlier last, remarks.filter ConnectionEvent.isDealing = earlier ++ [last] ∧
      last.endsWrite = true := by
  cases h with
  | shutdownInWrite => exact ⟨[], .shutdownInWrite, rfl, rfl⟩
  | @writeFailed _ write fault =>
    refine ⟨write.announcement, .writeFailed write.item (.reported fault), ?_, rfl⟩
    rw [List.filter_append, Write.announcement_dealings]
    rfl
  | writeOverdue => exact ⟨[], _, rfl, rfl⟩
  | _ => simp_all

/-- Every step of a task keeps its dealings in order. -/
theorem Transition.attended {b : Branch} {next : Hub × Connection}
    (h : Transition config s c hub key b next) (dealt : c.phase.Dealt dealings)
    (a : c.phase.Attended dealings) :
    ∃ told, next.1.story = hub.story ++ told ∧
      next.2.phase.Attended (dealings ++ told.filterMap Event.dealing?) := by
  obtain ⟨told, story, allowed, after⟩ := h.deals dealt
  refine ⟨told, story, ?_⟩
  -- The dealings after the step are known unless the task has turned to closing or is over.
  have closing (answered : Answered (dealings ++ told.filterMap Event.dealing?)) :
      next.2.phase.Attended (dealings ++ told.filterMap Event.dealing?) := by
    cases phase : next.2.phase with
    | writing session write =>
      rw [phase] at after
      obtain ⟨items, same⟩ := after
      exact ⟨_, answered_completed items, same⟩
    | ended outcome =>
      cases outcome with
      | aborted => trivial
      | _ => exact answered
    | _ => exact answered
  have unbegun (none : ∀ e, c.phase.Allows e → ∀ item, e ≠ .writeBegun item)
      (answered : Answered dealings) :
      next.2.phase.Attended (dealings ++ told.filterMap Event.dealing?) :=
    closing (answered.append (answered_of_unbegun fun e he => none e (allowed e he)))
  cases phase : c.phase with
  | writing session write =>
    cases h with
    | written =>
      obtain ⟨items, same⟩ := after
      exact closing (same ▸ answered_completed items)
    | hang =>
      obtain ⟨items, same⟩ := after
      exact ⟨_, answered_completed items, same⟩
    | leave reason =>
      obtain ⟨earlier, last, ending, ends⟩ := reason.answers phase
      obtain rfl := List.append_cancel_left (story.symm.trans reason.story)
      have silent : [ConnectionEvent.moved c.phase.stage .closing].filter
          ConnectionEvent.isDealing = [] := rfl
      apply closing
      rw [filterMap_dealing, List.filter_append, ending, silent, List.append_nil,
        ← List.append_assoc]
      exact answered_of_end _ ends
    | _ => simp_all
  | closing result begun deadline =>
    rw [phase] at a
    refine unbegun ?_ a
    rw [phase]
    rintro e rfl item
    simp
  | ended outcome =>
    cases h with
    | leave reason =>
      have serving := reason.serving.1
      rw [phase] at serving
      cases serving
    | _ => simp_all
  | _ =>
    rw [phase] at a
    refine unbegun ?_ a
    rw [phase]
    exact fun e he => he.elim

end Steps

end Connection

end ChatRelay
