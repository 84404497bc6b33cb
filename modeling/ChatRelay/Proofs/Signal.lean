import ChatRelay.Signal
import Mathlib.Data.List.Induction

/-!
# Waiting for the signal

A wait for the signal is a loop on a receiver. A pass of the loop looks at the flag, which marks its
value as seen, or asks for a value that was not seen yet, which fails once the sender is gone. Other
tasks may act between any two passes, and a wait may be given up and begun again on the same
receiver. Still a poll ends the wait just if the flag is set then, and after three passes at most
the loop has nothing left to do.
-/

namespace ChatRelay

namespace Signal

inductive Place where
  | looking
  /-- Waiting for a value that was not seen yet. -/
  | listening
  /-- The sender is gone: nothing will come. -/
  | stranded
  | done
deriving DecidableEq

/-- A receiver with the wait on it. What it has seen outlasts the wait. -/
structure Receiver where
  /-- The number of the last value that was looked at. -/
  seen : Nat := 0
  place : Place := .looking
deriving DecidableEq

namespace Receiver

def pass (s : Signal) (r : Receiver) : Option Receiver :=
  match r.place with
  | .looking => some ⟨s.version, if s.isSet then .done else .listening⟩
  | .listening =>
    if s.version ≠ r.seen then some ⟨s.version, .looking⟩
    else if s.hasSender then none else some ⟨r.seen, .stranded⟩
  | .stranded => none
  | .done => none

/-- At most a number of passes. -/
def passes (s : Signal) : Nat → Receiver → Receiver
  | 0, r => r
  | n + 1, r => match r.pass s with
    | some next => next.passes s n
    | none => r

/-- A poll of the wait: as many passes as the loop can need. -/
def poll (s : Signal) (r : Receiver) : Receiver := r.passes s 3

def anew (r : Receiver) : Receiver := { r with place := .looking }

/-- A wait that has ended is followed by a new one. -/
def resume (r : Receiver) : Receiver := if r.place = .done then r.anew else r

/-- The wait without the receiver. -/
def wait (r : Receiver) : Wait :=
  match r.place with
  | .looking => .fresh
  | .listening => .watching r.seen
  | .stranded => .stranded
  | .done => .fresh

/-- What a receiver knows of the signal: the flag was not set in the value that it has seen if it
listens for another one, and nobody sets it any more if the wait is stranded. -/
structure Heeds (s : Signal) (r : Receiver) : Prop where
  past : r.seen ≤ s.version
  listening : r.place = .listening → r.seen = s.version → s.isSet = false
  stranded : r.place = .stranded → s.isSet = false ∧ s.hasSender = false

section Steps

variable {s : Signal} {r : Receiver}

theorem Heeds.anew (h : r.Heeds s) : r.anew.Heeds s := by
  constructor <;> simp [Receiver.anew, h.past]

theorem Heeds.resume (h : r.Heeds s) : r.resume.Heeds s := by
  unfold Receiver.resume
  split
  · exact h.anew
  · exact h

theorem resume_ongoing (r : Receiver) : r.resume.place ≠ .done := by
  unfold resume
  split
  · exact nofun
  · assumption

/-- The sender numbers its values, so that a new one is not taken for one that was seen. -/
theorem Heeds.send (h : r.Heeds s) (value : Bool) : r.Heeds ((s.send? value).getD s) := by
  cases sender : s.hasSender with
  | false => simpa [send?, sender] using h
  | true =>
    have past := h.past
    have here : r.place ≠ .stranded := fun stranded => by simp [(h.stranded stranded).2] at sender
    simp only [send?, sender, if_true, Option.getD_some]
    refine ⟨Nat.le_succ_of_le past, fun _ same => ?_, fun stranded => absurd stranded here⟩
    dsimp only at same
    omega

theorem Heeds.dropSender (h : r.Heeds s) : r.Heeds s.dropSender :=
  ⟨h.past, h.listening, fun stranded => ⟨(h.stranded stranded).1, rfl⟩⟩

theorem Heeds.pass (h : r.Heeds s) {next : Receiver} (passed : r.pass s = some next) :
    next.Heeds s := by
  unfold Receiver.pass at passed
  split at passed
  · obtain rfl := Option.some.inj passed
    cases set : s.isSet <;> constructor <;> simp [set]
  · rename_i listening
    split at passed
    · obtain rfl := Option.some.inj passed
      constructor <;> simp
    · rename_i same
      split at passed
      · cases passed
      · obtain rfl := Option.some.inj passed
        have unset := h.listening listening (Decidable.not_not.mp same).symm
        constructor <;> simp_all
  · cases passed
  · cases passed

theorem Heeds.passes (h : r.Heeds s) (n : Nat) : (r.passes s n).Heeds s := by
  induction n generalizing r with
  | zero => exact h
  | succ n ih =>
    rw [Receiver.passes]
    split
    · rename_i next passed
      exact ih (h.pass passed)
    · exact h

theorem passes_of_rest (rests : r.pass s = none) (n : Nat) : r.passes s n = r := by
  cases n <;> simp [passes, rests]

/-- Two passes are enough for a wait that is about to look. -/
theorem passes_of_looking (looking : r.place = .looking) (n : Nat) : r.passes s (n + 2) =
    ⟨s.version, if s.isSet then .done else if s.hasSender then .listening else .stranded⟩ := by
  have still (place : Place) (rests : (⟨s.version, place⟩ : Receiver).pass s = none) :=
    passes_of_rest rests n
  cases set : s.isSet <;> cases sender : s.hasSender <;>
    simp [passes, Receiver.pass, looking, set, sender, still .stranded rfl]

/-- A poll ends the wait if the flag is set. If not, the wait goes on, as long as there is a sender
of whose values it has seen the last one. -/
theorem Heeds.poll_cases (h : r.Heeds s) (ongoing : r.place ≠ .done) :
    s.isSet = true ∧ (r.poll s).place = .done ∨
    s.isSet = false ∧ s.hasSender = true ∧ (r.poll s).place = .listening ∧
      (r.poll s).seen = s.version ∨
    s.isSet = false ∧ s.hasSender = false ∧ (r.poll s).place = .stranded := by
  cases place : r.place with
  | looking =>
    rw [poll, passes_of_looking place 1]
    cases s.isSet <;> cases s.hasSender <;> simp
  | listening =>
    by_cases same : s.version = r.seen
    · have unset := h.listening place same.symm
      cases sender : s.hasSender <;>
        simp [poll, Receiver.passes, Receiver.pass, place, same, unset, sender]
    · have step : r.poll s = (⟨s.version, .looking⟩ : Receiver).passes s 2 := by
        simp [poll, Receiver.passes, Receiver.pass, place, same]
      rw [step, passes_of_looking rfl 0]
      cases s.isSet <;> cases s.hasSender <;> simp
  | stranded =>
    obtain ⟨unset, gone⟩ := h.stranded place
    have still : r.poll s = r := passes_of_rest (by simp [Receiver.pass, place]) 3
    exact Or.inr (Or.inr ⟨unset, gone, by rw [still, place]⟩)
  | done => exact absurd place ongoing

theorem Heeds.poll_done_iff (h : r.Heeds s) (ongoing : r.place ≠ .done) :
    (r.poll s).place = .done ↔ s.isSet = true := by
  rcases h.poll_cases ongoing with ⟨set, done⟩ | ⟨unset, -, listening, -⟩ | ⟨unset, -, stranded⟩
  · simp [set, done]
  · simp [unset, listening]
  · simp [unset, stranded]

/-- After a poll the loop cannot go on by itself. -/
theorem Heeds.poll_rests (h : r.Heeds s) (ongoing : r.place ≠ .done) :
    (r.poll s).pass s = none := by
  rcases h.poll_cases ongoing with ⟨-, done⟩ | ⟨-, sender, listening, seen⟩ | ⟨-, -, stranded⟩
  · simp [Receiver.pass, done]
  · simp [Receiver.pass, listening, seen, sender]
  · simp [Receiver.pass, stranded]

/-- The loop does what a poll of the wait says. -/
theorem Heeds.wait_poll (h : r.Heeds s) (ongoing : r.place ≠ .done) :
    r.wait.poll s = (decide ((r.poll s).place = .done), (r.poll s).wait) := by
  have outcome : r.wait.poll s = if s.isSet then (true, .fresh)
      else (false, if s.hasSender then .watching s.version else .stranded) := by
    cases place : r.place with
    | looking => simp [wait, place, Wait.poll, Wait.look]
    | listening =>
      by_cases same : s.version = r.seen
      · simp [wait, place, Wait.poll, same, h.listening place same.symm]
      · simp [wait, place, Wait.poll, Wait.look, same]
    | stranded => simp [wait, place, Wait.poll, h.stranded place]
    | done => exact absurd place ongoing
  rw [outcome]
  rcases h.poll_cases ongoing with
    ⟨set, done⟩ | ⟨unset, sender, listening, seen⟩ | ⟨unset, gone, stranded⟩
  · simp [set, wait, done]
  · simp [unset, sender, wait, listening, seen]
  · simp [unset, gone, wait, stranded]

end Steps

end Receiver

/-- Something that happens to the signal, or to a receiver of it. -/
inductive Action where
  | send (value : Bool)
  | dropSender
  /-- The wait is polled. -/
  | poll
  /-- A pass of a poll, behind which others may act before the poll goes on. -/
  | pass
  /-- The wait is given up, and another one begins on the same receiver. -/
  | restart
deriving DecidableEq

structure Watch where
  signal : Signal
  receiver : Receiver := {}
deriving DecidableEq

/-- What is left after an action. What cannot be sent is lost. -/
def Watch.act (w : Watch) : Action → Watch
  | .send value => { w with signal := (w.signal.send? value).getD w.signal }
  | .dropSender => { w with signal := w.signal.dropSender }
  | .poll => { w with receiver := (w.receiver.poll w.signal).resume }
  | .pass => { w with receiver := ((w.receiver.pass w.signal).getD w.receiver).resume }
  | .restart => { w with receiver := w.receiver.anew }

/-- A signal made with a value, with a first wait for it, after a sequence of actions. -/
def run (value : Bool) (actions : List Action) : Watch :=
  actions.foldl Watch.act { signal := { isSet := value } }

/-- The latest value: the last one sent before the sender went, or the one that the signal was made
with. -/
def latest (value : Bool) : List Action → Bool
  | [] => value
  | .send value :: rest => latest value rest
  | .dropSender :: _ => value
  | _ :: rest => latest value rest

/-- A receiver knows what it has to know, whatever happened. -/
theorem act_heeds {w : Watch} (h : w.receiver.Heeds w.signal) (a : Action) :
    (w.act a).receiver.Heeds (w.act a).signal := by
  cases a with
  | send value => exact h.send value
  | dropSender => exact h.dropSender
  | poll => exact (h.passes 3).resume
  | pass =>
    refine Receiver.Heeds.resume ?_
    cases passed : w.receiver.pass w.signal with
    | none => exact h
    | some next => exact h.pass passed
  | restart => exact h.anew

theorem act_ongoing {w : Watch} (ongoing : w.receiver.place ≠ .done) (a : Action) :
    (w.act a).receiver.place ≠ .done := by
  cases a with
  | send value => exact ongoing
  | dropSender => exact ongoing
  | poll => exact Receiver.resume_ongoing _
  | pass => exact Receiver.resume_ongoing _
  | restart => exact nofun

theorem run_append (value : Bool) (actions : List Action) (a : Action) :
    run value (actions ++ [a]) = (run value actions).act a := by
  simp [run]

theorem run_heeds (value : Bool) (actions : List Action) :
    (run value actions).receiver.Heeds (run value actions).signal ∧
      (run value actions).receiver.place ≠ .done := by
  induction actions using List.reverseRecOn with
  | nil => exact ⟨⟨Nat.le_refl 0, nofun, nofun⟩, nofun⟩
  | append_singleton actions a ih =>
    rw [run_append]
    exact ⟨act_heeds ih.1 a, act_ongoing ih.2 a⟩

theorem foldl_act_signal (w : Watch) (actions : List Action) :
    (actions.foldl Watch.act w).signal.hasSender =
      (w.signal.hasSender && !actions.contains .dropSender) ∧
    (actions.foldl Watch.act w).signal.isSet = if w.signal.hasSender then
      latest w.signal.isSet actions else w.signal.isSet := by
  induction actions generalizing w with
  | nil => simp [latest]
  | cons a rest ih =>
    rw [List.foldl_cons, (ih _).1, (ih _).2]
    cases a with
    | send value => cases sender : w.signal.hasSender <;> simp [Watch.act, send?, sender, latest]
    | dropSender => simp [Watch.act, dropSender, latest]
    | _ => exact ⟨by simp [Watch.act], rfl⟩

/-- Nothing is sent after the sender went. -/
theorem latest_append (value : Bool) {actions : List Action} (gone : .dropSender ∈ actions)
    (more : List Action) : latest value (actions ++ more) = latest value actions := by
  induction actions generalizing value with
  | nil => cases gone
  | cons a rest ih =>
    cases a with
    | dropSender => rfl
    | _ => exact ih _ (by simpa using gone)

/-- The flag shows the latest value, and the sender is there until it goes. -/
theorem run_signal (value : Bool) (actions : List Action) :
    ((run value actions).signal.hasSender = false ↔ .dropSender ∈ actions) ∧
      (run value actions).signal.isSet = latest value actions := by
  obtain ⟨sender, set⟩ := foldl_act_signal { signal := { isSet := value } } actions
  exact ⟨by simp [run, sender], by simpa [run] using set⟩

/-- What a poll does after a sequence of actions. -/
structure Heeded (value : Bool) (actions : List Action) : Prop where
  /-- It ends the wait if, and only if, the latest value is that the flag is set. -/
  ends : ((run value actions).receiver.poll (run value actions).signal).place = .done ↔
    latest value actions = true
  /-- Then the loop of the wait has nothing left to do, be the sender there or not. -/
  rests : ((run value actions).receiver.poll (run value actions).signal).pass
    (run value actions).signal = none
  /-- The wait that the loop carries out ends, and goes on, as the loop does. -/
  carried : (run value actions).receiver.wait.poll (run value actions).signal =
    (latest value actions, ((run value actions).receiver.poll (run value actions).signal).wait)
  /-- If a wait that listens ends, the receiver was notified of a value since it looked. -/
  notified : (run value actions).receiver.place = .listening → latest value actions = true →
    (run value actions).receiver.seen < (run value actions).signal.version
  /-- After the sender went without setting the flag, no poll ends a wait any more, and a wait that
  was polled does not move. -/
  abandoned : .dropSender ∈ actions → latest value actions = false → ∀ more,
    ((run value (actions ++ more)).receiver.poll (run value (actions ++ more)).signal).place =
      .stranded ∧
    ∀ s, ((run value (actions ++ more)).receiver.poll (run value (actions ++ more)).signal).pass s =
      none

section Theorem

variable {value : Bool} {actions : List Action}

theorem stranded_of_gone (gone : .dropSender ∈ actions) (unset : latest value actions = false) :
    ((run value actions).receiver.poll (run value actions).signal).place = .stranded := by
  obtain ⟨heeds, ongoing⟩ := run_heeds value actions
  obtain ⟨sender, set⟩ := run_signal value actions
  rcases heeds.poll_cases ongoing with ⟨isSet, -⟩ | ⟨-, there, -⟩ | ⟨-, -, stranded⟩
  · rw [set, unset] at isSet
    cases isSet
  · rw [sender.mpr gone] at there
    cases there
  · exact stranded

/-- Whatever was sent, polled and given up, and wherever the sender went: a poll ends the wait just
if the latest value is that the flag is set. -/
theorem run_heeded (value : Bool) (actions : List Action) : Heeded value actions := by
  obtain ⟨heeds, ongoing⟩ := run_heeds value actions
  have set := (run_signal value actions).2
  have ends : ((run value actions).receiver.poll (run value actions).signal).place = .done ↔
      latest value actions = true := by
    rw [heeds.poll_done_iff ongoing, set]
  constructor
  case ends => exact ends
  case rests => exact heeds.poll_rests ongoing
  case carried =>
    rw [heeds.wait_poll ongoing]
    simp [ends]
  case notified =>
    intro listening isSet
    refine Nat.lt_of_le_of_ne heeds.past fun same => ?_
    rw [← set, heeds.listening listening same] at isSet
    cases isSet
  case abandoned =>
    intro gone unset more
    have stranded := stranded_of_gone (List.mem_append_left more gone)
      ((latest_append value gone more).trans unset)
    exact ⟨stranded, fun s => by simp [Receiver.pass, stranded]⟩

/-- The flag is set and taken back before anybody looks, and then set just before the sender
goes. -/
example :
    let w := run false [.poll, .send true, .send false, .poll, .send true, .dropSender]
    w.receiver.wait = .watching 2 ∧ w.receiver.wait.poll w.signal = (true, .fresh) := by decide

end Theorem

end Signal

end ChatRelay
