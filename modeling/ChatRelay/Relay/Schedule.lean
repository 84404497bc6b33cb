import ChatRelay.Relay

/-!
# Schedules

A schedule lets the tasks move. Between two moments of the clock it performs one ready step after
the other until none is ready; each step makes the relay lighter, so this comes to an end. Time goes
from one moment at which something is due to the next.
-/

namespace ChatRelay

/-- How many ticks can still be seen at one moment, at the most. -/
def Session.ticksLeft (s : Session) (now : Nat) : Nat :=
  if now < s.tick then 0 else if s.tick + tickTolerance < now then 1 else now - s.tick + 1

namespace Phase

/-- What the phase itself still has before it. -/
def weight : Phase → Nat
  | .connecting => 5
  | .handshake _ => 4
  | .active _ => 3
  | .writing _ write => if write.begun then 4 else 5
  | .closing _ begun _ => if begun then 1 else 2
  | .ended _ => 0

def ticksLeft (now : Nat) : Phase → Nat
  | .active session => session.ticksLeft now
  | .writing session _ => session.ticksLeft now
  | _ => 0

end Phase

namespace Relay

/-- A bound for the number of steps that can be performed before time has to pass. An inbound item
weighs more than the texts that it can put into the queues. -/
def weight (r : Relay) : Nat :=
  let item := 4 * r.connections.size + 1
  let tasks := r.connections.toList.map fun c =>
    item * c.transport.inbound.length + c.phase.weight + 4 * c.phase.ticksLeft r.hub.now
  let queued := r.hub.queues.toList.map fun q => 4 * q.pending.length
  tasks.foldr (· + ·) 0 + queued.foldr (· + ·) 0

def firstReady? (r : Relay) (key : Nat) : Option Branch :=
  Branch.all.find? fun b => r.ready key b

/-- The first ready step of the first task that has one. -/
def next? (r : Relay) : Option (Nat × Branch) :=
  (List.range r.connections.size).findSome? fun key => (r.firstReady? key).map fun b => (key, b)

def isQuiet (r : Relay) : Bool := r.next?.isNone

/-- Performs at most a number of ready steps. -/
def settleWithin (r : Relay) : Nat → Relay
  | 0 => r
  | steps + 1 =>
    match r.next? with
    | none => r
    | some (key, b) => (r.perform key b).settleWithin steps

def settle (r : Relay) : Relay := r.settleWithin r.weight

/-- The relay at another reading of the clock. -/
def withClock (r : Relay) (now : Nat) : Relay := { r with hub := { r.hub with now } }

def nextDue? (r : Relay) : Option Nat :=
  ((r.connections.toList.filterMap Connection.due?).filter fun t => r.hub.now < t).min?

/-- Lets time pass until an end, stopping at no more than a number of moments before it. -/
def runUntil (limit : Nat) : Nat → Relay → Relay
  | 0, r => (r.withClock limit).settle
  | moments + 1, r =>
    match r.nextDue? with
    | some t => if t ≤ limit then runUntil limit moments (r.withClock t).settle else r.withClock limit
    | none => r.withClock limit

/-- Lets a length of time pass. Whatever falls due meanwhile, also at its very end, is handled in
order. -/
def advance (r : Relay) (length : Nat) : Relay :=
  runUntil (r.hub.now + length) (length + 1) r

end Relay

end ChatRelay
