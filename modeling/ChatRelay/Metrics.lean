import ChatRelay.Binary64.Basic

/-!
# Meters

What the relay counts: a gauge of the registered connections, five counters of 64 bits that wrap,
and a histogram of the recipients of each broadcast.
-/

namespace ChatRelay

namespace Histogram

def bounds : List Nat := [0, 1, 2, 5, 10, 25, 50, 100, 250, 500]

end Histogram

/-- For each bound, `inBucket` counts the values that are at most this bound and above the one
before. Values above the last bound occur in `count` and `sum` alone. -/
structure Histogram where
  inBucket : List UInt64 := Histogram.bounds.map fun _ => 0
  count : UInt64 := 0
  sum : Binary64 := Binary64.zero
deriving DecidableEq

namespace Histogram

/-- Counts a value in the first bucket whose bound it does not exceed. -/
def place (value : Binary64) : List Nat → List UInt64 → List UInt64
  | bound :: bounds, n :: counts =>
    if value.le (.ofNat bound) then (n + 1) :: counts else n :: place value bounds counts
  | _, counts => counts

def observe (h : Histogram) (value : Binary64) : Histogram :=
  { inBucket := place value bounds h.inBucket
    count := h.count + 1
    sum := h.sum + value }

/-- Running totals, as an exported histogram shows them. -/
def runningTotals (start : UInt64) : List UInt64 → List UInt64
  | [] => []
  | n :: rest => (start + n) :: runningTotals (start + n) rest

def cumulative (h : Histogram) : List UInt64 := runningTotals 0 h.inBucket

end Histogram

inductive Counter where
  | connections
  | handshakeTimeouts
  | messages
  | deliveries
  | deliveryFailures
deriving DecidableEq

structure Meters where
  connected : Int64 := 0
  connections : UInt64 := 0
  handshakeTimeouts : UInt64 := 0
  messages : UInt64 := 0
  deliveries : UInt64 := 0
  deliveryFailures : UInt64 := 0
  recipients : Histogram := {}
deriving DecidableEq

namespace Meters

def setConnected (m : Meters) (n : Int64) : Meters := { m with connected := n }

def addConnected (m : Meters) (n : Int64) : Meters := { m with connected := m.connected + n }

def increase (m : Meters) (c : Counter) (amount : UInt64) : Meters :=
  match c with
  | .connections => { m with connections := m.connections + amount }
  | .handshakeTimeouts => { m with handshakeTimeouts := m.handshakeTimeouts + amount }
  | .messages => { m with messages := m.messages + amount }
  | .deliveries => { m with deliveries := m.deliveries + amount }
  | .deliveryFailures => { m with deliveryFailures := m.deliveryFailures + amount }

def observe (m : Meters) (value : Binary64) : Meters :=
  { m with recipients := m.recipients.observe value }

/-- Accounts for one broadcast that reached `delivered` recipients and missed `failed`. -/
def countBroadcast (m : Meters) (delivered failed : Nat) : Meters :=
  (((m.increase .messages 1).increase .deliveries (.ofNat delivered)).increase
    .deliveryFailures (.ofNat failed)).observe (.ofNat (delivered + failed))

end Meters

end ChatRelay
