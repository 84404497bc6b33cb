/-!
# Readings of the clock

The clock counts milliseconds. It can be read for as long as a signed 64-bit number holds its whole
seconds; no instant lies behind that.
-/

namespace ChatRelay.Clock

def last : Nat := 1000 * Nat.pow 2 63 - 1

/-- The instant a length of time after another, if there is one. -/
def after? (now length : Nat) : Option Nat :=
  if now + length ≤ last then some (now + length) else none

/-- Thirty years: where a deadline is put that no instant can express. -/
def farFuture : Nat := 1000 * (86400 * 365 * 30)

def deadline (now length : Nat) : Nat := (after? now length).getD (now + farFuture)

end ChatRelay.Clock
