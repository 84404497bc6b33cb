/-!
# Slots

The relay has a fixed number of slots. Each accepted upgrade takes one until its connection is over.
-/

namespace ChatRelay

structure Slots where
  capacity : Nat
  taken : Nat := 0
deriving DecidableEq

namespace Slots

def reserve? (s : Slots) : Option Slots :=
  if s.taken < s.capacity then some { s with taken := s.taken + 1 } else none

def release (s : Slots) : Slots := { s with taken := s.taken - 1 }

end Slots

end ChatRelay
