/-!
# The shutdown signal

A flag with one sender and many receivers. Each receiver remembers the last value it has seen, by
number. Waiting for the signal means waiting until the flag is set: it may be reset before anyone
looks, and a sender that goes while it is not set will never set it.
-/

namespace ChatRelay

structure Signal where
  isSet : Bool := false
  /-- How many values have been sent. -/
  version : Nat := 0
  hasSender : Bool := true
deriving DecidableEq

namespace Signal

/-- Sends a value, unless the sender is gone. -/
def send? (s : Signal) (value : Bool) : Option Signal :=
  if s.hasSender then some { s with isSet := value, version := s.version + 1 } else none

def dropSender (s : Signal) : Signal := { s with hasSender := false }

end Signal

/-- Where a wait for the signal stands. -/
inductive Wait where
  /-- Nothing looked at yet. -/
  | fresh
  /-- The flag was not set; waiting for another value than the one of this number. -/
  | watching (seen : Nat)
  /-- The sender went without setting the flag. -/
  | stranded
deriving DecidableEq

namespace Wait

/-- Looks at the flag: a wait that does not end goes on from the value it saw. -/
def look (s : Signal) : Bool × Wait :=
  if s.isSet then (true, .fresh)
  else (false, if s.hasSender then .watching s.version else .stranded)

/-- Polls a wait, and tells whether it has ended. Without a new value there is nothing to look at
but the absence of the sender. -/
def poll (w : Wait) (s : Signal) : Bool × Wait :=
  match w with
  | .fresh => look s
  | .watching seen =>
    if s.version ≠ seen then look s
    else (false, if s.hasSender then .watching seen else .stranded)
  | .stranded => (false, .stranded)

end Wait

end ChatRelay
