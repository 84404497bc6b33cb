import ChatRelay.Fault

/-!
# Outgoing queues

A bounded queue of texts with one reader. It takes a text as long as the reader is there and there
is room. Whether it is closed for the reader depends on who still holds it, and is not known here.
-/

namespace ChatRelay

structure Queue where
  capacity : Nat
  pending : List String := []
  hasReader : Bool := true
deriving DecidableEq

namespace Queue

/-- The largest capacity that can be asked for. -/
def maxCapacity : Nat := Nat.pow 2 61 - 1

/-- Appends a text. A missing reader is noticed before a lack of room. -/
def offer (q : Queue) (text : String) : Except DeliveryFault Queue :=
  if q.hasReader then
    if q.pending.length < q.capacity then .ok { q with pending := q.pending ++ [text] }
    else .error .queueFull
  else .error .queueClosed

/-- The first text, and the queue behind it. -/
def take? (q : Queue) : Option (String × Queue) :=
  match q.pending with
  | [] => none
  | text :: rest => some (text, { q with pending := rest })

/-- The reader goes, and with it what it has not read. -/
def dropReader (q : Queue) : Queue := { q with pending := [], hasReader := false }

end Queue

end ChatRelay
