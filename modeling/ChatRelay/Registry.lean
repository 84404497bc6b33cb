import ChatRelay.Journal

/-!
# The registry

Who is in the chat right now. A member is in the registry from its successful registration until it
is removed; the list is kept in the order of the identities. Once the registry has ended it stays
empty.
-/

namespace ChatRelay

/-- A handle on a connection: its identity, its name, and the sending end of its queue. As long as
a handle exists anywhere, the queue stays open. -/
structure Member where
  id : ConnectionId
  name : String
  queue : QueueKey
deriving DecidableEq

structure Registry where
  members : List Member := []
  ended : Bool := false
deriving DecidableEq

namespace Registry

/-- Puts a member before the first one with a larger identity. -/
def insertById (m : Member) : List Member → List Member
  | [] => [m]
  | other :: rest => if m.id < other.id then m :: other :: rest else other :: insertById m rest

def find? (r : Registry) (id : ConnectionId) : Option Member :=
  r.members.find? fun m => m.id == id

def contains (r : Registry) (id : ConnectionId) : Bool := r.members.any fun m => m.id == id

def name? (r : Registry) (id : ConnectionId) : Option String := (r.find? id).map Member.name

def size (r : Registry) : Nat := r.members.length

/-- Adds a member. The end of the registry is noticed before a member of the same identity. -/
def register (r : Registry) (m : Member) : Except RegistrationFault Registry :=
  if r.ended then .error .ended
  else if r.contains m.id then .error (.present m.id)
  else .ok { r with members := insertById m r.members }

/-- Removes the member of an identity; without one, nothing changes. -/
def unregister (r : Registry) (id : ConnectionId) : Registry :=
  { r with members := r.members.filter fun m => m.id != id }

/-- Removes all members for good. -/
def close (_ : Registry) : Registry := { members := [], ended := true }

/-- Whether some member keeps a queue open. -/
def holds (r : Registry) (key : QueueKey) : Bool := r.members.any fun m => m.queue == key

end Registry

end ChatRelay
