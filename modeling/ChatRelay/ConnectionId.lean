import ChatRelay.Text.Decimal
import ChatRelay.Text.Parts

/-!
# Connection identities

A connection gets its number when it is accepted. Numbers are handed out in ascending order, so
the order of identities is the order of arrival; the counter has 64 bits and wraps.
-/

namespace ChatRelay

structure ConnectionId where
  number : UInt64
deriving DecidableEq

namespace ConnectionId

instance : LT ConnectionId := ⟨fun a b => a.number < b.number⟩

instance : LE ConnectionId := ⟨fun a b => a.number ≤ b.number⟩

instance (a b : ConnectionId) : Decidable (a < b) :=
  inferInstanceAs (Decidable (a.number < b.number))

instance (a b : ConnectionId) : Decidable (a ≤ b) :=
  inferInstanceAs (Decidable (a.number ≤ b.number))

def first : ConnectionId := ⟨1⟩

def next (id : ConnectionId) : ConnectionId := ⟨id.number + 1⟩

def text (id : ConnectionId) : String := "conn:" ++ toString id.number.toNat

def json (id : ConnectionId) : String := toString id.number.toNat

/-- The four characters that JSON allows around a value. -/
def isJsonBlank (c : Char) : Bool :=
  c = ' ' || c = '\t' || c = '\n' || c = '\r'

/-- Reads an identity from a JSON text. Only a plain non-negative integer of 64 bits is one: no
sign, no fraction, no exponent. -/
def ofJson? (text : String) : Option ConnectionId :=
  match Decimal.read? (Text.trim isJsonBlank text.toList) with
  | some n => if n < UInt64.size then some ⟨UInt64.ofNat n⟩ else none
  | none => none

/-- Inserts an identity into an ascending list; equal ones stay beside each other. -/
def insertSorted (id : ConnectionId) : List ConnectionId → List ConnectionId
  | [] => [id]
  | a :: rest => if id ≤ a then id :: a :: rest else a :: insertSorted id rest

def sorted (ids : List ConnectionId) : List ConnectionId :=
  ids.foldr insertSorted []

end ConnectionId

end ChatRelay
