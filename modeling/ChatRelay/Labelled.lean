/-!
# Labelled values

An association list with at most one entry for a label.
-/

namespace ChatRelay

abbrev Labelled (α : Type) := List (String × α)

namespace Labelled

def erase {α : Type} (t : Labelled α) (label : String) : Labelled α :=
  t.filter fun entry => entry.1 != label

/-- Enters a value in place of an earlier one. -/
def put {α : Type} (t : Labelled α) (label : String) (value : α) : Labelled α :=
  t.erase label ++ [(label, value)]

def get? {α : Type} (t : Labelled α) (label : String) : Option α := t.lookup label

end Labelled

end ChatRelay
