import ChatRelay.Binary64.Basic

/-!
# Documents as trees

A document is a tree of tables, arrays and plain values. Every value knows where it was written;
a place is given by the number of characters from there to the end of the text.
-/

namespace ChatRelay.Toml

/-- A stretch of the text: the characters still to come where it begins and where it ends. -/
structure Span where
  start : Nat
  stop : Nat
deriving DecidableEq

/-- One part of a key, with its place. -/
structure Key where
  text : String
  span : Span
deriving DecidableEq

/-- How a table came into the document. -/
inductive Form where
  /-- Passed through on the way to a header further down. -/
  | passed
  /-- Passed through by a dotted key. -/
  | dotted
  /-- Opened by a header of its own. -/
  | header
  /-- Written between braces. -/
  | inlined
deriving DecidableEq

inductive Node where
  | string (span : Span) (text : String)
  | integer (span : Span) (n : Int)
  | float (span : Span) (x : Binary64)
  | boolean (span : Span) (b : Bool)
  | datetime (span : Span)
  | array (span : Span) (items : List Node)
  /-- The tables under a header in double brackets. -/
  | tables (items : List Node)
  | table (form : Form) (span : Option Span) (entries : List (Key × Node))

/-- The entries of a table in the order in which they came in. -/
abbrev Entries := List (Key × Node)

namespace Entries

def get? (entries : Entries) (name : String) : Option Node :=
  (entries.find? fun entry => entry.1.text == name).map (·.2)

def erase (entries : Entries) (name : String) : Entries :=
  entries.filter fun entry => entry.1.text != name

/-- Replaces the value of a key that is present. -/
def set (entries : Entries) (name : String) (node : Node) : Entries :=
  entries.map fun entry => if entry.1.text == name then (entry.1, node) else entry

end Entries

namespace Node

/-- A table's place, for a member of an array of tables. -/
def tableSpan? : Node → Option Span
  | .table _ span _ => span
  | _ => none

/-- Where a value was written. A table that was only passed through has no place of its own. -/
def span? : Node → Option Span
  | .string span _ => some span
  | .integer span _ => some span
  | .float span _ => some span
  | .boolean span _ => some span
  | .datetime span => some span
  | .array span _ => some span
  | .tables items => do
    let first ← items.head?.bind tableSpan?
    let last ← items.getLast?.bind tableSpan?
    some ⟨first.start, last.stop⟩
  | .table _ span _ => span

end Node

end ChatRelay.Toml
