import ChatRelay.Toml.Value

/-!
# Reading documents

A text is read into sections, each a header with the assignments below it, and the sections are
joined into one tree. A table is opened by at most one header; a header may open a table that was
only passed through before. Of a text that is no document nothing more is known.
-/

namespace ChatRelay.Toml

structure Header where
  keys : List Key
  isArray : Bool
  span : Span

structure Section where
  header : Option Header
  assignments : List (List Key × Node) := []

/-- One line of a document, or what stands for one. -/
inductive Statement where
  | empty
  | header (header : Header)
  | assignment (keys : List Key) (value : Node)

def header? (cs : List Char) : Option (Header × List Char) :=
  match cs with
  | '[' :: '[' :: rest => do
    let (keys, rest) ← key? rest
    match rest with
    | ']' :: ']' :: rest => do
      let next ← lineEnd? rest
      some (⟨keys, true, cs.length, rest.length⟩, next)
    | _ => none
  | '[' :: rest => do
    let (keys, rest) ← key? rest
    match rest with
    | ']' :: rest => do
      let next ← lineEnd? rest
      some (⟨keys, false, cs.length, rest.length⟩, next)
    | _ => none
  | _ => none

/-- One statement, from the first character of its line that is not blank. -/
def statement? (cs : List Char) : Option (Statement × List Char) :=
  match cs with
  | [] => none
  | '#' :: _ => (lineEnd? cs).map fun rest => (.empty, rest)
  | '\n' :: rest => some (.empty, rest)
  | '\r' :: '\n' :: rest => some (.empty, rest)
  | '[' :: _ => (header? cs).map fun (h, rest) => (.header h, rest)
  | _ => do
    let ((keys, value), rest) ← assignment? (value? (maxDepth - 1)) cs
    let rest ← lineEnd? rest
    some (.assignment keys value, rest)

def statements? : Nat → List Char → Option (List Statement)
  | 0, _ => none
  | fuel + 1, cs =>
    match skipBlanks cs with
    | [] => some []
    | cs => do
      let (s, rest) ← statement? cs
      let more ← statements? fuel rest
      some (s :: more)

/-- Groups the statements under their headers. -/
def sections : Section → List Statement → List Section
  | current, [] => [current]
  | current, .empty :: rest => sections current rest
  | current, .header h :: rest => current :: sections { header := some h } rest
  | current, .assignment keys value :: rest =>
    sections { current with assignments := current.assignments ++ [(keys, value)] } rest

/-- A table's place reaches from its header to the end of its last value. -/
def Section.place (s : Section) (h : Header) : Span :=
  match s.assignments.getLast?.bind fun entry => entry.2.span? with
  | some last => ⟨h.span.start, last.stop⟩
  | none => h.span

def fill (assignments : List (List Key × Node)) (table : Node) : Option Node :=
  assignments.foldlM (fun table entry => assign entry.1 entry.2 table) table

/-- Opens the table `key` inside a table and fills it. A table passed through before keeps what it
holds and moves behind its neighbours. -/
def openTable (s : Section) (h : Header) (key : Key) : Node → Option Node
  | .table form span entries => do
    let held ← match Entries.get? entries key.text with
      | none => some []
      | some (.table .passed _ held) => some held
      | some _ => none
    let table ← fill s.assignments (.table .header (some (s.place h)) held)
    some (.table form span (Entries.erase entries key.text ++ [(key, table)]))
  | _ => none

/-- Adds a table to the array of tables `key` inside a table and fills it. -/
def addTable (s : Section) (h : Header) (key : Key) : Node → Option Node
  | .table form span entries => do
    let table ← fill s.assignments (.table .header (some (s.place h)) [])
    match Entries.get? entries key.text with
    | none => some (.table form span (entries ++ [(key, .tables [table])]))
    | some (.tables items) =>
      some (.table form span (Entries.set entries key.text (.tables (items ++ [table]))))
    | some _ => none
  | _ => none

def join (root : Node) (s : Section) : Option Node :=
  match s.header with
  | none => fill s.assignments root
  | some h => match h.keys.getLast? with
    | none => none
    | some key =>
      descend .passed (if h.isArray then addTable s h key else openTable s h key)
        h.keys.dropLast root

/-- The rest behind a byte order mark. -/
def dropMark : List Char → List Char
  | '\ufeff' :: rest => rest
  | cs => cs

def parse? (text : String) : Option Node := do
  let cs := dropMark text.toList
  let found ← statements? (cs.length + 1) cs
  (sections { header := none } found).foldlM join (.table .header none [])

end ChatRelay.Toml
