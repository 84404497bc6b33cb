import ChatRelay.Toml.Number

/-!
# Values of documents

Strings, numbers, truth values, dates, arrays and inline tables. Arrays and inline tables may be
nested up to the depth limit. A dotted key inside braces opens tables on its way, and no key is
given twice.
-/

namespace ChatRelay.Toml

/-- Walks down a path of keys and applies `f` to the table at its end, opening the tables that are
missing. Tables opened by a header are closed to dotted keys, and inline tables to every key. -/
def descend (opened : Form) (f : Node → Option Node) : List Key → Node → Option Node
  | [], node => f node
  | key :: path, .table form span entries =>
    match Entries.get? entries key.text with
    | none => do
      let child ← descend opened f path (.table opened none [])
      some (.table form span (entries ++ [(key, child)]))
    | some (.table childForm childSpan childEntries) =>
      if childForm = .inlined ∨ (opened = .dotted ∧ childForm = .header) then none
      else do
        let child ← descend opened f path (.table childForm childSpan childEntries)
        some (.table form span (Entries.set entries key.text child))
    | some (.tables items) =>
      match items.getLast? with
      | none => none
      | some last => do
        let child ← descend opened f path last
        some (.table form span (Entries.set entries key.text (.tables (items.dropLast ++ [child]))))
    | some _ => none
  | _ :: _, _ => none

/-- Enters a value under the last part of its key. A dotted key ends in a table opened by dotted
keys, a plain one in a table opened otherwise. -/
def enter (isDotted : Bool) (key : Key) (value : Node) : Node → Option Node
  | .table form span entries =>
    if decide (form = .dotted) != isDotted then none
    else if (Entries.get? entries key.text).isSome then none
    else some (.table form span (entries ++ [(key, value)]))
  | _ => none

/-- Enters a value under a key of one or more parts. -/
def assign (keys : List Key) (value : Node) (table : Node) : Option Node :=
  match keys.getLast? with
  | none => none
  | some key =>
    let path := keys.dropLast
    descend .dotted (enter (!path.isEmpty) key value) path table

/-- Values between commas, up to and with the closing bracket; a comma may stand behind the last. -/
def arrayItems (value : Reader Node) : Nat → Reader (List Node)
  | 0, _ => none
  | fuel + 1, cs =>
    match skipLines (cs.length + 1) cs with
    | ']' :: rest => some ([], rest)
    | cs => do
      let (item, rest) ← value cs
      match skipLines (rest.length + 1) rest with
      | ',' :: rest => do
        let (items, rest) ← arrayItems value fuel rest
        some (item :: items, rest)
      | ']' :: rest => some ([item], rest)
      | _ => none

/-- A key, an equals sign and a value. -/
def assignment? (value : Reader Node) (cs : List Char) :
    Option ((List Key × Node) × List Char) := do
  let (keys, rest) ← key? cs
  match rest with
  | '=' :: rest => do
    let (node, rest) ← value (skipBlanks rest)
    some ((keys, node), rest)
  | _ => none

/-- Assignments between commas, up to and with the closing brace, all on one line. -/
def inlineEntries (value : Reader Node) : Nat → Reader (List (List Key × Node))
  | 0, _ => none
  | fuel + 1, cs => do
    let (entry, rest) ← assignment? value cs
    match skipBlanks rest with
    | ',' :: rest => do
      let (entries, rest) ← inlineEntries value fuel rest
      some (entry :: entries, rest)
    | '\x7d' :: rest => some ([entry], rest)
    | _ => none

def inlineBody (value : Reader Node) (cs : List Char) :
    Option (List (List Key × Node) × List Char) :=
  match skipBlanks cs with
  | '\x7d' :: rest => some ([], rest)
  | cs => inlineEntries value (cs.length + 1) cs

/-- A value that is neither an array nor an inline table. -/
def scalarValue? (cs : List Char) : Option (Node × List Char) :=
  let place := fun (rest : List Char) => (⟨cs.length, rest.length⟩ : Span)
  match cs with
  | 't' :: 'r' :: 'u' :: 'e' :: rest => some (.boolean (place rest) true, rest)
  | 'f' :: 'a' :: 'l' :: 's' :: 'e' :: rest => some (.boolean (place rest) false, rest)
  | '"' :: _ | '\'' :: _ =>
    (string? cs).map fun (text, rest) => (.string (place rest) text, rest)
  | _ =>
    match datetime? cs with
    | none => none
    | some (some rest) => some (.datetime (place rest), rest)
    | some none =>
      (numeral? cs).map fun (numeral, rest) =>
        match numeral with
        | .integer n => (.integer (place rest) n, rest)
        | .float x => (.float (place rest) x, rest)

/-- A value with at most `depth` arrays and inline tables inside one another. -/
def value? : Nat → Reader Node
  | depth, cs =>
    match cs with
    | '[' :: rest =>
      match depth with
      | 0 => none
      | depth + 1 =>
        (arrayItems (value? depth) (rest.length + 1) rest).map fun (items, after) =>
          (.array ⟨cs.length, after.length⟩ items, after)
    | '\x7b' :: rest =>
      match depth with
      | 0 => none
      | depth + 1 => do
        let (entries, after) ← inlineBody (value? depth) rest
        let table ← entries.foldlM (fun table entry => assign entry.1 entry.2 table)
          (.table .inlined (some ⟨cs.length, after.length⟩) [])
        some (table, after)
    | _ => scalarValue? cs

end ChatRelay.Toml
