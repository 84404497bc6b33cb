import ChatRelay.Proofs.Toml.Sound
import ChatRelay.Proofs.Toml.Spelling
import Mathlib.Data.List.Forall2

/-!
# Writing documents

A document can be written as a list of blocks: each is a header in brackets on a line of its own,
and below it a line for each key with its value. What was written is read as the tree that has the
blocks as its tables, in their order.
-/

namespace ChatRelay.Toml

structure Line where
  key : String
  value : List Char

structure Block where
  name : String
  lines : List Line

def Line.text (l : Line) : List Char :=
  l.key.toList ++ ' ' :: '=' :: ' ' :: (l.value ++ ['\n'])

def Block.headline (b : Block) : List Char := '[' :: (b.name.toList ++ [']', '\n'])

def Block.pieces (b : Block) : List (List Char) := b.headline :: b.lines.map Line.text

def write (blocks : List Block) : String :=
  String.ofList (blocks.flatMap fun b => b.pieces.flatten)

/-- Whatever comes behind its line, the value can be read. -/
structure Readable (value : List Char) : Prop where
  unindented : ∀ rest, skipBlanks (value ++ '\n' :: rest) = value ++ '\n' :: rest
  read : ∀ rest, ∃ node, value? (maxDepth - 1) (value ++ '\n' :: rest) = some (node, '\n' :: rest)

/-- The node is what is read of the value in some place. -/
def Spelt (value : List Char) (node : Node) : Prop :=
  ∃ rest, value? (maxDepth - 1) (value ++ '\n' :: rest) = some (node, '\n' :: rest)

structure Block.Valid (b : Block) : Prop where
  name : IsBare b.name
  keys : ∀ l ∈ b.lines, IsBare l.key
  values : ∀ l ∈ b.lines, Readable l.value
  distinct : (b.lines.map Line.key).Nodup

/-- The statement opens the table. -/
def Statement.Opens (name : String) (s : Statement) : Prop :=
  ∃ place span, s = .header ⟨[⟨name, place⟩], false, span⟩

/-- The statement says what the line says. -/
def Statement.Repeats (l : Line) (s : Statement) : Prop :=
  ∃ place node, s = .assignment [⟨l.key, place⟩] node ∧ Spelt l.value node

theorem statement?_headline {b : Block} (bare : IsBare b.name) (rest : List Char) :
    ∃ s, s.Opens b.name ∧ statement? (b.headline ++ rest) = some (s, rest) := by
  have spelt : b.headline ++ rest = '[' :: (b.name.toList ++ ']' :: '\n' :: rest) := by
    simp [Block.headline]
  have skipped : skipBlanks (']' :: '\n' :: rest) = ']' :: '\n' :: rest := rfl
  obtain ⟨place, read⟩ := key?_bare bare (by decide) skipped (by simp)
  rw [spelt, statement?, header?, read, Option.bind_eq_bind, Option.bind_some]
  · exact ⟨_, ⟨_, _, rfl⟩, rfl⟩
  · exact bare.ne_cons (by decide)

theorem statement?_line {l : Line} (bare : IsBare l.key) (readable : Readable l.value)
    (rest : List Char) : ∃ s, s.Repeats l ∧ statement? (l.text ++ rest) = some (s, rest) := by
  have spelt : l.text ++ rest =
      l.key.toList ++ ' ' :: '=' :: ' ' :: (l.value ++ '\n' :: rest) := by
    simp [Line.text]
  have skipped : skipBlanks (' ' :: '=' :: ' ' :: (l.value ++ '\n' :: rest)) =
      '=' :: ' ' :: (l.value ++ '\n' :: rest) := rfl
  obtain ⟨place, keyRead⟩ := key?_bare bare (by decide) skipped (by simp)
  obtain ⟨node, valueRead⟩ := readable.read rest
  have unindented : skipBlanks (' ' :: (l.value ++ '\n' :: rest)) = l.value ++ '\n' :: rest :=
    readable.unindented rest
  have assigned : assignment? (value? (maxDepth - 1)) (l.text ++ rest) =
      some (([⟨l.key, place⟩], node), '\n' :: rest) := by
    rw [spelt, assignment?, keyRead, Option.bind_eq_bind, Option.bind_some]
    simp only [unindented, valueRead]
    rfl
  refine ⟨.assignment [⟨l.key, place⟩] node, ⟨place, node, rfl, rest, valueRead⟩, ?_⟩
  rw [statement?, assigned]
  · rfl
  all_goals rw [spelt]
  · exact bare.ne_nil
  · exact bare.ne_cons (by decide)
  · exact bare.ne_cons (by decide)
  · exact fun more => bare.ne_cons (by decide) _
  · exact bare.ne_cons (by decide)

/-- A piece of text is read as one statement of some kind, and nothing behind it is touched. -/
def IsReadAs (piece : List Char) (kind : Statement → Prop) : Prop :=
  ∀ rest, ∃ s, kind s ∧
    ∀ fuel, statements? (fuel + 1) (piece ++ rest) = (statements? fuel rest).map (s :: ·)

theorem isReadAs_of_statement? {piece : List Char} {kind : Statement → Prop} {c : Char}
    {cs : List Char} (start : piece = c :: cs) (visible : isBlank c = false)
    (read : ∀ rest, ∃ s, kind s ∧ statement? (piece ++ rest) = some (s, rest)) :
    IsReadAs piece kind := by
  intro rest
  obtain ⟨s, hs, read⟩ := read rest
  refine ⟨s, hs, fun fuel => ?_⟩
  have skipped : skipBlanks (piece ++ rest) = piece ++ rest := by
    rw [start, List.cons_append, skipBlanks, List.dropWhile_cons_of_neg (by simp [visible])]
  rw [start, List.cons_append] at skipped read ⊢
  rw [statements?, skipped]
  simp only [read, Option.bind_eq_bind, Option.bind_some]
  cases statements? fuel rest <;> rfl

theorem headline_isReadAs {b : Block} (bare : IsBare b.name) :
    IsReadAs b.headline (Statement.Opens b.name) :=
  isReadAs_of_statement? rfl rfl (statement?_headline bare)

theorem line_isReadAs {l : Line} (bare : IsBare l.key) (readable : Readable l.value) :
    IsReadAs l.text (Statement.Repeats l) := by
  obtain ⟨c, cs, spelt, first⟩ := bare.cases
  exact isReadAs_of_statement? (by rw [Line.text, spelt]; rfl) (isBlank_of_bare first)
    (statement?_line bare readable)

/-- Pieces are read one after the other. -/
theorem statements?_pieces {pieces : List (List Char)} {kinds : List (Statement → Prop)}
    (read : List.Forall₂ IsReadAs pieces kinds) (rest : List Char) :
    ∃ found, List.Forall₂ (fun kind s => kind s) kinds found ∧
      ∀ fuel, statements? (fuel + pieces.length) (pieces.flatten ++ rest) =
        (statements? fuel rest).map (found ++ ·) := by
  induction read with
  | nil => exact ⟨[], .nil, fun fuel => by simp⟩
  | @cons piece kind pieces kinds first _ ih =>
    obtain ⟨found, kindsHold, later⟩ := ih
    obtain ⟨s, hs, step⟩ := first (pieces.flatten ++ rest)
    refine ⟨s :: found, .cons hs kindsHold, fun fuel => ?_⟩
    rw [List.length_cons, ← Nat.add_assoc, List.flatten_cons, List.append_assoc, step, later,
      Option.map_map]
    rfl

def Block.kinds (b : Block) : List (Statement → Prop) :=
  Statement.Opens b.name :: b.lines.map Statement.Repeats

/-- The section has the header of the block, and below it what its lines say. -/
structure Block.Found (b : Block) (s : Section) : Prop where
  header : ∃ place span, s.header = some ⟨[⟨b.name, place⟩], false, span⟩
  assignments : List.Forall₂ (fun l a => (∃ place, a.1 = [⟨l.key, place⟩]) ∧ Spelt l.value a.2)
    b.lines s.assignments

theorem Block.Valid.isReadAs {b : Block} (valid : b.Valid) :
    List.Forall₂ IsReadAs b.pieces b.kinds := by
  refine .cons (headline_isReadAs valid.name) ?_
  rw [List.forall₂_map_left_iff, List.forall₂_map_right_iff, List.forall₂_same]
  exact fun l hl => line_isReadAs (valid.keys l hl) (valid.values l hl)

theorem sections_lines {lines : List Line} {found : List Statement}
    (repeats : List.Forall₂ (fun kind s => kind s) (lines.map Statement.Repeats) found) :
    ∃ entries : List (List Key × Node),
      List.Forall₂ (fun l a => (∃ place, a.1 = [⟨l.key, place⟩]) ∧ Spelt l.value a.2)
        lines entries ∧
      ∀ current more, sections current (found ++ more) =
        sections { current with assignments := current.assignments ++ entries } more := by
  rw [List.forall₂_map_left_iff] at repeats
  induction repeats with
  | nil => exact ⟨[], .nil, fun current more => by simp⟩
  | cons first _ ih =>
    obtain ⟨place, node, rfl, spelt⟩ := first
    obtain ⟨entries, holds, later⟩ := ih
    refine ⟨(_, node) :: entries, .cons ⟨⟨place, rfl⟩, spelt⟩ holds, fun current more => ?_⟩
    rw [List.cons_append, sections, later, List.append_assoc]
    rfl

theorem sections_block {b : Block} {found : List Statement}
    (kinds : List.Forall₂ (fun kind s => kind s) b.kinds found) :
    ∃ s, b.Found s ∧ ∀ current more,
      sections current (found ++ more) = current :: sections s more := by
  cases kinds with
  | cons first later =>
    obtain ⟨place, span, rfl⟩ := first
    obtain ⟨entries, holds, read⟩ := sections_lines later
    refine ⟨{ header := some ⟨[⟨b.name, place⟩], false, span⟩, assignments := entries },
      ⟨⟨place, span, rfl⟩, holds⟩, fun current more => ?_⟩
    rw [List.cons_append, sections, read]
    rfl

/-- The text of all blocks is read into one section for each of them. -/
theorem statements?_blocks {blocks : List Block} (valid : ∀ b ∈ blocks, b.Valid) :
    ∃ found secs, List.Forall₂ Block.Found blocks secs ∧
      (∀ fuel, statements? (fuel + 1 + (blocks.flatMap Block.pieces).length)
        (blocks.flatMap fun b => b.pieces.flatten) = some found) ∧
      ∀ current, sections current found = current :: secs := by
  induction blocks with
  | nil => exact ⟨[], [], .nil, fun _ => rfl, fun _ => rfl⟩
  | cons b blocks ih =>
    obtain ⟨first, later⟩ := List.forall_mem_cons.mp valid
    obtain ⟨found, secs, holds, read, grouped⟩ := ih later
    obtain ⟨front, kinds, step⟩ := statements?_pieces first.isReadAs
      (blocks.flatMap fun b => b.pieces.flatten)
    obtain ⟨s, hs, opened⟩ := sections_block kinds
    refine ⟨front ++ found, s :: secs, .cons hs holds, fun fuel => ?_, fun current => ?_⟩
    · rw [List.flatMap_cons, List.flatMap_cons, List.length_append,
        Nat.add_comm b.pieces.length, ← Nat.add_assoc, step, read]
      rfl
    · rw [opened, grouped]

theorem Block.pieces_ne_nil (b : Block) : ∀ piece ∈ b.pieces, piece ≠ [] := by
  refine List.forall_mem_cons.mpr ⟨by simp [Block.headline], List.forall_mem_map.mpr ?_⟩
  intro l _
  simp [Line.text]

/-- No more pieces are read than there are characters. -/
theorem pieces_le (blocks : List Block) : (blocks.flatMap Block.pieces).length ≤
    (blocks.flatMap fun b => b.pieces.flatten).length := by
  have joined : (blocks.flatMap fun b => b.pieces.flatten) =
      (blocks.flatMap Block.pieces).flatten := by
    simp only [← List.flatMap_id, List.flatMap_assoc]
  rw [joined]
  refine length_le_flatten fun piece here => ?_
  obtain ⟨b, -, here⟩ := List.mem_flatMap.mp here
  exact b.pieces_ne_nil piece here

def Line.Stands (l : Line) (entry : Key × Node) : Prop :=
  entry.1.text = l.key ∧ Spelt l.value entry.2

def Block.Stands (b : Block) (entry : Key × Node) : Prop :=
  entry.1.text = b.name ∧ ∃ span entries, entry.2 = .table .header span entries ∧
    List.Forall₂ Line.Stands b.lines entries

theorem assign_key {key : Key} {node : Node} {span : Option Span} {held : Entries}
    (fresh : key.text ∉ Entries.names held) : assign [key] node (.table .header span held) =
      some (.table .header span (held ++ [(key, node)])) := by
  have absent := Entries.get?_eq_none_iff.mpr fresh
  simp [assign, descend, enter, absent]

theorem fill_lines {lines : List Line} {assignments : List (List Key × Node)}
    (holds : List.Forall₂ (fun l a => (∃ place, a.1 = [⟨l.key, place⟩]) ∧ Spelt l.value a.2)
      lines assignments) (span : Option Span) {held : Entries}
    (distinct : (Entries.names held ++ lines.map Line.key).Nodup) :
    ∃ entries, List.Forall₂ Line.Stands lines entries ∧
      fill assignments (.table .header span held) =
        some (.table .header span (held ++ entries)) := by
  induction holds generalizing held with
  | nil => exact ⟨[], .nil, by simp [fill]⟩
  | @cons l a lines assignments first _ ih =>
    obtain ⟨keys, node⟩ := a
    obtain ⟨⟨place, rfl⟩, spelt⟩ := first
    have fresh : l.key ∉ Entries.names held := by
      intro here
      exact (List.nodup_append.mp distinct).2.2 _ here _ (by simp) rfl
    have distinct : (Entries.names (held ++ [(⟨l.key, place⟩, node)]) ++
        lines.map Line.key).Nodup := by
      rw [Entries.names_append, List.append_assoc]
      exact distinct
    obtain ⟨entries, stand, filled⟩ := ih distinct
    refine ⟨(⟨l.key, place⟩, node) :: entries, .cons ⟨rfl, spelt⟩ stand, ?_⟩
    rw [fill, List.foldlM_cons, assign_key fresh, Option.bind_eq_bind, Option.bind_some, ← fill,
      filled, List.append_assoc]
    rfl

theorem join_block {b : Block} (distinct : (b.lines.map Line.key).Nodup) {s : Section}
    (holds : b.Found s) (span : Option Span) {held : Entries}
    (fresh : b.name ∉ Entries.names held) : ∃ entry, b.Stands entry ∧
      join (.table .header span held) s = some (.table .header span (held ++ [entry])) := by
  obtain ⟨place, headSpan, header⟩ := holds.header
  have absent := Entries.get?_eq_none_iff.mpr fresh
  have alone : Entries.erase held b.name = held := by
    rw [Entries.erase, List.filter_eq_self]
    intro entry here
    have : entry.1.text ≠ b.name := fun same => fresh (List.mem_map.mpr ⟨entry, here, same⟩)
    simpa using this
  have distinct : (Entries.names [] ++ b.lines.map Line.key).Nodup := distinct
  let whole := some (s.place ⟨[⟨b.name, place⟩], false, headSpan⟩)
  obtain ⟨entries, stand, filled⟩ := fill_lines holds.assignments whole distinct
  refine ⟨(⟨b.name, place⟩, .table .header whole entries), ⟨rfl, whole, entries, rfl, stand⟩, ?_⟩
  rw [join, header]
  simp [descend, openTable, absent, filled, alone, whole]

/-- The tables come in one after the other. -/
theorem join_blocks {blocks : List Block} (valid : ∀ b ∈ blocks, b.Valid) {secs : List Section}
    (holds : List.Forall₂ Block.Found blocks secs) (span : Option Span) {held : Entries}
    (distinct : (Entries.names held ++ blocks.map Block.name).Nodup) :
    ∃ entries, List.Forall₂ Block.Stands blocks entries ∧
      secs.foldlM join (.table .header span held) =
        some (.table .header span (held ++ entries)) := by
  induction holds generalizing held with
  | nil => exact ⟨[], .nil, by simp⟩
  | @cons b s blocks secs first _ ih =>
    obtain ⟨validFirst, validLater⟩ := List.forall_mem_cons.mp valid
    have fresh : b.name ∉ Entries.names held := by
      intro here
      exact (List.nodup_append.mp distinct).2.2 _ here _ (by simp) rfl
    obtain ⟨entry, stands, joined⟩ := join_block validFirst.distinct first span fresh
    have distinct : (Entries.names (held ++ [entry]) ++ blocks.map Block.name).Nodup := by
      rw [Entries.names_append, List.append_assoc]
      have named : Entries.names [entry] = [b.name] := by simp [Entries.names, stands.1]
      rw [named]
      exact distinct
    obtain ⟨entries, stand, rest⟩ := ih validLater distinct
    refine ⟨entry :: entries, .cons stands stand, ?_⟩
    rw [List.foldlM_cons, joined, Option.bind_eq_bind, Option.bind_some, rest, List.append_assoc]
    rfl

/-- What was written is read as a tree with a table for each block. -/
theorem parse?_write {blocks : List Block} (valid : ∀ b ∈ blocks, b.Valid)
    (distinct : (blocks.map Block.name).Nodup) : ∃ entries,
      parse? (write blocks) = some (.table .header none entries) ∧
      List.Forall₂ Block.Stands blocks entries := by
  obtain ⟨found, secs, holds, read, grouped⟩ := statements?_blocks valid
  have distinct : (Entries.names [] ++ blocks.map Block.name).Nodup := distinct
  obtain ⟨entries, stand, joined⟩ := join_blocks valid holds none distinct
  refine ⟨entries, ?_, stand⟩
  have unmarked : dropMark (write blocks).toList =
      blocks.flatMap fun b => b.pieces.flatten := by
    rw [write, String.toList_ofList]
    cases blocks <;> rfl
  have enough := pieces_le blocks
  have fuel : (blocks.flatMap fun b => b.pieces.flatten).length + 1 =
      ((blocks.flatMap fun b => b.pieces.flatten).length - (blocks.flatMap Block.pieces).length)
        + 1 + (blocks.flatMap Block.pieces).length := by
    omega
  rw [parse?, unmarked, fuel, read, Option.bind_eq_bind, Option.bind_some, grouped,
    List.foldlM_cons]
  exact joined

end ChatRelay.Toml
