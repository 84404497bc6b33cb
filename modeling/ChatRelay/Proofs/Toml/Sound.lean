import ChatRelay.Toml.Document
import Mathlib.Data.List.Nodup

/-!
# Documents are well-formed trees

In the tree of a document no table has two entries of one name, and every integer is one of 64 bits
with a sign. Every way to change a tree while a document is read keeps it so.
-/

namespace ChatRelay.Toml

namespace Entries

def names (entries : Entries) : List String := entries.map fun entry => entry.1.text

section Lookup

variable {entries : Entries} {name : String} {node : Node}

theorem get?_cons (key : Key) (first : Node) (rest : Entries) :
    Entries.get? ((key, first) :: rest) name =
      if key.text = name then some first else Entries.get? rest name := by
  by_cases here : key.text = name <;> simp [get?, here]

theorem mem_of_get? (found : Entries.get? entries name = some node) :
    ∃ key, (key, node) ∈ entries ∧ key.text = name := by
  obtain ⟨⟨key, node'⟩, first, rfl⟩ := Option.map_eq_some_iff.mp found
  exact ⟨key, List.mem_of_find?_eq_some first, by simpa using List.find?_some first⟩

theorem get?_eq_none_iff : Entries.get? entries name = none ↔ name ∉ names entries := by
  simp only [get?, names, Option.map_eq_none_iff, List.find?_eq_none, beq_iff_eq, List.mem_map,
    not_exists, not_and]

/-- In a table without two entries of one name each entry is found under its name. -/
theorem get?_of_mem (distinct : (names entries).Nodup) {key : Key} (here : (key, node) ∈ entries) :
    Entries.get? entries key.text = some node := by
  induction entries with
  | nil => cases here
  | cons first rest ih =>
    rw [names, List.map_cons, List.nodup_cons] at distinct
    rw [get?_cons]
    rcases List.mem_cons.mp here with rfl | later
    · exact if_pos rfl
    · have apart : first.1.text ≠ key.text := fun same =>
        distinct.1 (List.mem_map.mpr ⟨_, later, same.symm⟩)
      rw [if_neg apart]
      exact ih distinct.2 later

end Lookup

theorem names_append (entries more : Entries) :
    names (entries ++ more) = names entries ++ names more := List.map_append

theorem names_set (entries : Entries) (name : String) (node : Node) :
    names (Entries.set entries name node) = names entries := by
  rw [names, Entries.set, List.map_map]
  refine List.map_congr_left fun entry _ => ?_
  by_cases here : entry.1.text = name <;> simp [here]

theorem names_erase (entries : Entries) (name : String) :
    names (Entries.erase entries name) = (names entries).filter (· != name) := by
  rw [names, names, Entries.erase, List.filter_map]
  rfl

end Entries

theorem inRange_iff {n : Int} :
    inRange n = true ↔ -(Nat.pow 2 63 : Int) ≤ n ∧ n < Nat.pow 2 63 := by
  rw [inRange, Bool.and_eq_true, decide_eq_true_iff, decide_eq_true_iff]

/-- The entries of a table; other values have none. -/
def Node.entries : Node → Entries
  | .table _ _ entries => entries
  | _ => []

inductive Node.Sound : Node → Prop where
  | string (span text) : Sound (.string span text)
  | integer (span) {n} (fits : inRange n = true) : Sound (.integer span n)
  | float (span x) : Sound (.float span x)
  | boolean (span b) : Sound (.boolean span b)
  | datetime (span) : Sound (.datetime span)
  | array (span) {items} (sound : ∀ item ∈ items, Sound item) : Sound (.array span items)
  | tables {items} (sound : ∀ item ∈ items, Sound item) : Sound (.tables items)
  | table (form span) {entries} (distinct : (Entries.names entries).Nodup)
      (sound : ∀ entry ∈ entries, Sound entry.2) : Sound (.table form span entries)

namespace Node.Sound

section Tables

variable {form : Form} {span : Option Span} {entries : Entries} {node : Node}

theorem empty (form : Form) (span : Option Span) : (Node.table form span []).Sound :=
  .table form span List.nodup_nil (by simp)

theorem names (sound : (Node.table form span entries).Sound) :
    (Entries.names entries).Nodup := by
  cases sound with
  | table _ _ distinct _ => exact distinct

theorem inside (sound : (Node.table form span entries).Sound) :
    ∀ entry ∈ entries, entry.2.Sound := by
  cases sound with
  | table _ _ _ sound => exact sound

theorem integer_inRange {place : Span} {n : Int} (sound : (Node.integer place n).Sound) :
    inRange n = true := by
  cases sound with
  | integer _ fits => exact fits

theorem items {place : Span} {items : List Node} (sound : (Node.array place items).Sound) :
    ∀ item ∈ items, item.Sound := by
  cases sound with
  | array _ sound => exact sound

theorem members {items : List Node} (sound : (Node.tables items).Sound) :
    ∀ item ∈ items, item.Sound := by
  cases sound with
  | tables sound => exact sound

theorem get? (sound : (Node.table form span entries).Sound) {name : String}
    (found : Entries.get? entries name = some node) : node.Sound := by
  obtain ⟨key, here, -⟩ := Entries.mem_of_get? found
  exact sound.inside _ here

theorem entries_names {root : Node} (sound : root.Sound) : (Entries.names root.entries).Nodup := by
  cases root with
  | table form span entries => exact sound.names
  | _ => exact List.nodup_nil

theorem entries_get? {root : Node} (sound : root.Sound) {name : String}
    (found : Entries.get? root.entries name = some node) : node.Sound := by
  cases root with
  | table form span entries => exact sound.get? found
  | _ => cases found

theorem append (sound : (Node.table form span entries).Sound) {key : Key}
    (absent : Entries.get? entries key.text = none) (new : node.Sound) :
    (Node.table form span (entries ++ [(key, node)])).Sound := by
  refine .table form span ?_ ?_
  · rw [Entries.names_append, List.nodup_append]
    refine ⟨sound.names, List.nodup_singleton _, ?_⟩
    rintro name here other new' rfl
    rw [List.mem_singleton.mp new'] at here
    exact Entries.get?_eq_none_iff.mp absent here
  · intro entry here
    rcases List.mem_append.mp here with old | last
    · exact sound.inside entry old
    · rw [List.mem_singleton.mp last]
      exact new

theorem set (sound : (Node.table form span entries).Sound) (name : String) (new : node.Sound) :
    (Node.table form span (Entries.set entries name node)).Sound := by
  refine .table form span (by simpa only [Entries.names_set] using sound.names) ?_
  intro entry here
  obtain ⟨old, there, rfl⟩ := List.mem_map.mp here
  by_cases named : old.1.text = name
  · simpa [named] using new
  · simpa [named] using sound.inside old there

theorem erase (sound : (Node.table form span entries).Sound) (name : String) :
    (Node.table form span (Entries.erase entries name)).Sound := by
  refine .table form span ?_ fun entry here => sound.inside entry (List.mem_of_mem_filter here)
  rw [Entries.names_erase]
  exact sound.names.filter _

/-- A table may come into the document in another way. -/
theorem reopen (sound : (Node.table form span entries).Sound) (form' : Form)
    (span' : Option Span) : (Node.table form' span' entries).Sound :=
   .table form' span' sound.names sound.inside

end Tables

end Node.Sound

/-- What is done to a node keeps a property of it. -/
def Keeps (Q : Node → Prop) (f : Node → Option Node) : Prop :=
  ∀ ⦃node node' : Node⦄, f node = some node' → Q node → Q node'

theorem foldlM_keeps {α : Type} {Q : Node → Prop} {f : Node → α → Option Node} {items : List α}
    (keeps : ∀ item ∈ items, Keeps Q fun node => f node item) :
    Keeps Q fun node => items.foldlM f node := by
  induction items with
  | nil =>
    intro node node' done holds
    obtain rfl := Option.some.inj done
    exact holds
  | cons item rest ih =>
    intro node node' done holds
    obtain ⟨next, first, later⟩ := Option.bind_eq_some_iff.mp (List.foldlM_cons.symm.trans done)
    exact ih (fun other here => keeps other (List.mem_cons_of_mem _ here)) later
      (keeps item List.mem_cons_self first holds)

theorem descend_keeps (opened : Form) {f : Node → Option Node} (keeps : Keeps Node.Sound f)
    (path : List Key) : Keeps Node.Sound (descend opened f path) := by
  induction path with
  | nil => exact keeps
  | cons key path ih =>
    intro node node' done sound
    cases node with
    | table form span entries =>
      rw [descend] at done
      split at done
      case h_1 absent =>
        obtain ⟨child, below, done⟩ := Option.bind_eq_some_iff.mp done
        obtain rfl := Option.some.inj done
        exact sound.append absent (ih below (.empty opened none))
      case h_2 childForm childSpan childEntries found =>
        split at done
        · cases done
        · obtain ⟨child, below, done⟩ := Option.bind_eq_some_iff.mp done
          obtain rfl := Option.some.inj done
          exact sound.set key.text (ih below (sound.get? found))
      case h_3 items found =>
        split at done
        · cases done
        · rename_i last atEnd
          obtain ⟨child, below, done⟩ := Option.bind_eq_some_iff.mp done
          obtain rfl := Option.some.inj done
          have members := (sound.get? found).members
          refine sound.set key.text (.tables fun item here => ?_)
          rcases List.mem_append.mp here with old | new
          · exact members item (List.dropLast_subset items old)
          · rw [List.mem_singleton.mp new]
            exact ih below (members last (List.mem_of_getLast? atEnd))
      case h_4 => cases done
    | _ => cases done

theorem enter_keeps (isDotted : Bool) (key : Key) {value : Node} (new : value.Sound) :
    Keeps Node.Sound (enter isDotted key value) := by
  intro node node' done sound
  cases node with
  | table form span entries =>
    rw [enter] at done
    split at done
    · cases done
    · split at done
      · cases done
      · rename_i free
        obtain rfl := Option.some.inj done
        exact sound.append (by simpa using free) new
  | _ => cases done

theorem assign_keeps (keys : List Key) {value : Node} (new : value.Sound) :
    Keeps Node.Sound (assign keys value) := by
  intro node node' done
  unfold assign at done
  split at done
  · cases done
  · exact descend_keeps .dotted (enter_keeps _ _ new) _ done

/-- Whatever is read has the property. -/
def Reader.Yields {α : Type} (P : α → Prop) (r : Reader α) : Prop :=
  ∀ ⦃cs a rest⦄, r cs = some (a, rest) → P a

section Values

variable {value : Reader Node} (sound : value.Yields Node.Sound)

include sound

theorem arrayItems_sound (fuel : Nat) :
    (arrayItems value fuel).Yields fun items => ∀ item ∈ items, item.Sound := by
  induction fuel with
  | zero =>
    intro cs items rest done
    cases done
  | succ fuel ih =>
    intro cs items rest done
    rw [arrayItems] at done
    split at done
    · obtain ⟨rfl, rfl⟩ := Prod.mk.inj (Option.some.inj done)
      simp
    · obtain ⟨⟨item, behind⟩, first, done⟩ := Option.bind_eq_some_iff.mp done
      dsimp only at done
      split at done
      · obtain ⟨⟨more, after⟩, later, done⟩ := Option.bind_eq_some_iff.mp done
        obtain ⟨rfl, rfl⟩ := Prod.mk.inj (Option.some.inj done)
        exact List.forall_mem_cons.mpr ⟨sound first, ih later⟩
      · obtain ⟨rfl, rfl⟩ := Prod.mk.inj (Option.some.inj done)
        exact List.forall_mem_singleton.mpr (sound first)
      · cases done

theorem assignment?_sound : Reader.Yields (fun entry => entry.2.Sound) (assignment? value) := by
  intro cs entry rest done
  obtain ⟨⟨keys, behind⟩, -, done⟩ := Option.bind_eq_some_iff.mp done
  dsimp only at done
  split at done
  · obtain ⟨⟨node, after⟩, first, done⟩ := Option.bind_eq_some_iff.mp done
    obtain ⟨rfl, rfl⟩ := Prod.mk.inj (Option.some.inj done)
    exact sound first
  · cases done

theorem inlineEntries_sound (fuel : Nat) :
    (inlineEntries value fuel).Yields fun entries => ∀ entry ∈ entries, entry.2.Sound := by
  induction fuel with
  | zero =>
    intro cs entries rest done
    cases done
  | succ fuel ih =>
    intro cs entries rest done
    obtain ⟨⟨entry, behind⟩, first, done⟩ := Option.bind_eq_some_iff.mp done
    have new := assignment?_sound sound first
    dsimp only at done
    split at done
    · obtain ⟨⟨more, after⟩, later, done⟩ := Option.bind_eq_some_iff.mp done
      obtain ⟨rfl, rfl⟩ := Prod.mk.inj (Option.some.inj done)
      exact List.forall_mem_cons.mpr ⟨new, ih later⟩
    · obtain ⟨rfl, rfl⟩ := Prod.mk.inj (Option.some.inj done)
      exact List.forall_mem_singleton.mpr new
    · cases done

theorem inlineBody_sound :
    Reader.Yields (fun entries => ∀ entry ∈ entries, entry.2.Sound) (inlineBody value) := by
  intro cs entries rest done
  unfold inlineBody at done
  split at done
  · obtain ⟨rfl, rfl⟩ := Prod.mk.inj (Option.some.inj done)
    simp
  · exact inlineEntries_sound sound _ done

end Values

theorem fill_keeps {assignments : List (List Key × Node)}
    (sound : ∀ entry ∈ assignments, entry.2.Sound) : Keeps Node.Sound (fill assignments) :=
  foldlM_keeps fun entry here => assign_keeps entry.1 (sound entry here)

/-- The number is a floating-point number, or fits into 64 bits. -/
def Numeral.Fits : Numeral → Prop
  | .integer n => inRange n = true
  | .float _ => True

theorem integer_fits {n : Int} {cs rest : List Char} {numeral : Numeral}
    (done : (if inRange n then some (.integer n, cs) else none) = some (numeral, rest)) :
    numeral.Fits := by
  split at done
  · rename_i fits
    obtain ⟨rfl, rfl⟩ := Prod.mk.inj (Option.some.inj done)
    exact fits
  · cases done

theorem checkedFloat_fits (x : Binary64) : Reader.Yields Numeral.Fits (checkedFloat x) := by
  intro cs numeral rest done
  unfold checkedFloat at done
  split at done
  · cases done
  · obtain ⟨rfl, rfl⟩ := Prod.mk.inj (Option.some.inj done)
    trivial

theorem afterInteger_fits (negative : Bool) (whole : List Char) :
    Reader.Yields Numeral.Fits (afterInteger negative whole) := by
  intro cs numeral rest done
  unfold afterInteger at done
  split at done
  · obtain ⟨⟨part, behind⟩, -, done⟩ := Option.bind_eq_some_iff.mp done
    dsimp only at done
    split at done
    · obtain ⟨⟨e, after⟩, -, done⟩ := Option.bind_eq_some_iff.mp done
      exact checkedFloat_fits _ done
    · obtain ⟨⟨e, after⟩, -, done⟩ := Option.bind_eq_some_iff.mp done
      exact checkedFloat_fits _ done
    · exact checkedFloat_fits _ done
  · obtain ⟨⟨e, after⟩, -, done⟩ := Option.bind_eq_some_iff.mp done
    exact checkedFloat_fits _ done
  · obtain ⟨⟨e, after⟩, -, done⟩ := Option.bind_eq_some_iff.mp done
    exact checkedFloat_fits _ done
  · exact integer_fits done

theorem based?_fits (base : Nat) (isDigit : Char → Bool) :
    Reader.Yields Numeral.Fits (based? base isDigit) := by
  intro cs numeral rest done
  obtain ⟨⟨ds, after⟩, -, done⟩ := Option.bind_eq_some_iff.mp done
  exact integer_fits done

theorem numeral?_fits : Reader.Yields Numeral.Fits numeral? := by
  intro cs numeral rest done
  unfold numeral? at done
  split at done
  · exact based?_fits _ _ done
  · exact based?_fits _ _ done
  · exact based?_fits _ _ done
  · dsimp only at done
    split at done
    · obtain ⟨rfl, rfl⟩ := Prod.mk.inj (Option.some.inj done)
      trivial
    · obtain ⟨rfl, rfl⟩ := Prod.mk.inj (Option.some.inj done)
      trivial
    · obtain ⟨⟨whole, after⟩, -, done⟩ := Option.bind_eq_some_iff.mp done
      exact afterInteger_fits _ _ done

theorem scalarValue?_sound : Reader.Yields Node.Sound scalarValue? := by
  intro cs node rest done
  unfold scalarValue? at done
  dsimp only at done
  split at done
  · obtain ⟨rfl, rfl⟩ := Prod.mk.inj (Option.some.inj done)
    exact .boolean _ _
  · obtain ⟨rfl, rfl⟩ := Prod.mk.inj (Option.some.inj done)
    exact .boolean _ _
  · obtain ⟨⟨text, after⟩, -, done⟩ := Option.map_eq_some_iff.mp done
    obtain ⟨rfl, rfl⟩ := Prod.mk.inj done
    exact .string _ _
  · obtain ⟨⟨text, after⟩, -, done⟩ := Option.map_eq_some_iff.mp done
    obtain ⟨rfl, rfl⟩ := Prod.mk.inj done
    exact .string _ _
  · split at done
    · cases done
    · obtain ⟨rfl, rfl⟩ := Prod.mk.inj (Option.some.inj done)
      exact .datetime _
    · obtain ⟨⟨numeral, after⟩, read, done⟩ := Option.map_eq_some_iff.mp done
      have fits := numeral?_fits read
      cases numeral with
      | integer n =>
        obtain ⟨rfl, rfl⟩ := Prod.mk.inj done
        exact .integer _ fits
      | float x =>
        obtain ⟨rfl, rfl⟩ := Prod.mk.inj done
        exact .float _ x

theorem value?_sound (depth : Nat) : (value? depth).Yields Node.Sound := by
  induction depth with
  | zero =>
    intro cs node rest done
    unfold value? at done
    split at done
    · cases done
    · cases done
    · exact scalarValue?_sound done
  | succ depth ih =>
    intro cs node rest done
    unfold value? at done
    split at done
    · obtain ⟨⟨items, after⟩, inside, done⟩ := Option.map_eq_some_iff.mp done
      obtain ⟨rfl, rfl⟩ := Prod.mk.inj done
      exact .array _ (arrayItems_sound ih _ inside)
    · obtain ⟨⟨entries, after⟩, inside, done⟩ := Option.bind_eq_some_iff.mp done
      obtain ⟨table, filled, done⟩ := Option.bind_eq_some_iff.mp done
      obtain ⟨rfl, rfl⟩ := Prod.mk.inj (Option.some.inj done)
      exact fill_keeps (inlineBody_sound ih inside) filled (.empty _ _)
    · exact scalarValue?_sound done

def Statement.Sound : Statement → Prop
  | .assignment _ value => value.Sound
  | _ => True

def Section.Sound (s : Section) : Prop := ∀ entry ∈ s.assignments, entry.2.Sound

theorem statement?_sound : Reader.Yields Statement.Sound statement? := by
  intro cs s rest done
  unfold statement? at done
  split at done
  · cases done
  · obtain ⟨rest', -, done⟩ := Option.map_eq_some_iff.mp done
    obtain ⟨rfl, rfl⟩ := Prod.mk.inj done
    trivial
  · obtain ⟨rfl, rfl⟩ := Prod.mk.inj (Option.some.inj done)
    trivial
  · obtain ⟨rfl, rfl⟩ := Prod.mk.inj (Option.some.inj done)
    trivial
  · obtain ⟨⟨h, after⟩, -, done⟩ := Option.map_eq_some_iff.mp done
    obtain ⟨rfl, rfl⟩ := Prod.mk.inj done
    trivial
  · obtain ⟨⟨⟨keys, value⟩, behind⟩, first, done⟩ := Option.bind_eq_some_iff.mp done
    obtain ⟨after, -, done⟩ := Option.bind_eq_some_iff.mp done
    obtain ⟨rfl, rfl⟩ := Prod.mk.inj (Option.some.inj done)
    exact assignment?_sound (value?_sound _) first

theorem statements?_sound {fuel : Nat} {cs : List Char} {found : List Statement}
    (done : statements? fuel cs = some found) : ∀ s ∈ found, s.Sound := by
  induction fuel generalizing cs found with
  | zero => cases done
  | succ fuel ih =>
    rw [statements?] at done
    split at done
    · obtain rfl := Option.some.inj done
      simp
    · obtain ⟨⟨s, rest⟩, first, done⟩ := Option.bind_eq_some_iff.mp done
      obtain ⟨more, later, done⟩ := Option.bind_eq_some_iff.mp done
      obtain rfl := Option.some.inj done
      exact List.forall_mem_cons.mpr ⟨statement?_sound first, ih later⟩

theorem sections_sound {found : List Statement} (sound : ∀ s ∈ found, s.Sound)
    {current : Section} (currentSound : current.Sound) :
    ∀ s ∈ sections current found, s.Sound := by
  induction found generalizing current with
  | nil => exact List.forall_mem_singleton.mpr currentSound
  | cons s rest ih =>
    obtain ⟨first, later⟩ := List.forall_mem_cons.mp sound
    cases s with
    | empty => exact ih later currentSound
    | header h =>
      refine List.forall_mem_cons.mpr ⟨currentSound, ih later ?_⟩
      intro entry here
      cases here
    | assignment keys value =>
      refine ih later ?_
      intro entry here
      rcases List.mem_append.mp here with old | new
      · exact currentSound entry old
      · rw [List.mem_singleton.mp new]
        exact first

section Joining

variable {s : Section} (sound : s.Sound) (h : Header) (key : Key)

include sound

theorem openTable_keeps : Keeps Node.Sound (openTable s h key) := by
  intro node node' done whole
  cases node with
  | table form span entries =>
    have filled {held : Entries} (heldSound : (Node.table .header (some (s.place h)) held).Sound)
        (done : ((fill s.assignments (.table .header (some (s.place h)) held)).bind fun table =>
          some (.table form span (Entries.erase entries key.text ++ [(key, table)]))) =
            some node') : node'.Sound := by
      obtain ⟨table, filled, done⟩ := Option.bind_eq_some_iff.mp done
      obtain rfl := Option.some.inj done
      refine (whole.erase key.text).append ?_ (fill_keeps sound filled heldSound)
      rw [Entries.get?_eq_none_iff, Entries.names_erase]
      simp
    rw [openTable] at done
    split at done
    · exact filled (.empty _ _) done
    · rename_i found
      exact filled ((whole.get? found).reopen _ _) done
    · cases done
  | _ => cases done

theorem addTable_keeps : Keeps Node.Sound (addTable s h key) := by
  intro node node' done whole
  cases node with
  | table form span entries =>
    obtain ⟨table, filled, done⟩ := Option.bind_eq_some_iff.mp done
    have tableSound := fill_keeps sound filled (.empty _ _)
    split at done
    · rename_i absent
      obtain rfl := Option.some.inj done
      exact whole.append absent (.tables (List.forall_mem_singleton.mpr tableSound))
    · rename_i items found
      obtain rfl := Option.some.inj done
      refine whole.set key.text (.tables fun item here => ?_)
      rcases List.mem_append.mp here with old | new
      · exact (whole.get? found).members item old
      · rw [List.mem_singleton.mp new]
        exact tableSound
    · cases done
  | _ => cases done

theorem join_keeps : Keeps Node.Sound fun root => join root s := by
  intro root root' done
  unfold join at done
  split at done
  · exact fill_keeps sound done
  · rename_i h _
    split at done
    · cases done
    · rename_i key _
      refine descend_keeps .passed ?_ _ done
      split
      · exact addTable_keeps sound h key
      · exact openTable_keeps sound h key

end Joining

def Node.IsTable (node : Node) : Prop := ∃ form span entries, node = .table form span entries

instance (node : Node) : Decidable node.IsTable :=
  match node with
  | .table form span entries => isTrue ⟨form, span, entries, rfl⟩
  | .string .. | .integer .. | .float .. | .boolean .. | .datetime .. | .array .. | .tables .. =>
    isFalse fun ⟨_, _, _, other⟩ => nomatch other

theorem descend_isTable (opened : Form) {f : Node → Option Node} (keeps : Keeps Node.IsTable f)
    (path : List Key) : Keeps Node.IsTable (descend opened f path) := by
  cases path with
  | nil => exact keeps
  | cons key path =>
    rintro _ node' done ⟨form, span, entries, rfl⟩
    rw [descend] at done
    split at done
    · obtain ⟨child, -, done⟩ := Option.bind_eq_some_iff.mp done
      exact ⟨_, _, _, (Option.some.inj done).symm⟩
    · split at done
      · cases done
      · obtain ⟨child, -, done⟩ := Option.bind_eq_some_iff.mp done
        exact ⟨_, _, _, (Option.some.inj done).symm⟩
    · split at done
      · cases done
      · obtain ⟨child, -, done⟩ := Option.bind_eq_some_iff.mp done
        exact ⟨_, _, _, (Option.some.inj done).symm⟩
    · cases done

theorem assign_isTable (keys : List Key) (value : Node) :
    Keeps Node.IsTable (assign keys value) := by
  intro node node' done table
  unfold assign at done
  split at done
  · cases done
  · refine descend_isTable .dotted ?_ _ done table
    rintro _ node' done ⟨form, span, entries, rfl⟩
    rw [enter] at done
    split at done
    · cases done
    · split at done
      · cases done
      · exact ⟨_, _, _, (Option.some.inj done).symm⟩

theorem openTable_isTable (s : Section) (h : Header) (key : Key) :
    Keeps Node.IsTable (openTable s h key) := by
  rintro _ node' done ⟨form, span, entries, rfl⟩
  rw [openTable] at done
  split at done
  · obtain ⟨held, -, done⟩ := Option.bind_eq_some_iff.mp done
    obtain ⟨table, -, done⟩ := Option.bind_eq_some_iff.mp done
    exact ⟨_, _, _, (Option.some.inj done).symm⟩
  · obtain ⟨held, -, done⟩ := Option.bind_eq_some_iff.mp done
    obtain ⟨table, -, done⟩ := Option.bind_eq_some_iff.mp done
    exact ⟨_, _, _, (Option.some.inj done).symm⟩
  · cases done

theorem addTable_isTable (s : Section) (h : Header) (key : Key) :
    Keeps Node.IsTable (addTable s h key) := by
  rintro _ node' done ⟨form, span, entries, rfl⟩
  obtain ⟨table, -, done⟩ := Option.bind_eq_some_iff.mp done
  split at done
  · exact ⟨_, _, _, (Option.some.inj done).symm⟩
  · exact ⟨_, _, _, (Option.some.inj done).symm⟩
  · cases done

theorem join_isTable (s : Section) : Keeps Node.IsTable fun root => join root s := by
  intro root root' done
  unfold join at done
  split at done
  · exact foldlM_keeps (fun entry _ => assign_isTable entry.1 entry.2) done
  · rename_i h _
    split at done
    · cases done
    · rename_i key _
      refine descend_isTable .passed ?_ _ done
      split
      · exact addTable_isTable s h key
      · exact openTable_isTable s h key

theorem parse?_isTable {text : String} {root : Node} (parsed : parse? text = some root) :
    root.IsTable := by
  obtain ⟨found, -, joined⟩ := Option.bind_eq_some_iff.mp parsed
  exact foldlM_keeps (fun s _ => join_isTable s) joined ⟨_, _, _, rfl⟩

/-- The tree of a document is well-formed. -/
theorem parse?_sound {text : String} {root : Node} (parsed : parse? text = some root) :
    root.Sound := by
  obtain ⟨found, read, joined⟩ := Option.bind_eq_some_iff.mp parsed
  have start : Section.Sound { header := none } := by
    intro entry here
    cases here
  have all := sections_sound (statements?_sound read) start
  exact foldlM_keeps (fun s here => join_keeps (all s here)) joined (.empty _ _)

end ChatRelay.Toml
