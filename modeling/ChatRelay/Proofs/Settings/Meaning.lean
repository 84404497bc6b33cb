import ChatRelay.Proofs.Settings.Known

/-!
# What a document says of the settings

A document can be read if every setting that it holds is of its type and in its range; then those
are as the document says and the others have their defaults. Nothing else in a document matters, and
no setting depends on what is said of another.
-/

namespace ChatRelay

open Toml (Node Key Entries Span)

namespace Settings

def keysOf (part : String) : List String :=
  (known.filter fun x => x.part == part).map fun x => x.setting.key

/-- A section that is an array becomes the table that assigns the items to its keys. -/
def spreadEntry (entry : Key × Node) : Key × Node :=
  if (keysOf entry.1.text).isEmpty then entry
  else (entry.1, asTable (keysOf entry.1.text) entry.1.span entry.2)

def spread : Node → Node
  | .table form span entries => .table form span (entries.map spreadEntry)
  | node => node

theorem keysOf_distinct (part : String) : (keysOf part).Nodup := by
  have pairs : (known.map fun x => (x.part, x.setting.key)).Nodup := by decide
  refine List.Nodup.map_on ?_ ((List.Nodup.of_map _ pairs).filter _)
  intro x hx y hy same
  obtain ⟨hx, partX⟩ := List.mem_filter.mp hx
  obtain ⟨hy, partY⟩ := List.mem_filter.mp hy
  have part : x.part = y.part := (beq_iff_eq.mp partX).trans (beq_iff_eq.mp partY).symm
  exact List.inj_on_of_nodup_map pairs hx hy (Prod.ext part same)

theorem spreadEntry_key (entry : Key × Node) : (spreadEntry entry).1 = entry.1 := by
  unfold spreadEntry
  split <;> rfl

/-- The field of a section takes an array as the table that it stands for. -/
theorem enter_asTable {σ : Type} {part record : String} {fields : List (Field σ)} {defaults : σ}
    {put : σ → Settings → Settings} (distinct : (fields.map Field.name).Nodup) (key : Span)
    (node : Node) (s : Settings) :
    (sectionField part record fields defaults put).enter key
        (asTable (fields.map Field.name) key node) s =
      (sectionField part record fields defaults put).enter key node s :=
  congrArg (Except.map fun v => put v s) (decodeRecord_asTable distinct record defaults key node)

theorem enter_spreadEntry {f : Field Settings} (hf : f ∈ settingsFields) (entry : Key × Node)
    (named : f.name = entry.1.text) (s : Settings) :
    f.enter entry.1.span (spreadEntry entry).2 s = f.enter entry.1.span entry.2 s := by
  have same (names : List String) (keys : keysOf f.name = names) (some : names.isEmpty = false) :
      (spreadEntry entry).2 = asTable names entry.1.span entry.2 := by
    rw [spreadEntry, ← named, keys, some]
    rfl
  simp only [settingsFields, List.mem_cons, List.not_mem_nil, or_false] at hf
  rcases hf with rfl | rfl | rfl | rfl | rfl
  · rw [same (serverFields.map Field.name) rfl rfl]
    exact enter_asTable server_described.distinct _ _ s
  · rw [same (networkFields.map Field.name) rfl rfl]
    exact enter_asTable network_described.distinct _ _ s
  · rw [same (chatFields.map Field.name) rfl rfl]
    exact enter_asTable chat_described.distinct _ _ s
  · rw [same (loggingFields.map Field.name) rfl rfl]
    exact enter_asTable logging_described.distinct _ _ s
  · rw [same (observabilityFields.map Field.name) rfl rfl]
    exact enter_asTable observability_described.distinct _ _ s

theorem ofNode_spread (root : Node) : ofNode (spread root) = ofNode root := by
  cases root with
  | table form span entries =>
    change decodeTable settingsFields (entries.map spreadEntry) {} =
      decodeTable settingsFields entries {}
    rw [decodeTable, List.foldlM_map, decodeTable]
    congr 1
    funext s ⟨key, node⟩
    have entry : spreadEntry (key, node) = (key, (spreadEntry (key, node)).2) :=
      Prod.ext (spreadEntry_key _) rfl
    rw [entry]
    dsimp only
    split
    · rename_i f found
      exact enter_spreadEntry (List.mem_of_find?_eq_some found) (key, node)
        (by simpa using List.find?_some found) s
    · rfl
  | _ => rfl

theorem names_assigned (names : List String) (key : Span) (items : List Node) :
    Entries.names (assigned names key items) = names.take items.length := by
  induction names generalizing items with
  | nil => simp [assigned, Entries.names]
  | cons name rest ih =>
    cases items with
    | nil => rfl
    | cons item items => exact congrArg (name :: ·) (ih items)

theorem asTable_sound {names : List String} (distinct : names.Nodup) (key : Span) {node : Node}
    (sound : node.Sound) : (asTable names key node).Sound := by
  have all {form : Toml.Form} {span : Option Span} {items : List Node}
      (items_sound : ∀ item ∈ items, item.Sound) :
      (Node.table form span (assigned names key items)).Sound := by
    refine .table form span ?_ ?_
    · rw [names_assigned]
      exact distinct.sublist (List.take_sublist _ _)
    · intro entry here
      obtain ⟨⟨name, item⟩, pair, rfl⟩ := List.mem_map.mp here
      exact items_sound item (List.of_mem_zip pair).2
  cases node with
  | array span items => exact all sound.items
  | tables items => exact all sound.members
  | _ => exact sound

theorem spread_sound {root : Node} (sound : root.Sound) : (spread root).Sound := by
  cases root with
  | table form span entries =>
    refine .table form span ?_ ?_
    · have names : Entries.names (entries.map spreadEntry) = Entries.names entries := by
        rw [Entries.names, List.map_map]
        exact List.map_congr_left fun entry _ => congrArg Key.text (spreadEntry_key entry)
      rw [names]
      exact sound.names
    · intro entry here
      obtain ⟨entry', there, rfl⟩ := List.mem_map.mp here
      unfold spreadEntry
      split
      · exact sound.inside entry' there
      · exact asTable_sound (keysOf_distinct _) _ (sound.inside entry' there)
  | _ => exact sound

theorem spread_isTable {root : Node} (whole : root.IsTable) : (spread root).IsTable := by
  obtain ⟨form, span, entries, rfl⟩ := whole
  exact ⟨form, span, _, rfl⟩

end Settings

namespace Known

variable (x : Known) {root root' : Node}

/-- What the document says of the setting, if it says something; nothing inside, if that cannot be
understood. -/
def said? (root : Node) : Option (Option Value) := (x.node? root).map x.setting.kind.read?

variable {x} (same : x.said? root' = x.said? root)

include same

theorem fits_of_said (fits : x.Fits root') : x.Fits root := by
  intro node found
  have said : x.said? root' = some (x.setting.kind.read? node) := by rw [same, said?, found]; rfl
  obtain ⟨node', found', read⟩ := Option.map_eq_some_iff.mp said
  rw [← read]
  exact fits node' found'

theorem value_of_said {s s' : Settings} (told : x.Told root s) (told' : x.Told root' s') :
    x.value s' = x.value s := by
  cases found : x.node? root with
  | none =>
    have absent : x.node? root' = none := by
      rw [said?, said?, found] at same
      exact Option.map_eq_none_iff.mp same
    rw [told.2 found, told'.2 absent]
  | some node =>
    have said : x.said? root' = some (some (x.value s)) := by
      rw [same, said?, found, ← told.1 node found]
      rfl
    obtain ⟨node', found', read⟩ := Option.map_eq_some_iff.mp said
    exact Option.some.inj ((told'.1 node' found').symm.trans read)

end Known

namespace Settings

structure Reads (text : String) (root : Node) : Prop where
  accepted : (∃ s, read text = .ok s) ↔ ∀ x ∈ known, x.Fits root
  told : ∀ s, read text = .ok s → ∀ x ∈ known, x.Told root s

/-- What a document means, seen as a tree. -/
structure Meaning (text : String) (root : Node) : Prop extends Reads text root where
  /-- Documents that say the same of all settings are read alike. -/
  alike : ∀ text' root', Toml.parse? text' = some root' → Sectioned root' →
    (∀ x ∈ known, x.said? root' = x.said? root) → ∀ s, read text' = .ok s ↔ read text = .ok s
  /-- A setting of which two documents say the same is the same, whatever they say of others. -/
  apart : ∀ text' root', Toml.parse? text' = some root' → Sectioned root' →
    ∀ s s', read text = .ok s → read text' = .ok s' →
    ∀ x ∈ known, x.said? root' = x.said? root → x.value s' = x.value s

theorem Reads.agree {text text' : String} {root root' : Node} (reads : Reads text root)
    (reads' : Reads text' root') (same : ∀ x ∈ known, x.said? root' = x.said? root) {s : Settings}
    (done : read text' = .ok s) : read text = .ok s := by
  have fits := reads'.accepted.mp ⟨s, done⟩
  obtain ⟨s', done'⟩ := reads.accepted.mpr fun x hx => Known.fits_of_said (same x hx) (fits x hx)
  obtain rfl : s = s' := ext_known fun x hx =>
    Known.value_of_said (same x hx) (reads.told s' done' x hx) (reads'.told s done x hx)
  exact done'

theorem reads_of_tree {text : String} {root tree : Node} (parsed : Toml.parse? text = some root)
    (same : ofNode tree = ofNode root) (sound : tree.Sound) (whole : tree.IsTable)
    (sectioned : Sectioned tree) : Reads text tree := by
  have read_iff (s : Settings) : read text = .ok s ↔ ofNode tree = .ok s := by
    rw [read_eq_ok_iff parsed, same]
  obtain ⟨accepted, told⟩ := ofNode_table sound whole sectioned
  simp only [← read_iff] at accepted told
  exact ⟨accepted, told⟩

theorem Reads.meaning {text : String} {root : Node} (reads : Reads text root) :
    Meaning text root := by
  have other {text' root'} (parsed : Toml.parse? text' = some root')
      (sectioned : Sectioned root') : Reads text' root' :=
    reads_of_tree parsed rfl (Toml.parse?_sound parsed) (Toml.parse?_isTable parsed) sectioned
  refine ⟨reads, ?_, ?_⟩
  · intro text' root' parsed sectioned same s
    have reads' := other parsed sectioned
    exact ⟨reads.agree reads' same, reads'.agree reads fun x hx => (same x hx).symm⟩
  · intro text' root' parsed sectioned s s' done done' x hx same
    exact Known.value_of_said same (reads.told s done x hx)
      ((other parsed sectioned).told s' done' x hx)

/-- What is read from a document: its known sections are tables, or arrays that stand for
tables. -/
theorem read_meaning {text : String} {root : Node} (parsed : Toml.parse? text = some root) :
    (Sectioned root → Meaning text root) ∧ ofNode root = ofNode (spread root) ∧
      (Sectioned (spread root) → Meaning text (spread root)) := by
  have sound := Toml.parse?_sound parsed
  have whole := Toml.parse?_isTable parsed
  have same := ofNode_spread root
  exact ⟨fun sectioned => (reads_of_tree parsed rfl sound whole sectioned).meaning, same.symm,
    fun sectioned => (reads_of_tree parsed same (spread_sound sound) (spread_isTable whole)
      sectioned).meaning⟩

/-- A document with a section, a value and a key that nobody knows. -/
def salon : String :=
  "[chat]\nsende_queue_groesse = 8\nfarbe = 'rot'\n[gast]\nname = 'Anna'\n" ++
    "[server]\nmax_clients = 7\nname = 'Salon'\n"

/-- The same settings with a section that is an array, in which there is an item too many. -/
def salonInArray : String := "server = ['Salon', 7, true]\nchat.sende_queue_groesse = 8\n"

theorem salon_parsed : (Toml.parse? salon).isSome := by decide +kernel

theorem salonInArray_parsed : (Toml.parse? salonInArray).isSome := by decide +kernel

theorem read_meaning_salon :
    let root := (Toml.parse? salon).get salon_parsed
    let root' := (Toml.parse? salonInArray).get salonInArray_parsed
    Sectioned root ∧ ¬ Sectioned root' ∧ Sectioned (spread root') ∧
      read salon = .ok { server := ⟨"Salon", 7⟩, chat := { queueSize := 8 } } ∧
      read salonInArray = read salon ∧
      Meaning salon root ∧ Meaning salonInArray (spread root') := by
  have tables : Sectioned ((Toml.parse? salon).get salon_parsed) := by decide +kernel
  have tables' : Sectioned (spread ((Toml.parse? salonInArray).get salonInArray_parsed)) := by
    decide +kernel
  refine ⟨tables, by decide +kernel, tables', by decide +kernel, by decide +kernel, ?_, ?_⟩
  · exact (read_meaning (Option.some_get salon_parsed).symm).1 tables
  · exact (read_meaning (Option.some_get salonInArray_parsed).symm).2.2 tables'

end Settings

end ChatRelay
