import ChatRelay.Proofs.Settings.Known
import ChatRelay.Proofs.Toml.Written
import ChatRelay.Settings.Load

/-!
# Settings can be written down

Settings are written as a document with their five sections, each a header with a line for every
field. Whatever stands in the texts, and whatever the numbers are as far as a document can hold
them, the same settings are read from it.
-/

namespace ChatRelay

open Toml (Node Key Entries Span Line Block Readable Spelt)

def Value.spelling : Value → List Char
  | .text v => Toml.spellText v
  | .truth v => Toml.spellTruth v
  | .natural v => Toml.spellNatural v

/-- The lines of a record, one for each setting. -/
def recordLines {σ : Type} (settings : List (Setting σ)) (record : σ) : List Line :=
  settings.map fun x => ⟨x.key, (x.value record).spelling⟩

namespace Settings

def blocks (s : Settings) : List Block :=
  [⟨"server", recordLines serverSettings s.server⟩,
    ⟨"netzwerk", recordLines networkSettings s.network⟩,
    ⟨"chat", recordLines chatSettings s.chat⟩,
    ⟨"logging", recordLines loggingSettings s.logging⟩,
    ⟨"observability", recordLines observabilitySettings s.observability⟩]

def document (s : Settings) : String := Toml.write s.blocks

/-- The numbers of 64 bits are no larger than a document can hold. -/
def Writable (s : Settings) : Prop :=
  ∀ n ∈ [s.chat.handshakeTimeout, s.chat.queueSize, s.chat.keepalive, s.chat.idleTimeout,
    s.chat.writeTimeout], n.toNat < Nat.pow 2 63

instance (s : Settings) : Decidable s.Writable :=
  List.decidableBAll (fun n => UInt64.toNat n < Nat.pow 2 63) _

end Settings

def Kind.Admits : Kind → Value → Prop
  | .text, .text _ => True
  | .truth, .truth _ => True
  | .natural limit, .natural n => n < limit ∧ n < Nat.pow 2 63
  | _, _ => False

section Value

variable {kind : Kind} {v : Value} (admitted : kind.Admits v)

include admitted

theorem value?_spelling (depth : Nat) (rest : List Char) : ∃ node,
    kind.read? node = some v ∧
      Toml.value? depth (v.spelling ++ '\n' :: rest) = some (node, '\n' :: rest) := by
  cases kind with
  | text =>
    cases v with
    | text text =>
      obtain ⟨span, read⟩ := Toml.value?_spellText depth rest text
      exact ⟨_, rfl, read⟩
    | _ => cases admitted
  | truth =>
    cases v with
    | truth b =>
      obtain ⟨span, read⟩ := Toml.value?_spellTruth depth rest b
      exact ⟨_, rfl, read⟩
    | _ => cases admitted
  | natural limit =>
    cases v with
    | natural n =>
      obtain ⟨small, fits⟩ := admitted
      obtain ⟨span, read⟩ := Toml.value?_spellNatural depth rest fits
      refine ⟨_, ?_, read⟩
      have within : (0 : Int) ≤ n ∧ (n : Int) < limit := by omega
      rw [Kind.read?, if_pos within]
      rfl
    | _ => cases admitted

theorem read_of_spelt {node : Node} (spelt : Spelt v.spelling node) : kind.read? node = some v := by
  obtain ⟨rest, read⟩ := spelt
  obtain ⟨node', said, read'⟩ := value?_spelling admitted (Toml.maxDepth - 1) rest
  obtain ⟨rfl, -⟩ := Prod.mk.inj (Option.some.inj (read'.symm.trans read))
  exact said

theorem readable_spelling : Readable v.spelling where
  unindented rest := by
    cases v with
    | text v => rfl
    | truth v => cases v <;> rfl
    | natural v => exact Toml.skipBlanks_spellNatural v _
  read rest := by
    obtain ⟨node, -, read⟩ := value?_spelling admitted (Toml.maxDepth - 1) rest
    exact ⟨node, read⟩

end Value

namespace Known

def Stated (x : Known) (root : Node) (s : Settings) : Prop :=
  ∃ node, x.node? root = some node ∧ x.setting.kind.read? node = some (x.value s)

variable {x : Known} {root : Node} {s s' : Settings} (stated : x.Stated root s)

include stated

theorem Stated.fits : x.Fits root := by
  intro node found
  obtain ⟨node', found', read⟩ := stated
  obtain rfl := Option.some.inj (found.symm.trans found')
  rw [read]
  rfl

theorem Stated.value_eq (told : x.Told root s') : x.value s' = x.value s := by
  obtain ⟨node, found, read⟩ := stated
  exact Option.some.inj ((told.1 node found).symm.trans read)

end Known

def Admitted {σ : Type} (settings : List (Setting σ)) (record : σ) : Prop :=
  ∀ x ∈ settings, x.kind.Admits (x.value record)

section Record

variable {σ : Type} {settings : List (Setting σ)} {record : σ}
  (admitted : Admitted settings record)

include admitted

theorem recordBlock_valid {part : String} (bare : Toml.IsBare part)
    (keys : ∀ x ∈ settings, Toml.IsBare x.key) (distinct : (settings.map Setting.key).Nodup) :
    Block.Valid ⟨part, recordLines settings record⟩ where
  name := bare
  keys := List.forall_mem_map.mpr keys
  values := List.forall_mem_map.mpr fun x hx => readable_spelling (admitted x hx)
  distinct := by
    rw [recordLines, List.map_map]
    exact distinct

/-- Each setting of the record is in the tree of the document. -/
theorem stated_recordBlock {part : String} {get : Settings → σ} {s : Settings}
    (same : get s = record) {root : Node} (sound : root.Sound) {entry : Key × Node}
    (here : entry ∈ root.entries)
    (stands : Block.Stands ⟨part, recordLines settings record⟩ entry) :
    ∀ x ∈ inPart part get settings, x.Stated root s := by
  intro x hx
  obtain ⟨y, hy, rfl⟩ := List.mem_map.mp hx
  obtain ⟨key, node⟩ := entry
  obtain ⟨rfl, span, entries, rfl, lines⟩ := stands
  have found := Entries.get?_of_mem sound.entries_names here
  have within := sound.entries_get? found
  obtain ⟨entry, there, named, spelt⟩ := exists_partner lines
    (List.mem_map_of_mem (f := fun x => (⟨x.key, (x.value record).spelling⟩ : Line)) hy)
  have foundLine := Entries.get?_of_mem within.names there
  refine ⟨entry.2, ?_, ?_⟩
  · rw [Known.node?, found, ← foundLine, named]
    rfl
  · rw [read_of_spelt (admitted y hy) spelt, ← same]
    rfl

end Record

theorem server_admitted (s : ServerSettings) : Admitted serverSettings s := by
  have := s.maxClients.toNat_lt
  simp [Admitted, serverSettings, Kind.Admits]
  omega

theorem network_admitted (s : NetworkSettings) : Admitted networkSettings s := by
  have := s.port.toNat_lt
  simp [Admitted, networkSettings, Kind.Admits]
  omega

theorem chat_admitted {s : Settings} (writable : s.Writable) : Admitted chatSettings s.chat := by
  simpa [Admitted, chatSettings, Kind.Admits, Settings.Writable] using writable

theorem logging_admitted (s : LoggingSettings) : Admitted loggingSettings s := by
  simp [Admitted, loggingSettings, Kind.Admits]

theorem observability_admitted (s : ObservabilitySettings) : Admitted observabilitySettings s := by
  have := s.port.toNat_lt
  simp [Admitted, observabilitySettings, Kind.Admits]
  omega

namespace Settings

variable {s : Settings}

/-- If each setting is in the document, all of them are read. -/
theorem read_of_stated {text : String} {root : Node} (parsed : Toml.parse? text = some root)
    (sectioned : Sectioned root) (stated : ∀ x ∈ known, x.Stated root s) : read text = .ok s := by
  obtain ⟨accepted, told⟩ :=
    ofNode_table (Toml.parse?_sound parsed) (Toml.parse?_isTable parsed) sectioned
  obtain ⟨s', done⟩ := accepted.mpr fun x hx => (stated x hx).fits
  obtain rfl : s' = s := ext_known fun x hx => (stated x hx).value_eq (told s' done x hx)
  exact (read_eq_ok_iff parsed).mpr done

theorem blocks_distinct : (s.blocks.map Block.name).Nodup := by
  change ["server", "netzwerk", "chat", "logging", "observability"].Nodup
  decide

section Document

variable (writable : s.Writable)

include writable

theorem blocks_valid : ∀ b ∈ s.blocks, b.Valid := by
  simp only [blocks, List.forall_mem_cons]
  exact ⟨recordBlock_valid (server_admitted _) (by decide) (by decide) (by decide),
    recordBlock_valid (network_admitted _) (by decide) (by decide) (by decide),
    recordBlock_valid (chat_admitted writable) (by decide) (by decide) (by decide),
    recordBlock_valid (logging_admitted _) (by decide) (by decide) (by decide),
    recordBlock_valid (observability_admitted _) (by decide) (by decide) (by decide), by simp⟩

/-- The tree of the document has a table for each section, and in it each setting. -/
theorem document_parsed : ∃ root, Toml.parse? s.document = some root ∧ Sectioned root ∧
    ∀ x ∈ known, x.Stated root s := by
  obtain ⟨entries, parsed, stand⟩ := Toml.parse?_write (blocks_valid writable) blocks_distinct
  have inside {σ : Type} {part : String} {get : Settings → σ} {settings : List (Setting σ)}
      (admitted : Admitted settings (get s))
      (written : ⟨part, recordLines settings (get s)⟩ ∈ s.blocks) :
      ∀ x ∈ inPart part get settings, x.Stated (.table .header none entries) s := by
    obtain ⟨entry, here, stands⟩ := exists_partner stand written
    exact stated_recordBlock admitted rfl (Toml.parse?_sound parsed) here stands
  refine ⟨_, parsed, ?_, forall_known.mpr ?_⟩
  · intro x _ node found
    obtain ⟨key, here, -⟩ := Entries.mem_of_get? found
    obtain ⟨b, -, -, span, entries, table, -⟩ := exists_partner stand.flip here
    exact ⟨_, _, _, table⟩
  · exact ⟨inside (server_admitted _) (by simp [blocks]),
      inside (network_admitted _) (by simp [blocks]),
      inside (chat_admitted writable) (by simp [blocks]),
      inside (logging_admitted _) (by simp [blocks]),
      inside (observability_admitted _) (by simp [blocks])⟩

end Document

/-- Settings are read as they were written, and if nothing is wrong with them they are loaded
without a warning, wherever the file is. -/
theorem read_document (writable : s.Writable) : read s.document = .ok s ∧
    (s.fault? = none → ∀ path, load path (.text s.document) = (.ok s, [])) := by
  obtain ⟨root, parsed, sectioned, stated⟩ := document_parsed writable
  have done : read s.document = .ok s := read_of_stated parsed sectioned stated
  refine ⟨done, fun faultless path => ?_⟩
  simp only [load, ofFile, done, faultless]

/-- Settings in which there is everything that has to be escaped. -/
def awkward : Settings where
  server := ⟨"Café \"Zur \\ Post\"\r\n\t\x08\x0c\x00\x1b\x7f", 4294967295⟩
  network := ⟨"", 65535, "/😀 = # ]"⟩
  chat := ⟨0, 9223372036854775807, 1, 2, 1, true⟩
  logging := ⟨"trace", "json"⟩
  observability := ⟨false, 0⟩

theorem read_document_awkward : awkward.Writable ∧ awkward.fault? = none ∧
    read awkward.document = .ok awkward ∧
      load "parlor.toml" (.text awkward.document) = (.ok awkward, []) := by
  have writable : awkward.Writable := by decide
  have faultless : awkward.fault? = none := by decide
  have written := read_document writable
  exact ⟨writable, faultless, written.1, written.2 faultless _⟩

set_option maxRecDepth 4000 in
example : ({} : Settings).document = "[server]
name = \"Parlor\"
max_clients = 512
[netzwerk]
bind_adresse = \"0.0.0.0\"
port = 8087
ws_pfad = \"/chat-ws\"
[chat]
handshake_timeout_sek = 10
sende_queue_groesse = 64
keepalive_sek = 30
verbindungs_timeout_sek = 90
schreib_timeout_sek = 10
absender_anzeigen = false
[logging]
level = \"info\"
format = \"text\"
[observability]
aktiviert = true
port = 9300
" := rfl

end Settings

end ChatRelay
