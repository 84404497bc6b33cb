import ChatRelay.Proofs.Settings.Fields

/-!
# The settings that a document can hold

There are fifteen of them, each under a key of its own in one of five sections. Here they are listed
with the values that they take, and it is shown that the fields of the records set them: from the
tree of a document each setting is read on its own.
-/

namespace ChatRelay

open Toml (Node Key Entries Span)

inductive Value where
  | text (text : String)
  | truth (b : Bool)
  | natural (n : Nat)
deriving DecidableEq

inductive Kind where
  | text
  | truth
  /-- The natural numbers below a limit. -/
  | natural (limit : Nat)

/-- What a value in a document says as a setting of some kind, if it has its type and range. -/
def Kind.read? : Kind → Node → Option Value
  | .text, .string _ v => some (.text v)
  | .truth, .boolean _ v => some (.truth v)
  | .natural limit, .integer _ n => if 0 ≤ n ∧ n < limit then some (.natural n.toNat) else none
  | _, _ => none

/-- A setting in a record: its key in a document, its kind, and what it is. -/
structure Setting (σ : Type) where
  key : String
  kind : Kind
  value : σ → Value

def serverSettings : List (Setting ServerSettings) :=
  [⟨"name", .text, fun s => .text s.name⟩,
    ⟨"max_clients", .natural (Nat.pow 2 32), fun s => .natural s.maxClients.toNat⟩]

def networkSettings : List (Setting NetworkSettings) :=
  [⟨"bind_adresse", .text, fun s => .text s.bindAddress⟩,
    ⟨"port", .natural (Nat.pow 2 16), fun s => .natural s.port.toNat⟩,
    ⟨"ws_pfad", .text, fun s => .text s.wsPath⟩]

def chatSettings : List (Setting ChatSettings) :=
  [⟨"handshake_timeout_sek", .natural (Nat.pow 2 63), fun s => .natural s.handshakeTimeout.toNat⟩,
    ⟨"sende_queue_groesse", .natural (Nat.pow 2 63), fun s => .natural s.queueSize.toNat⟩,
    ⟨"keepalive_sek", .natural (Nat.pow 2 63), fun s => .natural s.keepalive.toNat⟩,
    ⟨"verbindungs_timeout_sek", .natural (Nat.pow 2 63), fun s => .natural s.idleTimeout.toNat⟩,
    ⟨"schreib_timeout_sek", .natural (Nat.pow 2 63), fun s => .natural s.writeTimeout.toNat⟩,
    ⟨"absender_anzeigen", .truth, fun s => .truth s.showSender⟩]

def loggingSettings : List (Setting LoggingSettings) :=
  [⟨"level", .text, fun s => .text s.level⟩, ⟨"format", .text, fun s => .text s.format⟩]

def observabilitySettings : List (Setting ObservabilitySettings) :=
  [⟨"aktiviert", .truth, fun s => .truth s.enabled⟩,
    ⟨"port", .natural (Nat.pow 2 16), fun s => .natural s.port.toNat⟩]

/-- A setting in its section. -/
structure Known where
  part : String
  setting : Setting Settings

def inPart {σ : Type} (part : String) (get : Settings → σ) (settings : List (Setting σ)) :
    List Known :=
  settings.map fun x => ⟨part, x.key, x.kind, fun s => x.value (get s)⟩

namespace Known

variable (x : Known) (root : Node)

def value (s : Settings) : Value := x.setting.value s

/-- The value that a document holds under the key in the section. -/
def node? : Option Node :=
  (Entries.get? root.entries x.part).bind fun part => Entries.get? part.entries x.setting.key

def Fits : Prop := ∀ node, x.node? root = some node → (x.setting.kind.read? node).isSome

def Told (s : Settings) : Prop :=
  (∀ node, x.node? root = some node → x.setting.kind.read? node = some (x.value s)) ∧
    (x.node? root = none → x.value s = x.value {})

end Known

namespace Settings

def known : List Known :=
  inPart "server" Settings.server serverSettings
    ++ inPart "netzwerk" Settings.network networkSettings
    ++ inPart "chat" Settings.chat chatSettings
    ++ inPart "logging" Settings.logging loggingSettings
    ++ inPart "observability" Settings.observability observabilitySettings

/-- Those sections that the document has are tables. -/
def Sectioned (root : Node) : Prop :=
  ∀ x ∈ known, ∀ node, Entries.get? root.entries x.part = some node →
    node.IsTable

instance (root : Node) : Decidable (Sectioned root) :=
  inferInstanceAs (Decidable (∀ x ∈ known, ∀ node ∈ Entries.get? root.entries x.part,
    node.IsTable))

end Settings

def Setting.aspect {σ : Type} (x : Setting σ) : Aspect σ := ⟨x.key, x.kind.read?, x.value⟩

section Field

variable {σ β : Type} {P : Node → Prop}

theorem isSparedBy_of_put {x : Aspect σ} {name : String}
    {decode : Span → Node → Except DecodeFault β} {put : β → σ → σ}
    (same : ∀ v s, x.view (put v s) = x.view s) :
    x.IsSparedBy ⟨name, fun key node s => (decode key node).map fun v => put v s⟩ := by
  intro key node s s' entered
  dsimp only at entered
  cases decoded : decode key node with
  | error fault =>
    rw [decoded] at entered
    cases entered
  | ok v =>
    rw [decoded] at entered
    obtain rfl := Except.ok.inj entered
    exact same v s

theorem isSetBy_of_put {x : Aspect σ} {name : String}
    {decode : Span → Node → Except DecodeFault β} {put : β → σ → σ}
    (read : ∀ key node, P node → match x.read? node with
      | some c => ∃ v, decode key node = .ok v ∧ ∀ s, x.view (put v s) = c
      | none => ∃ fault, decode key node = .error fault) :
    x.IsSetBy P ⟨name, fun key node s => (decode key node).map fun v => put v s⟩ := by
  intro key node s valid
  have read := read key node valid
  split
  · rename_i c said
    rw [said] at read
    obtain ⟨v, decoded, shown⟩ := read
    exact ⟨put v s, congrArg (Except.map fun v => put v s) decoded, shown s⟩
  · rename_i unsaid
    rw [unsaid] at read
    obtain ⟨fault, decoded⟩ := read
    exact ⟨fault, congrArg (Except.map fun v => put v s) decoded⟩

variable {key name : String} {value : σ → Value}

theorem textField_sets {put : String → σ → σ} (shown : ∀ v s, value (put v s) = .text v) :
    (Setting.aspect ⟨key, .text, value⟩).IsSetBy Node.Sound (textField name put) := by
  apply isSetBy_of_put
  intro span node _
  cases node with
  | string _ text => exact ⟨text, rfl, shown text⟩
  | _ => exact ⟨_, rfl⟩

theorem truthField_sets {put : Bool → σ → σ} (shown : ∀ v s, value (put v s) = .truth v) :
    (Setting.aspect ⟨key, .truth, value⟩).IsSetBy Node.Sound (truthField name put) := by
  apply isSetBy_of_put
  intro span node _
  cases node with
  | boolean _ b => exact ⟨b, rfl, shown b⟩
  | _ => exact ⟨_, rfl⟩

/-- A document has no integers of 64 bits without a sign. -/
theorem naturalField_sets {size : IntegerSize} {limit : Nat} {put : Nat → σ → σ}
    (limited : limit = min (Nat.pow 2 size.bits) (Nat.pow 2 63))
    (shown : ∀ v s, v < limit → value (put v s) = .natural v) :
    (Setting.aspect ⟨key, .natural limit, value⟩).IsSetBy Node.Sound
      (naturalField name size put) := by
  apply isSetBy_of_put
  intro span node sound
  cases node with
  | integer place n =>
    obtain ⟨-, belowMax⟩ := Toml.inRange_iff.mp sound.integer_inRange
    have same : (0 ≤ n ∧ n < Nat.pow 2 size.bits) ↔ 0 ≤ n ∧ n < limit := by
      rw [limited]
      omega
    by_cases fits : 0 ≤ n ∧ n < limit
    · simp only [Setting.aspect, Kind.read?, if_pos fits]
      refine ⟨n.toNat, ?_, fun s => shown _ s ?_⟩
      · rw [decodeNatural, if_pos (same.mpr fits)]
      · omega
    · simp only [Setting.aspect, Kind.read?, if_neg fits]
      exact ⟨_, by rw [decodeNatural, if_neg (fits ∘ same.mp)]⟩
  | _ => exact ⟨_, rfl⟩

end Field

theorem word_shown {n : Nat} (small : n < Nat.pow 2 63) :
    Value.natural (UInt64.ofNat n).toNat = .natural n :=
  congrArg Value.natural (UInt64.toNat_ofNat_of_lt' (Nat.lt_trans small (by decide)))

theorem server_described :
    Describes Node.Sound (serverSettings.map Setting.aspect) serverFields where
  distinct := by decide
  pairs :=
    .cons ⟨rfl, textField_sets fun _ _ => rfl⟩ <|
    .cons ⟨rfl, naturalField_sets rfl fun _ _ small =>
      congrArg Value.natural (UInt32.toNat_ofNat_of_lt' small)⟩ .nil
  isSpared := by
    intro x hx f hf apart
    simp only [serverSettings, serverFields, List.map_cons, List.map_nil, List.mem_cons,
      List.not_mem_nil, or_false] at hx hf
    rcases hx with rfl | rfl <;> rcases hf with rfl | rfl <;>
      first | exact absurd rfl apart | exact isSparedBy_of_put fun _ _ => rfl

theorem network_described :
    Describes Node.Sound (networkSettings.map Setting.aspect) networkFields where
  distinct := by decide
  pairs :=
    .cons ⟨rfl, textField_sets fun _ _ => rfl⟩ <|
    .cons ⟨rfl, naturalField_sets rfl fun _ _ small =>
      congrArg Value.natural (UInt16.toNat_ofNat_of_lt' small)⟩ <|
    .cons ⟨rfl, textField_sets fun _ _ => rfl⟩ .nil
  isSpared := by
    intro x hx f hf apart
    simp only [networkSettings, networkFields, List.map_cons, List.map_nil, List.mem_cons,
      List.not_mem_nil, or_false] at hx hf
    rcases hx with rfl | rfl | rfl <;> rcases hf with rfl | rfl | rfl <;>
      first | exact absurd rfl apart | exact isSparedBy_of_put fun _ _ => rfl

theorem chat_described :
    Describes Node.Sound (chatSettings.map Setting.aspect) chatFields where
  distinct := by decide
  pairs :=
    .cons ⟨rfl, naturalField_sets rfl fun _ _ => word_shown⟩ <|
    .cons ⟨rfl, naturalField_sets rfl fun _ _ => word_shown⟩ <|
    .cons ⟨rfl, naturalField_sets rfl fun _ _ => word_shown⟩ <|
    .cons ⟨rfl, naturalField_sets rfl fun _ _ => word_shown⟩ <|
    .cons ⟨rfl, naturalField_sets rfl fun _ _ => word_shown⟩ <|
    .cons ⟨rfl, truthField_sets fun _ _ => rfl⟩ .nil
  isSpared := by
    intro x hx f hf apart
    simp only [chatSettings, chatFields, List.map_cons, List.map_nil, List.mem_cons,
      List.not_mem_nil, or_false] at hx hf
    rcases hx with rfl | rfl | rfl | rfl | rfl | rfl <;>
      rcases hf with rfl | rfl | rfl | rfl | rfl | rfl <;>
      first | exact absurd rfl apart | exact isSparedBy_of_put fun _ _ => rfl

theorem logging_described :
    Describes Node.Sound (loggingSettings.map Setting.aspect) loggingFields where
  distinct := by decide
  pairs :=
    .cons ⟨rfl, textField_sets fun _ _ => rfl⟩ <|
    .cons ⟨rfl, textField_sets fun _ _ => rfl⟩ .nil
  isSpared := by
    intro x hx f hf apart
    simp only [loggingSettings, loggingFields, List.map_cons, List.map_nil, List.mem_cons,
      List.not_mem_nil, or_false] at hx hf
    rcases hx with rfl | rfl <;> rcases hf with rfl | rfl <;>
      first | exact absurd rfl apart | exact isSparedBy_of_put fun _ _ => rfl

theorem observability_described :
    Describes Node.Sound (observabilitySettings.map Setting.aspect) observabilityFields where
  distinct := by decide
  pairs :=
    .cons ⟨rfl, truthField_sets fun _ _ => rfl⟩ <|
    .cons ⟨rfl, naturalField_sets rfl fun _ _ small =>
      congrArg Value.natural (UInt16.toNat_ofNat_of_lt' small)⟩ .nil
  isSpared := by
    intro x hx f hf apart
    simp only [observabilitySettings, observabilityFields, List.map_cons, List.map_nil,
      List.mem_cons, List.not_mem_nil, or_false] at hx hf
    rcases hx with rfl | rfl <;> rcases hf with rfl | rfl <;>
      first | exact absurd rfl apart | exact isSparedBy_of_put fun _ _ => rfl

/-- The record that a section is for. -/
def partAspect {σ : Type} (part : String) (fields : List (Field σ)) (defaults : σ)
    (get : Settings → σ) : Aspect Settings where
  name := part
  read? node := match node with
    | .table _ _ entries => (decodeTable fields entries defaults).toOption
    | _ => none
  view := get

def Settings.parts : List (Aspect Settings) :=
  [partAspect "server" serverFields {} Settings.server,
    partAspect "netzwerk" networkFields {} Settings.network,
    partAspect "chat" chatFields {} Settings.chat,
    partAspect "logging" loggingFields {} Settings.logging,
    partAspect "observability" observabilityFields {} Settings.observability]

section Part

variable {σ : Type} {part : String} {fields : List (Field σ)} {defaults : σ} {get : Settings → σ}

theorem sectionField_sets {record : String} {put : σ → Settings → Settings}
    (shown : ∀ v s, get (put v s) = v) :
    (partAspect part fields defaults get).IsSetBy Node.IsTable
      (sectionField part record fields defaults put) := by
  apply isSetBy_of_put
  rintro key _ ⟨form, span, entries, rfl⟩
  simp only [partAspect, decodeRecord]
  cases decodeTable fields entries defaults with
  | ok v => exact ⟨v, rfl, shown v⟩
  | error fault => exact ⟨fault, rfl⟩

theorem settings_described : Describes Node.IsTable Settings.parts settingsFields where
  distinct := by decide
  pairs :=
    .cons ⟨rfl, sectionField_sets fun _ _ => rfl⟩ <|
    .cons ⟨rfl, sectionField_sets fun _ _ => rfl⟩ <|
    .cons ⟨rfl, sectionField_sets fun _ _ => rfl⟩ <|
    .cons ⟨rfl, sectionField_sets fun _ _ => rfl⟩ <|
    .cons ⟨rfl, sectionField_sets fun _ _ => rfl⟩ .nil
  isSpared := by
    intro x hx f hf apart
    simp only [Settings.parts, settingsFields, List.mem_cons, List.not_mem_nil, or_false] at hx hf
    rcases hx with rfl | rfl | rfl | rfl | rfl <;> rcases hf with rfl | rfl | rfl | rfl | rfl <;>
      first | exact absurd rfl apart | exact isSparedBy_of_put fun _ _ => rfl

variable {settings : List (Setting σ)} {root : Node}
  (described : Describes Node.Sound (settings.map Setting.aspect) fields) (sound : root.Sound)

theorem node?_of_absent (absent : Entries.get? root.entries part = none) :
    ∀ x ∈ inPart part get settings, x.node? root = none := by
  intro x hx
  obtain ⟨y, -, rfl⟩ := List.mem_map.mp hx
  simp [Known.node?, absent]

include described sound

/-- What there is to know of a section that is there. -/
theorem part_present (defaults : σ) {form : Toml.Form} {span : Option Span} {entries : Entries}
    (found : Entries.get? root.entries part = some (.table form span entries)) :
    ((∃ v, decodeTable fields entries defaults = .ok v) ↔
      ∀ x ∈ inPart part get settings, x.Fits root) ∧
    ∀ s, decodeTable fields entries defaults = .ok (get s) → get {} = defaults →
      ∀ x ∈ inPart part get settings, x.Told root s := by
  have within : (Node.table form span entries).Sound := sound.entries_get? found
  have read := described.table within.names (fun _ _ _ => within.get?) defaults
  have node? (x : Setting σ) : Known.node? ⟨part, x.key, x.kind, fun s => x.value (get s)⟩ root =
      Entries.get? entries x.key := by
    rw [Known.node?, found]
    rfl
  constructor
  · rw [read.1]
    simp only [inPart, List.forall_mem_map, Known.Fits, node?]
    rfl
  · intro s done start x hx
    obtain ⟨y, hy, rfl⟩ := List.mem_map.mp hx
    have told := read.2 (get s) done y.aspect (List.mem_map_of_mem hy)
    simp only [Known.Told, node?]
    rw [← start] at told
    exact told

variable (table : ∀ node, Entries.get? root.entries part = some node → node.IsTable)

include table

/-- A section fits if its settings do. -/
theorem part_fits : (partAspect part fields defaults get).Fits root.entries ↔
    ∀ x ∈ inPart part get settings, x.Fits root := by
  cases found : Entries.get? root.entries part with
  | none =>
    have absent : ∀ x ∈ inPart part get settings, x.node? root = none := node?_of_absent found
    simp_all [Aspect.Fits, partAspect, Known.Fits]
  | some node =>
    obtain ⟨form, span, entries, rfl⟩ := table node found
    rw [← (part_present described sound defaults found).1]
    have said : (partAspect part fields defaults get).Fits root.entries ↔
        (decodeTable fields entries defaults).toOption.isSome := by
      simp [Aspect.Fits, partAspect, found]
    rw [said]
    cases decodeTable fields entries defaults <;> simp [Except.toOption]

theorem part_told {s : Settings} (start : get {} = defaults)
    (told : (partAspect part fields defaults get).Told root.entries {} s) :
    ∀ x ∈ inPart part get settings, x.Told root s := by
  cases found : Entries.get? root.entries part with
  | none =>
    have kept : get s = get {} := told.2 found
    intro x hx
    obtain ⟨y, -, same⟩ := List.mem_map.mp hx
    have absent := node?_of_absent found x hx
    refine ⟨fun node found => by simp [absent] at found, fun _ => ?_⟩
    subst same
    exact congrArg y.value kept
  | some node =>
    obtain ⟨form, span, entries, rfl⟩ := table node found
    have done : decodeTable fields entries defaults = .ok (get s) := by
      have said : (decodeTable fields entries defaults).toOption = some (get s) := told.1 _ found
      cases read : decodeTable fields entries defaults with
      | ok v =>
        rw [read] at said
        exact congrArg Except.ok (Option.some.inj said)
      | error fault =>
        rw [read] at said
        cases said
    exact (part_present described sound defaults found).2 s done start

end Part

namespace Settings

theorem forall_known {Q : Known → Prop} : (∀ x ∈ known, Q x) ↔
    (∀ x ∈ inPart "server" Settings.server serverSettings, Q x) ∧
    (∀ x ∈ inPart "netzwerk" Settings.network networkSettings, Q x) ∧
    (∀ x ∈ inPart "chat" Settings.chat chatSettings, Q x) ∧
    (∀ x ∈ inPart "logging" Settings.logging loggingSettings, Q x) ∧
    ∀ x ∈ inPart "observability" Settings.observability observabilitySettings, Q x := by
  simp only [known, List.forall_mem_append, and_assoc]

theorem forall_parts {Q : Aspect Settings → Prop} : (∀ x ∈ parts, Q x) ↔
    Q (partAspect "server" serverFields {} Settings.server) ∧
    Q (partAspect "netzwerk" networkFields {} Settings.network) ∧
    Q (partAspect "chat" chatFields {} Settings.chat) ∧
    Q (partAspect "logging" loggingFields {} Settings.logging) ∧
    Q (partAspect "observability" observabilityFields {} Settings.observability) := by
  simp only [parts, List.forall_mem_cons, List.not_mem_nil, false_implies, implies_true, and_true]

theorem Sectioned.parts {root : Node} (sectioned : Sectioned root) :
    ∀ x ∈ parts, ∀ node, Entries.get? root.entries x.name = some node → node.IsTable := by
  obtain ⟨server, network, chat, logging, observability⟩ := forall_known.mp sectioned
  exact forall_parts.mpr ⟨server _ List.mem_cons_self, network _ List.mem_cons_self,
    chat _ List.mem_cons_self, logging _ List.mem_cons_self, observability _ List.mem_cons_self⟩

/-- The settings that the tree of a document holds. -/
theorem ofNode_table {root : Node} (sound : root.Sound) (whole : root.IsTable)
    (sectioned : Sectioned root) :
    ((∃ s, Settings.ofNode root = .ok s) ↔ ∀ x ∈ known, x.Fits root) ∧
    ∀ s, Settings.ofNode root = .ok s → ∀ x ∈ known, x.Told root s := by
  have read : ((∃ s, Settings.ofNode root = .ok s) ↔ ∀ x ∈ parts, x.Fits root.entries) ∧
      ∀ s, Settings.ofNode root = .ok s → ∀ x ∈ parts, x.Told root.entries {} s := by
    obtain ⟨form, span, entries, rfl⟩ := whole
    exact settings_described.table sound.names sectioned.parts {}
  obtain ⟨server, network, chat, logging, observability⟩ := forall_parts.mp sectioned.parts
  constructor
  · rw [read.1, forall_parts, forall_known]
    exact and_congr (part_fits server_described sound server) <|
      and_congr (part_fits network_described sound network) <|
      and_congr (part_fits chat_described sound chat) <|
      and_congr (part_fits logging_described sound logging)
        (part_fits observability_described sound observability)
  · intro s done
    obtain ⟨told₁, told₂, told₃, told₄, told₅⟩ := forall_parts.mp (read.2 s done)
    exact forall_known.mpr ⟨part_told server_described sound server rfl told₁,
      part_told network_described sound network rfl told₂,
      part_told chat_described sound chat rfl told₃,
      part_told logging_described sound logging rfl told₄,
      part_told observability_described sound observability rfl told₅⟩

theorem read_eq_ok_iff {text : String} {root : Node} (parsed : Toml.parse? text = some root)
    {s : Settings} : read text = .ok s ↔ ofNode root = .ok s := by
  simp only [read, parsed]
  split <;> simp_all

/-- Settings of which all that a document can hold is the same are the same. -/
theorem ext_known {s s' : Settings} (same : ∀ x ∈ known, x.value s = x.value s') : s = s' := by
  rcases s with ⟨⟨⟩, ⟨⟩, ⟨⟩, ⟨⟩, ⟨⟩⟩
  rcases s' with ⟨⟨⟩, ⟨⟩, ⟨⟩, ⟨⟩, ⟨⟩⟩
  simpa [forall_known, inPart, serverSettings, networkSettings, chatSettings, loggingSettings,
    observabilitySettings, Known.value, UInt16.toNat_inj, UInt32.toNat_inj, UInt64.toNat_inj,
    and_assoc] using same

end Settings

end ChatRelay
