import ChatRelay.Settings.Basic
import ChatRelay.Text.Quoted
import ChatRelay.Binary64.Shortest
import ChatRelay.Toml.Document
import ChatRelay.Toml.Excerpt

/-!
# Settings from a document

A section is a table, or an array with the values of its fields in their order; what is missing
keeps its default, and what is unknown is passed over. The first value in the document that does
not fit its field is the fault.
-/

namespace ChatRelay

inductive IntegerSize where
  | bits16
  | bits32
  | bits64
  /-- As wide as an address. -/
  | word
deriving DecidableEq

namespace IntegerSize

def bits : IntegerSize → Nat
  | .bits16 => 16
  | .bits32 => 32
  | .bits64 => 64
  | .word => 64

def text : IntegerSize → String
  | .bits16 => "u16"
  | .bits32 => "u32"
  | .bits64 => "u64"
  | .word => "usize"

end IntegerSize

inductive Expected where
  | text
  | truth
  | natural (size : IntegerSize)
  | record (name : String)
deriving DecidableEq

def Expected.wording : Expected → String
  | .text => "a string"
  | .truth => "a boolean"
  | .natural size => size.text
  | .record name => "struct " ++ name

inductive Found where
  | string (text : String)
  | integer (n : Int)
  | float (x : Binary64)
  | boolean (b : Bool)
  | sequence
  | map
deriving DecidableEq

/-- A floating-point number that always shows a point, unless it has no digits. -/
def floatText (x : Binary64) : String :=
  match x with
  | .finite .. => if x.text.toList.contains '.' then x.text else x.text ++ ".0"
  | _ => x.text

def inBackquotes (text : String) : String := "\x60" ++ text ++ "\x60"

def Found.text : Found → String
  | .string text => "string " ++ Text.quoted text
  | .integer n => "integer " ++ inBackquotes (toString n)
  | .float x => "floating point " ++ inBackquotes (floatText x)
  | .boolean b => "boolean " ++ inBackquotes (if b then "true" else "false")
  | .sequence => "sequence"
  | .map => "map"

inductive Mismatch where
  | type (found : Found) (expected : Expected)
  | range (n : Int) (size : IntegerSize)
deriving DecidableEq

def Mismatch.message : Mismatch → String
  | .type found expected => "invalid type: " ++ found.text ++ ", expected " ++ expected.wording
  | .range n size =>
    "invalid value: " ++ (Found.integer n).text ++ ", expected " ++ (Expected.natural size).wording

structure DecodeFault where
  span : Toml.Span
  mismatch : Mismatch
deriving DecidableEq

open Toml (Node Key Entries Span)

def found : Node → Found
  | .string _ text => .string text
  | .integer _ n => .integer n
  | .float _ x => .float x
  | .boolean _ b => .boolean b
  | .datetime _ => .map
  | .array .. => .sequence
  | .tables _ => .sequence
  | .table .. => .map

/-- The fault of a value of the wrong type. A value without a place is looked for at its key. -/
def mismatch {α : Type} (key : Span) (node : Node) (expected : Expected) : Except DecodeFault α :=
  .error ⟨node.span?.getD key, .type (found node) expected⟩

def decodeText (key : Span) : Node → Except DecodeFault String
  | .string _ text => .ok text
  | node => mismatch key node .text

def decodeTruth (key : Span) : Node → Except DecodeFault Bool
  | .boolean _ b => .ok b
  | node => mismatch key node .truth

/-- A natural number below the limit of its size. -/
def decodeNatural (size : IntegerSize) (key : Span) : Node → Except DecodeFault Nat
  | .integer span n =>
    if 0 ≤ n ∧ n < Nat.pow 2 size.bits then .ok n.toNat else .error ⟨span, .range n size⟩
  | node => mismatch key node (.natural size)

/-- A field of a record: its name, and how its value enters the record. -/
structure Field (σ : Type) where
  name : String
  enter : Span → Node → σ → Except DecodeFault σ

/-- Enters the known entries of a table, in the order of the document. -/
def decodeTable {σ : Type} (fields : List (Field σ)) (entries : Entries) (s : σ) :
    Except DecodeFault σ :=
  entries.foldlM
    (fun s (key, node) => match fields.find? fun f => f.name == key.text with
      | some f => f.enter key.span node s
      | none => .ok s) s

/-- Enters the items of an array into the fields in their order. -/
def decodeItems {σ : Type} (key : Span) : List (Field σ) → List Node → σ → Except DecodeFault σ
  | f :: fields, node :: items, s => do decodeItems key fields items (← f.enter key node s)
  | _, _, s => .ok s

/-- A record over its defaults. A date holds no known entry. -/
def decodeRecord {σ : Type} (name : String) (fields : List (Field σ)) (defaults : σ) (key : Span) :
    Node → Except DecodeFault σ
  | .table _ _ entries => decodeTable fields entries defaults
  | .array _ items => decodeItems key fields items defaults
  | .tables items => decodeItems key fields items defaults
  | .datetime _ => .ok defaults
  | node => mismatch key node (.record name)

/-- A field that holds a text. -/
def textField {σ : Type} (name : String) (put : String → σ → σ) : Field σ :=
  ⟨name, fun key node s => (decodeText key node).map fun v => put v s⟩

def truthField {σ : Type} (name : String) (put : Bool → σ → σ) : Field σ :=
  ⟨name, fun key node s => (decodeTruth key node).map fun v => put v s⟩

def naturalField {σ : Type} (name : String) (size : IntegerSize) (put : Nat → σ → σ) : Field σ :=
  ⟨name, fun key node s => (decodeNatural size key node).map fun v => put v s⟩

def serverFields : List (Field ServerSettings) :=
  [ textField "name" fun v s => { s with name := v },
    naturalField "max_clients" .bits32 fun v s => { s with maxClients := .ofNat v } ]

def networkFields : List (Field NetworkSettings) :=
  [ textField "bind_adresse" fun v s => { s with bindAddress := v },
    naturalField "port" .bits16 fun v s => { s with port := .ofNat v },
    textField "ws_pfad" fun v s => { s with wsPath := v } ]

def chatFields : List (Field ChatSettings) :=
  [ naturalField "handshake_timeout_sek" .bits64 fun v s => { s with handshakeTimeout := .ofNat v },
    naturalField "sende_queue_groesse" .word fun v s => { s with queueSize := .ofNat v },
    naturalField "keepalive_sek" .bits64 fun v s => { s with keepalive := .ofNat v },
    naturalField "verbindungs_timeout_sek" .bits64 fun v s => { s with idleTimeout := .ofNat v },
    naturalField "schreib_timeout_sek" .bits64 fun v s => { s with writeTimeout := .ofNat v },
    truthField "absender_anzeigen" fun v s => { s with showSender := v } ]

def loggingFields : List (Field LoggingSettings) :=
  [ textField "level" fun v s => { s with level := v },
    textField "format" fun v s => { s with format := v } ]

def observabilityFields : List (Field ObservabilitySettings) :=
  [ truthField "aktiviert" fun v s => { s with enabled := v },
    naturalField "port" .bits16 fun v s => { s with port := .ofNat v } ]

/-- A section of the settings: the name of its table, and the name of its record. -/
def sectionField {σ : Type} (name record : String) (fields : List (Field σ)) (defaults : σ)
    (put : σ → Settings → Settings) : Field Settings :=
  ⟨name, fun key node s => (decodeRecord record fields defaults key node).map fun v => put v s⟩

def settingsFields : List (Field Settings) :=
  [ sectionField "server" "ServerEinstellungen" serverFields {} fun v s => { s with server := v },
    sectionField "netzwerk" "NetzwerkEinstellungen" networkFields {}
      fun v s => { s with network := v },
    sectionField "chat" "ChatEinstellungen" chatFields {} fun v s => { s with chat := v },
    sectionField "logging" "LoggingEinstellungen" loggingFields {}
      fun v s => { s with logging := v },
    sectionField "observability" "ObservabilityEinstellungen" observabilityFields {}
      fun v s => { s with observability := v } ]

namespace Settings

def ofNode (root : Node) : Except DecodeFault Settings :=
  decodeRecord "ServerConfig" settingsFields {} ⟨0, 0⟩ root

end Settings

inductive ReadFault where
  /-- The text is no document. -/
  | notADocument
  /-- A value does not fit; the message shows where. -/
  | misfit (message : String)
deriving DecidableEq

namespace Settings

def read (text : String) : Except ReadFault Settings :=
  match Toml.parse? text with
  | none => .error .notADocument
  | some root => match ofNode root with
    | .ok s => .ok s
    | .error fault => .error (.misfit (Toml.excerpt text fault.span fault.mismatch.message))

end Settings

end ChatRelay
