import ChatRelay.Proofs.Toml.Sound
import ChatRelay.Settings.Decode

/-!
# Records field by field

A record is read from a table entry by entry, in whatever order the entries come. If no two entries
have one name, each field can be looked up on its own: it is what its entry says, or what it was
before. A record given as an array is read as the table that assigns the items to the fields in
their order.
-/

namespace ChatRelay

open Toml (Node Key Entries Span)

/-- A part of a record as it is seen from outside: the name under which it stands in a document,
what a value there says, and where to find it in the record. -/
structure Aspect (σ : Type) where
  name : String
  {content : Type}
  read? : Node → Option content
  view : σ → content

namespace Aspect

variable {σ : Type} (x : Aspect σ)

/-- Of the values with some property, the field takes those that say something of the aspect, and
then the record shows it. -/
def IsSetBy (P : Node → Prop) (f : Field σ) : Prop :=
  ∀ key node s, P node → match x.read? node with
    | some v => ∃ s', f.enter key node s = .ok s' ∧ x.view s' = v
    | none => ∃ fault, f.enter key node s = .error fault

/-- No value of the field changes the aspect. -/
def IsSparedBy (f : Field σ) : Prop :=
  ∀ key node s s', f.enter key node s = .ok s' → x.view s' = x.view s

def Fits (entries : Entries) : Prop :=
  ∀ node, Entries.get? entries x.name = some node → (x.read? node).isSome

/-- Afterwards the record shows what the table says of the aspect, or what it showed before. -/
def Told (entries : Entries) (s s' : σ) : Prop :=
  (∀ node, Entries.get? entries x.name = some node → x.read? node = some (x.view s')) ∧
    (Entries.get? entries x.name = none → x.view s' = x.view s)

section Lookup

variable {x} {key : Key} {node : Node} {rest : Entries} (alone : key.text ∉ Entries.names rest)

theorem Told.fits {entries : Entries} {s s' : σ} (told : x.Told entries s s') :
    x.Fits entries := by
  intro node found
  rw [told.1 node found]
  rfl

theorem told_one {s s' : σ} (here : x.name = key.text → x.read? node = some (x.view s'))
    (away : x.name ≠ key.text → x.view s' = x.view s) : x.Told [(key, node)] s s' := by
  have get : Entries.get? [(key, node)] x.name = if key.text = x.name then some node else none :=
    Entries.get?_cons key node []
  by_cases same : key.text = x.name
  · rw [if_pos same] at get
    simp [Told, get, here same.symm]
  · rw [if_neg same] at get
    simp [Told, get, away (Ne.symm same)]

include alone

/-- The first entry and the others speak of different aspects. -/
theorem get?_first_or_rest (x : Aspect σ) (node : Node) :
    (Entries.get? ((key, node) :: rest) x.name = Entries.get? [(key, node)] x.name ∧
      Entries.get? rest x.name = none) ∨
    Entries.get? ((key, node) :: rest) x.name = Entries.get? rest x.name ∧
      Entries.get? [(key, node)] x.name = none := by
  have absent := Entries.get?_eq_none_iff.mpr alone
  by_cases same : key.text = x.name
  · rw [same] at absent
    simp [Entries.get?_cons, same, absent]
  · simp [same, Entries.get?]

theorem fits_cons : x.Fits ((key, node) :: rest) ↔ x.Fits [(key, node)] ∧ x.Fits rest := by
  rcases get?_first_or_rest alone x node with ⟨same, none⟩ | ⟨same, none⟩ <;>
    simp [Fits, same, none]

theorem told_cons {s s₁ s' : σ} (first : x.Told [(key, node)] s s₁) (later : x.Told rest s₁ s') :
    x.Told ((key, node) :: rest) s s' := by
  rcases get?_first_or_rest alone x node with ⟨same, none⟩ | ⟨same, none⟩
  · have kept := later.2 none
    unfold Told
    rw [same, kept]
    exact first
  · have kept := first.2 none
    unfold Told
    rw [same, ← kept]
    exact later

end Lookup

end Aspect

/-- The fields set the aspects, one each. -/
structure Describes {σ : Type} (P : Node → Prop) (aspects : List (Aspect σ))
    (fields : List (Field σ)) : Prop where
  distinct : (fields.map Field.name).Nodup
  pairs : List.Forall₂ (fun x f => f.name = x.name ∧ x.IsSetBy P f) aspects fields
  isSpared : ∀ x ∈ aspects, ∀ f ∈ fields, f.name ≠ x.name → x.IsSparedBy f

theorem exists_partner {α β : Type*} {R : α → β → Prop} {as : List α} {bs : List β}
    (pairs : List.Forall₂ R as bs) {a : α} (here : a ∈ as) : ∃ b ∈ bs, R a b := by
  induction pairs with
  | nil => cases here
  | @cons _ b _ _ related _ ih =>
    rcases List.mem_cons.mp here with rfl | later
    · exact ⟨b, List.mem_cons_self, related⟩
    · obtain ⟨b', here', related'⟩ := ih later
      exact ⟨b', List.mem_cons_of_mem _ here', related'⟩

section Table

variable {σ : Type} {P : Node → Prop} {aspects : List (Aspect σ)} {fields : List (Field σ)}

theorem decodeTable_cons (key : Key) (node : Node) (rest : Entries) (s : σ) :
    decodeTable fields ((key, node) :: rest) s =
      (match fields.find? fun f => f.name == key.text with
        | some f => f.enter key.span node s
        | none => .ok s) >>= decodeTable fields rest := rfl

section Pairs

variable (describes : Describes P aspects fields)

include describes

theorem Describes.field {x : Aspect σ} (hx : x ∈ aspects) : ∃ f ∈ fields, f.name = x.name := by
  obtain ⟨f, hf, same, -⟩ := exists_partner describes.pairs hx
  exact ⟨f, hf, same⟩

theorem Describes.aspect {f : Field σ} (hf : f ∈ fields) : ∃ x ∈ aspects, f.name = x.name := by
  obtain ⟨x, hx, same, -⟩ := exists_partner describes.pairs.flip hf
  exact ⟨x, hx, same⟩

theorem Describes.isSet {x : Aspect σ} (hx : x ∈ aspects) {f : Field σ} (hf : f ∈ fields)
    (same : f.name = x.name) : x.IsSetBy P f := by
  obtain ⟨g, hg, named, set⟩ := exists_partner describes.pairs hx
  obtain rfl := List.inj_on_of_nodup_map describes.distinct hf hg (same.trans named.symm)
  exact set

end Pairs

/-- What one entry does. -/
theorem Describes.entry (describes : Describes P aspects fields) {key : Key} {node : Node}
    (known : ∀ x ∈ aspects, x.name = key.text → P node) (s : σ) :
    (∃ s', (∀ x ∈ aspects, x.Told [(key, node)] s s') ∧
      ∀ rest, decodeTable fields ((key, node) :: rest) s = decodeTable fields rest s') ∨
    (∃ x ∈ aspects, x.name = key.text ∧ x.read? node = none) ∧
      ∀ rest, ∃ fault, decodeTable fields ((key, node) :: rest) s = .error fault := by
  cases found : fields.find? fun f => f.name == key.text with
  | none =>
    refine Or.inl ⟨s, fun x hx => Aspect.told_one (fun here => ?_) fun _ => rfl, fun rest => ?_⟩
    · obtain ⟨f, hf, same⟩ := describes.field hx
      have other := List.find?_eq_none.mp found f hf
      exact absurd (same.trans here) (by simpa using other)
    · rw [decodeTable_cons, found]
      rfl
  | some f =>
    have hf := List.mem_of_find?_eq_some found
    have here : f.name = key.text := by simpa using List.find?_some found
    have step rest : decodeTable fields ((key, node) :: rest) s =
        f.enter key.span node s >>= decodeTable fields rest := by
      rw [decodeTable_cons, found]
    cases entered : f.enter key.span node s with
    | ok s' =>
      refine Or.inl ⟨s', fun x hx => Aspect.told_one (fun same => ?_) fun apart => ?_,
        fun rest => ?_⟩
      · have set := describes.isSet hx hf (here.trans same.symm) key.span node s (known x hx same)
        split at set
        · rename_i v read
          obtain ⟨s'', entered', rfl⟩ := set
          rw [entered] at entered'
          obtain rfl := Except.ok.inj entered'
          exact read
        · obtain ⟨fault, refused⟩ := set
          rw [entered] at refused
          cases refused
      · have other : f.name ≠ x.name := fun same => apart (same.symm.trans here)
        exact describes.isSpared x hx f hf other _ _ _ _ entered
      · rw [step, entered]
        rfl
    | error fault =>
      obtain ⟨x, hx, same⟩ := describes.aspect hf
      have named := same.symm.trans here
      refine Or.inr ⟨⟨x, hx, named, ?_⟩, fun rest => ⟨fault, by rw [step, entered]; rfl⟩⟩
      have set := describes.isSet hx hf same key.span node s (known x hx named)
      split at set
      · obtain ⟨s', entered', -⟩ := set
        rw [entered] at entered'
        cases entered'
      · assumption

/-- What the entries of a table make of a record. -/
theorem Describes.table (describes : Describes P aspects fields) {entries : Entries}
    (distinct : (Entries.names entries).Nodup)
    (known : ∀ x ∈ aspects, ∀ node, Entries.get? entries x.name = some node → P node) (s : σ) :
    ((∃ s', decodeTable fields entries s = .ok s') ↔ ∀ x ∈ aspects, x.Fits entries) ∧
    ∀ s', decodeTable fields entries s = .ok s' → ∀ x ∈ aspects, x.Told entries s s' := by
  induction entries generalizing s with
  | nil =>
    constructor
    · exact ⟨fun _ _ _ _ found => (nomatch found), fun _ => ⟨s, rfl⟩⟩
    · intro s' done x hx
      obtain rfl := Except.ok.inj done
      exact ⟨fun _ found => (nomatch found), fun _ => rfl⟩
  | cons entry rest ih =>
    obtain ⟨key, node⟩ := entry
    obtain ⟨alone, distinct⟩ := List.nodup_cons.mp distinct
    have knownNode (x) (hx : x ∈ aspects) (same : x.name = key.text) : P node :=
      known x hx node (by rw [Entries.get?_cons, if_pos same.symm])
    have knownRest (x) (hx : x ∈ aspects) (other) (found : Entries.get? rest x.name = some other) :
        P other := by
      rcases Aspect.get?_first_or_rest alone x node with ⟨-, none⟩ | ⟨same, -⟩
      · rw [none] at found
        cases found
      · exact known x hx other (same.trans found)
    rcases describes.entry knownNode s with ⟨s₁, told, step⟩ | ⟨⟨x, hx, same, unread⟩, step⟩
    · obtain ⟨done_iff, told_rest⟩ := ih distinct knownRest s₁
      rw [step rest]
      constructor
      · rw [done_iff]
        constructor
        · intro fits x hx
          exact (Aspect.fits_cons alone).mpr ⟨(told x hx).fits, fits x hx⟩
        · intro fits x hx
          exact ((Aspect.fits_cons alone).mp (fits x hx)).2
      · intro s' done x hx
        exact Aspect.told_cons alone (told x hx) (told_rest s' done x hx)
    · obtain ⟨fault, refused⟩ := step rest
      rw [refused]
      constructor
      · refine ⟨fun ⟨_, done⟩ => (nomatch done), fun fits => ?_⟩
        have read := ((Aspect.fits_cons alone).mp (fits x hx)).1 node
          (by rw [Entries.get?_cons, if_pos same.symm])
        rw [unread] at read
        cases read
      · intro s' done
        cases done

end Table

/-- The items of an array under the names of fields, as far as there are both. -/
def assigned (names : List String) (key : Span) (items : List Node) : Entries :=
  (names.zip items).map fun entry => (⟨entry.1, key⟩, entry.2)

/-- A value as a table: an array assigns its items to the names. -/
def asTable (names : List String) (key : Span) : Node → Node
  | .array span items => .table .inlined (some span) (assigned names key items)
  | .tables items => .table .inlined none (assigned names key items)
  | node => node

section Array

variable {σ : Type} {fields : List (Field σ)} (distinct : (fields.map Field.name).Nodup)

include distinct

theorem find?_field {f : Field σ} (here : f ∈ fields) :
    (fields.find? fun g => g.name == f.name) = some f := by
  induction fields with
  | nil => cases here
  | cons first rest ih =>
    obtain ⟨alone, distinct⟩ := List.nodup_cons.mp distinct
    rcases List.mem_cons.mp here with rfl | later
    · simp
    · have apart : first.name ≠ f.name := fun same =>
        alone (List.mem_map.mpr ⟨f, later, same.symm⟩)
      rw [List.find?_cons_of_neg (by simpa using apart)]
      exact ih distinct later

/-- Every field in turn takes the next item, as it would take it under its name. -/
theorem decodeItems_eq {some : List (Field σ)} (known : ∀ f ∈ some, f ∈ fields) (key : Span)
    (items : List Node) (s : σ) : decodeItems key some items s =
      decodeTable fields (assigned (some.map Field.name) key items) s := by
  induction some generalizing items s with
  | nil => rfl
  | cons f rest ih =>
    cases items with
    | nil => rfl
    | cons node items =>
      obtain ⟨here, later⟩ := List.forall_mem_cons.mp known
      have step : decodeTable fields (assigned ((f :: rest).map Field.name) key (node :: items)) s =
          f.enter key node s >>= decodeTable fields (assigned (rest.map Field.name) key items) := by
        simp only [assigned, List.map_cons, List.zip_cons_cons, decodeTable_cons,
          find?_field distinct here]
      rw [step, decodeItems]
      exact bind_congr fun s' => ih later items s'

/-- An array is read like the table that assigns its items to the fields in their order. -/
theorem decodeRecord_asTable (name : String) (defaults : σ) (key : Span) (node : Node) :
    decodeRecord name fields defaults key (asTable (fields.map Field.name) key node) =
      decodeRecord name fields defaults key node := by
  cases node with
  | array span items => exact (decodeItems_eq distinct (fun _ => id) key items defaults).symm
  | tables items => exact (decodeItems_eq distinct (fun _ => id) key items defaults).symm
  | _ => rfl

end Array

end ChatRelay
