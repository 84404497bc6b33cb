import ChatRelay.Clock
import ChatRelay.Proofs.Settings.Accepted
import ChatRelay.Proofs.Settings.Written

/-!
# How large settings can be

The integers of a document have 64 bits with a sign, so no number that is read needs more than 63 of
them, whatever the form of its section. Settings with such numbers can all be written, and those of
them that pass the checks are just the ones that can be loaded. This bounds the time between two
pings.
-/

namespace ChatRelay

open Toml (Node Key Entries Span)

/-- A record with some property still has it after the field took a value. -/
def Field.Keeps {σ : Type} (P : σ → Prop) (f : Field σ) : Prop :=
  ∀ key node s s', node.Sound → P s → f.enter key node s = .ok s' → P s'

section Records

variable {σ β : Type} {P : σ → Prop} {fields : List (Field σ)} {s s' : σ} {name : String}

theorem keeps_of_put {decode : Span → Node → Except DecodeFault β} {put : β → σ → σ}
    (kept : ∀ key node v s, node.Sound → decode key node = .ok v → P s → P (put v s)) :
    Field.Keeps P ⟨name, fun key node s => (decode key node).map fun v => put v s⟩ := by
  intro key node s s' sound start entered
  dsimp only at entered
  cases decoded : decode key node with
  | error fault =>
    rw [decoded] at entered
    cases entered
  | ok v =>
    rw [decoded] at entered
    obtain rfl := Except.ok.inj entered
    exact kept key node v s sound decoded start

/-- What a document says of a number has 63 bits, also where there is room for more. -/
theorem naturalField_keeps {size : IntegerSize} {put : Nat → σ → σ}
    (kept : ∀ n s, n < Nat.pow 2 63 → P s → P (put n s)) :
    (naturalField name size put).Keeps P := by
  apply keeps_of_put
  intro key node v s sound decoded
  refine kept v s ?_
  cases node with
  | integer span n =>
    obtain ⟨-, belowMax⟩ := Toml.inRange_iff.mp sound.integer_inRange
    simp only [decodeNatural] at decoded
    split at decoded
    · obtain rfl := Except.ok.inj decoded
      omega
    · cases decoded
  | _ => cases decoded

variable (keeps : ∀ f ∈ fields, f.Keeps P)

include keeps

theorem decodeTable_keeps {entries : Entries} (sound : ∀ entry ∈ entries, entry.2.Sound)
    (start : P s) (done : decodeTable fields entries s = .ok s') : P s' := by
  induction entries generalizing s with
  | nil =>
    obtain rfl := Except.ok.inj done
    exact start
  | cons entry rest ih =>
    obtain ⟨key, node⟩ := entry
    obtain ⟨here, later⟩ := List.forall_mem_cons.mp sound
    rw [decodeTable_cons] at done
    split at done
    · rename_i f found
      cases entered : f.enter key.span node s with
      | error fault =>
        rw [entered] at done
        cases done
      | ok s₁ =>
        rw [entered] at done
        exact ih later (keeps f (List.mem_of_find?_eq_some found) _ _ _ _ here start entered) done
    · exact ih later start done

theorem decodeItems_keeps {key : Span} {items : List Node} (sound : ∀ item ∈ items, item.Sound)
    (start : P s) (done : decodeItems key fields items s = .ok s') : P s' := by
  induction fields generalizing items s with
  | nil =>
    obtain rfl := Except.ok.inj done
    exact start
  | cons f rest ih =>
    cases items with
    | nil =>
      obtain rfl := Except.ok.inj done
      exact start
    | cons item items =>
      obtain ⟨first, keeps⟩ := List.forall_mem_cons.mp keeps
      obtain ⟨here, later⟩ := List.forall_mem_cons.mp sound
      rw [decodeItems] at done
      cases entered : f.enter key item s with
      | error fault =>
        rw [entered] at done
        cases done
      | ok s₁ =>
        rw [entered] at done
        exact ih keeps later (first _ _ _ _ here start entered) done

/-- A record that is read has what its defaults have, if every field keeps it. -/
theorem decodeRecord_keeps {record : String} {key : Span} {node : Node} (sound : node.Sound)
    (start : P s) (done : decodeRecord record fields s key node = .ok s') : P s' := by
  cases node with
  | table form span entries => exact decodeTable_keeps keeps sound.inside start done
  | array span items => exact decodeItems_keeps keeps sound.items start done
  | tables items => exact decodeItems_keeps keeps sound.members start done
  | datetime span =>
    obtain rfl := Except.ok.inj done
    exact start
  | _ => cases done

end Records

theorem chatFields_keep : ∀ f ∈ chatFields, f.Keeps fun chat => Settings.Writable { chat } := by
  simp only [chatFields, List.forall_mem_cons]
  refine ⟨naturalField_keeps ?_, naturalField_keeps ?_, naturalField_keeps ?_,
    naturalField_keeps ?_, naturalField_keeps ?_, keeps_of_put fun _ _ _ _ _ _ => id, by simp⟩ <;>
  · intro n s small before
    have fits : (UInt64.ofNat n).toNat < Nat.pow 2 63 := by
      rwa [UInt64.toNat_ofNat_of_lt' (Nat.lt_trans small (by decide))]
    simp only [Settings.Writable, List.forall_mem_cons] at before ⊢
    simp only [before, fits, true_and, List.not_mem_nil, false_imp_iff, implies_true]

theorem settingsFields_keep : ∀ f ∈ settingsFields, f.Keeps Settings.Writable := by
  simp only [settingsFields, List.forall_mem_cons]
  refine ⟨keeps_of_put fun _ _ _ _ _ _ => id, keeps_of_put fun _ _ _ _ _ _ => id, keeps_of_put ?_,
    keeps_of_put fun _ _ _ _ _ _ => id, keeps_of_put fun _ _ _ _ _ _ => id, by simp⟩
  intro key node chat s sound decoded _
  exact decodeRecord_keeps (P := fun chat => Settings.Writable { chat }) chatFields_keep sound
    (by decide) decoded

namespace Settings

theorem read_writable {text : String} {s : Settings} (done : read text = .ok s) : s.Writable := by
  unfold read at done
  split at done
  · cases done
  · rename_i root parsed
    split at done
    · rename_i decoded
      obtain rfl := Except.ok.inj done
      exact decodeRecord_keeps settingsFields_keep (Toml.parse?_sound parsed) (by decide) decoded
    · cases done

theorem load_writable {path : String} {content : FileContent} {s : Settings}
    (loaded : (load path content).1 = .ok s) : s.Writable := by
  unfold load at loaded
  dsimp only at loaded
  split at loaded
  · cases loaded
  · rename_i s' found
    split at loaded
    · cases loaded
    · cases loaded
      unfold ofFile at found
      split at found
      · rename_i text
        split at found
        · rename_i done
          cases found
          exact read_writable done
        · cases found
        · cases found
      · cases found
        decide
      · cases found
      · cases found
      · cases found

/-- The settings that can be loaded are those that can be written and pass every check. -/
theorem loaded_iff {s : Settings} :
    (∃ path content, (load path content).1 = .ok s) ↔ s.Writable ∧ s.Accepted := by
  constructor
  · rintro ⟨path, content, loaded⟩
    exact ⟨load_writable loaded, load_accepted loaded⟩
  · rintro ⟨writable, accepted⟩
    obtain ⟨root, parsed, sectioned, stated⟩ := document_parsed writable
    refine ⟨"", .text s.document, ?_⟩
    simp only [load, ofFile, read_of_stated parsed sectioned stated,
      fault?_eq_none_iff.mpr accepted]

/-- A time between two pings that begins in the first two seconds of the clock ends before the
clock does. -/
theorem keepalive_early {path : String} {content : FileContent} {s : Settings}
    (loaded : (load path content).1 = .ok s) {now : Nat} (early : now < 2000) :
    now + s.relayConfig.keepalive ≤ Clock.last := by
  have small : s.chat.idleTimeout.toNat < Nat.pow 2 63 :=
    load_writable loaded s.chat.idleTimeout (by simp)
  have patient : s.chat.keepalive.toNat < s.chat.idleTimeout.toNat := (load_accepted loaded).patient
  simp only [relayConfig, Duration.seconds, Clock.last]
  omega

end Settings

end ChatRelay
