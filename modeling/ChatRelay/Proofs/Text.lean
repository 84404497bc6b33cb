import ChatRelay.Text.Parts
import Mathlib.Data.List.Basic

/-!
# Parts of texts

A text is taken apart at its marks, and nothing of it is lost.
-/

namespace ChatRelay.Text

theorem parts_of_unmarked {mark : Char} {part : List Char} (unmarked : mark ∉ part) :
    parts mark part = [part] := by
  induction part with
  | nil => rfl
  | cons c rest ih =>
    rw [List.mem_cons, not_or] at unmarked
    simp [parts, Ne.symm unmarked.1, ih unmarked.2]

theorem parts_append {mark : Char} {part : List Char} (unmarked : mark ∉ part)
    (more : List Char) : parts mark (part ++ mark :: more) = part :: parts mark more := by
  induction part with
  | nil => simp [parts]
  | cons c rest ih =>
    rw [List.mem_cons, not_or] at unmarked
    simp [parts, Ne.symm unmarked.1, ih unmarked.2]

theorem parts_ne_nil (mark : Char) (text : List Char) : parts mark text ≠ [] := by
  cases text with
  | nil => simp [parts]
  | cons c rest =>
    rw [parts]
    split
    · simp
    · split <;> simp

/-- The parts with the marks between them are the text. -/
theorem intercalate_parts (mark : Char) (text : List Char) :
    [mark].intercalate (parts mark text) = text := by
  induction text with
  | nil => rfl
  | cons c rest ih =>
    rw [parts]
    split
    · rename_i marked
      rw [List.intercalate_cons_of_ne_nil (parts_ne_nil mark rest), ih, marked]
      rfl
    · split
      · rename_i none
        exact absurd none (parts_ne_nil mark rest)
      · rename_i part more found
        rw [found] at ih
        subst ih
        cases more with
        | nil => simp
        | cons next more => simp [List.intercalate_cons_cons]

end ChatRelay.Text
