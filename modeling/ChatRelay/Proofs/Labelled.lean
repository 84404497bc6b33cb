import ChatRelay.Labelled

/-!
# Entries under labels

An entry that is found under a label was put there, and one that is erased hides no other.
-/

namespace ChatRelay

namespace Labelled

variable {α : Type} {t : Labelled α} {label : String}

theorem mem_of_mem_erase {entry : String × α} (h : entry ∈ t.erase label) : entry ∈ t :=
  (List.mem_filter.mp h).1

theorem mem_put {value : α} {entry : String × α} (h : entry ∈ t.put label value) :
    entry ∈ t ∨ entry = (label, value) := by
  rcases List.mem_append.mp h with old | new
  · exact Or.inl (mem_of_mem_erase old)
  · exact Or.inr (by simpa using new)

theorem mem_of_get? {value : α} (h : t.get? label = some value) : (label, value) ∈ t := by
  induction t with
  | nil => simp [get?] at h
  | cons entry rest ih =>
    obtain ⟨other, first⟩ := entry
    by_cases same : label = other
    · subst same
      have here : first = value := by simpa [get?] using h
      simp [here]
    · have unequal : (label == other) = false := by simpa using same
      rw [get?, List.lookup_cons, unequal] at h
      exact List.mem_cons_of_mem _ (ih h)

theorem get?_erase_self (t : Labelled α) (label : String) : (t.erase label).get? label = none := by
  rw [get?, List.lookup_eq_none_iff]
  intro entry hentry
  simpa [bne_iff_ne, ne_comm] using (List.mem_filter.mp hentry).2

theorem get?_erase_of_ne {other : String} (apart : label ≠ other) :
    (t.erase other).get? label = t.get? label := by
  induction t with
  | nil => rfl
  | cons entry rest ih =>
    obtain ⟨first, value⟩ := entry
    by_cases gone : first = other
    · subst gone
      have unequal : (label == first) = false := by simpa using apart
      simpa [erase, get?, List.lookup_cons, unequal] using ih
    · by_cases here : label = first
      · simp [erase, get?, gone, here]
      · have unequal : (label == first) = false := by simpa using here
        simpa [erase, get?, gone, List.lookup_cons, unequal] using ih

theorem get?_put_self (t : Labelled α) (label : String) (value : α) :
    (t.put label value).get? label = some value := by
  have absent : List.lookup label (t.erase label) = none := get?_erase_self t label
  simp [put, get?, List.lookup_append, absent]

theorem get?_put_of_ne {other : String} (apart : label ≠ other) (value : α) :
    (t.put other value).get? label = t.get? label := by
  have unequal : (label == other) = false := by simpa using apart
  have kept : List.lookup label (t.erase other) = List.lookup label t := get?_erase_of_ne apart
  simp [put, get?, List.lookup_append, kept, List.lookup_cons, unequal]

theorem get?_erase_eq_some_iff {other : String} {value : α} :
    (t.erase other).get? label = some value ↔ label ≠ other ∧ t.get? label = some value := by
  by_cases same : label = other
  · simp [same, get?_erase_self]
  · simp [same, get?_erase_of_ne same]

theorem get?_put_eq_some_iff {other : String} {value new : α} :
    (t.put other new).get? label = some value ↔
      label = other ∧ new = value ∨ label ≠ other ∧ t.get? label = some value := by
  by_cases same : label = other
  · simp [same, get?_put_self]
  · simp [same, get?_put_of_ne same]

theorem erase_comm (t : Labelled α) (a b : String) : (t.erase a).erase b = (t.erase b).erase a := by
  simp only [erase, List.filter_filter, Bool.and_comm]

end Labelled

end ChatRelay
