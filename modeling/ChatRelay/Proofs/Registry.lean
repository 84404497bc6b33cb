import ChatRelay.Registry
import Mathlib.Data.List.Nodup

/-!
# Order in the registry

The members stand in the strict order of their identities. So an identity has at most one member,
and adding or removing one is what it is for a finite map.
-/

namespace ChatRelay

namespace ConnectionId

theorem lt_iff_toNat {a b : ConnectionId} : a < b ↔ a.number.toNat < b.number.toNat :=
  UInt64.lt_iff_toNat_lt

theorem eq_iff_toNat {a b : ConnectionId} : a = b ↔ a.number.toNat = b.number.toNat := by
  cases a
  cases b
  simp [UInt64.toNat_inj]

theorem ne_of_lt {a b : ConnectionId} (h : a < b) : a ≠ b := by
  rw [lt_iff_toNat] at h
  rw [Ne, eq_iff_toNat]
  omega

end ConnectionId

namespace Registry

/-- The members are in the strict order of their identities. -/
def Ascending (r : Registry) : Prop := r.members.Pairwise fun a b => a.id < b.id

@[simp] theorem contains_iff {r : Registry} {id : ConnectionId} :
    r.contains id = true ↔ ∃ m ∈ r.members, m.id = id := by
  simp [contains]

@[simp] theorem holds_iff {r : Registry} {key : QueueKey} :
    r.holds key = true ↔ ∃ m ∈ r.members, m.queue = key := by
  simp [holds]

theorem find?_eq_none_iff {r : Registry} {id : ConnectionId} :
    r.find? id = none ↔ ∀ m ∈ r.members, m.id ≠ id := by
  simp [find?]

/-- A new member is added, and the others keep their order. -/
theorem insertById_perm (m : Member) (l : List Member) : (insertById m l).Perm (m :: l) := by
  induction l with
  | nil => exact .refl _
  | cons other rest ih =>
    rw [insertById]
    split
    · exact .refl _
    · exact (ih.cons other).trans (.swap m other rest)

theorem mem_insertById {x m : Member} {l : List Member} :
    x ∈ insertById m l ↔ x = m ∨ x ∈ l := by
  rw [(insertById_perm m l).mem_iff, List.mem_cons]

theorem insertById_ascending {m : Member} {l : List Member}
    (sorted : l.Pairwise fun a b => a.id < b.id) (fresh : ∀ x ∈ l, x.id ≠ m.id) :
    (insertById m l).Pairwise fun a b => a.id < b.id := by
  induction l with
  | nil => simp [insertById]
  | cons other rest ih =>
    obtain ⟨above, sorted⟩ := List.pairwise_cons.mp sorted
    rw [insertById]
    split
    · rename_i below
      refine List.pairwise_cons.mpr ⟨?_, List.pairwise_cons.mpr ⟨above, sorted⟩⟩
      intro x hx
      rcases List.mem_cons.mp hx with rfl | hx
      · exact below
      · have := above x hx
        rw [ConnectionId.lt_iff_toNat] at *
        omega
    · rename_i notBelow
      refine List.pairwise_cons.mpr ⟨?_, ih sorted fun x hx => fresh x (by simp [hx])⟩
      intro x hx
      rcases mem_insertById.mp hx with rfl | hx
      · have := fresh other (by simp)
        rw [Ne, ConnectionId.eq_iff_toNat] at this
        rw [ConnectionId.lt_iff_toNat] at *
        omega
      · exact above x hx

/-- Members of different identities can come in either order. -/
theorem insertById_comm {a b : Member} (apart : a.id ≠ b.id) (l : List Member) :
    insertById a (insertById b l) = insertById b (insertById a l) := by
  have either : a.id < b.id ∧ ¬ b.id < a.id ∨ b.id < a.id ∧ ¬ a.id < b.id := by
    rw [Ne, ConnectionId.eq_iff_toNat] at apart
    simp only [ConnectionId.lt_iff_toNat]
    omega
  induction l with
  | nil => rcases either with ⟨h, h'⟩ | ⟨h, h'⟩ <;> simp [insertById, h, h']
  | cons other rest ih =>
    have between : ∀ {x y : Member}, x.id < other.id → ¬ y.id < other.id → ¬ y.id < x.id := by
      simp only [ConnectionId.lt_iff_toNat]
      omega
    by_cases ha : a.id < other.id <;> by_cases hb : b.id < other.id
    · rcases either with ⟨h, h'⟩ | ⟨h, h'⟩ <;> simp [insertById, ha, hb, h, h']
    · simp [insertById, ha, hb, between ha hb]
    · simp [insertById, ha, hb, between hb ha]
    · simp [insertById, ha, hb, ih]

theorem Ascending.ids_nodup {r : Registry} (h : r.Ascending) : (r.members.map Member.id).Nodup :=
  List.pairwise_map.mpr (h.imp fun below => ConnectionId.ne_of_lt below)

/-- An identity has at most one member. -/
theorem Ascending.eq_of_id {r : Registry} (h : r.Ascending) {a b : Member} (ha : a ∈ r.members)
    (hb : b ∈ r.members) (same : a.id = b.id) : a = b :=
  List.inj_on_of_nodup_map h.ids_nodup ha hb same

/-- The order leaves no choice but that of the members. -/
theorem Ascending.members_ext {r r' : Registry} (h : r.Ascending) (h' : r'.Ascending)
    (same : ∀ m, m ∈ r.members ↔ m ∈ r'.members) : r.members = r'.members := by
  have nodup : r.members.Nodup := .of_map _ h.ids_nodup
  have nodup' : r'.members.Nodup := .of_map _ h'.ids_nodup
  have perm := (List.perm_ext_iff_of_nodup nodup nodup').mpr same
  refine perm.eq_of_pairwise ?_ h h'
  intro a b _ _ below above
  rw [ConnectionId.lt_iff_toNat] at below above
  exact absurd below (Nat.lt_asymm above)

/-- Whoever is found under an identity is a member of this identity. -/
theorem Ascending.find?_eq_some_iff {r : Registry} (h : r.Ascending) {id : ConnectionId}
    {m : Member} : r.find? id = some m ↔ m ∈ r.members ∧ m.id = id := by
  constructor
  · intro found
    exact ⟨List.mem_of_find?_eq_some found, by simpa using List.find?_some found⟩
  · rintro ⟨hm, rfl⟩
    cases found : r.find? m.id with
    | none => exact absurd rfl (find?_eq_none_iff.mp found m hm)
    | some other =>
      have same : other.id = m.id := by simpa using List.find?_some found
      rw [h.eq_of_id (List.mem_of_find?_eq_some found) hm same]

/-- A registration succeeds while the registry has not ended and nobody has the identity. -/
theorem register_eq_ok_iff {r r' : Registry} {m : Member} :
    r.register m = .ok r' ↔ r.ended = false ∧ (∀ x ∈ r.members, x.id ≠ m.id) ∧
      r' = { r with members := insertById m r.members } := by
  have absent : r.contains m.id = false ↔ ∀ x ∈ r.members, x.id ≠ m.id := by
    rw [← Bool.not_eq_true, contains_iff]
    simp
  rw [register, ← absent]
  cases r.ended <;> cases r.contains m.id <;> simp [eq_comm]

theorem contains_of_present {r : Registry} {m : Member} {id : ConnectionId}
    (refused : r.register m = .error (.present id)) : r.contains m.id = true := by
  unfold register at refused
  split at refused
  · cases refused
  · split at refused
    · assumption
    · cases refused

theorem ended_of_refused {r : Registry} {m : Member} (refused : r.register m = .error .ended) :
    r.ended = true := by
  unfold register at refused
  split at refused
  · assumption
  · split at refused <;> cases refused

/-- Of two registrations that succeed one after the other, the second could have come first. -/
theorem register_comm {r r₁ r₂ : Registry} {a b : Member} (first : r.register a = .ok r₁)
    (second : r₁.register b = .ok r₂) :
    ∃ r₁', r.register b = .ok r₁' ∧ r₁'.register a = .ok r₂ := by
  obtain ⟨going, freshA, rfl⟩ := register_eq_ok_iff.mp first
  obtain ⟨-, freshB, rfl⟩ := register_eq_ok_iff.mp second
  have apart : a.id ≠ b.id := freshB a (mem_insertById.mpr (Or.inl rfl))
  refine ⟨_, register_eq_ok_iff.mpr ⟨going, ?_, rfl⟩, register_eq_ok_iff.mpr ⟨going, ?_, ?_⟩⟩
  · exact fun x hx => freshB x (mem_insertById.mpr (Or.inr hx))
  · intro x hx
    rcases mem_insertById.mp hx with rfl | hx
    · exact apart.symm
    · exact freshA x hx
  · simp only [insertById_comm apart]

theorem Ascending.register {r r' : Registry} {m : Member} (h : r.Ascending)
    (done : r.register m = .ok r') : r'.Ascending := by
  obtain ⟨-, fresh, rfl⟩ := register_eq_ok_iff.mp done
  exact insertById_ascending h fresh

/-- A registration brings in the queue of its member. -/
theorem holds_register {r r' : Registry} {m : Member} (done : r.register m = .ok r')
    {key : QueueKey} : r'.holds key = true ↔ m.queue = key ∨ r.holds key = true := by
  obtain ⟨-, -, rfl⟩ := register_eq_ok_iff.mp done
  rw [holds_iff, holds_iff]
  constructor
  · rintro ⟨x, hx, same⟩
    rcases mem_insertById.mp hx with rfl | hx
    · exact Or.inl same
    · exact Or.inr ⟨x, hx, same⟩
  · rintro (same | ⟨x, hx, same⟩)
    · exact ⟨m, mem_insertById.mpr (Or.inl rfl), same⟩
    · exact ⟨x, mem_insertById.mpr (Or.inr hx), same⟩

theorem mem_unregister {r : Registry} {id : ConnectionId} {m : Member} :
    m ∈ (r.unregister id).members ↔ m ∈ r.members ∧ m.id ≠ id := by
  simp [unregister]

theorem id_of_unregister {r : Registry} {id : ConnectionId} {m : Member} (hm : m ∈ r.members)
    (gone : m ∉ (r.unregister id).members) : m.id = id := by
  by_contra other
  exact gone (mem_unregister.mpr ⟨hm, other⟩)

theorem unregister_of_absent {r : Registry} {id : ConnectionId}
    (absent : ∀ m ∈ r.members, m.id ≠ id) : r.unregister id = r := by
  rw [unregister, List.filter_eq_self.mpr (by simpa using absent)]

@[simp] theorem unregister_unregister (r : Registry) (id : ConnectionId) :
    (r.unregister id).unregister id = r.unregister id := by
  simp [unregister]

theorem Ascending.unregister {r : Registry} (h : r.Ascending) (id : ConnectionId) :
    (r.unregister id).Ascending :=
  h.filter _

theorem ascending_close (r : Registry) : r.close.Ascending := .nil

/-- Whoever overlooks the new member sees no difference. -/
theorem filter_insertById_of_neg {p : Member → Bool} {m : Member} (hidden : p m = false)
    (l : List Member) : (insertById m l).filter p = l.filter p := by
  induction l with
  | nil => simp [insertById, hidden]
  | cons other rest ih =>
    rw [insertById]
    split
    · rw [List.filter_cons, hidden]
      rfl
    · rw [List.filter_cons, List.filter_cons, ih]

theorem insertById_below {m : Member} {l : List Member} (below : ∀ x ∈ l, m.id < x.id) :
    insertById m l = m :: l := by
  cases l with
  | nil => rfl
  | cons first rest => simp [insertById, below first List.mem_cons_self]

/-- The new member stands among the others where it would stand without the overlooked ones. -/
theorem filter_insertById_of_pos {p : Member → Bool} {m : Member} (seen : p m = true)
    {l : List Member} (sorted : l.Pairwise fun a b => a.id < b.id) :
    (insertById m l).filter p = insertById m (l.filter p) := by
  induction l with
  | nil => simp [insertById, seen]
  | cons other rest ih =>
    obtain ⟨above, sorted⟩ := List.pairwise_cons.mp sorted
    rw [insertById]
    split
    · rename_i first
      have below : ∀ x ∈ (other :: rest).filter p, m.id < x.id := by
        intro x hx
        rcases List.mem_cons.mp (List.mem_filter.mp hx).1 with rfl | hx
        · exact first
        · have := above x hx
          rw [ConnectionId.lt_iff_toNat] at *
          omega
      rw [insertById_below below, List.filter_cons, seen]
      rfl
    · rename_i later
      rw [List.filter_cons, List.filter_cons, ih sorted]
      split
      · rw [insertById, if_neg later]
      · rfl

/-- A registration that is taken back at once leaves no trace. -/
theorem unregister_register {r r' : Registry} {m : Member} (done : r.register m = .ok r') :
    r'.unregister m.id = r := by
  obtain ⟨-, fresh, rfl⟩ := register_eq_ok_iff.mp done
  rw [unregister, filter_insertById_of_neg (by simp),
    List.filter_eq_self.mpr (by simpa using fresh)]

/-- The registry less the members of some identities. -/
def without (r : Registry) (ids : List ConnectionId) : Registry :=
  { members := r.members.filter fun m => m.id ∉ ids, ended := r.ended }

@[simp] theorem mem_without {r : Registry} {ids : List ConnectionId} {m : Member} :
    m ∈ (r.without ids).members ↔ m ∈ r.members ∧ m.id ∉ ids := by
  simp [without]

@[simp] theorem without_nil (r : Registry) : r.without [] = r := by
  simp [without]

theorem unregister_without (r : Registry) (id : ConnectionId) (ids : List ConnectionId) :
    (r.unregister id).without ids = r.without (id :: ids) := by
  have both : ∀ m : Member, (decide (m.id ∉ ids) && m.id != id) = decide (m.id ∉ id :: ids) := by
    intro m
    by_cases same : m.id = id <;> simp [same]
  simp only [without, unregister, List.filter_filter, both]

theorem Ascending.without {r : Registry} (h : r.Ascending) (ids : List ConnectionId) :
    (r.without ids).Ascending :=
  h.filter _

end Registry

end ChatRelay
