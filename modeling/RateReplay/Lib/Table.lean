import RateReplay.Lib.Dict

/-!
# Keyed tables

Rows under a primary key: a `Dict` with the statements a program sends to it.  A query names
the rows by a condition on key and contents; an update rewrites rows in place; an insertion
fails when the key is taken.

## Main definitions

* `Dict.first`, `Dict.has`, `Dict.keysWhere` — the first row that meets a condition, whether
  there is one, and the keys of all.
* `Dict.modify`, `Dict.modifyWhere` — rewrite the row of one key, or every row that meets a
  condition.
* `Dict.deleteWhere` — delete every row that meets a condition.
* `Dict.insertRow` — insert a row under a new key.

## Main results

* `Dict.get?_modify`, `Dict.get?_modifyWhere`, `Dict.get?_deleteWhere`, `Dict.insertRow_eq_some`
  — what each statement does to the row of a key.
-/

namespace RateReplay
namespace Dict

variable {κ α β : Type*} {d : Dict κ α} {p : κ → α → Bool} {k j : κ} {v w : α}

/-! ### Queries -/

/-- The first row that meets the condition. -/
def first (d : Dict κ α) (p : κ → α → Bool) : Option (κ × α) := d.entries.find? fun e => p e.1 e.2

/-- Some row meets the condition. -/
def has (d : Dict κ α) (p : κ → α → Bool) : Bool := d.entries.any fun e => p e.1 e.2

theorem has_eq_true :
    d.has p = true ↔ ∃ k v, (k, v) ∈ d.entries ∧ p k v = true := by
  rw [has, List.any_eq_true]
  constructor
  · rintro ⟨⟨k, v⟩, hmem, hp⟩
    exact ⟨k, v, hmem, hp⟩
  · rintro ⟨k, v, hmem, hp⟩
    exact ⟨(k, v), hmem, hp⟩

theorem has_eq_false :
    d.has p = false ↔ ∀ k v, (k, v) ∈ d.entries → p k v = false := by
  rw [← Bool.not_eq_true, has_eq_true]
  push Not
  simp only [Bool.not_eq_true]

theorem first_eq_none :
    d.first p = none ↔ ∀ k v, (k, v) ∈ d.entries → p k v = false := by
  rw [first, List.find?_eq_none]
  constructor
  · intro h k v hmem
    simpa using h (k, v) hmem
  · intro h e hmem
    simpa using h e.1 e.2 hmem

theorem mem_of_first_eq_some
    (h : d.first p = some (k, v)) : (k, v) ∈ d.entries ∧ p k v = true :=
  ⟨List.mem_of_find?_eq_some h, List.find?_some (p := fun e : κ × α => p e.1 e.2) h⟩

/-- The keys of the rows that meet a condition on their contents. -/
def keysWhere (d : Dict κ α) (p : α → Bool) : List κ :=
  (d.entries.filter fun e => p e.2).map Prod.fst

theorem mem_keysWhere {p : α → Bool} :
    k ∈ d.keysWhere p ↔ ∃ v, (k, v) ∈ d.entries ∧ p v = true := by
  rw [keysWhere, List.mem_map]
  constructor
  · rintro ⟨⟨j, v⟩, hmem, rfl⟩
    exact ⟨v, List.mem_filter.mp hmem⟩
  · rintro ⟨v, hmem, hp⟩
    exact ⟨(k, v), List.mem_filter.mpr ⟨hmem, hp⟩, rfl⟩

/-! ### Updates and deletions -/

/-- Rewrite every row that meets the condition. -/
def modifyWhere (d : Dict κ α) (p : κ → α → Bool) (f : α → α) : Dict κ α :=
  d.mapValues fun k v => if p k v then f v else v

/-- Delete every row that meets the condition. -/
def deleteWhere (d : Dict κ α) (p : κ → α → Bool) : Dict κ α := d.filter fun e => !p e.1 e.2

theorem mem_entries_deleteWhere :
    (k, v) ∈ (d.deleteWhere p).entries ↔ (k, v) ∈ d.entries ∧ p k v = false := by
  rw [deleteWhere, entries_filter, List.mem_filter, Bool.not_eq_true']

theorem has_deleteWhere :
    (d.deleteWhere p).has p = false :=
  has_eq_false.mpr fun _ _ hmem => (mem_entries_deleteWhere.mp hmem).2

section Lookup

variable [DecidableEq κ]

/-- Rewrite the row of one key. -/
def modify (d : Dict κ α) (k : κ) (f : α → α) : Dict κ α := d.modifyWhere (fun j _ => j = k) f

/-- Insert a row under a key that is not taken. -/
def insertRow (d : Dict κ α) (k : κ) (v : α) : Option (Dict κ α) :=
  if k ∈ d.keys then none else some (d.set k v)

theorem mem_keys_iff : k ∈ d.keys ↔ ∃ v, d.get? k = some v := by
  rw [← not_iff_not, ← get?_eq_none, not_exists, Option.eq_none_iff_forall_not_mem]
  rfl

@[simp] theorem get?_mapValues (f : κ → α → β) (d : Dict κ α) (k : κ) :
    (d.mapValues f).get? k = (d.get? k).map (f k) := by
  apply Option.ext
  intro w
  rw [get?_eq_some, entries_mapValues, List.mem_map, Option.map_eq_some_iff]
  constructor
  · rintro ⟨⟨j, v⟩, hmem, heq⟩
    obtain ⟨rfl, rfl⟩ := Prod.mk.inj heq
    exact ⟨v, get?_eq_some.mpr hmem, rfl⟩
  · rintro ⟨v, hv, rfl⟩
    exact ⟨(k, v), get?_eq_some.mp hv, rfl⟩

@[simp] theorem get?_modifyWhere (d : Dict κ α) (p : κ → α → Bool) (f : α → α) (k : κ) :
    (d.modifyWhere p f).get? k = (d.get? k).map fun v => if p k v then f v else v :=
  get?_mapValues _ _ _

theorem get?_modify (d : Dict κ α) (k j : κ) (f : α → α) :
    (d.modify k f).get? j = if j = k then (d.get? k).map f else d.get? j := by
  rw [modify, get?_modifyWhere]
  by_cases hj : j = k
  · simp [hj]
  · simp [hj]

@[simp] theorem get?_modify_self (d : Dict κ α) (k : κ) (f : α → α) :
    (d.modify k f).get? k = (d.get? k).map f := by
  rw [get?_modify, if_pos rfl]

theorem get?_modify_of_ne (d : Dict κ α) (f : α → α) (h : j ≠ k) :
    (d.modify k f).get? j = d.get? j := by
  rw [get?_modify, if_neg h]

@[simp] theorem get?_deleteWhere (d : Dict κ α) (p : κ → α → Bool) (k : κ) :
    (d.deleteWhere p).get? k = (d.get? k).filter fun v => !p k v := by
  apply Option.ext
  intro w
  rw [get?_eq_some, mem_entries_deleteWhere, Option.filter_eq_some_iff, get?_eq_some,
    Bool.not_eq_true']

/-- No key is selected again after the rows of the selected keys are deleted. -/
theorem keysWhere_deleteWhere {p q : α → Bool} (h : ∀ v, q v = true → p v = true) :
    (d.deleteWhere fun k _ => k ∈ d.keysWhere p).keysWhere q = [] := by
  refine List.eq_nil_iff_forall_not_mem.mpr fun k hk => ?_
  obtain ⟨v, hmem, hq⟩ := mem_keysWhere.mp hk
  obtain ⟨hold, hgone⟩ := mem_entries_deleteWhere.mp hmem
  exact of_decide_eq_false hgone (mem_keysWhere.mpr ⟨v, hold, h v hq⟩)

theorem filter_keysWhere_deleteWhere (q : α → Bool) (r : κ → Bool) :
    ((d.deleteWhere fun k _ => k ∈ (d.keysWhere q).filter r).keysWhere q).filter r = [] := by
  refine List.filter_eq_nil_iff.mpr fun k hk hr => ?_
  obtain ⟨v, hmem, hq⟩ := mem_keysWhere.mp hk
  obtain ⟨hold, hgone⟩ := mem_entries_deleteWhere.mp hmem
  exact of_decide_eq_false hgone (List.mem_filter.mpr ⟨mem_keysWhere.mpr ⟨v, hold, hq⟩, hr⟩)

theorem get?_of_deleteWhere
    (h : (d.deleteWhere p).get? k = some v) : d.get? k = some v := by
  rw [get?_deleteWhere, Option.filter_eq_some_iff] at h
  exact h.1

theorem get?_of_modifyWhere {f : α → α}
    (h : (d.modifyWhere p f).get? k = some v) :
    ∃ w, d.get? k = some w ∧ v = if p k w then f w else w := by
  rw [get?_modifyWhere, Option.map_eq_some_iff] at h
  obtain ⟨w, hw, hv⟩ := h
  exact ⟨w, hw, hv.symm⟩

theorem get?_of_modify {f : α → α}
    (h : (d.modify k f).get? j = some v) :
    ∃ w, d.get? j = some w ∧ (j = k ∧ v = f w ∨ j ≠ k ∧ v = w) := by
  obtain ⟨w, hold, hv⟩ := get?_of_modifyWhere h
  refine ⟨w, hold, ?_⟩
  by_cases hj : j = k
  · rw [if_pos (decide_eq_true hj)] at hv
    exact .inl ⟨hj, hv⟩
  · rw [if_neg (by simpa using hj)] at hv
    exact .inr ⟨hj, hv⟩

theorem get?_of_set (h : (d.set k v).get? j = some w) :
    j = k ∧ w = v ∨ j ≠ k ∧ d.get? j = some w := by
  rw [get?_set] at h
  by_cases hj : j = k
  · rw [if_pos hj] at h
    exact .inl ⟨hj, (Option.some.inj h).symm⟩
  · rw [if_neg hj] at h
    exact .inr ⟨hj, h⟩

/-- A row was there, or it has what the new one has. -/
theorem get?_or_of_set {P : κ → α → Prop} (hnew : P k v) :
    ∀ j w, (d.set k v).get? j = some w → d.get? j = some w ∨ P j w := by
  intro j w h
  rcases get?_of_set h with ⟨rfl, rfl⟩ | ⟨-, hold⟩
  · exact .inr hnew
  · exact .inl hold

theorem isSome_modify {f : α → α} (h : (d.get? j).isSome = true) :
    ((d.modify k f).get? j).isSome = true := by
  rw [modify, get?_modifyWhere, Option.isSome_map]
  exact h

theorem isSome_set (h : (d.get? j).isSome = true) : ((d.set k v).get? j).isSome = true := by
  rw [get?_set]
  split
  · rfl
  · exact h

theorem isSome_deleteWhere (h : d.get? k = some v) (hkeep : p k v = false) :
    ((d.deleteWhere p).get? k).isSome = true := by
  rw [get?_deleteWhere, h]
  simp [Option.filter, hkeep]

theorem first_eq_some_get?
    (h : d.first p = some (k, v)) : d.get? k = some v ∧ p k v = true :=
  ⟨get?_eq_some.mpr (mem_of_first_eq_some h).1, (mem_of_first_eq_some h).2⟩

theorem first_isSome :
    (d.first p).isSome = true ↔ ∃ k v, d.get? k = some v ∧ p k v = true := by
  rw [first, List.find?_isSome]
  constructor
  · rintro ⟨⟨k, v⟩, hmem, hp⟩
    exact ⟨k, v, get?_eq_some.mpr hmem, hp⟩
  · rintro ⟨k, v, hg, hp⟩
    exact ⟨(k, v), get?_eq_some.mp hg, hp⟩

/-- **An insertion succeeds exactly when the key is new**, and adds the row behind the
others. -/
theorem insertRow_eq_some {d e : Dict κ α} :
    d.insertRow k v = some e ↔ d.get? k = none ∧ e = d.set k v := by
  rw [insertRow, get?_eq_none]
  by_cases h : k ∈ d.keys
  · simp [h]
  · simp [h, eq_comm]

theorem values_set_of_not_mem (v : α) (h : d.get? k = none) :
    (d.set k v).values = d.values ++ [v] := by
  rw [values, entries_set_of_not_mem v (get?_eq_none.mp h), List.map_append]
  rfl

end Lookup

end Dict

/-! ### Rows that correspond -/

section Rel

variable {α β γ : Type*} {r : α → β → Prop} {x : Option α} {y : Option β} {z : Option γ}

theorem rel_refl {r : α → α → Prop} (h : ∀ a, r a a) (x : Option α) : Option.Rel r x x := by
  cases x with
  | none => exact .none
  | some a => exact .some (h a)

theorem rel_some {a : α} (h : Option.Rel r (some a) y) : ∃ b, y = some b ∧ r a b := by
  cases h with
  | some hab => exact ⟨_, rfl, hab⟩

theorem rel_eq_none (h : Option.Rel r x y) : y = none ↔ x = none := by
  cases h <;> simp

theorem rel_mono {s : α → β → Prop} (hr : Option.Rel r x y) (h : ∀ a b, r a b → s a b) :
    Option.Rel s x y := by
  cases hr with
  | none => exact .none
  | some hab => exact .some (h _ _ hab)

theorem rel_comp {s : β → γ → Prop} {t : α → γ → Prop} (hr : Option.Rel r x y)
    (hs : Option.Rel s y z) (h : ∀ a b c, r a b → s b c → t a c) : Option.Rel t x z := by
  cases hr with
  | none =>
    cases hs
    exact .none
  | some hab =>
    obtain ⟨_, rfl, hbc⟩ := rel_some hs
    exact .some (h _ _ _ hab hbc)

end Rel

end RateReplay
