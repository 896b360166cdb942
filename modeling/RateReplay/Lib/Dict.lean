import RateReplay.Lib.Sorted

/-!
# Insertion-ordered dictionaries

A Python `dict`: distinct keys in the order in which they were first assigned.
Assigning to a key that is present keeps its place.

## Main definitions

* `Dict κ α` — the entries, with the proof that no key stands twice.
* `Dict.get?`, `Dict.getD`, `Dict.set`, `Dict.add`, `Dict.filter`, `Dict.mapValues`,
  `Dict.sorted` — the operations used by the programs modelled over it.
* `Dict.total` — the sum of the values.

## Main results

* `Dict.get?_set` — what an assignment changes.
* `Dict.total_add` — adding to one value adds to the sum.
-/

namespace RateReplay

/-- A dictionary, its entries in the order of their first assignment. -/
structure Dict (κ α : Type*) where
  entries : List (κ × α)
  nodup : (entries.map Prod.fst).Nodup
  deriving DecidableEq

namespace Dict

variable {κ α β : Type*} {d : Dict κ α} {k j : κ} {v w : α}

@[ext] theorem ext {d e : Dict κ α} (h : d.entries = e.entries) : d = e := by
  cases d
  cases e
  cases h
  rfl

/-- `{}`. -/
def empty : Dict κ α := ⟨[], List.nodup_nil⟩

instance : Inhabited (Dict κ α) := ⟨empty⟩

/-- `d.keys()`. -/
def keys (d : Dict κ α) : List κ := d.entries.map Prod.fst

/-- `d.values()`. -/
def values (d : Dict κ α) : List α := d.entries.map Prod.snd

/-- `{k: v for k, v in d.items() if p(k, v)}`. -/
def filter (p : κ × α → Bool) (d : Dict κ α) : Dict κ α where
  entries := d.entries.filter p
  nodup := d.nodup.sublist (List.filter_sublist.map Prod.fst)

/-- `{k: f(v) for k, v in d.items()}`. -/
def mapValues (f : κ → α → β) (d : Dict κ α) : Dict κ β where
  entries := d.entries.map fun e => (e.1, f e.1 e.2)
  nodup := by
    rw [List.map_map]
    exact d.nodup

@[simp] theorem entries_filter (p : κ × α → Bool) (d : Dict κ α) :
    (d.filter p).entries = d.entries.filter p := rfl

@[simp] theorem entries_mapValues (f : κ → α → β) (d : Dict κ α) :
    (d.mapValues f).entries = d.entries.map fun e => (e.1, f e.1 e.2) := rfl

theorem mem_entries_unique (hv : (k, v) ∈ d.entries)
    (hw : (k, w) ∈ d.entries) : v = w := by
  have := List.inj_on_of_nodup_map d.nodup hv hw rfl
  exact (Prod.mk.inj this).2

/-! ### Sorting -/

/-- `dict(sorted(d.items()))`; the keys decide, being distinct. -/
def sorted [LinearOrder κ] (d : Dict κ α) : Dict κ α where
  entries := sortedBy Prod.fst d.entries
  nodup := ((sortedBy_perm Prod.fst d.entries).map Prod.fst).nodup_iff.mpr d.nodup

@[simp] theorem entries_sorted [LinearOrder κ] (d : Dict κ α) :
    d.sorted.entries = sortedBy Prod.fst d.entries := rfl

/-! ### Reading and assigning -/

section Lookup

variable [DecidableEq κ]

/-- `d.get(k)`. -/
def get? (d : Dict κ α) (k : κ) : Option α :=
  (d.entries.find? fun e => e.1 = k).map Prod.snd

/-- `d.get(k, default)`. -/
def getD (d : Dict κ α) (k : κ) (default : α) : α := (d.get? k).getD default

/-- `d[k] = v`. -/
def set (d : Dict κ α) (k : κ) (v : α) : Dict κ α where
  entries := if k ∈ d.entries.map Prod.fst
    then d.entries.map fun e => if e.1 = k then (k, v) else e
    else d.entries ++ [(k, v)]
  nodup := by
    split_ifs with h
    · have hkeys : (d.entries.map fun e => if e.1 = k then (k, v) else e).map Prod.fst
          = d.entries.map Prod.fst := by
        rw [List.map_map]
        refine List.map_congr_left fun e _ => ?_
        by_cases he : e.1 = k
        · simp [he]
        · simp [he]
      rw [hkeys]
      exact d.nodup
    · rw [List.map_append]
      exact List.nodup_append.mpr ⟨d.nodup, by simp, by
        intro a ha b hb
        rw [List.map_cons, List.map_nil, List.mem_singleton] at hb
        intro hab
        rw [hab, hb] at ha
        exact h ha⟩

/-- `d[k] = d.get(k, 0) + n`. -/
def add [Add α] [Zero α] (d : Dict κ α) (k : κ) (n : α) : Dict κ α := d.set k (d.getD k 0 + n)

/-- `d.setdefault(k, v)`: the dictionary afterwards and the value read. -/
def setDefault (d : Dict κ α) (k : κ) (v : α) : Dict κ α × α :=
  match d.get? k with
  | some w => (d, w)
  | none => (d.set k v, v)

theorem get?_eq_some :
    d.get? k = some v ↔ (k, v) ∈ d.entries := by
  constructor
  · intro h
    rw [get?, Option.map_eq_some_iff] at h
    obtain ⟨⟨k', w⟩, hfind, rfl⟩ := h
    have hk : k' = k := by simpa using List.find?_some hfind
    exact hk ▸ List.mem_of_find?_eq_some hfind
  · intro h
    cases hfind : d.entries.find? fun e => e.1 = k with
    | none =>
      have hne := List.find?_eq_none.mp hfind _ h
      simp at hne
    | some e =>
      have hk : e.1 = k := by simpa using List.find?_some hfind
      have he : (k, e.2) ∈ d.entries := hk ▸ List.mem_of_find?_eq_some hfind
      rw [get?, hfind, Option.map_some, mem_entries_unique he h]

theorem get?_eq_none : d.get? k = none ↔ k ∉ d.keys := by
  rw [get?, Option.map_eq_none_iff, List.find?_eq_none, keys, List.mem_map]
  constructor
  · rintro h ⟨e, he, hk⟩
    exact h e he (by simpa using hk)
  · intro h e he hk
    exact h ⟨e, he, by simpa using hk⟩

@[simp] theorem get?_empty (k : κ) : (empty : Dict κ α).get? k = none := rfl

theorem mem_entries_set {e : κ × α} :
    e ∈ (d.set k v).entries ↔ e = (k, v) ∨ (e ∈ d.entries ∧ e.1 ≠ k) := by
  rw [set]
  split_ifs with h
  · rw [List.mem_map]
    constructor
    · rintro ⟨e', he', rfl⟩
      by_cases hk : e'.1 = k
      · exact .inl (if_pos hk)
      · rw [if_neg hk]
        exact .inr ⟨he', hk⟩
    · rintro (rfl | ⟨he, hk⟩)
      · obtain ⟨e', he', hk⟩ := List.mem_map.mp h
        exact ⟨e', he', if_pos hk⟩
      · exact ⟨e, he, if_neg hk⟩
  · rw [List.mem_append, List.mem_singleton, or_comm]
    refine or_congr_right ⟨fun he => ⟨he, ?_⟩, And.left⟩
    intro hk
    exact h (List.mem_map.mpr ⟨e, he, hk⟩)

/-- **An assignment changes the value of its key only.** -/
theorem get?_set (d : Dict κ α) (k j : κ) (v : α) :
    (d.set k v).get? j = if j = k then some v else d.get? j := by
  apply Option.ext
  intro w
  rw [get?_eq_some, mem_entries_set]
  by_cases hj : j = k
  · simp [hj, eq_comm]
  · rw [if_neg hj, get?_eq_some]
    simp [hj]

@[simp] theorem get?_set_self (d : Dict κ α) (k : κ) (v : α) : (d.set k v).get? k = some v := by
  rw [get?_set, if_pos rfl]

theorem get?_set_of_ne (d : Dict κ α) (v : α) (h : j ≠ k) :
    (d.set k v).get? j = d.get? j := by
  rw [get?_set, if_neg h]

theorem entries_set_of_not_mem (v : α) (h : k ∉ d.keys) :
    (d.set k v).entries = d.entries ++ [(k, v)] := by
  rw [set]
  exact if_neg h

theorem keys_set_of_not_mem (v : α) (h : k ∉ d.keys) :
    (d.set k v).keys = d.keys ++ [k] := by
  rw [keys, entries_set_of_not_mem v h, List.map_append]
  rfl

/-- Assigning to distinct new keys in turn appends the entries. -/
theorem entries_foldl_set {γ : Type*} {key : γ → κ} {value : γ → α} {l : List γ}
    (hnodup : (d.keys ++ l.map key).Nodup) :
    (l.foldl (fun d x => d.set (key x) (value x)) d).entries
      = d.entries ++ l.map fun x => (key x, value x) := by
  induction l generalizing d with
  | nil => simp
  | cons x l ih =>
    have hx : key x ∉ d.keys := by
      intro hmem
      exact (List.nodup_append.mp hnodup).2.2 _ hmem _ (by simp) rfl
    rw [List.foldl_cons, ih, entries_set_of_not_mem _ hx, List.map_cons, List.append_assoc,
      List.singleton_append]
    rw [keys_set_of_not_mem _ hx, List.append_assoc]
    exact hnodup

/-- Each key then has the value assigned to it. -/
theorem get?_foldl_set {γ : Type*} {key : γ → κ} {value : γ → α} {l : List γ}
    (hnodup : (l.map key).Nodup) {x : γ} (hx : x ∈ l) :
    (l.foldl (fun d x => d.set (key x) (value x)) empty).get? (key x) = some (value x) := by
  rw [get?_eq_some, entries_foldl_set (d := empty) hnodup]
  exact List.mem_append_right _ (List.mem_map.mpr ⟨x, hx, rfl⟩)

theorem get?_add [Add α] [Zero α] (d : Dict κ α) (k j : κ) (n : α) :
    (d.add k n).get? j = if j = k then some (d.getD k 0 + n) else d.get? j :=
  get?_set d k j _

theorem getD_add [AddMonoid α] (d : Dict κ α) (k j : κ) (n : α) :
    (d.add k n).getD j 0 = d.getD j 0 + if j = k then n else 0 := by
  rw [getD, get?_add]
  by_cases hj : j = k
  · rw [if_pos hj, if_pos hj, hj, Option.getD_some]
  · rw [if_neg hj, if_neg hj, add_zero, getD]

end Lookup

/-! ### The sum of the values -/

/-- `sum(d.values())`. -/
def total [AddMonoid α] (d : Dict κ α) : α := d.values.sum

@[simp] theorem total_empty [AddMonoid α] : (empty : Dict κ α).total = 0 := rfl

theorem total_eq_of_perm [AddCommMonoid α] {d e : Dict κ α} (h : d.entries.Perm e.entries) :
    d.total = e.total :=
  (h.map Prod.snd).sum_eq

@[simp] theorem total_sorted [LinearOrder κ] [AddCommMonoid α] (d : Dict κ α) :
    d.sorted.total = d.total :=
  total_eq_of_perm (sortedBy_perm _ _)

theorem sum_map_update [DecidableEq κ] [AddCommMonoid α] {l : List (κ × α)}
    (hnodup : (l.map Prod.fst).Nodup) (hv : (k, v) ∈ l) (n : α) :
    ((l.map fun e => if e.1 = k then (k, v + n) else e).map Prod.snd).sum
      = (l.map Prod.snd).sum + n := by
  induction l with
  | nil => cases hv
  | cons e l ih =>
    rw [List.map_cons, List.nodup_cons] at hnodup
    rcases List.mem_cons.mp hv with rfl | hmem
    · -- the key stands at the head, so nothing behind it changes
      have hrest : (l.map fun e => if e.1 = k then (k, v + n) else e) = l := by
        refine (List.map_congr_left fun e he => if_neg ?_).trans (List.map_id l)
        intro hk
        exact hnodup.1 (List.mem_map.mpr ⟨e, he, hk⟩)
      simp only [List.map_cons, if_true, hrest, List.sum_cons]
      rw [add_assoc, add_comm n, ← add_assoc]
    · have hk : e.1 ≠ k := by
        intro hk
        exact hnodup.1 (List.mem_map.mpr ⟨(k, v), hmem, hk.symm⟩)
      simp only [List.map_cons, if_neg hk, List.sum_cons]
      rw [ih hnodup.2 hmem, add_assoc]

/-- **Adding to one value adds to the sum.** -/
theorem total_add [DecidableEq κ] [AddCommMonoid α] (d : Dict κ α) (k : κ) (n : α) :
    (d.add k n).total = d.total + n := by
  rw [total, total, values, values, add, set]
  cases hg : d.get? k with
  | none =>
    have hk : k ∉ d.entries.map Prod.fst := get?_eq_none.mp hg
    simp only [if_neg hk, List.map_append, List.sum_append]
    simp [getD, hg]
  | some v =>
    have hmem : (k, v) ∈ d.entries := get?_eq_some.mp hg
    have hk : k ∈ d.entries.map Prod.fst := List.mem_map.mpr ⟨_, hmem, rfl⟩
    simp only [if_pos hk, getD, hg, Option.getD_some]
    exact sum_map_update d.nodup hmem n

theorem total_foldl_add [DecidableEq κ] [AddCommMonoid α] (entries : List (κ × α))
    (d : Dict κ α) :
    (entries.foldl (fun d e => d.add e.1 e.2) d).total
      = d.total + (entries.map Prod.snd).sum := by
  induction entries generalizing d with
  | nil => simp
  | cons e entries ih =>
    rw [List.foldl_cons, ih, total_add, List.map_cons, List.sum_cons, add_assoc]

/-- Assigning to a new key adds its value to the sum. -/
theorem total_set_of_not_mem [DecidableEq κ] [AddMonoid α] (v : α)
    (h : k ∉ d.keys) : (d.set k v).total = d.total + v := by
  have hk : k ∉ d.entries.map Prod.fst := h
  rw [total, total, values, values, set]
  simp only [if_neg hk, List.map_append, List.sum_append, List.map_cons, List.map_nil,
    List.sum_cons, List.sum_nil, add_zero]

theorem mem_keys_set [DecidableEq κ] :
    j ∈ (d.set k v).keys ↔ j = k ∨ j ∈ d.keys := by
  rw [← not_iff_not, ← get?_eq_none, not_or, ← get?_eq_none, get?_set]
  split_ifs with hj
  · simp [hj]
  · simp [hj]

/-- Adding at keys adds those keys. -/
theorem mem_keys_foldl_add [DecidableEq κ] [AddMonoid α] {entries : List (κ × α)} {j : κ} :
    ∀ {d : Dict κ α}, j ∈ (entries.foldl (fun d e => d.add e.1 e.2) d).keys ↔
      j ∈ entries.map Prod.fst ∨ j ∈ d.keys := by
  induction entries with
  | nil => simp
  | cons e entries ih =>
    intro d
    rw [List.foldl_cons, ih, add, mem_keys_set, List.map_cons, List.mem_cons, or_left_comm,
      or_assoc]

theorem getD_set [DecidableEq κ] (d : Dict κ α) (k j : κ) (v default : α) :
    (d.set k v).getD j default = if j = k then v else d.getD j default := by
  rw [getD, getD, get?_set]
  split_ifs
  · rfl
  · rfl

theorem getD_of_mem [DecidableEq κ] {e : κ × α} (h : e ∈ d.entries)
    (default : α) : d.getD e.1 default = e.2 := by
  rw [getD, get?_eq_some.mpr h, Option.getD_some]

theorem total_nonneg {d : Dict κ ℤ} (h : ∀ e ∈ d.entries, 0 ≤ e.2) : 0 ≤ d.total := by
  rw [total, values]
  apply List.sum_nonneg
  intro v hv
  obtain ⟨e, he, rfl⟩ := List.mem_map.mp hv
  exact h e he

theorem total_mapValues_mul (c : ℤ) (d : Dict κ ℤ) :
    (d.mapValues fun _ value => c * value).total = c * d.total := by
  rw [total, total, values, values, entries_mapValues, List.map_map]
  induction d.entries with
  | nil => simp
  | cons e entries ih =>
    rw [List.map_cons, List.sum_cons, ih, List.map_cons, List.sum_cons, mul_add]
    rfl

end Dict
end RateReplay
