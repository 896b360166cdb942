import Mathlib.Data.List.Fold
import Mathlib.Data.List.GetD
import Mathlib.Tactic

/-!
# Rows of numbers

Energy is kept slot by slot in rows of one length.  Rows are added entry by entry; the
sum of several rows does not depend on their order.

## Main definitions

* `addRows`, `sumRows` — the entrywise sum of two rows, and of a list of rows.

## Main results

* `getD_sumRows` — the entries of a sum.
* `sumRows_perm` — rows may be added in any order.
-/

namespace RateReplay

open List

/-- `target[index] += amount` for every entry. -/
def addRows (target row : List ℕ) : List ℕ := List.zipWith (· + ·) target row

/-- The entrywise sum of rows of length `n`. -/
def sumRows (n : ℕ) (rows : List (List ℕ)) : List ℕ := rows.foldl addRows (List.replicate n 0)

theorem length_addRows {target row : List ℕ} (h : row.length = target.length) :
    (addRows target row).length = target.length := by
  rw [addRows, length_zipWith, h, min_self]

theorem getD_addRows {target row : List ℕ} (h : row.length = target.length) (i : ℕ) :
    (addRows target row).getD i 0 = target.getD i 0 + row.getD i 0 := by
  rcases lt_or_ge i target.length with hi | hi
  · have hi' : i < row.length := h ▸ hi
    rw [getD_eq_getElem _ _ (by rw [length_addRows h]; exact hi),
      getD_eq_getElem _ _ hi, getD_eq_getElem _ _ hi']
    simp [addRows]
  · rw [getD_eq_default _ _ (by rw [length_addRows h]; exact hi),
      getD_eq_default _ _ hi, getD_eq_default _ _ (h ▸ hi)]

section Fold

variable {n : ℕ} {rows : List (List ℕ)}

theorem length_foldl_addRows {target : List ℕ} (h : ∀ row ∈ rows, row.length = target.length) :
    (rows.foldl addRows target).length = target.length := by
  induction rows generalizing target with
  | nil => rfl
  | cons row rows ih =>
    have hrow := length_addRows (h row mem_cons_self)
    rw [foldl_cons, ih, hrow]
    intro r hr
    rw [hrow]
    exact h r (mem_cons_of_mem row hr)

theorem getD_foldl_addRows {target : List ℕ} (h : ∀ row ∈ rows, row.length = target.length)
    (i : ℕ) : (rows.foldl addRows target).getD i 0
      = target.getD i 0 + (rows.map fun row => row.getD i 0).sum := by
  induction rows generalizing target with
  | nil => simp
  | cons row rows ih =>
    have hrow := h row mem_cons_self
    rw [foldl_cons, ih, getD_addRows hrow, map_cons, sum_cons]
    · omega
    · intro r hr
      rw [length_addRows hrow]
      exact h r (mem_cons_of_mem row hr)

theorem length_sumRows (h : ∀ row ∈ rows, row.length = n) : (sumRows n rows).length = n := by
  rw [sumRows, length_foldl_addRows (by simpa using h), length_replicate]

/-- The entries of a sum of rows. -/
theorem getD_sumRows (h : ∀ row ∈ rows, row.length = n) (i : ℕ) :
    (sumRows n rows).getD i 0 = (rows.map fun row => row.getD i 0).sum := by
  rw [sumRows, getD_foldl_addRows (by simpa using h)]
  simp

end Fold

/-- Rows of one length with the same entries are equal. -/
theorem eq_of_getD_eq {l l' : List ℕ} (hlen : l.length = l'.length)
    (h : ∀ i < l.length, l.getD i 0 = l'.getD i 0) : l = l' := by
  refine ext_getElem hlen ?_
  intro i hi hi'
  have hentry := h i hi
  rwa [getD_eq_getElem _ _ hi, getD_eq_getElem _ _ hi'] at hentry

/-- **Rows may be added in any order.** -/
theorem sumRows_perm {n : ℕ} {rows rows' : List (List ℕ)} (hperm : rows.Perm rows')
    (h : ∀ row ∈ rows, row.length = n) : sumRows n rows = sumRows n rows' := by
  have h' : ∀ row ∈ rows', row.length = n := fun row hr => h row (hperm.mem_iff.mpr hr)
  refine eq_of_getD_eq ((length_sumRows h).trans (length_sumRows h').symm) ?_
  intro i _
  rw [getD_sumRows h, getD_sumRows h']
  exact (hperm.map _).sum_eq

/-- A sum of rows may be taken in two parts. -/
theorem sumRows_filter {α : Type*} {n : ℕ} {xs : List α} {row : α → List ℕ} (p : α → Bool)
    (h : ∀ x ∈ xs, (row x).length = n) :
    addRows (sumRows n ((xs.filter p).map row)) (sumRows n ((xs.filter fun x => !p x).map row))
      = sumRows n (xs.map row) := by
  have hall : ∀ r ∈ xs.map row, r.length = n := by
    intro r hr
    obtain ⟨x, hx, rfl⟩ := mem_map.mp hr
    exact h x hx
  have hpart : ∀ q : α → Bool, ∀ r ∈ (xs.filter q).map row, r.length = n := by
    intro q r hr
    obtain ⟨x, hx, rfl⟩ := mem_map.mp hr
    exact h x (mem_of_mem_filter hx)
  have hlen : (sumRows n ((xs.filter fun x => !p x).map row)).length
      = (sumRows n ((xs.filter p).map row)).length := by
    rw [length_sumRows (hpart _), length_sumRows (hpart _)]
  refine eq_of_getD_eq ?_ ?_
  · rw [length_addRows hlen, length_sumRows (hpart _), length_sumRows hall]
  · intro i hi
    rw [getD_addRows hlen, getD_sumRows (hpart _), getD_sumRows (hpart _), getD_sumRows hall,
      map_map, map_map, map_map]
    clear hall hpart hlen h hi
    induction xs with
    | nil => rfl
    | cons x xs ih =>
      cases hp : p x with
      | true =>
        rw [filter_cons_of_pos hp, filter_cons_of_neg (by simp [hp]), map_cons,
          map_cons, sum_cons, sum_cons, ← ih, add_assoc]
      | false =>
        rw [filter_cons_of_neg (by simp [hp]), filter_cons_of_pos (by simp [hp]),
          map_cons, map_cons, sum_cons, sum_cons, ← ih]
        omega

/-! ### Two rows side by side -/

section Zip

variable {α β : Type*} {l : List α} {l' : List β}

/-- A property of all entries with their indices. -/
theorem forall_mem_zipIdx {P : α → ℕ → Prop} :
    (∀ e ∈ l.zipIdx, P e.1 e.2) ↔ ∀ (i : ℕ) (h : i < l.length), P (l.get ⟨i, h⟩) i := by
  constructor
  · intro hall i h
    exact hall (_, i) (mem_zipIdx_iff_getElem?.mpr (getElem?_eq_getElem h))
  · rintro hall ⟨x, i⟩ he
    obtain ⟨hi, hx⟩ := mem_zipIdx' he
    rw [hx]
    exact hall i hi

theorem forall_mem_zipIdx_fst {P : α → Prop} : (∀ e ∈ l.zipIdx, P e.1) ↔ ∀ x ∈ l, P x := by
  rw [← forall_mem_map, zipIdx_map_fst]

/-- What holds of all neighbours in two rows, with their index, holds at every index. -/
theorem forall_mem_zip_zipIdx {P : α → β → ℕ → Prop} :
    (∀ e ∈ (l.zip l').zipIdx, P e.1.1 e.1.2 e.2) ↔
      ∀ (i : ℕ) (h : i < l.length) (h' : i < l'.length), P (l.get ⟨i, h⟩) (l'.get ⟨i, h'⟩) i := by
  refine (forall_mem_zipIdx (P := fun (e : α × β) i => P e.1 e.2 i)).trans ?_
  simp only [length_zip, lt_min_iff, get_eq_getElem, getElem_zip]
  exact forall_congr' fun i => ⟨fun hall h h' => hall ⟨h, h'⟩, fun hall h => hall h.1 h.2⟩

/-- Rows of one length whose neighbours are related are related entry by entry. -/
theorem forall₂_iff_zip_zipIdx {R : α → β → Prop} :
    List.Forall₂ R l l' ↔ l.length = l'.length ∧ ∀ e ∈ (l.zip l').zipIdx, R e.1.1 e.1.2 := by
  rw [forall₂_iff_get, forall_mem_zip_zipIdx (P := fun a b _ => R a b)]

end Zip

/-! ### Maxima and indicators -/

theorem le_foldl_max {l : List ℕ} {x : ℕ} (h : x ∈ l) : x ≤ l.foldl max 0 := by
  rw [foldl_eq_foldr]
  exact le_max_of_le' 0 h le_rfl

/-- A sum over distinct elements against the indicator of one of them. -/
theorem sum_map_mul_indicator {α : Type*} [DecidableEq α] {l : List α} (hnodup : l.Nodup)
    (f : α → ℤ) (c : α) :
    (l.map fun x => f x * if x = c then 1 else 0).sum = if c ∈ l then f c else 0 := by
  simp only [mul_ite, mul_one, mul_zero]
  rw [List.sum_map_ite_eq l f fun _ => 0, hnodup.count]
  split <;> simp

end RateReplay
