import Mathlib.Data.Prod.Lex
import Mathlib.Data.String.Basic
import Mathlib.Tactic

/-!
# Sorting by a key

Python's `sorted(xs, key=f)` is a stable sort by the values of `f`.  `sortedBy`
is insertion sort on the key order: `List.insertionSort` puts an element in
front of the first one that is not smaller, so equal keys keep their order, and
the definition reduces by plain recursion on the list.

## Main results

* `sortedBy_perm`, `pairwise_sortedBy` — the result is a sorted permutation.
* `sortedBy_eq_of_perm` — **lists that are permutations of each other sort to
  the same list** when the key tells their elements apart.
-/

namespace RateReplay

variable {α κ : Type*} [LinearOrder κ]

/-- `sorted(l, key=key)`. -/
def sortedBy (key : α → κ) (l : List α) : List α :=
  l.insertionSort fun a b => key a ≤ key b

local instance total_key_le (key : α → κ) : Std.Total fun a b : α => key a ≤ key b :=
  ⟨fun a b => le_total (key a) (key b)⟩

local instance isTrans_key_le (key : α → κ) : IsTrans α fun a b : α => key a ≤ key b :=
  ⟨fun _ _ _ => le_trans⟩

theorem sortedBy_perm (key : α → κ) (l : List α) : (sortedBy key l).Perm l :=
  List.perm_insertionSort _ l

theorem pairwise_sortedBy (key : α → κ) (l : List α) :
    (sortedBy key l).Pairwise fun a b => key a ≤ key b :=
  List.pairwise_insertionSort _ l

@[simp] theorem mem_sortedBy (key : α → κ) {l : List α} {a : α} :
    a ∈ sortedBy key l ↔ a ∈ l :=
  (sortedBy_perm key l).mem_iff

@[simp] theorem length_sortedBy (key : α → κ) (l : List α) :
    (sortedBy key l).length = l.length :=
  (sortedBy_perm key l).length_eq

theorem sortedBy_eq_nil {key : α → κ} {l : List α} : sortedBy key l = [] ↔ l = [] := by
  rw [← List.length_eq_zero_iff, length_sortedBy, List.length_eq_zero_iff]

/-- A sorted list is left alone. -/
theorem sortedBy_of_pairwise {key : α → κ} {l : List α}
    (h : l.Pairwise fun a b => key a ≤ key b) : sortedBy key l = l :=
  List.Pairwise.insertionSort_eq h

/-- **Sorting forgets the order of its input** as soon as the key separates the
elements. -/
theorem sortedBy_eq_of_perm {key : α → κ} {l₁ l₂ : List α} (hperm : l₁.Perm l₂)
    (hinj : ∀ a ∈ l₁, ∀ b ∈ l₁, key a = key b → a = b) :
    sortedBy key l₁ = sortedBy key l₂ := by
  refine List.Perm.eq_of_pairwise ?_ (pairwise_sortedBy key l₁) (pairwise_sortedBy key l₂) ?_
  · intro a b ha hb hab hba
    rw [mem_sortedBy] at ha hb
    exact hinj a ha b (hperm.mem_iff.mpr hb) (le_antisymm hab hba)
  · exact ((sortedBy_perm key l₁).trans hperm).trans (sortedBy_perm key l₂).symm

end RateReplay
