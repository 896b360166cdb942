import Mathlib.Tactic

/-!
# Sliding-window budgets

A list of times keeps a budget when no half-open window of a given length holds more than a given
number of them.  A later time may be added as long as fewer than that many earlier ones are
younger than the window, and for that it is enough to keep the young ones: the times that have
run out of the window once never count again.

## Main definitions

* `expire` — the times after a cutoff, as the front of an ordered list is dropped.
* `Budgeted` — no window holds more times than the limit.

## Main results

* `Budgeted.admit` — **admitting a time below the limit keeps the budget.**
* `expire_expire` — expiring twice is expiring by the later cutoff.
-/

namespace RateReplay

open List

section SlidingWindow

variable {times : List ℤ} {limit : ℕ} {window : ℤ}

/-- Drops the times up to the cutoff from the front. -/
def expire (cutoff : ℤ) (times : List ℤ) : List ℤ := times.dropWhile (· ≤ cutoff)

/-- On ordered times nothing after the cutoff is dropped, and nothing up to it is kept. -/
theorem expire_eq_filter (h : times.Pairwise (· ≤ ·)) (cutoff : ℤ) :
    expire cutoff times = times.filter (cutoff < ·) := by
  induction times with
  | nil => rfl
  | cons x times ih =>
    rw [pairwise_cons] at h
    by_cases hx : x ≤ cutoff
    · rw [expire, dropWhile_cons_of_pos (by simpa using hx),
        filter_cons_of_neg (by simpa using hx)]
      exact ih h.2
    · rw [expire, dropWhile_cons_of_neg (by simpa using hx), filter_eq_self.mpr]
      intro y hy
      rcases mem_cons.mp hy with rfl | hmem
      · simpa using hx
      · have := h.1 y hmem
        simp only [decide_eq_true_eq]
        omega

theorem pairwise_expire (h : times.Pairwise (· ≤ ·)) (cutoff : ℤ) :
    (expire cutoff times).Pairwise (· ≤ ·) :=
  h.sublist (dropWhile_sublist _)

theorem expire_expire (h : times.Pairwise (· ≤ ·)) {cutoff cutoff' : ℤ} (hle : cutoff ≤ cutoff') :
    expire cutoff' (expire cutoff times) = expire cutoff' times := by
  rw [expire_eq_filter (pairwise_expire h cutoff), expire_eq_filter h, expire_eq_filter h,
    filter_filter]
  apply filter_congr
  intro x _
  by_cases hx : cutoff' < x
  · simp [hx, show cutoff < x by omega]
  · simp [hx]

/-- A time that comes last is expired last. -/
theorem expire_append_singleton {cutoff now : ℤ} (hlt : cutoff < now) :
    expire cutoff (times ++ [now]) = expire cutoff times ++ [now] := by
  rw [expire, dropWhile_append]
  split
  · rename_i hempty
    rw [expire, List.isEmpty_iff.mp hempty, dropWhile_cons_of_neg (by simpa using hlt),
      nil_append]
  · rfl

/-- No window holds more times than the limit. -/
def Budgeted (limit : ℕ) (window : ℤ) (times : List ℤ) : Prop :=
  ∀ start, (times.filter fun x => start ≤ x ∧ x < start + window).length ≤ limit

theorem budgeted_nil : Budgeted limit window [] := by
  intro start
  exact Nat.zero_le _

/-- **Admitting a time below the limit keeps the budget.** -/
theorem Budgeted.admit (h : Budgeted limit window times) (hsrt : times.Pairwise (· ≤ ·))
    {now : ℤ} (hbelow : (expire (now - window) times).length < limit) :
    Budgeted limit window (times ++ [now]) := by
  intro start
  rw [filter_append, length_append]
  by_cases hin : start ≤ now ∧ now < start + window
  · -- what the window holds is younger than the window at the time admitted
    have hsub : (times.filter fun x => start ≤ x ∧ x < start + window).length ≤
        (expire (now - window) times).length := by
      rw [expire_eq_filter hsrt]
      refine List.Sublist.length_le (monotone_filter_right _ ?_)
      intro x hx
      simp only [decide_eq_true_eq] at hx ⊢
      omega
    rw [filter_cons_of_pos (by simpa using hin), filter_nil, length_singleton]
    omega
  · rw [filter_cons_of_neg (by simpa using hin), filter_nil, length_nil]
    exact h start

end SlidingWindow

end RateReplay
