import Mathlib.Tactic

/-!
# Fallible computations

The source raises exceptions; the model returns `Except`.  A line
`if bad: raise e` is `failIf bad e`, and a loop that only checks its elements is
`checkAll`.  The lemmas turn "the computation returned" into the conjunction of
what its steps checked, so that later proofs never unfold a `do` block.

## Main results

* `bind_eq_ok`, `failIf_eq_ok`, `checkAll_eq_ok` — inversion, one per shape.
* `foldlM_eq_ok_iff` — a loop with an accumulator returns when each step does.
-/

namespace RateReplay

open List

universe u v

variable {ε : Type u} {α β : Type v} {bad : Prop}

theorem bind_eq_ok {x : Except ε α} {f : α → Except ε β} {b : β} :
    (x >>= f) = .ok b ↔ ∃ a, x = .ok a ∧ f a = .ok b := by
  cases x with
  | error e => simp [bind, Except.bind]
  | ok a => simp [bind, Except.bind]

@[simp] theorem ok_bind (a : α) (f : α → Except ε β) : (Except.ok a >>= f) = f a := rfl

@[simp] theorem error_bind (e : ε) (f : α → Except ε β) :
    ((Except.error e : Except ε α) >>= f) = .error e := rfl

@[simp] theorem pure_eq_ok (a : α) : (pure a : Except ε α) = .ok a := rfl

/-- A bind returns exactly when its first step does and the second step does on
the value obtained. -/
theorem bind_isOk {x : Except ε α} {f : α → Except ε β} :
    (∃ b, (x >>= f) = .ok b) ↔ ∃ a, x = .ok a ∧ ∃ b, f a = .ok b := by
  simp only [bind_eq_ok]
  constructor
  · rintro ⟨b, a, hx, hf⟩
    exact ⟨a, hx, b, hf⟩
  · rintro ⟨a, hx, b, hf⟩
    exact ⟨b, a, hx, hf⟩

/-- Whether a computation returns, and returns something, is decided by running it. -/
instance decidableExistsOk (x : Except ε α) : Decidable (∃ a, x = .ok a) :=
  match x with
  | .error _ => isFalse (by simp)
  | .ok a => isTrue ⟨a, rfl⟩

instance decidableExistsOkAnd (x : Except ε α) (P : α → Prop) [DecidablePred P] :
    Decidable (∃ a, x = .ok a ∧ P a) :=
  match x with
  | .error _ => isFalse (by simp)
  | .ok a => decidable_of_iff (P a) (by simp)

theorem eq_ok_get {x : Except ε α} (h : x.toOption.isSome = true) :
    x = .ok (x.toOption.get h) := by
  cases x with
  | error e => cases h
  | ok a => rfl

/-! ### Checks -/

/-- `if bad: raise e`. -/
def failIf (bad : Prop) [Decidable bad] (e : ε) : Except ε Unit :=
  if bad then .error e else .ok ()

@[simp] theorem failIf_eq_ok [Decidable bad] {e : ε} {u : Unit} :
    failIf bad e = .ok u ↔ ¬ bad := by
  unfold failIf
  split <;> simp_all

theorem failIf_of_not [Decidable bad] (e : ε) (h : ¬ bad) :
    failIf bad e = .ok () := by
  simp [h]

theorem failIf_of [Decidable bad] (e : ε) (h : bad) :
    failIf bad e = .error e := by
  simp [failIf, h]

/-- A check followed by the rest of the function. -/
theorem failIf_bind_eq_ok {γ : Type} [Decidable bad] {e : ε} {f : Unit → Except ε γ} {b : γ} :
    (failIf bad e >>= f) = .ok b ↔ ¬ bad ∧ f () = .ok b := by
  rw [bind_eq_ok]
  constructor
  · rintro ⟨u, hu, hf⟩
    exact ⟨failIf_eq_ok.mp hu, hf⟩
  · rintro ⟨hbad, hf⟩
    exact ⟨(), failIf_of_not e hbad, hf⟩

/-! ### Loops -/

variable {γ : Type*} {xs : List γ}

/-- `for x in xs: check(x)`. -/
def checkAll {γ : Type*} (check : γ → Except ε Unit) : List γ → Except ε Unit
  | [] => .ok ()
  | x :: xs => do
    check x
    checkAll check xs

theorem checkAll_eq_ok {check : γ → Except ε Unit} {u : Unit} :
    checkAll check xs = .ok u ↔ ∀ x ∈ xs, check x = .ok () := by
  induction xs with
  | nil => simp [checkAll]
  | cons x xs ih =>
    rw [checkAll, bind_eq_ok]
    simp only [mem_cons, forall_eq_or_imp, ih]
    constructor
    · rintro ⟨_, hx, hxs⟩
      exact ⟨hx, hxs⟩
    · rintro ⟨hx, hxs⟩
      exact ⟨(), hx, hxs⟩

/-- Evaluate `f` on every element, keeping the results in order. -/
def collect {γ : Type*} (f : γ → Except ε α) : List γ → Except ε (List α)
  | [] => .ok []
  | x :: xs => do
    let y ← f x
    let ys ← collect f xs
    .ok (y :: ys)

@[simp] theorem collect_nil (f : γ → Except ε α) : collect f [] = .ok [] := rfl

theorem collect_cons_eq_ok {f : γ → Except ε α} {x : γ} {r : List α} :
    collect f (x :: xs) = .ok r ↔ ∃ y ys, f x = .ok y ∧ collect f xs = .ok ys ∧ r = y :: ys := by
  rw [collect]
  simp only [bind_eq_ok, Except.ok.injEq]
  constructor
  · rintro ⟨y, hy, ys, hys, rfl⟩
    exact ⟨y, ys, hy, hys, rfl⟩
  · rintro ⟨y, ys, hy, hys, rfl⟩
    exact ⟨y, hy, ys, hys, rfl⟩

theorem collect_eq_ok_iff {f : γ → Except ε α} {ys : List α} :
    collect f xs = .ok ys ↔ List.Forall₂ (fun x y => f x = .ok y) xs ys := by
  induction xs generalizing ys with
  | nil =>
    rw [collect_nil, forall₂_nil_left_iff, Except.ok.injEq, eq_comm]
  | cons x xs ih =>
    rw [collect_cons_eq_ok, forall₂_cons_left_iff]
    constructor
    · rintro ⟨y, zs, hy, hzs, rfl⟩
      exact ⟨y, zs, hy, ih.mp hzs, rfl⟩
    · rintro ⟨y, zs, hy, hzs, rfl⟩
      exact ⟨y, zs, hy, ih.mpr hzs, rfl⟩

/-- Where every element evaluates, so does the list. -/
theorem collect_eq_ok_of_forall {f : γ → Except ε α} {g : γ → α}
    (h : ∀ x ∈ xs, f x = .ok (g x)) : collect f xs = .ok (xs.map g) := by
  rw [collect_eq_ok_iff, forall₂_map_right_iff, forall₂_same]
  exact h

/-- The list evaluates exactly when each of its elements does. -/
theorem collect_isOk {f : γ → Except ε α} :
    (∃ ys, collect f xs = .ok ys) ↔ ∀ x ∈ xs, ∃ y, f x = .ok y := by
  induction xs with
  | nil => simp
  | cons x xs ih =>
    simp only [collect_cons_eq_ok, mem_cons, forall_eq_or_imp, ← ih]
    constructor
    · rintro ⟨_, y, ys, hy, hys, -⟩
      exact ⟨⟨y, hy⟩, ys, hys⟩
    · rintro ⟨⟨y, hy⟩, ys, hys⟩
      exact ⟨_, y, ys, hy, hys, rfl⟩

/-- A loop whose turns check their element and compute a value from it. -/
theorem eq_map_of_collect {f : γ → Except ε α} {g : γ → α} {ys : List α}
    (hs : ∀ x ∈ xs, ∀ y, f x = .ok y → y = g x) (h : collect f xs = .ok ys) : ys = xs.map g := by
  induction xs generalizing ys with
  | nil =>
    cases h
    rfl
  | cons x xs ih =>
    obtain ⟨y, rest, hy, hrest, rfl⟩ := collect_cons_eq_ok.mp h
    rw [map_cons, hs x mem_cons_self y hy, ih (fun z hz => hs z (mem_cons_of_mem x hz)) hrest]

/-- **A loop with an accumulator returns exactly when each of its steps does**,
provided that what a step accepts does not depend on the accumulator. -/
theorem foldlM_isOk {f : α → γ → Except ε α} {P : γ → Prop} {I : α → Prop}
    (hstep : ∀ s x, I s → ((∃ s', f s x = .ok s') ↔ P x))
    (hkeep : ∀ s x s', I s → f s x = .ok s' → I s') :
    ∀ (xs : List γ) (s : α), I s →
      ((∃ s', xs.foldlM f s = .ok s') ↔ ∀ x ∈ xs, P x) := by
  intro xs
  induction xs with
  | nil => intro s _; simp
  | cons x xs ih =>
    intro s hs
    rw [foldlM_cons]
    simp only [mem_cons, forall_eq_or_imp]
    constructor
    · rintro ⟨s', h⟩
      obtain ⟨s₁, h₁, h₂⟩ := bind_eq_ok.mp h
      exact ⟨(hstep s x hs).mp ⟨s₁, h₁⟩, (ih s₁ (hkeep s x s₁ hs h₁)).mp ⟨s', h₂⟩⟩
    · rintro ⟨hx, hxs⟩
      obtain ⟨s₁, h₁⟩ := (hstep s x hs).mpr hx
      obtain ⟨s', h₂⟩ := (ih s₁ (hkeep s x s₁ hs h₁)).mpr hxs
      exact ⟨s', bind_eq_ok.mpr ⟨s₁, h₁, h₂⟩⟩

/-- **A loop whose steps check their element and update the accumulator**, where the update
is a function of both. -/
theorem foldlM_eq_ok_iff {f : α → γ → Except ε α} {P : γ → Prop} {update : α → γ → α}
    (hs : ∀ s, ∀ x ∈ xs, ∀ s', f s x = .ok s' ↔ P x ∧ s' = update s x) :
    ∀ s s' : α, xs.foldlM f s = .ok s' ↔ (∀ x ∈ xs, P x) ∧ s' = xs.foldl update s := by
  induction xs with
  | nil =>
    intro s s'
    simp [eq_comm]
  | cons x xs ih =>
    intro s s'
    have hrest := ih fun t y hy => hs t y (mem_cons_of_mem x hy)
    rw [foldlM_cons, bind_eq_ok]
    simp only [hs s x mem_cons_self, hrest, mem_cons, forall_eq_or_imp,
      foldl_cons]
    constructor
    · rintro ⟨s₁, ⟨hx, rfl⟩, hxs, rfl⟩
      exact ⟨⟨hx, hxs⟩, rfl⟩
    · rintro ⟨⟨hx, hxs⟩, rfl⟩
      exact ⟨_, ⟨hx, rfl⟩, hxs, rfl⟩

/-- Every step of a loop that returned has returned. -/
theorem foldlM_mem {f : α → γ → Except ε α} {x : γ} (hx : x ∈ xs) :
    ∀ {s s' : α}, xs.foldlM f s = .ok s' → ∃ t t', f t x = .ok t' := by
  induction xs with
  | nil => cases hx
  | cons y xs ih =>
    intro s s' h
    rw [foldlM_cons] at h
    obtain ⟨mid, hmid, hrest⟩ := bind_eq_ok.mp h
    rcases mem_cons.mp hx with rfl | hmem
    · exact ⟨s, mid, hmid⟩
    · exact ih hmem hrest

/-! ### What a computation can raise -/

/-- Whatever the computation raises satisfies `E`. -/
def RaisesOnly (E : ε → Prop) (x : Except ε α) : Prop := ∀ e, x = .error e → E e

variable {E : ε → Prop}

theorem RaisesOnly.of_ok {x : Except ε α} {a : α} (h : x = .ok a) :
    RaisesOnly E x := by
  intro e he
  rw [h] at he
  cases he

theorem RaisesOnly.bind {x : Except ε α} {f : α → Except ε β}
    (hx : RaisesOnly E x) (hf : ∀ a, x = .ok a → RaisesOnly E (f a)) : RaisesOnly E (x >>= f) := by
  cases x with
  | error e =>
    intro e' he
    cases he
    exact hx e rfl
  | ok a => exact hf a rfl

theorem raisesOnly_failIf [Decidable bad] {e : ε} (he : E e) :
    RaisesOnly E (failIf bad e) := by
  intro e' h
  unfold failIf at h
  split_ifs at h
  cases h
  exact he

/-- A loop raises what its steps raise from states that satisfy the invariant. -/
theorem RaisesOnly.foldlM {f : α → γ → Except ε α} {I : α → Prop}
    (hstep : ∀ s x, I s → RaisesOnly E (f s x))
    (hkeep : ∀ s x s', I s → f s x = .ok s' → I s') :
    ∀ (xs : List γ) (s : α), I s → RaisesOnly E (xs.foldlM f s) := by
  intro xs
  induction xs with
  | nil => exact fun s _ => .of_ok rfl
  | cons x xs ih =>
    intro s hs
    rw [foldlM_cons]
    exact (hstep s x hs).bind fun s' h => ih s' (hkeep s x s' hs h)

/-- An invariant of the accumulator that every step keeps holds at the end. -/
theorem foldlM_invariant {f : α → γ → Except ε α} {I : α → Prop}
    (hkeep : ∀ s, ∀ x ∈ xs, ∀ s', I s → f s x = .ok s' → I s') :
    ∀ {s s' : α}, I s → xs.foldlM f s = .ok s' → I s' := by
  induction xs with
  | nil =>
    intro s s' hs h
    cases h
    exact hs
  | cons x xs ih =>
    intro s s' hs h
    rw [foldlM_cons] at h
    obtain ⟨s₁, h₁, h₂⟩ := bind_eq_ok.mp h
    exact ih (fun t y hy => hkeep t y (mem_cons_of_mem _ hy))
      (hkeep s x mem_cons_self s₁ hs h₁) h₂

end RateReplay
