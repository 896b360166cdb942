import Mathlib.Logic.Relation

/-!
# Runs of labelled transition systems

A system moves from state to state by labelled steps.  A run is a sequence of steps each of
which is allowed in the state it is taken in; a property that every allowed step keeps holds
along every run.

## Main definitions

* `Runs step allowed` — the states joined by a run of allowed steps.
* `ReachedBy init step allowed` — the states reached by such a run from an initial state.

## Main results

* `Runs.keeps`, `ReachedBy.invariant` — **what every allowed step keeps, every run keeps.**
-/

namespace RateReplay

variable {σ ι : Type*} {init : σ → Prop} {step : σ → ι → σ → Prop} {allowed : σ → ι → Prop}

/-- The two states are joined by a run whose steps are all allowed. -/
def Runs (step : σ → ι → σ → Prop) (allowed : σ → ι → Prop) : σ → σ → Prop :=
  Relation.ReflTransGen fun s t => ∃ i, allowed s i ∧ step s i t

/-- The state is reached from an initial state by a run of allowed steps. -/
def ReachedBy (init : σ → Prop) (step : σ → ι → σ → Prop) (allowed : σ → ι → Prop) (s : σ) :
    Prop :=
  ∃ s₀, init s₀ ∧ Runs step allowed s₀ s

theorem Runs.refl (s : σ) : Runs step allowed s s := Relation.ReflTransGen.refl

theorem Runs.snoc {s t u : σ} {i : ι} (h : Runs step allowed s t) (hall : allowed t i)
    (hs : step t i u) : Runs step allowed s u :=
  Relation.ReflTransGen.tail h ⟨i, hall, hs⟩

theorem Runs.trans {s t u : σ} (h₁ : Runs step allowed s t) (h₂ : Runs step allowed t u) :
    Runs step allowed s u :=
  Relation.ReflTransGen.trans h₁ h₂

/-- **What every allowed step keeps, a run keeps.** -/
theorem Runs.keeps {I : σ → Prop}
    (hkeep : ∀ s i t, I s → allowed s i → step s i t → I t) {s t : σ}
    (h : Runs step allowed s t) (hs : I s) : I t := by
  induction h with
  | refl => exact hs
  | tail _ hstep ih =>
    obtain ⟨i, hall, hstep⟩ := hstep
    exact hkeep _ i _ ih hall hstep

theorem ReachedBy.snoc {s t : σ} {i : ι} (h : ReachedBy init step allowed s)
    (hall : allowed s i) (hs : step s i t) : ReachedBy init step allowed t := by
  obtain ⟨s₀, hinit, hrun⟩ := h
  exact ⟨s₀, hinit, hrun.snoc hall hs⟩

/-- **What holds initially and is kept by every allowed step holds in every state reached.** -/
theorem ReachedBy.invariant {I : σ → Prop} (hinit : ∀ s, init s → I s)
    (hkeep : ∀ s i t, I s → allowed s i → step s i t → I t) {s : σ}
    (h : ReachedBy init step allowed s) : I s := by
  obtain ⟨s₀, hs₀, hrun⟩ := h
  exact hrun.keeps hkeep (hinit s₀ hs₀)

end RateReplay
