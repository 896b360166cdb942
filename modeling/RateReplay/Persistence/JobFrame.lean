import RateReplay.Persistence.JobMachine

/-!
# What the job service leaves alone

The transactions of `JobService` write jobs, attempts and audit events, and of an import only
its processing state and its failure code.  Lifecycles and scopes are out of their reach.

## Main definitions

* `SameImport` — two versions of an import that differ in its processing state only.
* `ServiceFrame` — two databases that differ in what the job service writes only.

## Main results

* `ServiceFrame.scopeValid_eq` — **the job service changes no scope.**
-/

namespace RateReplay

/-- The second import is the first in another processing state. -/
def SameImport (imported imported' : ImportRecord) : Prop :=
  imported' = { imported with state := imported'.state, failureCode := imported'.failureCode }

theorem SameImport.refl (imported : ImportRecord) : SameImport imported imported := rfl

theorem SameImport.trans {a b c : ImportRecord} (hab : SameImport a b) (hbc : SameImport b c) :
    SameImport a c := by
  unfold SameImport at hbc
  rw [hab] at hbc
  exact hbc

/-- The databases differ in jobs, attempts, audit events and the processing state of imports. -/
structure ServiceFrame (db db' : Database) : Prop where
  rest : db' = { db with
    jobs := db'.jobs
    attempts := db'.attempts
    imports := db'.imports
    auditEvents := db'.auditEvents }
  imports : ∀ id, Option.Rel SameImport (db.imports.get? id) (db'.imports.get? id)

section Frame

variable {db db' db'' : Database}

theorem ServiceFrame.refl (db : Database) : ServiceFrame db db := by
  exact ⟨rfl, fun id => rel_refl .refl _⟩

theorem ServiceFrame.trans (h₁ : ServiceFrame db db') (h₂ : ServiceFrame db' db'') :
    ServiceFrame db db'' := by
  refine ⟨?_, fun id => ?_⟩
  · have hrest := h₂.rest
    rw [h₁.rest] at hrest
    exact hrest
  · exact rel_comp (h₁.imports id) (h₂.imports id) fun _ _ _ => .trans

/-! The tables a frame keeps. -/

theorem ServiceFrame.users (h : ServiceFrame db db') : db'.users = db.users := by
  rw [h.rest]

theorem ServiceFrame.profiles (h : ServiceFrame db db') : db'.profiles = db.profiles := by
  rw [h.rest]

theorem ServiceFrame.scenarios (h : ServiceFrame db db') : db'.scenarios = db.scenarios := by
  rw [h.rest]

theorem ServiceFrame.scenarioResults (h : ServiceFrame db db') :
    db'.scenarioResults = db.scenarioResults := by
  rw [h.rest]

end Frame

/-! ### Scopes -/

section Scopes

variable {db db' : Database} {job : JobRecord}

/-- A scope is judged by the lifecycle of its rows, which a processing state is no part of. -/
theorem scopeIsValid_sameImport {user : Option UserRecord}
    {imported imported' : Option ImportRecord} {profile : Option ProfileVersionRecord}
    (h : Option.Rel SameImport imported imported') :
    scopeIsValid job user imported' profile = scopeIsValid job user imported profile := by
  cases h with
  | none => rfl
  | some hsame =>
    rw [hsame]
    cases profile with
    | none => rfl
    | some profile => rfl

/-- **The job service changes no scope.** -/
theorem ServiceFrame.scopeValid_eq (h : ServiceFrame db db') (job : JobRecord) :
    scopeValid db' job = scopeValid db job := by
  rw [scopeValid, scopeValid, h.users, h.profiles]
  refine scopeIsValid_sameImport ?_
  cases job.importId with
  | none => exact .none
  | some importId => exact h.imports importId

end Scopes

end RateReplay
