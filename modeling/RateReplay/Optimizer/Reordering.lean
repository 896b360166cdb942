import RateReplay.Optimizer.Feasibility

/-!
# The order of loads, occurrences and schedules

The verifier sorts the occurrences before it reads them and looks the submitted schedules up
by identifier, so the order in which they are given does not matter.

## Main definitions

* `ScenarioInput.Reorders` — the same scenario with its loads, and the occurrences of each
  load, in another order.
* `bare` — an occurrence with its load, without the other occurrences of the load.

## Main results

* `ScenarioInput.Reorders.map_bare` — reordered scenarios have the same canonical occurrences.
* `verify_reordered` — **the verifier returns the same for reordered inputs.**
-/

namespace RateReplay

open List

/-- The same load with its occurrences in another order. -/
def FlexibleLoad.Reorders (load load' : FlexibleLoad) : Prop :=
  load.occurrences.Perm load'.occurrences ∧
    load' = { load with
      occurrences := load'.occurrences
      occurrences_ne := load'.occurrences_ne }

/-- The same scenario with its loads, and the occurrences of each load, in another order. -/
structure ScenarioInput.Reorders (scenario scenario' : ScenarioInput) : Prop where
  loads : ∃ loads, scenario.loads.Perm loads ∧ Forall₂ FlexibleLoad.Reorders loads scenario'.loads
  rest : scenario' = { scenario with
    loads := scenario'.loads
    loads_ne := scenario'.loads_ne }

/-- An occurrence with its load, without the other occurrences of the load: all that the
loops over the occurrences read. -/
def bare (p : FlexibleLoad × LoadOccurrence) : FlexibleLoad × LoadOccurrence :=
  ({ p.1 with
    occurrences := [p.2]
    occurrences_ne := cons_ne_nil _ _ }, p.2)

section Reordering

variable {scenario scenario' : ScenarioInput} {candidate candidate' : CandidateSchedule}
  {checked : CheckedCandidate}

section Reordered

variable (h : scenario.Reorders scenario')

include h

theorem ScenarioInput.Reorders.flatMap_perm {β : Type*} {f : FlexibleLoad → List β}
    (hf : ∀ load load', load.Reorders load' → (f load).Perm (f load')) :
    (scenario.loads.flatMap f).Perm (scenario'.loads.flatMap f) := by
  obtain ⟨loads, hperm, hloads⟩ := h.loads
  refine (hperm.flatMap_right f).trans ?_
  clear hperm
  generalize scenario'.loads = loads' at hloads
  induction hloads with
  | nil => exact .nil
  | cons hload _ ih => exact (hf _ _ hload).append ih

theorem ScenarioInput.Reorders.occurrences_perm :
    (scenario.occurrences.map bare).Perm (scenario'.occurrences.map bare) := by
  rw [ScenarioInput.occurrences, ScenarioInput.occurrences, map_flatMap, map_flatMap]
  refine h.flatMap_perm ?_
  rintro load load' ⟨hperm, hrest⟩
  rw [map_map, map_map, hrest]
  exact hperm.map _

/-- **The canonical order** of distinct occurrences does not depend on the order given. -/
theorem ScenarioInput.Reorders.map_bare
    (hids : (scenario.occurrences.map fun p => p.2.occurrenceId).Nodup) :
    (canonicalOccurrences scenario').map bare = (canonicalOccurrences scenario).map bare := by
  have hsort : ∀ s : ScenarioInput, (canonicalOccurrences s).map bare =
      sortedBy occurrenceKey (s.occurrences.map bare) := fun s =>
    map_insertionSort _ _ bare _ fun _ _ _ _ => Iff.rfl
  rw [hsort, hsort]
  refine (sortedBy_eq_of_perm h.occurrences_perm ?_).symm
  intro a ha b hb hkey
  have hbare : ((scenario.occurrences.map bare).map fun p => p.2.occurrenceId).Nodup := by
    rw [map_map]
    exact hids
  have hid : a.2.occurrenceId = b.2.occurrenceId :=
    congrArg (fun k => (ofLex (ofLex (ofLex k).2).2).2) hkey
  exact inj_on_of_nodup_map hbare ha hb hid

/-- So a loop over the occurrences that reads no more than `bare` keeps computes the same. -/
theorem ScenarioInput.Reorders.foldlM_eq {σ ε : Type}
    (hids : (scenario.occurrences.map fun p => p.2.occurrenceId).Nodup)
    {step : σ → FlexibleLoad × LoadOccurrence → Except ε σ}
    (hstep : ∀ s p, step s (bare p) = step s p) (s : σ) :
    (canonicalOccurrences scenario').foldlM step s =
      (canonicalOccurrences scenario).foldlM step s := by
  have hfold : ∀ l : List (FlexibleLoad × LoadOccurrence),
      (l.map bare).foldlM step s = l.foldlM step s := by
    intro l
    simp only [foldlM_map, hstep]
  rw [← hfold, h.map_bare hids, hfold]

theorem verifyDisjointWindows_reordered (hok : verifyDisjointWindows scenario = .ok ()) :
    verifyDisjointWindows scenario' = .ok () := by
  rw [verifyDisjointWindows_eq_ok] at hok ⊢
  obtain ⟨hloads, hassets, hids, hwindows⟩ := hok
  have hmap : ∀ {β : Type} (f : FlexibleLoad → β), (∀ load load' : FlexibleLoad,
      load.Reorders load' → f load = f load') →
      (scenario.loads.map f).Perm (scenario'.loads.map f) := by
    intro β f hf
    simp only [map_eq_flatMap]
    exact h.flatMap_perm fun load load' hload => by rw [hf load load' hload]
  refine ⟨(hmap _ fun _ _ hload => ?_).nodup hloads, (hmap _ fun _ _ hload => ?_).nodup hassets,
    ?_, ?_⟩
  · rw [hload.2]
  · rw [hload.2]
  · have hperm := h.occurrences_perm.map fun p => p.2.occurrenceId
    rw [map_map, map_map] at hperm
    exact hperm.nodup hids
  · obtain ⟨loads, hperm, hreorders⟩ := h.loads
    intro load' hload'
    obtain ⟨⟨i, hi'⟩, rfl⟩ := mem_iff_get.mp hload'
    have hi : i < loads.length := hreorders.length_eq ▸ hi'
    obtain ⟨hoccurrences, -⟩ := (forall₂_iff_get.mp hreorders).2 i hi hi'
    have hload := hwindows _ (hperm.mem_iff.mpr (get_mem loads ⟨i, hi⟩))
    simp only [verifyLoadWindows, checkAll_eq_ok, failIf_eq_ok] at hload ⊢
    rwa [sortedBy_earliest_eq ((sortedBy_perm _ _).trans hoccurrences) hload]

end Reordered

/-- The submitted schedules are found under the same identifiers. -/
theorem scheduleMap_reordered {ids : List UUID} {submitted : Dict UUID OccurrenceSchedule}
    (hperm : candidate.occurrences.Perm candidate'.occurrences)
    (hok : scheduleMap candidate ids = .ok submitted) :
    ∃ submitted', scheduleMap candidate' ids = .ok submitted' ∧
      submitted'.get? = submitted.get? := by
  obtain ⟨hnodup, hentries, hsame⟩ := scheduleMap_eq_ok.mp hok
  have hnodup' := (hperm.map OccurrenceSchedule.occurrenceId).nodup hnodup
  have hentry : ∀ e, (e ∈ candidate'.occurrences.map fun s => (s.occurrenceId, s)) ↔
      e ∈ submitted.entries := by
    intro e
    rw [hentries]
    exact ((hperm.map _).mem_iff).symm
  refine ⟨⟨candidate'.occurrences.map fun s => (s.occurrenceId, s),
    by rwa [map_map]⟩,
    scheduleMap_eq_ok.mpr ⟨hnodup', rfl, ?_⟩, ?_⟩
  · simpa only [SameElements, Dict.keys, mem_map, hentry] using hsame
  · funext id
    ext schedule
    rw [Dict.get?_eq_some, Dict.get?_eq_some, hentry]

theorem verifyStructure_reordered (h : scenario.Reorders scenario')
    (hperm : candidate.occurrences.Perm candidate'.occurrences)
    (hok : verifyStructure scenario candidate = .ok checked) :
    verifyStructure scenario' candidate' = .ok checked ∧
      (scenario.occurrences.map fun p => p.2.occurrenceId).Nodup := by
  simp only [verifyStructure, bind_eq_ok] at hok ⊢
  obtain ⟨boundaries, hboundaries, _, hwindows, submitted, hsubmitted, references, hreferences,
    s, hs, _, hcaps, hchecked⟩ := hok
  have hids := (verifyDisjointWindows_eq_ok.mp hwindows).2.2.1
  obtain ⟨submitted', hsubmitted', hget⟩ := scheduleMap_reordered hperm hsubmitted
  refine ⟨⟨boundaries, ?_, (), verifyDisjointWindows_reordered h hwindows, submitted', ?_,
    references, ?_, s, ?_, (), ?_, hchecked⟩, hids⟩
  · rw [← hboundaries, h.rest]
    rfl
  · have hmap := congrArg (map fun p => p.2.occurrenceId) (h.map_bare hids)
    rw [map_map, map_map] at hmap
    exact hmap ▸ hsubmitted'
  · rw [← hreferences, backgroundAndReference, h.foldlM_eq hids fun _ _ => rfl, h.rest]
    rfl
  · have hstep : verifyOccurrence scenario' boundaries submitted' =
        verifyOccurrence scenario boundaries submitted := by
      funext s p
      rw [verifyOccurrence, hget, h.rest]
      rfl
    rw [← hs, hstep, h.foldlM_eq hids fun _ _ => rfl, h.rest]
    rfl
  · rw [← hcaps, h.rest]
    rfl

end Reordering

/-- **The verifier returns the same** — the profile, the objective and the rest of its record —
for an accepted candidate whose loads, occurrences and schedules are given in another order. -/
theorem verify_reordered (env : Env) {scenario scenario' : ScenarioInput}
    {candidate candidate' : CandidateSchedule} (bundle : CompilationBundle) (facts : AccountFacts)
    (datedFacts : Option DatedEligibilityFacts) (claimedSupportedCostCents : Option ℤ)
    {verified : VerifiedSchedule} (hscenario : scenario.Reorders scenario')
    (hcandidate : candidate.occurrences.Perm candidate'.occurrences)
    (hok : verifyCandidateSchedule env scenario candidate bundle facts datedFacts
      claimedSupportedCostCents = .ok verified) :
    verifyCandidateSchedule env scenario' candidate' bundle facts datedFacts
      claimedSupportedCostCents = .ok verified := by
  simp only [verifyCandidateSchedule, bind_eq_ok] at hok ⊢
  obtain ⟨checked, hchecked, billing, hbilling, _, hclaimed, score, hscore, schedule, hschedule,
    hverified⟩ := hok
  obtain ⟨hchecked', hids⟩ := verifyStructure_reordered hscenario hcandidate hchecked
  refine ⟨checked, hchecked', billing, ?_, (), hclaimed, score, ?_, schedule, hschedule, ?_⟩
  · rw [← hbilling, hscenario.rest]
    rfl
  · rw [← hscore, objective, hscenario.foldlM_eq hids fun _ _ => rfl]
    rfl
  · rw [← hverified, hscenario.rest]
    rfl

/-- The small scenario with its loads the other way round. -/
def SmallScenario.turned : ScenarioInput where
  __ := scenario
  loads := [dishwasher, car]
  loads_ne := by decide

theorem verify_reordered_small : ∃ (verified : VerifiedSchedule) (candidate : CandidateSchedule),
    candidate.occurrences = (candidateFromReference SmallScenario.scenario).occurrences.reverse ∧
      verifyCandidateSchedule SmallTariff.env SmallScenario.turned candidate
        (SmallTariff.bundle false) SmallTariff.facts none none = .ok verified := by
  obtain ⟨verified, hok⟩ : ∃ verified, verifyCandidateSchedule SmallTariff.env
    SmallScenario.scenario (candidateFromReference SmallScenario.scenario)
    (SmallTariff.bundle false) SmallTariff.facts none none = .ok verified := by decide +kernel
  have hreorders : SmallScenario.scenario.Reorders SmallScenario.turned :=
    ⟨⟨_, .swap _ _ _, .cons ⟨.refl _, rfl⟩ (.cons ⟨.refl _, rfl⟩ .nil)⟩, rfl⟩
  refine ⟨verified, ⟨_, ?_⟩, rfl, verify_reordered _ _ _ _ _ hreorders ?_ hok⟩
  · exact cons_ne_nil _ _
  · exact (reverse_perm _).symm

end RateReplay
