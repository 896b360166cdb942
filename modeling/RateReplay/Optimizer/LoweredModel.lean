import RateReplay.Optimizer.Feasibility
import RateReplay.Optimizer.Lowering

/-!
# What the lowering returns

For an admitted scenario every part of the lowered model is a function of the scenario, the
charges that vary and the periods of their slots.  The checks of the lowering only decide
whether it returns.

## Main definitions

* `windowOf`, `maximaOf`, `flexibleExpr`, `profileExpr` — windows, bounds and expressions.
* `loweredModel` — the model.
* `Lowers` — what is known about a lowering that returns.

## Main results

* `compileScenarioModel_lowers` — **a lowering that returns, returns that model.**
-/

namespace RateReplay

open List

variable {scenario : ScenarioInput}

/-! ### Windows and blocks -/

/-- The indices of an occurrence's window. -/
def windowOf (scenario : ScenarioInput) (occurrence : LoadOccurrence) : ℕ × ℕ :=
  ((scenario.boundaries.get? occurrence.earliestStartUtc).getD 0,
    (scenario.boundaries.get? occurrence.deadlineUtc).getD 0)

theorem Window.windowOf_eq {occurrence : LoadOccurrence} {start stop : ℕ}
    (h : Window scenario occurrence start stop) : windowOf scenario occurrence = (start, stop) := by
  rw [windowOf, h.earliest, h.deadline]
  rfl

section Valid

variable (hvalid : Valid scenario) {p : FlexibleLoad × LoadOccurrence}
  (hp : p ∈ scenario.occurrences)
include hvalid hp

theorem window_windowOf :
    Window scenario p.2 (windowOf scenario p.2).1 (windowOf scenario p.2).2 := by
  obtain ⟨start, stop, hwin, -⟩ := (hvalid.reference p hp).executes
  rw [hwin.windowOf_eq]
  exact hwin

/-- Executions may be checked against the window of the occurrence. -/
theorem admissible_iff {row : List ℕ} : Admissible scenario p row ↔
    row.length = scenario.slotCount ∧ Executes scenario p.1.executionSpec p.2.requiredEnergyWh
      (windowOf scenario p.2).1 (windowOf scenario p.2).2 row := by
  constructor
  · rintro ⟨hlen, start, stop, hwin, hexec⟩
    rw [hwin.windowOf_eq]
    exact ⟨hlen, hexec⟩
  · rintro ⟨hlen, hexec⟩
    exact ⟨hlen, _, _, window_windowOf hvalid hp, hexec⟩

theorem loweredWindow_of_valid : loweredWindow scenario p.2 = .ok (windowOf scenario p.2) := by
  have hwin := window_windowOf hvalid hp
  rw [loweredWindow, hwin.earliest, hwin.deadline]

/-- The reference is a placement of the shape, so the shape fits. -/
theorem shapeFits_of_valid : shapeFits p.1.executionSpec (windowOf scenario p.2) = true := by
  have hexec := ((admissible_iff hvalid hp).mp (hvalid.reference p hp)).2
  cases hspec : p.1.executionSpec with
  | interruptible spec => rfl
  | fixedShape spec =>
    rw [hspec, Executes] at hexec
    obtain ⟨-, -, c, hc, -⟩ := hexec
    rw [shapeFits, decide_eq_true_eq]
    exact ne_nil_of_mem hc

end Valid

/-- The bounds on the energies of an occurrence. -/
def maximaOf (scenario : ScenarioInput) (p : FlexibleLoad × LoadOccurrence) : List ℕ :=
  (executionVariables scenario p (windowOf scenario p.2)).maxima

/-- The variables and constraints of an occurrence, without the indicators. -/
def occurrenceBlock (scenario : ScenarioInput) (p : FlexibleLoad × LoadOccurrence) : CpModel Var :=
  (executionVariables scenario p (windowOf scenario p.2)).model ++ energyRequirement scenario p.2

theorem createOccurrenceVariables_of_valid (hvalid : Valid scenario)
    {p : FlexibleLoad × LoadOccurrence} (hp : p ∈ scenario.occurrences) :
    createOccurrenceVariables scenario p
      = .ok ⟨occurrenceBlock scenario p, maximaOf scenario p⟩ := by
  have hlen : p.2.referenceSchedule.length = scenario.slotCount := (hvalid.places p hp).length_eq
  rw [createOccurrenceVariables, loweredWindow_of_valid hvalid hp, ok_bind,
    failIf_of_not _ (by rw [shapeFits_of_valid hvalid hp]; decide), ok_bind]
  exact bind_eq_ok.mpr ⟨(), failIf_of_not _ (not_not.mpr hlen), rfl⟩

/-! ### Slots -/

/-- The energy of all occurrences in a slot. -/
def flexibleExpr (scenario : ScenarioInput) (i : ℕ) : LinExpr Var :=
  .sumVars ((canonicalOccurrences scenario).map fun p => Var.energy p.2.occurrenceId i)

/-- The energy of the whole profile in a slot. -/
def profileExpr (scenario : ScenarioInput) (i : ℕ) : LinExpr Var :=
  flexibleExpr scenario i ++ .const ((fixedBackground scenario).getD i 0 : ℕ)

/-- The bound on the energy of all occurrences in a slot. -/
def flexibleMaximum (scenario : ScenarioInput) (i : ℕ) : ℕ :=
  ((canonicalOccurrences scenario).map fun p => (maximaOf scenario p).getD i 0).sum

/-- The bound on the energy of the whole profile in a slot. -/
def profileMaximum (scenario : ScenarioInput) (i : ℕ) : ℕ :=
  flexibleMaximum scenario i + (fixedBackground scenario).getD i 0

/-- The expressions of a slot. -/
def slotOf (scenario : ScenarioInput) (i : ℕ) : SlotExpressions where
  model := capConstraints scenario.electricalConstraints (scenario.duration i)
    (flexibleExpr scenario i) (profileExpr scenario i)
  profile := profileExpr scenario i
  profileMaximum := profileMaximum scenario i

theorem values_energyTable (hvalid : Valid scenario) :
    (energyTable scenario (canonicalOccurrences scenario)).values
      = (canonicalOccurrences scenario).map fun p => energyVars scenario p.2.occurrenceId := by
  rw [Dict.values, energyTable,
    Dict.entries_foldl_set (d := Dict.empty) (canonicalIds_nodup hvalid)]
  simp [Dict.empty, Function.comp_def]

theorem get?_energyTable (hvalid : Valid scenario) {p : FlexibleLoad × LoadOccurrence}
    (hp : p ∈ scenario.occurrences) :
    (energyTable scenario (canonicalOccurrences scenario)).get? p.2.occurrenceId
      = some (energyVars scenario p.2.occurrenceId) :=
  Dict.get?_foldl_set (canonicalIds_nodup hvalid) (mem_canonicalOccurrences.mpr hp)

section Maxima

/-- The blocks of all occurrences. -/
def blocksOf (scenario : ScenarioInput) : List ExecutionVariables :=
  (canonicalOccurrences scenario).map fun p => ⟨occurrenceBlock scenario p, maximaOf scenario p⟩

theorem maximumTable_blocksOf :
    maximumTable (canonicalOccurrences scenario) (blocksOf scenario)
      = (canonicalOccurrences scenario).foldl
          (fun d p => d.set p.2.occurrenceId (maximaOf scenario p)) Dict.empty := by
  have hzip : (canonicalOccurrences scenario).zip (blocksOf scenario)
      = (canonicalOccurrences scenario).map
          fun p => (p, ⟨occurrenceBlock scenario p, maximaOf scenario p⟩) :=
    map_prod_left_eq_zip.symm
  rw [maximumTable, hzip, foldl_map]

theorem values_maximumTable (hvalid : Valid scenario) :
    (maximumTable (canonicalOccurrences scenario) (blocksOf scenario)).values
      = (canonicalOccurrences scenario).map (maximaOf scenario) := by
  rw [maximumTable_blocksOf, Dict.values,
    Dict.entries_foldl_set (d := Dict.empty) (canonicalIds_nodup hvalid)]
  simp [Dict.empty, Function.comp_def]

end Maxima

theorem slots_of_collect (hvalid : Valid scenario) {slots : List SlotExpressions}
    (h : collect (slotExpressions scenario.electricalConstraints
      (energyTable scenario (canonicalOccurrences scenario))
      (maximumTable (canonicalOccurrences scenario) (blocksOf scenario)))
      (scenario.profileSlots.zip (fixedBackground scenario)).zipIdx = .ok slots) :
    slots = (range scenario.slotCount).map (slotOf scenario) := by
  have hbg := length_fixedBackground hvalid.places
  have hlen : (scenario.profileSlots.zip (fixedBackground scenario)).length
      = scenario.slotCount := by
    rw [length_zip, hbg, ScenarioInput.slotCount, min_self]
  rw [eq_map_of_collect (g := fun e => slotOf scenario e.2) ?_ h]
  · refine ext_getElem (by simp [hlen]) ?_
    intro i _ _
    simp
  · rintro ⟨⟨slot, amount⟩, i⟩ he y hy
    obtain ⟨hi, hg⟩ := mem_zipIdx' he
    rw [getElem_zip, Prod.mk.injEq] at hg
    rw [hlen] at hi
    have hduration : scenario.duration i = slot.durationSeconds := by
      rw [ScenarioInput.duration_eq hi, hg.1]
      rfl
    have hamount : (fixedBackground scenario).getD i 0 = amount := by
      rw [getD_eq_getElem _ _ (hbg ▸ hi), hg.2]
    have hvariables : ((canonicalOccurrences scenario).map fun p =>
        energyVars scenario p.2.occurrenceId).filterMap (fun values => values[i]?)
          = (canonicalOccurrences scenario).map fun p => Var.energy p.2.occurrenceId i := by
      rw [filterMap_map, ← filterMap_eq_map]
      refine filterMap_congr fun p _ => ?_
      simp [energyVars, hi]
    simp only [slotExpressions, values_energyTable hvalid, values_maximumTable hvalid, hvariables,
      map_map, bind_eq_ok, Except.ok.injEq] at hy
    obtain ⟨_, -, rfl⟩ := hy
    rw [slotOf, profileMaximum, flexibleMaximum, profileExpr, flexibleExpr, hduration, hamount]
    rfl

/-! ### Charges -/

/-- The slots of an admitted scenario. -/
def slotsOf (scenario : ScenarioInput) : List SlotExpressions :=
  (List.range scenario.slotCount).map (slotOf scenario)

/-- The variables of a period rate. -/
def centsOf (scenario : ScenarioInput) (periodsByRule : Dict String (List TimeOfUsePeriod))
    (c : PeriodCharge) : CentsVariable :=
  let selected := periodSlots periodsByRule (slotsOf scenario) c
  let rounded := roundedCents (.quantity c.charge c.rate) (quantityMaximum selected)
    c.periodRate.rateMicrodollarsPerKwh (.cents c.charge c.rate)
  { rounded with model := quantityBlock selected c ++ rounded.model }

theorem lowerPeriodRate_eq_ok {periodsByRule : Dict String (List TimeOfUsePeriod)}
    {c : PeriodCharge} {y : CentsVariable}
    (h : lowerPeriodRate periodsByRule (slotsOf scenario) c = .ok y) :
    y = centsOf scenario periodsByRule c := by
  simp only [lowerPeriodRate, roundedCentsVariable, bind_eq_ok, Except.ok.injEq] at h
  obtain ⟨_, ⟨_, -, rfl⟩, rfl⟩ := h
  rfl

/-- The variables of all period rates. -/
def chargesOf (scenario : ScenarioInput) (timeCharges : List IRTimeOfUseEnergyCharge)
    (periodsByRule : Dict String (List TimeOfUsePeriod)) : List CentsVariable :=
  (periodCharges timeCharges).map (centsOf scenario periodsByRule)

/-! ### The whole model -/

/-- **The model of an admitted scenario.** -/
def loweredModel (scenario : ScenarioInput) (timeCharges : List IRTimeOfUseEnergyCharge)
    (periodsByRule : Dict String (List TimeOfUsePeriod)) : CpModel Var :=
  .concat ((canonicalOccurrences scenario).map (occurrenceBlock scenario)) ++
  .concat ((canonicalOccurrences scenario).map fun p => trackOccurrence scenario p.2) ++
  .concat ((slotsOf scenario).map SlotExpressions.model) ++
  .concat ((chargesOf scenario timeCharges periodsByRule).map CentsVariable.model)

/-- What is known about a lowering that returns: its parts. -/
structure Lowers (scenario : ScenarioInput) (referenceBilling : ReplayResult)
    (active : ActiveOperators) (periods : PeriodState) (lowered : LoweredScenarioModel) :
    Prop where
  model : lowered.model = loweredModel scenario active.timeCharges periods.periodsByRule
  energyByOccurrence :
    lowered.energyByOccurrence = energyTable scenario (canonicalOccurrences scenario)
  objectives : lowered.objectives = loweredObjectives scenario (canonicalOccurrences scenario)
    (constantCost active.timeCharges referenceBilling)
    (chargesOf scenario active.timeCharges periods.periodsByRule)
    (rateRanks periods.marginalRates)

/-- **A lowering that returns, returns that model.** -/
theorem compileScenarioModel_lowers {env : Env} {validated : ValidatedScenario}
    {bundle : CompilationBundle} {facts : AccountFacts} {referenceBilling : ReplayResult}
    {lowered : LoweredScenarioModel}
    (hvd : validateAndDecomposeScenario scenario = .ok validated)
    (h : compileScenarioModel env validated bundle facts referenceBilling = .ok lowered) :
    ∃ active periods, Lowers scenario referenceBilling active periods lowered := by
  obtain ⟨hvalid, hsn, hbg, -⟩ := validateAndDecomposeScenario_valid hvd
  have henergies : energies validated.decomposition.fixedBackground = fixedBackground scenario := by
    rw [hbg, energies_energySlots (length_fixedBackground hvalid.places)]
  simp only [compileScenarioModel, bind_eq_ok, Except.ok.injEq, hsn, henergies] at h
  obtain ⟨_, -, active, -, periods, -, _, -, blocks, hblocks, slots, hslots, charges, hcharges, _,
    -, rfl⟩ := h
  have hcreate : collect (createOccurrenceVariables scenario) (canonicalOccurrences scenario)
      = .ok (blocksOf scenario) := collect_eq_ok_of_forall fun p hp =>
    createOccurrenceVariables_of_valid hvalid (mem_canonicalOccurrences.mp hp)
  rw [hcreate, Except.ok.injEq] at hblocks
  subst hblocks
  obtain rfl := slots_of_collect hvalid hslots
  obtain rfl := eq_map_of_collect (fun c _ y => lowerPeriodRate_eq_ok) hcharges
  refine ⟨active, periods, ?_, rfl, rfl⟩
  rw [loweredModel, blocksOf, map_map]
  rfl

end RateReplay
