import RateReplay.Optimizer.Models

/-!
# Scenario admission

`validate_and_decompose_scenario` checks a scenario before any solver sees it: the slots
of the profile, the identities, the windows of the occurrences, and the reference schedule
of each occurrence.  It then splits the measured profile into what stays and what may move.

The verifier and the lowering make some of the same checks with errors of their own; these
checks are written once, with the errors as parameters.

## Main definitions

* `slotRow`, `checkInterruptible`, `checkCaps` — the checks that are made more than once.
* `Window`, `Executes` — what a window and an execution have to satisfy.
* `validateAndDecomposeScenario` — the validator.

## Main results

* `slotRow_eq_ok`, `checkInterruptible_eq_ok`, `checkCaps_eq_ok` — inversion, once per check.
* `validateAndDecomposeScenario_valid` — **what an admitted scenario satisfies.**
-/

namespace RateReplay

open List

/-! ### Checks that are made more than once -/

section Checks

variable {ε : Type} (scenario : ScenarioInput)

/-- The energies of a schedule that has every slot of the profile, at its place. -/
def slotRow (wrongLength : ε) (wrongSlot : ℕ → ε) (slots : List EnergySlot) :
    Except ε (List ℕ) := do
  failIf (slots.length ≠ scenario.slotCount) wrongLength
  checkAll (fun e => failIf (¬ EnergySlot.Matches e.1.1 e.1.2) (wrongSlot e.2))
    (slots.zip scenario.profileSlots).zipIdx
  .ok (energies slots)

/-- Energy only inside the window, and within the power limits. -/
def checkInterruptible (outsideWindow aboveMaximum belowMinimum : ℕ → ε)
    (spec : InterruptibleModulatingSpec) (row : List ℕ) (start stop : ℕ) : Except ε Unit :=
  checkAll (fun e => do
      failIf (e.1.1 > 0 ∧ ¬ (start ≤ e.2 ∧ e.2 < stop)) (outsideWindow e.2)
      failIf (e.1.1 * 3600 > spec.maximumPowerW * e.1.2.durationSeconds) (aboveMaximum e.2)
      failIf (e.1.1 > 0 ∧ e.1.1 * 3600 < spec.minimumPowerWhenActiveW * e.1.2.durationSeconds)
        (belowMinimum e.2))
    (row.zip scenario.profileSlots).zipIdx

/-- The starts at which a shape of the given length fits into a window:
`range(start, end - length + 1)`. -/
def allowedStarts (start stop length : ℕ) : List ℕ :=
  List.range' start (stop + 1 - length - start)

/-- `[0] * n` with the shape assigned to the slice from `candidateStart` on. -/
def placeShape (n : ℕ) (shape : List ℕ) (candidateStart : ℕ) : List ℕ :=
  List.replicate candidateStart 0 ++ shape ++ List.replicate (n - candidateStart - shape.length) 0

/-- The average-power caps of the site and of the flexible loads. -/
def checkCaps (siteExceeded flexibleExceeded : ℕ → ε) (profile flexible : List ℕ) :
    Except ε Unit :=
  checkAll (fun e => do
      failIf (∃ cap ∈ scenario.electricalConstraints.siteImportCapW,
        e.1.1.1 * 3600 > cap * e.1.2.durationSeconds) (siteExceeded e.2)
      failIf (∃ cap ∈ scenario.electricalConstraints.flexibleLoadAggregateCapW,
        e.1.1.2 * 3600 > cap * e.1.2.durationSeconds) (flexibleExceeded e.2))
    ((profile.zip flexible).zip scenario.profileSlots).zipIdx

/-- `measured - shift`, slot by slot; what is negative is rejected. -/
def backgroundRow (shift : List ℕ) : List ℤ :=
  List.zipWith (fun m s : ℕ => (m : ℤ) - s) scenario.measured shift

end Checks

/-! ### Errors -/

/-- The endpoint of an occurrence's window. -/
inductive Endpoint where
  | earliestStartUtc
  | deadlineUtc
  deriving DecidableEq

/-- The errors of the validator, with their witnesses. -/
inductive ScenarioValidationError where
  | profileResolutionMismatch (slotIndex : ℕ)
  | profileSlotVectorInvalid (slotIndex : ℕ)
  | duplicateLoadId
  | duplicatePhysicalAssetKey
  | duplicateOccurrenceId
  | overlappingLoadOccurrences (loadId firstOccurrenceId secondOccurrenceId : UUID)
  | nonAlignedOccurrenceBoundary (occurrenceId : UUID) (endpoint : Endpoint)
  | occurrenceOutsideProfile (occurrenceId : UUID)
  | referenceSlotCountMismatch (occurrenceId : UUID)
  | referenceSlotVectorMismatch (occurrenceId : UUID) (slotIndex : ℕ)
  | referenceEnergyMismatch (occurrenceId : UUID)
  | referenceEnergyOutsideWindow (occurrenceId : UUID) (slotIndex : ℕ)
  | referenceMaximumPowerExceeded (occurrenceId : UUID) (slotIndex : ℕ)
  | referenceMinimumPowerViolated (occurrenceId : UUID) (slotIndex : ℕ)
  | fixedShapeEnergyMismatch (occurrenceId : UUID)
  | fixedShapeReferenceMismatch (occurrenceId : UUID)
  | negativeFixedBackground (slotIndex : ℕ)
  | measuredReconstructionMismatch
  | referenceSiteImportCapExceeded (slotIndex : ℕ)
  | referenceFlexibleLoadCapExceeded (slotIndex : ℕ)
  deriving DecidableEq

/-! ### The validator -/

section Validator

variable (scenario : ScenarioInput)

/-- `_validate_profile`. -/
def validateProfile : Except ScenarioValidationError Unit := do
  checkAll (fun e => failIf (e.1.durationSeconds ≠ scenario.resolution)
    (ScenarioValidationError.profileResolutionMismatch e.2)) scenario.profileSlots.zipIdx
  checkAll (fun e => failIf (e.1.2.slotStartUtc ≠ e.1.1.endUtc)
      (ScenarioValidationError.profileSlotVectorInvalid (e.2 + 1)))
    (scenario.profileSlots.zip scenario.profileSlots.tail).zipIdx

/-- `_validate_identities`. -/
def validateIdentities : Except ScenarioValidationError Unit := do
  failIf (¬ (scenario.loads.map FlexibleLoad.loadId).Nodup)
    ScenarioValidationError.duplicateLoadId
  failIf (¬ (scenario.loads.map FlexibleLoad.physicalAssetKey).Nodup)
    ScenarioValidationError.duplicatePhysicalAssetKey
  failIf (¬ (scenario.occurrences.map fun p => p.2.occurrenceId).Nodup)
    ScenarioValidationError.duplicateOccurrenceId

/-- `_validate_disjoint_occurrences`. -/
def validateDisjointOccurrences (load : FlexibleLoad) : Except ScenarioValidationError Unit :=
  let ordered := sortedBy (fun o => toLex (o.earliestStartUtc, o.deadlineUtc)) load.occurrences
  checkAll (fun e => failIf (e.2.earliestStartUtc < e.1.deadlineUtc)
    (ScenarioValidationError.overlappingLoadOccurrences load.loadId e.1.occurrenceId
      e.2.occurrenceId)) (ordered.zip ordered.tail)

/-- `_aligned_window_indices`. -/
def alignedWindowIndices (occurrence : LoadOccurrence) :
    Except ScenarioValidationError (ℕ × ℕ) :=
  match scenario.boundaries.get? occurrence.earliestStartUtc with
  | none => .error (.nonAlignedOccurrenceBoundary occurrence.occurrenceId .earliestStartUtc)
  | some start => match scenario.boundaries.get? occurrence.deadlineUtc with
    | none => .error (.nonAlignedOccurrenceBoundary occurrence.occurrenceId .deadlineUtc)
    | some stop =>
      if start ≥ stop then .error (.occurrenceOutsideProfile occurrence.occurrenceId)
      else .ok (start, stop)

/-- `_reference_energy`. -/
def referenceEnergy (occurrence : LoadOccurrence) : Except ScenarioValidationError (List ℕ) := do
  let row ← slotRow scenario
    (ScenarioValidationError.referenceSlotCountMismatch occurrence.occurrenceId)
    (ScenarioValidationError.referenceSlotVectorMismatch occurrence.occurrenceId)
    occurrence.referenceSchedule
  failIf (row.sum ≠ occurrence.requiredEnergyWh)
    (ScenarioValidationError.referenceEnergyMismatch occurrence.occurrenceId)
  .ok row

/-- `_validate_interruptible`. -/
def validateInterruptible (spec : InterruptibleModulatingSpec) (occurrence : LoadOccurrence)
    (row : List ℕ) (start stop : ℕ) : Except ScenarioValidationError Unit :=
  checkInterruptible scenario
    (ScenarioValidationError.referenceEnergyOutsideWindow occurrence.occurrenceId)
    (ScenarioValidationError.referenceMaximumPowerExceeded occurrence.occurrenceId)
    (ScenarioValidationError.referenceMinimumPowerViolated occurrence.occurrenceId)
    spec row start stop

/-- `_validate_fixed_shape`. -/
def validateFixedShape (spec : ContiguousFixedShapeSpec) (occurrence : LoadOccurrence)
    (row : List ℕ) (start stop : ℕ) : Except ScenarioValidationError Unit := do
  failIf (spec.fixedSlotShapeWh.sum ≠ occurrence.requiredEnergyWh)
    (ScenarioValidationError.fixedShapeEnergyMismatch occurrence.occurrenceId)
  failIf (∀ c ∈ allowedStarts start stop spec.fixedSlotShapeWh.length,
      placeShape row.length spec.fixedSlotShapeWh c ≠ row)
    (ScenarioValidationError.fixedShapeReferenceMismatch occurrence.occurrenceId)

/-- The check of an execution against its specification. -/
def validateExecution (spec : ExecutionSpec) (occurrence : LoadOccurrence) (row : List ℕ)
    (start stop : ℕ) : Except ScenarioValidationError Unit :=
  match spec with
  | .interruptible spec => validateInterruptible scenario spec occurrence row start stop
  | .fixedShape spec => validateFixedShape spec occurrence row start stop

/-- `_validate_occurrence`. -/
def validateOccurrence (load : FlexibleLoad) (occurrence : LoadOccurrence) :
    Except ScenarioValidationError (List ℕ) := do
  let window ← alignedWindowIndices scenario occurrence
  let row ← referenceEnergy scenario occurrence
  validateExecution scenario load.executionSpec occurrence row window.1 window.2
  .ok row

/-- The energies of the references, by mode. -/
structure ReferenceTotals where
  shift : List ℕ
  addition : List ℕ

/-- `target[index] += amount`, where the mode selects the target. -/
def ReferenceTotals.add (totals : ReferenceTotals) (mode : LoadMode) (row : List ℕ) :
    ReferenceTotals :=
  match mode with
  | .shiftExisting => { totals with shift := addRows totals.shift row }
  | .historicalAddition => { totals with addition := addRows totals.addition row }

/-- One turn of the loop over the occurrences. -/
def addReference (totals : ReferenceTotals) (p : FlexibleLoad × LoadOccurrence) :
    Except ScenarioValidationError ReferenceTotals := do
  let row ← validateOccurrence scenario p.1 p.2
  .ok (totals.add p.1.mode row)

/-- The codes the validation record lists. -/
def checkedScenarioCodes : List String :=
  ["PROFILE_SLOT_VECTOR_INVALID", "DUPLICATE_PHYSICAL_ASSET_KEY", "OVERLAPPING_LOAD_OCCURRENCES",
    "NON_ALIGNED_OCCURRENCE_BOUNDARY", "REFERENCE_SLOT_VECTOR_MISMATCH",
    "REFERENCE_ENERGY_MISMATCH", "REFERENCE_EXECUTION_SPEC", "NEGATIVE_FIXED_BACKGROUND",
    "REFERENCE_SITE_IMPORT_CAP_EXCEEDED", "REFERENCE_FLEXIBLE_LOAD_CAP_EXCEEDED"]

/-- `validate_and_decompose_scenario`. -/
def validateAndDecomposeScenario : Except ScenarioValidationError ValidatedScenario := do
  let zeros := List.replicate scenario.slotCount 0
  validateProfile scenario
  validateIdentities scenario
  checkAll validateDisjointOccurrences scenario.loads
  let totals ← scenario.occurrences.foldlM (addReference scenario) ⟨zeros, zeros⟩
  let difference := backgroundRow scenario totals.shift
  checkAll (fun e => failIf (e.1 < 0) (ScenarioValidationError.negativeFixedBackground e.2))
    difference.zipIdx
  let background := difference.map Int.toNat
  let reconstructed := addRows background totals.shift
  failIf (reconstructed ≠ scenario.measured)
    ScenarioValidationError.measuredReconstructionMismatch
  let flexible := addRows totals.shift totals.addition
  let unchanged := addRows background flexible
  checkCaps scenario ScenarioValidationError.referenceSiteImportCapExceeded
    ScenarioValidationError.referenceFlexibleLoadCapExceeded unchanged flexible
  .ok { scenario
        decomposition :=
          { fixedBackground := scenario.energySlots background
            shiftExistingReference := scenario.energySlots totals.shift
            historicalAdditionReference := scenario.energySlots totals.addition
            reconstructedMeasuredProfile := scenario.energySlots reconstructed
            unchangedReferenceProfile := scenario.energySlots unchanged }
        referenceValidation :=
          { loadCount := scenario.loads.length
            occurrenceCount := scenario.occurrences.length
            slotCount := scenario.slotCount
            checkedConstraintCodes := checkedScenarioCodes } }

end Validator

/-! ### What the shared checks establish -/

section Inversion

variable {ε : Type} {scenario : ScenarioInput} {row : List ℕ} {slots : List EnergySlot}
  {occurrence : LoadOccurrence} {start stop : ℕ}

/-- The duration of a slot. -/
def ScenarioInput.duration (scenario : ScenarioInput) (i : ℕ) : ℕ :=
  (scenario.profileSlots.map CanonicalProfileSlot.durationSeconds).getD i 0

theorem ScenarioInput.duration_eq {i : ℕ} (h : i < scenario.profileSlots.length) :
    scenario.duration i = (scenario.profileSlots.get ⟨i, h⟩).durationSeconds := by
  rw [ScenarioInput.duration, getD_eq_getElem _ _ (by rw [length_map]; exact h)]
  simp

/-- Every slot of the schedule is at its place in the profile. -/
def ScenarioInput.Places (scenario : ScenarioInput) (slots : List EnergySlot) : Prop :=
  List.Forall₂ EnergySlot.Matches slots scenario.profileSlots

theorem slotRow_eq_ok {wrongLength : ε} {wrongSlot : ℕ → ε} :
    slotRow scenario wrongLength wrongSlot slots = .ok row ↔
      scenario.Places slots ∧ row = energies slots := by
  rw [ScenarioInput.Places, forall₂_iff_zip_zipIdx]
  simp only [slotRow, bind_eq_ok, failIf_eq_ok, checkAll_eq_ok, Except.ok.injEq, not_not]
  constructor
  · rintro ⟨_, hlen, _, hslots, rfl⟩
    exact ⟨⟨hlen, hslots⟩, rfl⟩
  · rintro ⟨⟨hlen, hslots⟩, rfl⟩
    exact ⟨(), hlen, (), hslots, rfl⟩

theorem ScenarioInput.Places.length_energies (h : scenario.Places slots) :
    (energies slots).length = scenario.slotCount := by
  rw [RateReplay.length_energies]
  exact h.length_eq

/-- A schedule whose slots are at their places is given by its energies. -/
theorem ScenarioInput.Places.eq_energySlots (h : scenario.Places slots) :
    slots = scenario.energySlots (energies slots) := by
  rw [ScenarioInput.energySlots, energies]
  rw [ScenarioInput.Places] at h
  generalize scenario.profileSlots = profile at h
  induction h with
  | nil => rfl
  | @cons slot canonical slots profile hslot hrest ih =>
    rw [map_cons, zipWith_cons_cons, ← ih]
    obtain ⟨hstart, hduration⟩ := hslot
    cases slot
    simp only [CanonicalProfileSlot.withEnergy] at *
    subst hstart hduration
    rfl

theorem places_energySlots (h : row.length = scenario.slotCount) :
    scenario.Places (scenario.energySlots row) := by
  rw [ScenarioInput.Places, forall₂_iff_get]
  refine ⟨by simp [ScenarioInput.energySlots, h, ScenarioInput.slotCount], ?_⟩
  intro i hi hi'
  simp [ScenarioInput.energySlots, EnergySlot.Matches, CanonicalProfileSlot.withEnergy]

/-- The indices of an occurrence's window. -/
structure Window (scenario : ScenarioInput) (occurrence : LoadOccurrence) (start stop : ℕ) :
    Prop where
  earliest : scenario.boundaries.get? occurrence.earliestStartUtc = some start
  deadline : scenario.boundaries.get? occurrence.deadlineUtc = some stop
  nonempty : start < stop

theorem Window.le_slotCount (h : Window scenario occurrence start stop) :
    stop ≤ scenario.slotCount :=
  boundaries_le h.deadline

/-- Energy only inside the window and within the power limits, at every slot. -/
def Modulates (scenario : ScenarioInput) (spec : InterruptibleModulatingSpec) (start stop : ℕ)
    (row : List ℕ) : Prop :=
  ∀ i < scenario.slotCount, (0 < row.getD i 0 → start ≤ i ∧ i < stop) ∧
    row.getD i 0 * 3600 ≤ spec.maximumPowerW * scenario.duration i ∧
    (0 < row.getD i 0 →
      spec.minimumPowerWhenActiveW * scenario.duration i ≤ row.getD i 0 * 3600)

/-- The row is an execution of a specification in a window, with the required energy. -/
def Executes (scenario : ScenarioInput) (spec : ExecutionSpec) (required start stop : ℕ)
    (row : List ℕ) : Prop :=
  row.sum = required ∧ match spec with
    | .interruptible spec => Modulates scenario spec start stop row
    | .fixedShape spec => spec.fixedSlotShapeWh.sum = required ∧
        ∃ c ∈ allowedStarts start stop spec.fixedSlotShapeWh.length,
          placeShape scenario.slotCount spec.fixedSlotShapeWh c = row

theorem checkInterruptible_eq_ok {outsideWindow aboveMaximum belowMinimum : ℕ → ε}
    {spec : InterruptibleModulatingSpec} {u : Unit} (hrow : row.length = scenario.slotCount) :
    checkInterruptible scenario outsideWindow aboveMaximum belowMinimum spec row start stop
        = .ok u ↔
      Modulates scenario spec start stop row := by
  rw [checkInterruptible, checkAll_eq_ok, Modulates]
  simp only [failIf_bind_eq_ok, failIf_eq_ok]
  rw [forall_mem_zip_zipIdx (P := fun amount (slot : CanonicalProfileSlot) i =>
    ¬ (amount > 0 ∧ ¬ (start ≤ i ∧ i < stop)) ∧
      ¬ amount * 3600 > spec.maximumPowerW * slot.durationSeconds ∧
      ¬ (amount > 0 ∧ amount * 3600 < spec.minimumPowerWhenActiveW * slot.durationSeconds))]
  constructor
  · intro h i hi
    obtain ⟨hwin, hmax, hmin⟩ := h i (hrow ▸ hi) hi
    rw [getD_eq_getElem _ _ (hrow ▸ hi), ScenarioInput.duration_eq hi]
    simp only [get_eq_getElem] at hwin hmax hmin ⊢
    omega
  · intro h i hi hi'
    have hslot := h i hi'
    rw [getD_eq_getElem _ _ hi, ScenarioInput.duration_eq hi'] at hslot
    simp only [get_eq_getElem] at hslot ⊢
    exact ⟨by omega, by omega, by omega⟩

/-- The caps hold at every slot. -/
def CapsHold (scenario : ScenarioInput) (profile flexible : List ℕ) : Prop :=
  ∀ i < scenario.slotCount,
    (∀ cap ∈ scenario.electricalConstraints.siteImportCapW,
      profile.getD i 0 * 3600 ≤ cap * scenario.duration i) ∧
    (∀ cap ∈ scenario.electricalConstraints.flexibleLoadAggregateCapW,
      flexible.getD i 0 * 3600 ≤ cap * scenario.duration i)

theorem checkCaps_eq_ok {siteExceeded flexibleExceeded : ℕ → ε} {profile flexible : List ℕ}
    {u : Unit} (hpf : profile.length = scenario.slotCount)
    (hflex : flexible.length = scenario.slotCount) :
    checkCaps scenario siteExceeded flexibleExceeded profile flexible = .ok u ↔
      CapsHold scenario profile flexible := by
  rw [checkCaps, checkAll_eq_ok, CapsHold]
  simp only [failIf_bind_eq_ok, failIf_eq_ok, not_exists, not_and, not_lt, gt_iff_lt]
  rw [forall_mem_zip_zipIdx (P := fun (amounts : ℕ × ℕ) (slot : CanonicalProfileSlot) _ =>
    (∀ cap ∈ scenario.electricalConstraints.siteImportCapW,
      amounts.1 * 3600 ≤ cap * slot.durationSeconds) ∧
    (∀ cap ∈ scenario.electricalConstraints.flexibleLoadAggregateCapW,
      amounts.2 * 3600 ≤ cap * slot.durationSeconds))]
  have hlen : (profile.zip flexible).length = scenario.slotCount := by
    rw [length_zip, hpf, hflex, min_self]
  constructor
  · intro h i hi
    have hslot := h i (hlen ▸ hi) hi
    rw [getD_eq_getElem _ _ (hpf ▸ hi), getD_eq_getElem _ _ (hflex ▸ hi),
      ScenarioInput.duration_eq hi]
    simpa using hslot
  · intro h i hi hi'
    have hslot := h i hi'
    rw [getD_eq_getElem _ _ (hpf ▸ hi'), getD_eq_getElem _ _ (hflex ▸ hi'),
      ScenarioInput.duration_eq hi'] at hslot
    simpa using hslot

/-! ### What the validator establishes -/

theorem alignedWindowIndices_eq_ok {window : ℕ × ℕ} :
    alignedWindowIndices scenario occurrence = .ok window ↔
      Window scenario occurrence window.1 window.2 := by
  obtain ⟨start, stop⟩ := window
  rw [alignedWindowIndices]
  constructor
  · intro h
    split at h
    · cases h
    next start' hstart =>
      split at h
      · cases h
      next stop' hstop =>
        split_ifs at h with hlt
        cases h
        exact ⟨hstart, hstop, by omega⟩
  · rintro ⟨hstart, hstop, hlt⟩
    simp only at hstart hstop hlt
    simp only [hstart, hstop]
    rw [if_neg (by omega)]

/-- The row is an execution of the occurrence in its window. -/
structure Admissible (scenario : ScenarioInput) (p : FlexibleLoad × LoadOccurrence)
    (row : List ℕ) : Prop where
  length : row.length = scenario.slotCount
  executes : ∃ start stop, Window scenario p.2 start stop ∧
    Executes scenario p.1.executionSpec p.2.requiredEnergyWh start stop row

theorem Admissible.sum {p : FlexibleLoad × LoadOccurrence} (h : Admissible scenario p row) :
    row.sum = p.2.requiredEnergyWh := by
  obtain ⟨start, stop, -, hexec⟩ := h.executes
  exact hexec.1

theorem validateExecution_eq_ok {spec : ExecutionSpec} {u : Unit}
    (hrow : row.length = scenario.slotCount) (hsum : row.sum = occurrence.requiredEnergyWh) :
    validateExecution scenario spec occurrence row start stop = .ok u ↔
      Executes scenario spec occurrence.requiredEnergyWh start stop row := by
  cases spec with
  | interruptible spec =>
    rw [validateExecution, validateInterruptible, checkInterruptible_eq_ok hrow]
    exact ⟨fun h => ⟨hsum, h⟩, fun h => h.2⟩
  | fixedShape spec =>
    rw [validateExecution, validateFixedShape, failIf_bind_eq_ok, failIf_eq_ok, not_not, hrow]
    simp only [Executes, hsum, true_and, not_forall, not_not, exists_prop]

theorem validateOccurrence_eq_ok {p : FlexibleLoad × LoadOccurrence} :
    validateOccurrence scenario p.1 p.2 = .ok row ↔
      (scenario.Places p.2.referenceSchedule ∧ Admissible scenario p p.2.referenceEnergy) ∧
        row = p.2.referenceEnergy := by
  simp only [validateOccurrence, referenceEnergy, bind_eq_ok, slotRow_eq_ok, failIf_eq_ok,
    alignedWindowIndices_eq_ok, Except.ok.injEq, not_not]
  constructor
  · rintro ⟨window, hwin, _, ⟨_, ⟨hpl, rfl⟩, _, hsum, rfl⟩, _, hexec, rfl⟩
    have hlen := hpl.length_energies
    rw [validateExecution_eq_ok hlen hsum] at hexec
    exact ⟨⟨hpl, hlen, window.1, window.2, hwin, hexec⟩, rfl⟩
  · rintro ⟨⟨hpl, hlen, start, stop, hwin, hexec⟩, rfl⟩
    have hchks := (validateExecution_eq_ok (u := ()) hlen hexec.1).mpr hexec
    exact ⟨(start, stop), hwin, _, ⟨_, ⟨hpl, rfl⟩, (), hexec.1, rfl⟩, (), hchks, rfl⟩

end Inversion

/-! ### Reference totals -/

section Totals

/-- The reference energy of the loads of one mode, slot by slot. -/
def modeReference (scenario : ScenarioInput) (mode : LoadMode) : List ℕ :=
  sumRows scenario.slotCount
    ((scenario.occurrences.filter fun p => p.1.mode = mode).map fun p => p.2.referenceEnergy)

/-- What is left of the measured profile without the loads that are shifted. -/
def fixedBackground (scenario : ScenarioInput) : List ℕ :=
  List.zipWith (· - ·) scenario.measured (modeReference scenario .shiftExisting)

/-- The energy of all references. -/
def flexibleReference (scenario : ScenarioInput) : List ℕ :=
  addRows (modeReference scenario .shiftExisting) (modeReference scenario .historicalAddition)

/-- The profile with every load at its reference. -/
def unchangedReference (scenario : ScenarioInput) : List ℕ :=
  addRows (fixedBackground scenario) (flexibleReference scenario)

theorem foldl_add_totals (l : List (FlexibleLoad × LoadOccurrence)) (t : ReferenceTotals) :
    l.foldl (fun t p => t.add p.1.mode p.2.referenceEnergy) t =
      ⟨((l.filter fun p => p.1.mode = .shiftExisting).map fun p => p.2.referenceEnergy).foldl
          addRows t.shift,
        ((l.filter fun p => p.1.mode = .historicalAddition).map fun p => p.2.referenceEnergy).foldl
          addRows t.addition⟩ := by
  induction l generalizing t with
  | nil => rfl
  | cons p l ih =>
    rw [foldl_cons, ih]
    cases hmode : p.1.mode with
    | shiftExisting => simp [ReferenceTotals.add, hmode]
    | historicalAddition => simp [ReferenceTotals.add, hmode]

end Totals

/-- What an admitted scenario satisfies. -/
structure Valid (scenario : ScenarioInput) : Prop where
  resolution : ∀ slot ∈ scenario.profileSlots, slot.durationSeconds = scenario.resolution
  contiguous : ∀ e ∈ scenario.profileSlots.zip scenario.profileSlots.tail,
    e.2.slotStartUtc = e.1.endUtc
  loadIds : (scenario.loads.map FlexibleLoad.loadId).Nodup
  assetKeys : (scenario.loads.map FlexibleLoad.physicalAssetKey).Nodup
  occurrenceIds : (scenario.occurrences.map fun p => p.2.occurrenceId).Nodup
  disjoint : ∀ load ∈ scenario.loads, validateDisjointOccurrences load = .ok ()
  places : ∀ p ∈ scenario.occurrences, scenario.Places p.2.referenceSchedule
  reference : ∀ p ∈ scenario.occurrences, Admissible scenario p p.2.referenceEnergy
  background : ∀ i < scenario.slotCount,
    (modeReference scenario .shiftExisting).getD i 0 ≤ scenario.measured.getD i 0
  caps : CapsHold scenario (unchangedReference scenario) (flexibleReference scenario)

section Validated

variable {scenario : ScenarioInput}

theorem length_referenceEnergy
    (h : ∀ p ∈ scenario.occurrences, scenario.Places p.2.referenceSchedule)
    {p : FlexibleLoad × LoadOccurrence} (hp : p ∈ scenario.occurrences) :
    p.2.referenceEnergy.length = scenario.slotCount :=
  (h p hp).length_energies

theorem length_modeReference
    (h : ∀ p ∈ scenario.occurrences, scenario.Places p.2.referenceSchedule) (mode : LoadMode) :
    (modeReference scenario mode).length = scenario.slotCount := by
  refine length_sumRows ?_
  intro row hrow
  obtain ⟨p, hp, rfl⟩ := mem_map.mp hrow
  exact length_referenceEnergy h (mem_of_mem_filter hp)

theorem length_measured : scenario.measured.length = scenario.slotCount :=
  length_map _

/-- No difference is negative exactly when the shifted energy is within the measured. -/
theorem backgroundRow_nonneg {shift : List ℕ} (hlen : shift.length = scenario.slotCount) :
    (∀ x ∈ backgroundRow scenario shift, ¬ x < 0) ↔
      ∀ i < scenario.slotCount, shift.getD i 0 ≤ scenario.measured.getD i 0 := by
  have hm : scenario.measured.length = scenario.slotCount := length_measured
  have hb : (backgroundRow scenario shift).length = scenario.slotCount := by
    rw [backgroundRow, length_zipWith, hm, hlen, min_self]
  rw [forall_mem_iff_forall_getElem]
  constructor
  · intro h i hi
    have hnn := h i (hb ▸ hi)
    rw [getD_eq_getElem _ _ (hlen ▸ hi), getD_eq_getElem _ _ (hm ▸ hi)]
    simp only [backgroundRow, getElem_zipWith] at hnn
    omega
  · intro h i hi
    have hle := h i (hb ▸ hi)
    rw [getD_eq_getElem _ _ (hlen ▸ hb ▸ hi), getD_eq_getElem _ _ (hm ▸ hb ▸ hi)] at hle
    simp only [backgroundRow, getElem_zipWith]
    omega

theorem toNat_backgroundRow (shift : List ℕ) :
    (backgroundRow scenario shift).map Int.toNat = zipWith (· - ·) scenario.measured shift := by
  rw [backgroundRow, map_zipWith]
  congr 1
  funext m s
  omega

section Placed

variable (h : ∀ p ∈ scenario.occurrences, scenario.Places p.2.referenceSchedule)

include h

theorem length_fixedBackground :
    (fixedBackground scenario).length = scenario.slotCount := by
  rw [fixedBackground, length_zipWith, length_measured, length_modeReference h, min_self]

theorem length_flexibleReference :
    (flexibleReference scenario).length = scenario.slotCount := by
  rw [flexibleReference, length_addRows, length_modeReference h]
  rw [length_modeReference h, length_modeReference h]

theorem length_unchangedReference :
    (unchangedReference scenario).length = scenario.slotCount := by
  rw [unchangedReference, length_addRows, length_fixedBackground h]
  rw [length_flexibleReference h, length_fixedBackground h]

end Placed

/-- **An admitted scenario is valid**, and the decomposition is that of its references. -/
theorem validateAndDecomposeScenario_valid {validated : ValidatedScenario}
    (h : validateAndDecomposeScenario scenario = .ok validated) :
    Valid scenario ∧ validated.scenario = scenario ∧
      validated.decomposition.fixedBackground = scenario.energySlots (fixedBackground scenario) ∧
      validated.decomposition.unchangedReferenceProfile
        = scenario.energySlots (unchangedReference scenario) := by
  have hs : ∀ s, ∀ p ∈ scenario.occurrences, ∀ s', addReference scenario s p = .ok s' ↔
      (scenario.Places p.2.referenceSchedule ∧ Admissible scenario p p.2.referenceEnergy) ∧
        s' = s.add p.1.mode p.2.referenceEnergy := by
    intro s p _ s'
    simp only [addReference, bind_eq_ok, validateOccurrence_eq_ok, Except.ok.injEq]
    constructor
    · rintro ⟨_, ⟨hv, rfl⟩, rfl⟩
      exact ⟨hv, rfl⟩
    · rintro ⟨hv, rfl⟩
      exact ⟨_, ⟨hv, rfl⟩, rfl⟩
  simp only [validateAndDecomposeScenario, validateProfile, validateIdentities, bind_eq_ok,
    failIf_eq_ok, checkAll_eq_ok, not_not, foldlM_eq_ok_iff hs, foldl_add_totals,
    Except.ok.injEq] at h
  obtain ⟨_, ⟨_, hresolution, hcontiguous⟩, _, ⟨_, hloads, _, hassets, hocc⟩, _,
    hdisjoint, _, ⟨hrefs, rfl⟩, _, hbg, _, -, _, hcaps, rfl⟩ := h
  have hpl : ∀ p ∈ scenario.occurrences, scenario.Places p.2.referenceSchedule :=
    fun p hp => (hrefs p hp).1
  rw [toNat_backgroundRow] at hcaps ⊢
  have hcaps' := (checkCaps_eq_ok (length_unchangedReference hpl)
    (length_flexibleReference hpl)).mp hcaps
  exact ⟨⟨forall_mem_zipIdx_fst.mp hresolution, forall_mem_zipIdx_fst.mp hcontiguous, hloads,
    hassets, hocc, hdisjoint, hpl, fun p hp => (hrefs p hp).2,
    (backgroundRow_nonneg (length_modeReference hpl _)).mp (forall_mem_zipIdx_fst.mp hbg),
    hcaps'⟩, rfl, rfl, rfl⟩

end Validated

end RateReplay
