import RateReplay.Optimizer.Scenario
import RateReplay.Tariff.Soundness

/-!
# The independent verifier

`verify_candidate_schedule` accepts a candidate schedule when it passes the structural
checks (profile, identities, windows, executions, caps) and its bill can be recomputed,
and scores it.  It shares no code with the lowering or the solver.

## Main definitions

* `verifyStructure` — the structural checks, up to the recomputation of the bill.
* `recomputeBill`, `objective` — the bill and the score of a checked candidate.
* `verifyCandidateSchedule` — the verifier.
* `candidateFromReference` — the reference as a candidate.
-/

namespace RateReplay

/-! ### Errors -/

/-- The errors of the verifier, with their witnesses.  The profile of a scenario is never
empty, so the error for an empty one is left out. -/
inductive ScheduleVerificationError where
  | profileDurationInvalid (slotIndex : ℕ)
  | profileNotWholeSeconds (slotIndex : ℕ)
  | profileNotContiguous (slotIndex : ℕ)
  | duplicateOccurrence (occurrenceId : UUID)
  | occurrenceSetMismatch (missing unexpected : List UUID)
  | slotCountMismatch (occurrenceId : UUID)
  | slotVectorMismatch (occurrenceId : UUID) (slotIndex : ℕ)
  | referenceSlotCountInvalid (occurrenceId : UUID)
  | referenceSlotInvalid (occurrenceId : UUID)
  | nonAlignedBoundary (occurrenceId : UUID)
  | outsideProfile (occurrenceId : UUID)
  | assetIdentityInvalid
  | occurrenceIdentityInvalid
  | overlappingOccurrences (loadId : UUID)
  | energyConservationFailed (occurrenceId : UUID)
  | windowViolation (occurrenceId : UUID) (slotIndex : ℕ)
  | maximumPowerViolation (occurrenceId : UUID) (slotIndex : ℕ)
  | minimumPowerViolation (occurrenceId : UUID) (slotIndex : ℕ)
  | shapeEnergyMismatch (occurrenceId : UUID)
  | contiguityViolation (occurrenceId : UUID)
  | negativeBackground
  | reconstructionMismatch
  | tariffVersionMismatch
  | noCompletionSlot (occurrenceId : UUID)
  | siteImportCapViolation (slotIndex : ℕ)
  | flexibleLoadCapViolation (slotIndex : ℕ)
  | costMismatch (claimedSupportedCostCents recomputedSupportedCostCents : ℤ)
  deriving DecidableEq

/-- What the verifier raises: its own errors, errors of the evaluator, a `ValidationError`
of a strict model, or a missing key. -/
inductive VerifierRaised where
  | verificationError (e : ScheduleVerificationError)
  | replay (e : Raised)
  | validationError
  | keyError
  deriving DecidableEq

/-! ### Structural checks -/

section Structure

variable (scenario : ScenarioInput)

/-- The slots, each with the one before it. -/
def slotsWithPrevious : List (Option CanonicalProfileSlot × CanonicalProfileSlot) :=
  (none :: scenario.profileSlots.map some).zip scenario.profileSlots

/-- The checks of `_profile_boundaries` on one slot. -/
def verifyProfileSlot (e : (Option CanonicalProfileSlot × CanonicalProfileSlot) × ℕ) :
    Except VerifierRaised Unit := do
  failIf (e.1.2.durationSeconds ≠ scenario.resolution ∨ e.1.2.durationSeconds > 3600)
    (VerifierRaised.verificationError (.profileDurationInvalid e.2))
  failIf (e.1.2.slotStartUtc % 1000000 ≠ 0)
    (VerifierRaised.verificationError (.profileNotWholeSeconds e.2))
  failIf (∃ previous ∈ e.1.1, e.1.2.slotStartUtc ≠ previous.endUtc)
    (VerifierRaised.verificationError (.profileNotContiguous e.2))

/-- `_profile_boundaries`. -/
def profileBoundaries : Except VerifierRaised (Dict ℤ ℕ) := do
  checkAll (verifyProfileSlot scenario) (slotsWithPrevious scenario).zipIdx
  .ok scenario.boundaries

/-- The identities seen so far. -/
structure SeenIdentities where
  loadIds : List UUID
  assetKeys : List String
  occurrenceIds : List UUID

/-- Adds the identity of one occurrence. -/
def seeOccurrence (occurrenceIds : List UUID) (occurrence : LoadOccurrence) :
    Except VerifierRaised (List UUID) := do
  failIf (occurrence.occurrenceId ∈ occurrenceIds)
    (VerifierRaised.verificationError .occurrenceIdentityInvalid)
  .ok (occurrenceIds ++ [occurrence.occurrenceId])

/-- The windows of one load, in the order of their starts, do not overlap. -/
def verifyLoadWindows (load : FlexibleLoad) : Except VerifierRaised Unit :=
  let ordered := sortedBy LoadOccurrence.earliestStartUtc load.occurrences
  checkAll (fun e => failIf (e.2.earliestStartUtc < e.1.deadlineUtc)
    (VerifierRaised.verificationError (.overlappingOccurrences load.loadId)))
    (ordered.zip ordered.tail)

/-- One turn of the loop of `_verify_disjoint_windows`. -/
def seeLoad (seen : SeenIdentities) (load : FlexibleLoad) :
    Except VerifierRaised SeenIdentities := do
  failIf (load.loadId ∈ seen.loadIds ∨ load.physicalAssetKey ∈ seen.assetKeys)
    (VerifierRaised.verificationError .assetIdentityInvalid)
  let occurrenceIds ← load.occurrences.foldlM seeOccurrence seen.occurrenceIds
  verifyLoadWindows load
  .ok ⟨seen.loadIds ++ [load.loadId], seen.assetKeys ++ [load.physicalAssetKey], occurrenceIds⟩

/-- `_verify_disjoint_windows`. -/
def verifyDisjointWindows : Except VerifierRaised Unit := do
  let _ ← scenario.loads.foldlM seeLoad ⟨[], [], []⟩
  .ok ()

/-- One turn of the loop of `_schedule_map`. -/
def addSubmitted (values : Dict UUID OccurrenceSchedule) (occurrence : OccurrenceSchedule) :
    Except VerifierRaised (Dict UUID OccurrenceSchedule) := do
  failIf (occurrence.occurrenceId ∈ values.keys)
    (VerifierRaised.verificationError (.duplicateOccurrence occurrence.occurrenceId))
  .ok (values.set occurrence.occurrenceId occurrence)

/-- The identifiers in `ids` that are not in `others`, in the order of their texts. -/
def missingIds (ids others : List UUID) : List UUID :=
  sortedBy id (ids.filter fun i => i ∉ others).dedup

/-- `_schedule_map`. -/
def scheduleMap (candidate : CandidateSchedule) (expectedIds : List UUID) :
    Except VerifierRaised (Dict UUID OccurrenceSchedule) := do
  let values ← candidate.occurrences.foldlM addSubmitted Dict.empty
  failIf (¬ SameElements values.keys expectedIds) (VerifierRaised.verificationError
    (.occurrenceSetMismatch (missingIds expectedIds values.keys)
      (missingIds values.keys expectedIds)))
  .ok values

/-- `_energy_vector`. -/
def energyVector (schedule : OccurrenceSchedule) : Except VerifierRaised (List ℕ) :=
  slotRow scenario
    (VerifierRaised.verificationError (.slotCountMismatch schedule.occurrenceId))
    (fun i => VerifierRaised.verificationError (.slotVectorMismatch schedule.occurrenceId i))
    schedule.slots

/-- `_reference_vector`. -/
def referenceVector (occurrence : LoadOccurrence) : Except VerifierRaised (List ℕ) :=
  slotRow scenario
    (VerifierRaised.verificationError (.referenceSlotCountInvalid occurrence.occurrenceId))
    (fun _ => VerifierRaised.verificationError (.referenceSlotInvalid occurrence.occurrenceId))
    occurrence.referenceSchedule

/-- `_window_indices`. -/
def windowIndices (boundaries : Dict ℤ ℕ) (occurrence : LoadOccurrence) :
    Except VerifierRaised (ℕ × ℕ) :=
  match boundaries.get? occurrence.earliestStartUtc, boundaries.get? occurrence.deadlineUtc with
  | some start, some stop =>
    if start ≥ stop then .error (.verificationError (.outsideProfile occurrence.occurrenceId))
    else .ok (start, stop)
  | _, _ => .error (.verificationError (.nonAlignedBoundary occurrence.occurrenceId))

/-- The part of `_verify_execution` after the check of the total energy. -/
def verifySpec (spec : ExecutionSpec) (occurrence : LoadOccurrence) (row : List ℕ)
    (start stop : ℕ) : Except VerifierRaised Unit :=
  match spec with
  | .interruptible spec => checkInterruptible scenario
      (fun i => VerifierRaised.verificationError (.windowViolation occurrence.occurrenceId i))
      (fun i => VerifierRaised.verificationError (.maximumPowerViolation occurrence.occurrenceId i))
      (fun i => VerifierRaised.verificationError (.minimumPowerViolation occurrence.occurrenceId i))
      spec row start stop
  | .fixedShape spec => do
    failIf (spec.fixedSlotShapeWh.sum ≠ occurrence.requiredEnergyWh)
      (VerifierRaised.verificationError (.shapeEnergyMismatch occurrence.occurrenceId))
    failIf (∀ c ∈ allowedStarts start stop spec.fixedSlotShapeWh.length,
        placeShape scenario.slotCount spec.fixedSlotShapeWh c ≠ row)
      (VerifierRaised.verificationError (.contiguityViolation occurrence.occurrenceId))

/-- `_verify_execution`. -/
def verifyExecution (load : FlexibleLoad) (occurrence : LoadOccurrence) (row : List ℕ)
    (start stop : ℕ) : Except VerifierRaised Unit := do
  failIf (row.sum ≠ occurrence.requiredEnergyWh)
    (VerifierRaised.verificationError (.energyConservationFailed occurrence.occurrenceId))
  verifySpec scenario load.executionSpec occurrence row start stop

/-- The references read so far, and their total over the loads that are shifted. -/
structure ReferenceState where
  shift : List ℕ
  references : Dict UUID (List ℕ)

/-- One turn of the loop of `_background_and_reference`. -/
def readReference (s : ReferenceState) (p : FlexibleLoad × LoadOccurrence) :
    Except VerifierRaised ReferenceState := do
  let row ← referenceVector scenario p.2
  .ok ⟨if p.1.mode = .shiftExisting then addRows s.shift row else s.shift,
    s.references.set p.2.occurrenceId row⟩

/-- `_background_and_reference`. -/
def backgroundAndReference : Except VerifierRaised (List ℕ × Dict UUID (List ℕ)) := do
  let s ← (canonicalOccurrences scenario).foldlM (readReference scenario)
    ⟨List.replicate scenario.slotCount 0, Dict.empty⟩
  let difference := backgroundRow scenario s.shift
  failIf (∃ amount ∈ difference, amount < 0) (VerifierRaised.verificationError .negativeBackground)
  let background := difference.map Int.toNat
  failIf (addRows background s.shift ≠ scenario.measured)
    (VerifierRaised.verificationError .reconstructionMismatch)
  .ok (background, s.references)

/-- What the loop over the occurrences collects. -/
structure CandidateState where
  candidateById : Dict UUID (List ℕ)
  flexible : List ℕ
  canonicalSchedules : List OccurrenceSchedule

/-- One turn of the loop over the occurrences. -/
def verifyOccurrence (boundaries : Dict ℤ ℕ) (submitted : Dict UUID OccurrenceSchedule)
    (s : CandidateState) (p : FlexibleLoad × LoadOccurrence) :
    Except VerifierRaised CandidateState := do
  let schedule ← (submitted.get? p.2.occurrenceId).elim (.error VerifierRaised.keyError) .ok
  let row ← energyVector scenario schedule
  let window ← windowIndices boundaries p.2
  verifyExecution scenario p.1 p.2 row window.1 window.2
  .ok ⟨s.candidateById.set p.2.occurrenceId row, addRows s.flexible row,
    s.canonicalSchedules ++ [schedule]⟩

/-- A candidate that passed the structural checks. -/
structure CheckedCandidate where
  background : List ℕ
  references : Dict UUID (List ℕ)
  candidateById : Dict UUID (List ℕ)
  flexible : List ℕ
  profile : List ℕ
  canonicalSchedules : List OccurrenceSchedule

/-- `verify_candidate_schedule` up to the recomputation of the bill. -/
def verifyStructure (candidate : CandidateSchedule) : Except VerifierRaised CheckedCandidate := do
  let boundaries ← profileBoundaries scenario
  verifyDisjointWindows scenario
  let submitted ← scheduleMap candidate
    ((canonicalOccurrences scenario).map fun p => p.2.occurrenceId)
  let references ← backgroundAndReference scenario
  let s ← (canonicalOccurrences scenario).foldlM (verifyOccurrence scenario boundaries submitted)
    ⟨Dict.empty, List.replicate scenario.slotCount 0, []⟩
  let profile := addRows references.1 s.flexible
  checkCaps scenario
    (fun i => VerifierRaised.verificationError (.siteImportCapViolation i))
    (fun i => VerifierRaised.verificationError (.flexibleLoadCapViolation i)) profile s.flexible
  .ok ⟨references.1, references.2, s.candidateById, s.flexible, profile, s.canonicalSchedules⟩

end Structure

/-! ### The bill -/

/-- The `ReplayInterval` of a slot: a strict model that rejects negative starts and
durations of more than an hour. -/
def replayInterval (slot : CanonicalProfileSlot) (energyWh : ℕ) :
    Except VerifierRaised ReplayInterval :=
  let startUtcNs := slot.slotStartUtc / 1000000 * 1000000000 + slot.slotStartUtc % 1000000 * 1000
  if h : 0 ≤ startUtcNs ∧ slot.durationSeconds ≤ 3600 then
    .ok ⟨startUtcNs.toNat, slot.durationSeconds, energyWh, slot.duration_pos, h.2⟩
  else .error .validationError

/-- The `IntervalReplayRequest` of a list of intervals, as its validators admit it. -/
def intervalRequest (scenario : ScenarioInput) (facts : AccountFacts)
    (datedFacts : Option DatedEligibilityFacts) (energyWh : ℕ) (intervals : List ReplayInterval) :
    Except VerifierRaised IntervalReplayRequest :=
  if h : intervals ≠ [] ∧ (intervals.map ReplayInterval.energyWh).sum = energyWh ∧
      (∀ i ∈ intervals, i.startUtcNs % 1000000000 = 0) ∧
      intervals.IsChain fun i j => i.endUtcNs ≤ j.startUtcNs then
    .ok ⟨⟨scenario.profileContentSha256, facts, energyWh, none, [], List.Pairwise.nil⟩,
      intervals, datedFacts, h.1, h.2.1, h.2.2.1, h.2.2.2⟩
  else .error .validationError

/-- The request `_recompute_bill` builds. -/
def billRequest (scenario : ScenarioInput) (profile : List ℕ) (facts : AccountFacts)
    (datedFacts : Option DatedEligibilityFacts) :
    Except VerifierRaised IntervalReplayRequest := do
  let intervals ← collect (fun e => replayInterval e.1 e.2) (scenario.profileSlots.zip profile)
  intervalRequest scenario facts datedFacts profile.sum intervals

/-- `_recompute_bill`. -/
def recomputeBill (env : Env) (scenario : ScenarioInput) (profile : List ℕ)
    (bundle : CompilationBundle) (facts : AccountFacts)
    (datedFacts : Option DatedEligibilityFacts) : Except VerifierRaised ReplayResult := do
  failIf (scenario.tariffVersionId ≠ bundle.ir.tariffVersionId)
    (VerifierRaised.verificationError .tariffVersionMismatch)
  let request ← billRequest scenario profile facts datedFacts
  (replayCompiledTariff env bundle (.interval request)).mapError .replay

/-! ### The score -/

/-- How many entries of two rows differ. -/
def changedCount (row reference : List ℕ) : ℕ :=
  ((row.zip reference).filter fun e => e.1 ≠ e.2).length

/-- The indices, from 1 on, of the slots with energy. -/
def positiveSlots (row : List ℕ) : List ℕ :=
  (row.zipIdx.filter fun e => e.1 > 0).map fun e => e.2 + 1

/-- The energies, each times its position in the concatenation of all rows. -/
def positionScore (position : ℕ) (row : List ℕ) : ℕ :=
  ((row.zipIdx (position + 1)).map fun e => e.1 * e.2).sum

/-- What `_objective` adds up. -/
structure ObjectiveState where
  changed : ℕ
  completion : ℕ
  stableScore : ℕ
  position : ℕ

/-- One turn of the loop of `_objective`. -/
def scoreOccurrence (candidateById references : Dict UUID (List ℕ)) (s : ObjectiveState)
    (p : FlexibleLoad × LoadOccurrence) : Except VerifierRaised ObjectiveState := do
  let candidate ← (candidateById.get? p.2.occurrenceId).elim (.error .keyError) .ok
  let reference ← (references.get? p.2.occurrenceId).elim (.error .keyError) .ok
  let completion ← (positiveSlots candidate).getLast?.elim
    (.error (.verificationError (.noCompletionSlot p.2.occurrenceId))) .ok
  .ok ⟨s.changed + changedCount candidate reference, s.completion + completion,
    s.stableScore + positionScore s.position candidate, s.position + candidate.length⟩

/-- `_objective`. -/
def objective (scenario : ScenarioInput) (candidateById references : Dict UUID (List ℕ))
    (supportedCostCents : ℤ) : Except VerifierRaised ObjectiveTuple := do
  let s ← (canonicalOccurrences scenario).foldlM (scoreOccurrence candidateById references)
    ⟨0, 0, 0, 0⟩
  .ok ⟨supportedCostCents, s.changed, s.completion, s.stableScore⟩

/-! ### The verifier -/

structure VerifiedSchedule where
  schedule : CandidateSchedule
  record : VerificationRecord
  billingResult : ReplayResult
  deriving DecidableEq

/-- The codes the verification record lists. -/
def checkedScheduleCodes : List String :=
  ["VERIFIER_DECOMPOSITION_FAILED", "VERIFIER_ENERGY_CONSERVATION_FAILED",
    "VERIFIER_WINDOW_VIOLATION", "VERIFIER_MAXIMUM_POWER_VIOLATION",
    "VERIFIER_MINIMUM_POWER_VIOLATION", "VERIFIER_CONTIGUITY_VIOLATION",
    "VERIFIER_SITE_IMPORT_CAP_VIOLATION", "VERIFIER_FLEXIBLE_LOAD_CAP_VIOLATION",
    "VERIFIER_COST_MISMATCH"]

/-- The `CandidateSchedule` of a list of schedules, which must not be empty. -/
def canonicalCandidate (schedules : List OccurrenceSchedule) :
    Except VerifierRaised CandidateSchedule :=
  if h : schedules ≠ [] then .ok ⟨schedules, h⟩ else .error .validationError

/-- What the verifier returns for a checked, billed and scored candidate. -/
def verifiedSchedule (env : Env) (scenario : ScenarioInput) (checked : CheckedCandidate)
    (schedule : CandidateSchedule) (billing : ReplayResult) (score : ObjectiveTuple) :
    VerifiedSchedule :=
  let candidateProfile := scenario.energySlots checked.profile
  { schedule
    record :=
      { objective := score
        candidateProfile
        billingResultSha256 := billing.resultSha256
        checkedConstraintCodes := checkedScheduleCodes
        verificationSha256 := canonicalContentSha256 env
          "RateReplay.IndependentScheduleVerification.v1"
          (object [("schedule", dump schedule), ("objective", dump score),
            ("candidate_profile", dump candidateProfile),
            ("billing_result_sha256", dump billing.resultSha256),
            ("checked_constraint_codes", dump checkedScheduleCodes)]) }
    billingResult := billing }

/-- `verify_candidate_schedule`. -/
def verifyCandidateSchedule (env : Env) (scenario : ScenarioInput) (candidate : CandidateSchedule)
    (bundle : CompilationBundle) (facts : AccountFacts)
    (datedFacts : Option DatedEligibilityFacts) (claimedSupportedCostCents : Option ℤ) :
    Except VerifierRaised VerifiedSchedule := do
  let checked ← verifyStructure scenario candidate
  let billing ← recomputeBill env scenario checked.profile bundle facts datedFacts
  failIf (∃ claimed ∈ claimedSupportedCostCents, claimed ≠ billing.supportedCalculatedCents)
    (VerifierRaised.verificationError (.costMismatch (claimedSupportedCostCents.getD 0)
      billing.supportedCalculatedCents))
  let score ← objective scenario checked.candidateById checked.references
    billing.supportedCalculatedCents
  let schedule ← canonicalCandidate checked.canonicalSchedules
  .ok (verifiedSchedule env scenario checked schedule billing score)

/-- `candidate_from_reference`. -/
def candidateFromReference (scenario : ScenarioInput) : CandidateSchedule where
  occurrences := (canonicalOccurrences scenario).map fun p =>
    ⟨p.2.occurrenceId, p.2.referenceSchedule, p.2.referenceSchedule_ne⟩
  occurrences_ne := by
    intro h
    exact canonicalOccurrences_ne scenario (List.map_eq_nil_iff.mp h)

end RateReplay
