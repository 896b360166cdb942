import RateReplay.Lib.Rows
import RateReplay.Tariff.Billing

/-!
# Flexible loads and scenarios

The strict models of the optimizer.  What a model's validator checks is a field of its
structure.  Instants are microseconds since 1970, identifiers are 128-bit numbers in the
order of their bytes.

## Main definitions

* `CanonicalProfileSlot`, `EnergySlot` — slots of a measured profile and of a schedule.
* `FlexibleLoad`, `LoadOccurrence`, `ExecutionSpec` — what may be moved, and how.
* `ScenarioInput`, `ValidatedScenario` — a scenario, and what its validation returns.
* `CandidateSchedule`, `ObjectiveTuple`, `VerificationRecord` — schedules and their values.
* `canonicalOccurrences` — the order in which occurrences are treated.
-/

namespace RateReplay

/-! ### Identifiers -/

/-- A `uuid.UUID`. -/
abbrev UUID := Fin (2 ^ 128)

namespace UUID

/-- The 32 hexadecimal digits. -/
def hex (u : UUID) : List Char :=
  let digits := Nat.toDigits 16 u.val
  List.replicate (32 - digits.length) '0' ++ digits

/-- `str(uuid)`. -/
def text (u : UUID) : String :=
  let h := u.hex
  String.ofList (h.take 8 ++ '-' :: (h.drop 8).take 4 ++ '-' :: (h.drop 12).take 4 ++
    '-' :: (h.drop 16).take 4 ++ '-' :: h.drop 20)

end UUID

/-! ### Slots -/

/-- A slot of a measured profile. -/
structure CanonicalProfileSlot where
  slotStartUtc : ℤ
  durationSeconds : ℕ
  measuredEnergyWh : ℕ
  duration_pos : 0 < durationSeconds
  deriving DecidableEq

/-- The instant the slot ends. -/
def CanonicalProfileSlot.endUtc (slot : CanonicalProfileSlot) : ℤ :=
  slot.slotStartUtc + slot.durationSeconds * 1000000

/-- A slot with an amount of energy. -/
structure EnergySlot where
  slotStartUtc : ℤ
  durationSeconds : ℕ
  energyWh : ℕ
  duration_pos : 0 < durationSeconds
  deriving DecidableEq

/-- Slots of a reference schedule, a candidate schedule and a candidate profile have the
fields of an energy slot. -/
abbrev ReferenceSlot := EnergySlot

@[inherit_doc ReferenceSlot] abbrev ScheduleSlot := EnergySlot

@[inherit_doc ReferenceSlot] abbrev CandidateProfileSlot := EnergySlot

instance : Dump EnergySlot where
  dump s := object [("slot_start_utc", dumpInstant s.slotStartUtc),
    ("duration_seconds", dump s.durationSeconds), ("energy_wh", dump s.energyWh)]

/-- The energies of a list of slots. -/
def energies (slots : List EnergySlot) : List ℕ := slots.map EnergySlot.energyWh

/-- The canonical slot with an amount of energy. -/
def CanonicalProfileSlot.withEnergy (slot : CanonicalProfileSlot) (energyWh : ℕ) : EnergySlot :=
  ⟨slot.slotStartUtc, slot.durationSeconds, energyWh, slot.duration_pos⟩

/-- Whether a slot of a schedule is at its place in the profile. -/
def EnergySlot.Matches (slot : EnergySlot) (canonical : CanonicalProfileSlot) : Prop :=
  slot.slotStartUtc = canonical.slotStartUtc ∧ slot.durationSeconds = canonical.durationSeconds

instance (slot : EnergySlot) (canonical : CanonicalProfileSlot) :
    Decidable (slot.Matches canonical) :=
  inferInstanceAs (Decidable (_ ∧ _))

/-! ### Loads -/

structure InterruptibleModulatingSpec where
  maximumPowerW : ℕ
  minimumPowerWhenActiveW : ℕ
  maximum_pos : 0 < maximumPowerW
  minimum_le : minimumPowerWhenActiveW ≤ maximumPowerW
  deriving DecidableEq

structure ContiguousFixedShapeSpec where
  fixedSlotShapeWh : List ℕ
  shape_ne : fixedSlotShapeWh ≠ []
  shape_pos : 0 < fixedSlotShapeWh.sum
  deriving DecidableEq

inductive ExecutionSpec where
  | interruptible (spec : InterruptibleModulatingSpec)
  | fixedShape (spec : ContiguousFixedShapeSpec)
  deriving DecidableEq

structure LoadOccurrence where
  occurrenceId : UUID
  requiredEnergyWh : ℕ
  earliestStartUtc : ℤ
  deadlineUtc : ℤ
  referenceSchedule : List ReferenceSlot
  required_pos : 0 < requiredEnergyWh
  window_nonempty : earliestStartUtc < deadlineUtc
  referenceSchedule_ne : referenceSchedule ≠ []
  deriving DecidableEq

/-- `_reference_energy` of the lowering. -/
def LoadOccurrence.referenceEnergy (occurrence : LoadOccurrence) : List ℕ :=
  energies occurrence.referenceSchedule

inductive LoadKind where
  | ev
  | dishwasher
  | washer
  | dryer
  | poolPump
  | custom
  deriving DecidableEq

inductive LoadMode where
  | shiftExisting
  | historicalAddition
  deriving DecidableEq

structure FlexibleLoad where
  loadId : UUID
  physicalAssetKey : String
  kind : LoadKind
  mode : LoadMode
  executionSpec : ExecutionSpec
  occurrences : List LoadOccurrence
  occurrences_ne : occurrences ≠ []
  deriving DecidableEq

structure ScenarioElectricalConstraints where
  siteImportCapW : Option ℕ
  flexibleLoadAggregateCapW : Option ℕ
  site_pos : ∀ w ∈ siteImportCapW, 0 < w
  flexible_pos : ∀ w ∈ flexibleLoadAggregateCapW, 0 < w

instance : DecidableEq ScenarioElectricalConstraints := fun c d =>
  decidable_of_iff (c.siteImportCapW = d.siteImportCapW ∧
    c.flexibleLoadAggregateCapW = d.flexibleLoadAggregateCapW) (by cases c; cases d; simp)

/-! ### Scenarios -/

structure ScenarioInput where
  profileContentSha256 : String
  tariffVersionId : String
  profileSlots : List CanonicalProfileSlot
  loads : List FlexibleLoad
  electricalConstraints : ScenarioElectricalConstraints
  profileSlots_ne : profileSlots ≠ []
  loads_ne : loads ≠ []
  deriving DecidableEq

namespace ScenarioInput

variable (scenario : ScenarioInput)

/-- The number of slots. -/
def slotCount : ℕ := scenario.profileSlots.length

/-- `slots[0].duration_seconds`. -/
def resolution : ℕ := (scenario.profileSlots.head scenario.profileSlots_ne).durationSeconds

/-- The end of the last slot. -/
def finalEnd : ℤ := (scenario.profileSlots.getLast scenario.profileSlots_ne).endUtc

/-- The measured energies. -/
def measured : List ℕ := scenario.profileSlots.map CanonicalProfileSlot.measuredEnergyWh

/-- The occurrences with their loads, in the order given. -/
def occurrences : List (FlexibleLoad × LoadOccurrence) :=
  scenario.loads.flatMap fun load => load.occurrences.map fun occurrence => (load, occurrence)

/-- `{slot.slot_start_utc: index}`, and the end of the last slot. -/
def boundaries : Dict ℤ ℕ :=
  (scenario.profileSlots.zipIdx.foldl (fun d e => d.set e.1.slotStartUtc e.2) Dict.empty).set
    scenario.finalEnd scenario.slotCount

/-- The slots with the given energies. -/
def energySlots (row : List ℕ) : List EnergySlot :=
  List.zipWith CanonicalProfileSlot.withEnergy scenario.profileSlots row

end ScenarioInput

/-- The order of `_canonical_occurrences`. -/
def occurrenceKey (p : FlexibleLoad × LoadOccurrence) : ℤ ×ₗ ℤ ×ₗ UUID ×ₗ UUID :=
  toLex (p.2.deadlineUtc, toLex (p.2.earliestStartUtc, toLex (p.1.loadId, p.2.occurrenceId)))

/-- `_canonical_occurrences`. -/
def canonicalOccurrences (scenario : ScenarioInput) : List (FlexibleLoad × LoadOccurrence) :=
  sortedBy occurrenceKey scenario.occurrences

structure ScenarioDecomposition where
  fixedBackground : List EnergySlot
  shiftExistingReference : List EnergySlot
  historicalAdditionReference : List EnergySlot
  reconstructedMeasuredProfile : List EnergySlot
  unchangedReferenceProfile : List EnergySlot
  deriving DecidableEq

structure ReferenceValidationRecord where
  loadCount : ℕ
  occurrenceCount : ℕ
  slotCount : ℕ
  checkedConstraintCodes : List String
  deriving DecidableEq

structure ValidatedScenario where
  scenario : ScenarioInput
  decomposition : ScenarioDecomposition
  referenceValidation : ReferenceValidationRecord
  deriving DecidableEq

/-! ### Schedules -/

structure OccurrenceSchedule where
  occurrenceId : UUID
  slots : List ScheduleSlot
  slots_ne : slots ≠ []
  deriving DecidableEq

instance : Dump OccurrenceSchedule where
  dump s := object [("occurrence_id", .str s.occurrenceId.text), ("slots", dump s.slots)]

structure CandidateSchedule where
  occurrences : List OccurrenceSchedule
  occurrences_ne : occurrences ≠ []
  deriving DecidableEq

instance : Dump CandidateSchedule where
  dump s := object [("schedule_version", .str "candidate-schedule-v1"),
    ("occurrences", dump s.occurrences)]

structure ObjectiveTuple where
  supportedCostCents : ℤ
  changedOccurrenceSlotCount : ℕ
  completionSlotIndexSum : ℕ
  stableSlotOrderScore : ℕ
  deriving DecidableEq

instance : Dump ObjectiveTuple where
  dump o := object [("supported_cost_cents", dump o.supportedCostCents),
    ("changed_occurrence_slot_count", dump o.changedOccurrenceSlotCount),
    ("completion_slot_index_sum", dump o.completionSlotIndexSum),
    ("stable_slot_order_score", dump o.stableSlotOrderScore)]

structure VerificationRecord where
  objective : ObjectiveTuple
  candidateProfile : List CandidateProfileSlot
  billingResultSha256 : String
  checkedConstraintCodes : List String
  verificationSha256 : String
  deriving DecidableEq

/-! ### Small facts -/

section Facts

variable {scenario : ScenarioInput}

theorem canonicalOccurrences_perm (scenario : ScenarioInput) :
    (canonicalOccurrences scenario).Perm scenario.occurrences :=
  sortedBy_perm occurrenceKey scenario.occurrences

theorem mem_canonicalOccurrences {p : FlexibleLoad × LoadOccurrence} :
    p ∈ canonicalOccurrences scenario ↔ p ∈ scenario.occurrences :=
  (canonicalOccurrences_perm scenario).mem_iff

theorem occurrences_ne (scenario : ScenarioInput) : scenario.occurrences ≠ [] := by
  obtain ⟨load, hload⟩ := List.exists_mem_of_ne_nil _ scenario.loads_ne
  obtain ⟨occurrence, hocc⟩ := List.exists_mem_of_ne_nil _ load.occurrences_ne
  have hmem : (load, occurrence) ∈ scenario.occurrences :=
    List.mem_flatMap.mpr ⟨load, hload, List.mem_map.mpr ⟨occurrence, hocc, rfl⟩⟩
  exact List.ne_nil_of_mem hmem

theorem canonicalOccurrences_ne (scenario : ScenarioInput) :
    canonicalOccurrences scenario ≠ [] := by
  intro h
  exact occurrences_ne scenario (sortedBy_eq_nil.mp h)

theorem length_energies (slots : List EnergySlot) : (energies slots).length = slots.length :=
  List.length_map _

/-- The energies of slots made from a row of the right length are the row. -/
theorem energies_energySlots {row : List ℕ} (h : row.length = scenario.slotCount) :
    energies (scenario.energySlots row) = row := by
  refine List.ext_getElem ?_ ?_
  · simp [energies, ScenarioInput.energySlots, h, ScenarioInput.slotCount]
  · intro i _ _
    simp [energies, ScenarioInput.energySlots, CanonicalProfileSlot.withEnergy]

/-- A boundary of the profile is found at an index up to the number of slots. -/
theorem boundaries_le {t : ℤ} {i : ℕ} (h : scenario.boundaries.get? t = some i) :
    i ≤ scenario.slotCount := by
  have hfold : ∀ (l : List (CanonicalProfileSlot × ℕ)) (d : Dict ℤ ℕ),
      (∀ e ∈ l, e.2 ≤ scenario.slotCount) → (∀ t i, d.get? t = some i → i ≤ scenario.slotCount) →
      ∀ t i, (l.foldl (fun d e => d.set e.1.slotStartUtc e.2) d).get? t = some i →
        i ≤ scenario.slotCount := by
    intro l
    induction l with
    | nil => exact fun d _ hd => hd
    | cons e l ih =>
      intro d hl hd
      refine ih _ (fun e' he' => hl e' (List.mem_cons_of_mem e he')) ?_
      intro t i hg
      rw [Dict.get?_set] at hg
      split_ifs at hg with heq
      · cases hg
        exact hl e List.mem_cons_self
      · exact hd t i hg
  rw [ScenarioInput.boundaries, Dict.get?_set] at h
  split_ifs at h with heq
  · cases h
    exact le_rfl
  · refine hfold _ _ ?_ ?_ t i h
    · intro e he
      have := (List.mem_zipIdx (x := e.1) (i := e.2) he).2.1
      simp only [ScenarioInput.slotCount]
      omega
    · intro t i hg
      rw [Dict.get?_eq_some] at hg
      cases hg

end Facts

end RateReplay
