import RateReplay.Lib.CpSat
import RateReplay.Optimizer.Scenario

/-!
# The lowering to a constraint model

`compile_scenario_model` turns a validated scenario and a compiled tariff into an integer
constraint model: energies for every occurrence and slot, indicators for changed and active
slots, completion slots, and for every time-of-use charge and period the energy and the
rounded cents.  Everything else on the bill is a constant taken from the reference bill.

Variables are named by what they stand for; the ones of a charge by the index of the charge
and of its period rate.

## Main definitions

* `Var` — the variables.
* `activeOperatorsAndProofs`, `slotPeriodsAndRates` — what varies, and at which rates.
* `preflightSignedInt64Safety` — the bounds checked in advance.
* `createOccurrenceVariables`, `trackOccurrence`, `slotExpressions`, `lowerPeriodRate` — the
  parts of the model.
* `compileScenarioModel` — the lowering.
-/

namespace RateReplay

/-! ### Errors -/

/-- The errors of the lowering, with their witnesses.  The operators of the IR are all
known here, so the error for an unknown one is left out. -/
inductive OptimizationLoweringError where
  | int64ObjectiveBound (boundName : String) (boundValue : ℤ)
  | boundaryAbsent (occurrenceId : UUID)
  | noAllowedStart (occurrenceId : UUID)
  | unboundedBillingPeriod
  | unsupportedIrRounding (ruleId : String) (rounding : RoundingOperator)
  | replayError (e : ReplayError) (slotIndex : ℕ) (ruleId : String)
  | unsupportedIrPeriod (ruleId : String) (period : TimeOfUsePeriod)
  | tariffVersionMismatch
  | loweringNotAdmitted (reasons : List String)
  | noAdmittedOperators
  deriving DecidableEq

/-- What the lowering raises: its own errors, errors of the evaluator's functions that it
does not catch, and those of a strict `zip`, an index or the maximum of nothing. -/
inductive LoweringRaised where
  | loweringError (e : OptimizationLoweringError)
  | replay (e : Raised)
  | valueError
  | indexError
  deriving DecidableEq

/-- `_check_int64`. -/
def checkInt64 (bounds : List (String × ℤ)) : Except LoweringRaised Unit :=
  checkAll (fun b => failIf (signedInt64Max < |b.2|)
    (LoweringRaised.loweringError (.int64ObjectiveBound b.1 b.2))) bounds

/-! ### Variables -/

/-- The variables of a lowered scenario. -/
inductive Var where
  | energy (occurrenceId : UUID) (slot : ℕ)
  | active (occurrenceId : UUID) (slot : ℕ)
  | start (occurrenceId : UUID) (candidate : ℕ)
  | changed (occurrenceId : UUID) (slot : ℕ)
  | completionActive (occurrenceId : UUID) (slot : ℕ)
  | completion (occurrenceId : UUID)
  | quantity (charge rate : ℕ)
  | cents (charge rate : ℕ)
  deriving DecidableEq

/-! ### Charges that vary -/

inductive OmissionReason where
  | accountApplicabilityFalse
  | nonMonetaryClassifier
  | totalProfileEnergyInvariant
  | totalProfileEnergyAndBaselineInvariant
  | billingDaysInvariant
  | billingPeriodInvariant
  | supportedCostAlwaysZero
  deriving DecidableEq

def OmissionReason.text : OmissionReason → String
  | .accountApplicabilityFalse => "ACCOUNT_APPLICABILITY_FALSE"
  | .nonMonetaryClassifier => "NON_MONETARY_CLASSIFIER"
  | .totalProfileEnergyInvariant => "TOTAL_PROFILE_ENERGY_INVARIANT"
  | .totalProfileEnergyAndBaselineInvariant => "TOTAL_PROFILE_ENERGY_AND_BASELINE_INVARIANT"
  | .billingDaysInvariant => "BILLING_DAYS_INVARIANT"
  | .billingPeriodInvariant => "BILLING_PERIOD_INVARIANT"
  | .supportedCostAlwaysZero => "SUPPORTED_COST_ALWAYS_ZERO"

structure OmittedChargeProof where
  ruleId : String
  operator : String
  subterm : String
  algebraicReason : OmissionReason
  invariantTotalEnergyWh : ℕ
  deriving DecidableEq

instance : Dump OmittedChargeProof where
  dump p := object [("rule_id", dump p.ruleId), ("operator", dump p.operator),
    ("subterm", dump p.subterm), ("algebraic_reason", .str p.algebraicReason.text),
    ("invariant_total_energy_wh", dump p.invariantTotalEnergyWh),
    ("billing_period_confined", .bool true)]

/-- What the loop over the operators collects. -/
structure ActiveOperators where
  timeCharges : List IRTimeOfUseEnergyCharge
  proofs : List OmittedChargeProof

namespace ActiveOperators

def addProof (s : ActiveOperators) (proof : OmittedChargeProof) : ActiveOperators :=
  { s with proofs := s.proofs ++ [proof] }

def addTimeCharge (s : ActiveOperators) (rule : IRTimeOfUseEnergyCharge) : ActiveOperators :=
  { s with timeCharges := s.timeCharges ++ [rule] }

end ActiveOperators

/-- One turn of the loop of `_active_operators_and_proofs`. -/
def activateOperator (facts : AccountFacts) (billCycleMonth : ℤ) (invariantEnergy : ℕ)
    (s : ActiveOperators) (operator : CompiledRule) : Except LoweringRaised ActiveOperators :=
  let proof (subterm : String) (reason : OmissionReason) : OmittedChargeProof :=
    ⟨operator.ruleId, operator.operator, subterm, reason, invariantEnergy⟩
  if ruleApplies operator.base.applicability facts billCycleMonth = false then
    .ok (s.addProof (proof "complete_rule" .accountApplicabilityFalse))
  else match operator with
    | .baselineAllowance _ | .timeOfUseSchedule _ =>
      .ok (s.addProof (proof "complete_rule" .nonMonetaryClassifier))
    | .tieredEnergyCharge _ =>
      .ok (s.addProof (proof "complete_rule" .totalProfileEnergyInvariant))
    | .timeOfUseEnergyCharge rule =>
      if rule.rounding ≠ .halfUpCentAtLineItem then
        .error (.loweringError (.unsupportedIrRounding rule.ruleId rule.rounding))
      else if rule.baselineCredit = none then .ok (s.addTimeCharge rule)
      else .ok ((s.addTimeCharge rule).addProof
        (proof "baseline_credit" .totalProfileEnergyAndBaselineInvariant))
    | .fixedDailyCharge _ => .ok (s.addProof (proof "complete_rule" .billingDaysInvariant))
    | .fixedMonthlyCharge _ => .ok (s.addProof (proof "complete_rule" .billingPeriodInvariant))
    | .explicitUnsupportedCharge _ =>
      .ok (s.addProof (proof "complete_rule" .supportedCostAlwaysZero))

/-- `_active_operators_and_proofs`, without the sorted names of the operators. -/
def activeOperatorsAndProofs (bundle : CompilationBundle) (facts : AccountFacts)
    (invariantEnergy : ℕ) : Except LoweringRaised ActiveOperators :=
  match facts.serviceWindow.stop with
  | none => .error (.loweringError .unboundedBillingPeriod)
  | some stop => bundle.ir.operators.foldlM
      (activateOperator facts (Date.month stop) invariantEnergy) ⟨[], []⟩

/-- The names of the operators, sorted and without repetitions. -/
def supportedOperators (bundle : CompilationBundle) : List String :=
  sortedBy id (bundle.ir.operators.map CompiledRule.operator).dedup

/-! ### Periods and rates -/

/-- `{rate.period: rate.rate_microdollars_per_kwh}`. -/
def rateByPeriod (rule : IRTimeOfUseEnergyCharge) : Dict TimeOfUsePeriod ℕ :=
  rule.periodRates.foldl (fun d r => d.set r.period r.rateMicrodollarsPerKwh) Dict.empty

/-- The period of a slot under a charge, and its rate. -/
def slotPeriodAndRate (zone : Zone) (serviceWindow : DateRange) (rule : IRTimeOfUseEnergyCharge)
    (schedule : IRTimeOfUseSchedule) (e : CanonicalProfileSlot × ℕ) :
    Except LoweringRaised (TimeOfUsePeriod × ℕ) :=
  match classifyIntervalPeriod zone schedule e.1.slotStartUtc e.1.durationSeconds
    serviceWindow with
  | .error (.replayError error) => .error (.loweringError (.replayError error e.2 rule.ruleId))
  | .error error => .error (.replay error)
  | .ok period =>
    match (rateByPeriod rule).get? period with
    | none => .error (.loweringError (.unsupportedIrPeriod rule.ruleId period))
    | some rate => .ok (period, rate)

/-- What the loop over the time-of-use charges collects. -/
structure PeriodState where
  periodsByRule : Dict String (List TimeOfUsePeriod)
  marginalRates : List ℕ

/-- One turn of the loop of `_slot_periods_and_rates`. -/
def addCharge (zone : Zone) (scenario : ScenarioInput) (bundle : CompilationBundle)
    (facts : AccountFacts) (s : PeriodState) (rule : IRTimeOfUseEnergyCharge) :
    Except LoweringRaised PeriodState := do
  let schedule ← (resolveTimeSchedule bundle rule.scheduleRuleId).mapError LoweringRaised.replay
  let slots ← collect (slotPeriodAndRate zone facts.serviceWindow rule schedule)
    scenario.profileSlots.zipIdx
  .ok ⟨s.periodsByRule.set rule.ruleId (slots.map Prod.fst),
    addRows s.marginalRates (slots.map Prod.snd)⟩

/-- `_slot_periods_and_rates`, without the ranks. -/
def slotPeriodsAndRates (zone : Zone) (scenario : ScenarioInput) (bundle : CompilationBundle)
    (facts : AccountFacts) (timeCharges : List IRTimeOfUseEnergyCharge) :
    Except LoweringRaised PeriodState :=
  timeCharges.foldlM (addCharge zone scenario bundle facts)
    ⟨Dict.empty, List.replicate scenario.slotCount 0⟩

/-- The rank of each rate among the distinct ones. -/
def rateRanks (marginalRates : List ℕ) : List ℕ :=
  let distinct := sortedBy id marginalRates.dedup
  marginalRates.map fun rate => distinct.idxOf rate

/-! ### Preflight -/

section Preflight

variable (scenario : ScenarioInput)

/-- `_window_indices` of the lowering. -/
def loweredWindow (occurrence : LoadOccurrence) : Except LoweringRaised (ℕ × ℕ) :=
  match scenario.boundaries.get? occurrence.earliestStartUtc,
    scenario.boundaries.get? occurrence.deadlineUtc with
  | some start, some stop => .ok (start, stop)
  | _, _ => .error (.loweringError (.boundaryAbsent occurrence.occurrenceId))

/-- The most energy an interruptible load can take in a slot. -/
def interruptibleMaximum (spec : InterruptibleModulatingSpec) (window : ℕ × ℕ)
    (e : CanonicalProfileSlot × ℕ) : ℕ :=
  if window.1 ≤ e.2 ∧ e.2 < window.2 then spec.maximumPowerW * e.1.durationSeconds / 3600 else 0

/-- The bound on the energy of a slot that the preflight uses. -/
def preflightMaximum (spec : ExecutionSpec) (window : ℕ × ℕ) (e : CanonicalProfileSlot × ℕ) :
    Except LoweringRaised ℕ :=
  match spec with
  | .interruptible spec => do
    if window.1 ≤ e.2 ∧ e.2 < window.2 then
      checkInt64 [("maximum_power_product", spec.maximumPowerW * e.1.durationSeconds),
        ("minimum_power_product", spec.minimumPowerWhenActiveW * e.1.durationSeconds)]
    .ok (interruptibleMaximum spec window e)
  | .fixedShape spec => .ok (spec.fixedSlotShapeWh.foldl max 0)

/-- The preflight of one occurrence: its bounds, slot by slot. -/
def preflightOccurrence (p : FlexibleLoad × LoadOccurrence) :
    Except LoweringRaised (List ℕ) := do
  let window ← loweredWindow scenario p.2
  let maxima ← collect (preflightMaximum p.1.executionSpec window) scenario.profileSlots.zipIdx
  checkInt64 [("required_energy_wh", p.2.requiredEnergyWh)]
  checkAll (fun reference => checkInt64 [("reference_energy_wh", reference.energyWh)])
    p.2.referenceSchedule
  .ok maxima

/-- The bounds on the products of one slot. -/
def preflightSlot (e : (ℕ × ℕ) × CanonicalProfileSlot) : Except LoweringRaised Unit :=
  checkInt64 ([("profile_energy_product", ((e.1.1 + e.1.2) * 3600 : ℤ)),
      ("flexible_energy_product", (e.1.2 * 3600 : ℤ))] ++
    (scenario.electricalConstraints.siteImportCapW.toList.map fun cap =>
      ("site_import_cap_product", (cap * e.2.durationSeconds : ℤ))) ++
    (scenario.electricalConstraints.flexibleLoadAggregateCapW.toList.map fun cap =>
      ("flexible_load_cap_product", (cap * e.2.durationSeconds : ℤ))))

/-- What one operator adds to the bound on the monetary numerators. -/
def monetaryBound (billingDays : ℤ) (invariantEnergy : ℕ) : CompiledRule → Except LoweringRaised ℤ
  | .tieredEnergyCharge rule =>
    match (rule.tiers.map IREnergyTier.rateMicrodollarsPerKwh).max? with
    | none => .error .valueError
    | some rate => .ok (invariantEnergy * rate)
  | .timeOfUseEnergyCharge rule =>
    .ok (invariantEnergy * (rule.periodRates.map fun r => r.rateMicrodollarsPerKwh).sum +
      (rule.baselineCredit.elim 0 fun credit => invariantEnergy * |credit.microdollarsPerKwh|))
  | .fixedDailyCharge rule => .ok (billingDays * |rule.rateMicrodollarsPerDay|)
  | .fixedMonthlyCharge rule => .ok |rule.amountMicrodollars|
  | _ => .ok 0

/-- The values of a list, each times its position from 1 on, added up. -/
def positionSum (l : List ℕ) : ℕ := ((l.zipIdx 1).map fun e => e.1 * e.2).sum

/-- The energy of the whole profile, which no schedule changes. -/
def invariantEnergyWh (background : List ℕ)
    (occurrences : List (FlexibleLoad × LoadOccurrence)) : ℕ :=
  background.sum + (occurrences.map fun p => p.2.requiredEnergyWh).sum

/-- `_preflight_signed_int64_safety`. -/
def preflightSignedInt64Safety (bundle : CompilationBundle) (facts : AccountFacts)
    (background : List ℕ) (occurrences : List (FlexibleLoad × LoadOccurrence)) :
    Except LoweringRaised Unit := do
  let stop ← facts.serviceWindow.stop.elim (.error (.loweringError .unboundedBillingPeriod)) .ok
  let maxima ← collect (preflightOccurrence scenario) occurrences
  let flexibleSlotMaxima := sumRows scenario.slotCount maxima
  -- the maxima are read once per background entry, and then once per slot
  failIf (background.length ≠ scenario.slotCount) LoweringRaised.indexError
  checkAll (preflightSlot scenario) ((background.zip flexibleSlotMaxima).zip scenario.profileSlots)
  let monetary ← collect (monetaryBound (stop - facts.serviceWindow.start)
    (invariantEnergyWh background occurrences)) bundle.ir.operators
  checkInt64 [("invariant_total_profile_energy_wh", invariantEnergyWh background occurrences),
    ("monetary_numerator_bound", monetary.sum),
    ("maximum_changed_entries", occurrences.length * scenario.slotCount),
    ("maximum_completion_sum", occurrences.length * scenario.slotCount),
    ("maximum_stable_slot_order_score", positionSum maxima.flatten),
    ("conservative_proxy_rank_score", flexibleSlotMaxima.sum * (scenario.slotCount - 1 : ℕ))]

end Preflight

/-! ### Variables of an occurrence -/

section Occurrence

variable (scenario : ScenarioInput)

/-- The energy variables of an occurrence, slot by slot. -/
def energyVars (occurrenceId : UUID) : List Var :=
  (List.range scenario.slotCount).map (Var.energy occurrenceId)

/-- An indicator that a variable is positive. -/
def activity (energy active : Var) : CpModel Var where
  domains := [.bool active]
  constraints := [.addIf active (.var energy) .ge (.const 1),
    .addIfNot active (.var energy) .eq (.const 0)]
  hints := []

/-- A part of a model, with bounds on the energies. -/
structure ExecutionVariables where
  model : CpModel Var
  maxima : List ℕ

/-- The variables and constraints of one slot of an interruptible load. -/
def interruptibleSlot (spec : InterruptibleModulatingSpec) (occurrenceId : UUID)
    (window : ℕ × ℕ) (e : CanonicalProfileSlot × ℕ) : CpModel Var :=
  let energy := Var.energy occurrenceId e.2
  let active := Var.active occurrenceId e.2
  ⟨[⟨energy, 0, interruptibleMaximum spec window e⟩],
    [.add (LinExpr.scale 3600 (.var energy)) .le
      (.const (spec.maximumPowerW * e.1.durationSeconds : ℕ))], []⟩ ++
  activity energy active ++
  ⟨[], if spec.minimumPowerWhenActiveW = 0 then [] else
    [.addIf active (LinExpr.scale 3600 (.var energy)) .ge
      (.const (spec.minimumPowerWhenActiveW * e.1.durationSeconds : ℕ))], []⟩

/-- The variables of an interruptible load. -/
def interruptibleVariables (spec : InterruptibleModulatingSpec) (occurrenceId : UUID)
    (window : ℕ × ℕ) : ExecutionVariables where
  model := .concat (scenario.profileSlots.zipIdx.map (interruptibleSlot spec occurrenceId window))
  maxima := scenario.profileSlots.zipIdx.map (interruptibleMaximum spec window)

/-- The starts that put energy into a slot, with that energy. -/
def contributions (spec : ContiguousFixedShapeSpec) (starts : List ℕ) (slot : ℕ) : List (ℕ × ℕ) :=
  (starts.filter fun c => c ≤ slot ∧ slot < c + spec.fixedSlotShapeWh.length).map
    fun c => (c, spec.fixedSlotShapeWh.getD (slot - c) 0)

/-- The most energy a fixed shape can put into a slot. -/
def fixedShapeMaximum (spec : ContiguousFixedShapeSpec) (starts : List ℕ) (slot : ℕ) : ℕ :=
  ((contributions spec starts slot).map Prod.snd).foldl max 0

/-- The variable and constraint of one slot of a fixed shape. -/
def fixedShapeSlot (spec : ContiguousFixedShapeSpec) (occurrenceId : UUID) (starts : List ℕ)
    (slot : ℕ) : CpModel Var where
  domains := [⟨.energy occurrenceId slot, 0, fixedShapeMaximum spec starts slot⟩]
  constraints := [.add (.var (.energy occurrenceId slot)) .eq
    ((contributions spec starts slot).map fun c => .var c.2 (.start occurrenceId c.1))]
  hints := []

/-- The variables of a fixed shape. -/
def fixedShapeVariables (spec : ContiguousFixedShapeSpec) (occurrenceId : UUID)
    (starts : List ℕ) : ExecutionVariables where
  model := ⟨starts.map fun c => .bool (.start occurrenceId c),
      [.exactlyOne (starts.map (Var.start occurrenceId))], []⟩ ++
    .concat ((List.range scenario.slotCount).map (fixedShapeSlot spec occurrenceId starts))
  maxima := (List.range scenario.slotCount).map (fixedShapeMaximum spec starts)

/-- The variables that execute an occurrence. -/
def executionVariables (p : FlexibleLoad × LoadOccurrence) (window : ℕ × ℕ) :
    ExecutionVariables :=
  match p.1.executionSpec with
  | .interruptible spec => interruptibleVariables scenario spec p.2.occurrenceId window
  | .fixedShape spec => fixedShapeVariables scenario spec p.2.occurrenceId
      (allowedStarts window.1 window.2 spec.fixedSlotShapeWh.length)

/-- A fixed shape fits somewhere into its window. -/
def shapeFits (spec : ExecutionSpec) (window : ℕ × ℕ) : Bool :=
  match spec with
  | .interruptible _ => true
  | .fixedShape spec => allowedStarts window.1 window.2 spec.fixedSlotShapeWh.length ≠ []

/-- The energies of an occurrence add up to what it requires; the reference is a hint. -/
def energyRequirement (occurrence : LoadOccurrence) : CpModel Var where
  domains := []
  constraints := [.add (.sumVars (energyVars scenario occurrence.occurrenceId)) .eq
    (.const occurrence.requiredEnergyWh)]
  hints := (energyVars scenario occurrence.occurrenceId).zip
    (occurrence.referenceEnergy.map fun (e : ℕ) => (e : ℤ))

/-- `_create_occurrence_variables`. -/
def createOccurrenceVariables (p : FlexibleLoad × LoadOccurrence) :
    Except LoweringRaised ExecutionVariables := do
  let window ← loweredWindow scenario p.2
  failIf (shapeFits p.1.executionSpec window = false)
    (LoweringRaised.loweringError (.noAllowedStart p.2.occurrenceId))
  let execution := executionVariables scenario p window
  failIf (p.2.referenceSchedule.length ≠ scenario.slotCount) LoweringRaised.valueError
  .ok ⟨execution.model ++ energyRequirement scenario p.2, execution.maxima⟩

/-- The indicators of one slot: changed, and active for the completion. -/
def trackSlot (occurrence : LoadOccurrence) (slot : ℕ) : CpModel Var :=
  let energy := Var.energy occurrence.occurrenceId slot
  let changed := Var.changed occurrence.occurrenceId slot
  let reference : ℤ := occurrence.referenceEnergy.getD slot 0
  ⟨[.bool changed], [.addIfNot changed (.var energy) .eq (.const reference),
    .addIf changed (.var energy) .ne (.const reference)], []⟩ ++
  activity energy (.completionActive occurrence.occurrenceId slot)

/-- The indicators and the completion slot of an occurrence. -/
def trackOccurrence (occurrence : LoadOccurrence) : CpModel Var :=
  .concat ((List.range scenario.slotCount).map (trackSlot occurrence)) ++
  ⟨[⟨.completion occurrence.occurrenceId, 1, scenario.slotCount⟩],
    [.maxEquality (.completion occurrence.occurrenceId)
      ((List.range scenario.slotCount).map fun slot =>
        [.var (slot + 1 : ℕ) (.completionActive occurrence.occurrenceId slot)])], []⟩

end Occurrence

/-! ### Slots and charges -/

/-- The expressions of one slot. -/
structure SlotExpressions where
  model : CpModel Var
  profile : LinExpr Var
  profileMaximum : ℕ

/-- The caps on the energy of the flexible loads and of the whole profile in one slot. -/
def capConstraints (constraints : ScenarioElectricalConstraints) (durationSeconds : ℕ)
    (flexible profile : LinExpr Var) : CpModel Var where
  domains := []
  constraints := (constraints.siteImportCapW.toList.map fun cap =>
      .add (LinExpr.scale 3600 profile) .le (.const (cap * durationSeconds : ℕ))) ++
    (constraints.flexibleLoadAggregateCapW.toList.map fun cap =>
      .add (LinExpr.scale 3600 flexible) .le (.const (cap * durationSeconds : ℕ)))
  hints := []

/-- One turn of the loop over the slots, for a slot with its background and index. -/
def slotExpressions (constraints : ScenarioElectricalConstraints)
    (energyByOccurrence : Dict UUID (List Var)) (maximumByOccurrence : Dict UUID (List ℕ))
    (e : (CanonicalProfileSlot × ℕ) × ℕ) : Except LoweringRaised SlotExpressions := do
  let slotVariables := energyByOccurrence.values.filterMap fun values => values[e.2]?
  let flexible := LinExpr.sumVars slotVariables
  let profile := flexible ++ .const e.1.2
  let flexibleMaximum := (maximumByOccurrence.values.map fun values => values.getD e.2 0).sum
  let profileMaximum := flexibleMaximum + e.1.2
  checkInt64 [("flexible_slot_maximum", flexibleMaximum),
    ("profile_slot_maximum", profileMaximum), ("site_cap_product", (profileMaximum * 3600 : ℕ))]
  .ok ⟨capConstraints constraints e.1.1.durationSeconds flexible profile, profile, profileMaximum⟩

/-- A period rate of a time-of-use charge, with the indices of both. -/
structure PeriodCharge where
  charge : ℕ
  rate : ℕ
  rule : IRTimeOfUseEnergyCharge
  periodRate : TimeOfUsePeriodRate

/-- The period rates of all charges, in order. -/
def periodCharges (timeCharges : List IRTimeOfUseEnergyCharge) : List PeriodCharge :=
  timeCharges.zipIdx.flatMap fun c => c.1.periodRates.zipIdx.map fun r => ⟨c.2, r.2, c.1, r.1⟩

/-- A variable for rounded cents, with its sign and bound. -/
structure CentsVariable where
  model : CpModel Var
  cents : Var
  sign : ℤ
  maximum : ℕ

/-- The rounded cents of a quantity at a rate: half a cent is added before the division. -/
def roundedCents (quantity : Var) (quantityMaximum : ℕ) (rateMicrodollarsPerKwh : ℤ)
    (cents : Var) : CentsVariable where
  model := ⟨[⟨cents, 0,
      ((quantityMaximum * rateMicrodollarsPerKwh.natAbs + 5000000) / 10000000 : ℕ)⟩],
    [.divisionEquality cents
      (LinExpr.scale rateMicrodollarsPerKwh.natAbs (.var quantity) ++ .const 5000000) 10000000], []⟩
  cents
  sign := if rateMicrodollarsPerKwh < 0 then -1 else 1
  maximum := (quantityMaximum * rateMicrodollarsPerKwh.natAbs + 5000000) / 10000000

/-- `_rounded_cents_variable`. -/
def roundedCentsVariable (quantity : Var) (quantityMaximum : ℕ) (rateMicrodollarsPerKwh : ℤ)
    (cents : Var) : Except LoweringRaised CentsVariable := do
  let numeratorMaximum := quantityMaximum * rateMicrodollarsPerKwh.natAbs + 5000000
  checkInt64 [("rounded_numerator_maximum", numeratorMaximum),
    ("rounded_cents_maximum", (numeratorMaximum / 10000000 : ℕ))]
  .ok (roundedCents quantity quantityMaximum rateMicrodollarsPerKwh cents)

/-- The slots in which a period is in force. -/
def periodSlots (periodsByRule : Dict String (List TimeOfUsePeriod))
    (slots : List SlotExpressions) (c : PeriodCharge) : List SlotExpressions :=
  (((periodsByRule.getD c.rule.ruleId []).zip slots).filter
    fun e => e.1 = c.periodRate.period).map Prod.snd

/-- The most energy the profile can have in a period. -/
def quantityMaximum (selected : List SlotExpressions) : ℕ :=
  (selected.map SlotExpressions.profileMaximum).sum

/-- The variable for the energy of a period. -/
def quantityBlock (selected : List SlotExpressions) (c : PeriodCharge) : CpModel Var where
  domains := [⟨.quantity c.charge c.rate, 0, quantityMaximum selected⟩]
  constraints := [.add (.var (.quantity c.charge c.rate)) .eq
    (selected.flatMap SlotExpressions.profile)]
  hints := []

/-- One turn of the loop over the period rates: the energy of a period, and its cents. -/
def lowerPeriodRate (periodsByRule : Dict String (List TimeOfUsePeriod))
    (slots : List SlotExpressions) (c : PeriodCharge) : Except LoweringRaised CentsVariable := do
  let selected := periodSlots periodsByRule slots c
  let rounded ← roundedCentsVariable (.quantity c.charge c.rate) (quantityMaximum selected)
    c.periodRate.rateMicrodollarsPerKwh (.cents c.charge c.rate)
  .ok { rounded with model := quantityBlock selected c ++ rounded.model }

/-! ### The reference bill -/

/-- The lines of the bill that vary. -/
def variableReferenceKeys (timeCharges : List IRTimeOfUseEnergyCharge) : List (String × String) :=
  timeCharges.flatMap fun rule => rule.periodRates.map fun rate =>
    (rule.ruleId, rule.lineItemKey ++ "." ++ rate.period.lower)

/-- The cents of the reference bill that do not vary. -/
def constantCost (timeCharges : List IRTimeOfUseEnergyCharge) (reference : ReplayResult) : ℤ :=
  reference.supportedCalculatedCents -
    ((reference.lineItems.filter fun line =>
      (line.ruleId, line.lineItemKey) ∈ variableReferenceKeys timeCharges).map
        ChargeLineItem.roundedCents).sum

/-! ### The record -/

structure ObjectiveBounds where
  minimumSupportedCostCents : ℤ
  maximumSupportedCostCents : ℤ
  maximumChangedOccurrenceSlotCount : ℕ
  maximumCompletionSlotIndexSum : ℕ
  maximumStableSlotOrderScore : ℕ
  maximumProxyRankScore : ℕ
  deriving DecidableEq

instance : Dump ObjectiveBounds where
  dump b := object [("minimum_supported_cost_cents", dump b.minimumSupportedCostCents),
    ("maximum_supported_cost_cents", dump b.maximumSupportedCostCents),
    ("maximum_changed_occurrence_slot_count", dump b.maximumChangedOccurrenceSlotCount),
    ("maximum_completion_slot_index_sum", dump b.maximumCompletionSlotIndexSum),
    ("maximum_stable_slot_order_score", dump b.maximumStableSlotOrderScore),
    ("maximum_proxy_rank_score", dump b.maximumProxyRankScore)]

structure LoweringRecord where
  tariffVersionId : String
  supportedOperators : List String
  constantSupportedCostCents : ℤ
  invariantTotalProfileEnergyWh : ℕ
  omittedChargeProofs : List OmittedChargeProof
  offPeakRanks : List ℕ
  rankCalendarSha256 : String
  objectiveBounds : ObjectiveBounds
  loweringSha256 : String
  deriving DecidableEq

/-- The hash of the ranks with their slots and rates. -/
def rankCalendarHash (env : Env) (scenario : ScenarioInput) (marginalRates ranks : List ℕ) :
    String :=
  canonicalContentSha256 env "RateReplay.OffPeakRankCalendar.v1"
    (object [("contract_version", .str "off-peak-rank-v1"),
      ("tariff_version_id", dump scenario.tariffVersionId),
      ("slots", .arr ((scenario.profileSlots.zip (marginalRates.zip ranks)).map fun e => object
        [("slot_start_utc", .str (Instant.isoformat e.1.slotStartUtc)),
          ("duration_seconds", dump e.1.durationSeconds),
          ("marginal_rate_microdollars_per_kwh", dump e.2.1),
          ("off_peak_rank", dump e.2.2)]))])

/-- The record of a lowering, with its hash. -/
def loweringRecord (env : Env) (scenario : ScenarioInput) (operators : List String)
    (constant : ℤ) (invariantEnergy : ℕ) (proofs : List OmittedChargeProof)
    (marginalRates : List ℕ) (bounds : ObjectiveBounds) : LoweringRecord :=
  let ranks := rateRanks marginalRates
  let rankHash := rankCalendarHash env scenario marginalRates ranks
  { tariffVersionId := scenario.tariffVersionId
    supportedOperators := operators
    constantSupportedCostCents := constant
    invariantTotalProfileEnergyWh := invariantEnergy
    omittedChargeProofs := proofs
    offPeakRanks := ranks
    rankCalendarSha256 := rankHash
    objectiveBounds := bounds
    loweringSha256 := canonicalContentSha256 env "RateReplay.CpSatChargeLowering.v1"
      (object [("tariff_version_id", dump scenario.tariffVersionId),
        ("supported_operators", dump operators), ("constant_supported_cost_cents", dump constant),
        ("invariant_total_profile_energy_wh", dump invariantEnergy),
        ("omitted_charge_proofs", dump proofs), ("off_peak_ranks", dump ranks),
        ("rank_calendar_sha256", dump rankHash), ("objective_bounds", dump bounds)]) }

/-! ### The lowering -/

structure LoweredObjectives where
  supportedCost : LinExpr Var
  changedOccurrenceSlots : LinExpr Var
  completionSlotIndexSum : LinExpr Var
  stableSlotOrderScore : LinExpr Var
  proxyRankScore : LinExpr Var

structure LoweredScenarioModel where
  model : CpModel Var
  energyByOccurrence : Dict UUID (List Var)
  objectives : LoweredObjectives
  record : LoweringRecord

section Lowering

variable (scenario : ScenarioInput) (occurrences : List (FlexibleLoad × LoadOccurrence))

/-- The variables of each occurrence, by its identifier. -/
def energyTable : Dict UUID (List Var) :=
  occurrences.foldl (fun d p => d.set p.2.occurrenceId (energyVars scenario p.2.occurrenceId))
    Dict.empty

/-- The bounds of each occurrence, by its identifier. -/
def maximumTable (blocks : List ExecutionVariables) : Dict UUID (List ℕ) :=
  (occurrences.zip blocks).foldl (fun d e => d.set e.1.2.occurrenceId e.2.maxima) Dict.empty

/-- The objectives. -/
def loweredObjectives (constant : ℤ) (charges : List CentsVariable) (ranks : List ℕ) :
    LoweredObjectives where
  supportedCost := .const constant :: charges.map fun c => .var c.sign c.cents
  changedOccurrenceSlots := .sumVars (occurrences.flatMap fun p =>
    (List.range scenario.slotCount).map (Var.changed p.2.occurrenceId))
  completionSlotIndexSum := .sumVars (occurrences.map fun p => Var.completion p.2.occurrenceId)
  stableSlotOrderScore := ((occurrences.flatMap fun p =>
    energyVars scenario p.2.occurrenceId).zipIdx 1).map fun e => .var e.2 e.1
  proxyRankScore := (energyTable scenario occurrences).values.flatMap fun values =>
    values.zipIdx.map fun e => .var (ranks.getD e.2 0) e.1

/-- The bounds on the objectives. -/
def loweredBounds (constant : ℤ) (charges : List CentsVariable) (ranks : List ℕ)
    (maximumByOccurrence : Dict UUID (List ℕ)) : ObjectiveBounds :=
  let maximum (p : FlexibleLoad × LoadOccurrence) (slot : ℕ) : ℕ :=
    (maximumByOccurrence.getD p.2.occurrenceId []).getD slot 0
  { minimumSupportedCostCents := constant -
      ((charges.filter fun c => ¬ c.sign > 0).map CentsVariable.maximum).sum
    maximumSupportedCostCents := constant +
      ((charges.filter fun c => c.sign > 0).map CentsVariable.maximum).sum
    maximumChangedOccurrenceSlotCount := occurrences.length * scenario.slotCount
    maximumCompletionSlotIndexSum := occurrences.length * scenario.slotCount
    maximumStableSlotOrderScore := positionSum (occurrences.flatMap fun p =>
      (List.range scenario.slotCount).map (maximum p))
    maximumProxyRankScore := (occurrences.flatMap fun p =>
      (List.range scenario.slotCount).map fun slot => maximum p slot * ranks.getD slot 0).sum }

/-- The bounds on the objectives are checked last. -/
def checkBounds (invariantEnergy : ℕ) (bounds : ObjectiveBounds) : Except LoweringRaised Unit :=
  checkInt64 [("invariant_energy", invariantEnergy),
    ("minimum_supported_cost", bounds.minimumSupportedCostCents),
    ("maximum_supported_cost", bounds.maximumSupportedCostCents),
    ("maximum_changed", bounds.maximumChangedOccurrenceSlotCount),
    ("maximum_completion", bounds.maximumCompletionSlotIndexSum),
    ("maximum_stable", bounds.maximumStableSlotOrderScore),
    ("maximum_proxy", bounds.maximumProxyRankScore)]

end Lowering

/-- The checks before anything is lowered. -/
def checkAdmitted (scenario : ScenarioInput) (bundle : CompilationBundle) :
    Except LoweringRaised Unit := do
  failIf (scenario.tariffVersionId ≠ bundle.ir.tariffVersionId)
    (LoweringRaised.loweringError .tariffVersionMismatch)
  failIf (bundle.reports.solverLoweringUnsupportedReasons ≠ []) (LoweringRaised.loweringError
    (.loweringNotAdmitted bundle.reports.solverLoweringUnsupportedReasons))
  failIf (bundle.reports.solverLoweringSupportedOperators = [])
    (LoweringRaised.loweringError .noAdmittedOperators)

/-- `compile_scenario_model`. -/
def compileScenarioModel (env : Env) (validated : ValidatedScenario) (bundle : CompilationBundle)
    (facts : AccountFacts) (referenceBilling : ReplayResult) :
    Except LoweringRaised LoweredScenarioModel := do
  let scenario := validated.scenario
  checkAdmitted scenario bundle
  let occurrences := canonicalOccurrences scenario
  let background := energies validated.decomposition.fixedBackground
  let invariantEnergy := invariantEnergyWh background occurrences
  let active ← activeOperatorsAndProofs bundle facts invariantEnergy
  let periods ← slotPeriodsAndRates env.zone scenario bundle facts active.timeCharges
  preflightSignedInt64Safety scenario bundle facts background occurrences
  let blocks ← collect (createOccurrenceVariables scenario) occurrences
  let energyByOccurrence := energyTable scenario occurrences
  let maximumByOccurrence := maximumTable occurrences blocks
  let slots ← collect (slotExpressions scenario.electricalConstraints energyByOccurrence
    maximumByOccurrence) (scenario.profileSlots.zip background).zipIdx
  let constant := constantCost active.timeCharges referenceBilling
  let charges ← collect (lowerPeriodRate periods.periodsByRule slots)
    (periodCharges active.timeCharges)
  let ranks := rateRanks periods.marginalRates
  let bounds := loweredBounds scenario occurrences constant charges ranks maximumByOccurrence
  checkBounds invariantEnergy bounds
  .ok { model := .concat (blocks.map ExecutionVariables.model) ++
          .concat (occurrences.map fun p => trackOccurrence scenario p.2) ++
          .concat (slots.map SlotExpressions.model) ++
          .concat (charges.map CentsVariable.model)
        energyByOccurrence
        objectives := loweredObjectives scenario occurrences constant charges ranks
        record := loweringRecord env scenario (supportedOperators bundle) constant invariantEnergy
          active.proofs periods.marginalRates bounds }

end RateReplay
