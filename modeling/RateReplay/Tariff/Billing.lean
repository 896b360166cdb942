import RateReplay.Tariff.Apportion

/-!
# The reference evaluator

`replay_compiled_tariff` prices a request against a compiled bundle: eligibility and
bounds, then one pass over the operators that apply, which collects charge lines and,
for interval requests, the energy by day that each line is spread over; then
reconciliation, the diagnostic allocation, and the hashes of the manifest.

Instants are microseconds since 1970, dates are day numbers.

## Main definitions

* `ReplayInterval`, `IntervalReplayRequest`, `Request` — the requests.
* `classifyIntervalPeriod`, `periodEnergy`, `dailyEnergy`, `periodDailyEnergy` — energy
  by period and by local day.
* `evaluateOperator`, `evaluateOperators` — the main loop and one turn of it.
* `diagnosticCostAllocation`, `reconcile` — what is derived from the lines.
* `replayCompiledTariff` — the evaluator.
-/

namespace RateReplay

/-! ### Requests -/

structure UserUnsupportedLine where
  lineItemKey : String
  description : String
  amountCents : ℤ
  deriving DecidableEq

instance : Dump UserUnsupportedLine where
  dump l := object [("line_item_key", dump l.lineItemKey), ("description", dump l.description),
    ("amount_cents", dump l.amountCents)]

/-- What both kinds of request have; the unsupported lines have distinct keys and are
kept sorted by them. -/
structure ReplayRequestBase where
  profileContentSha256 : String
  accountFacts : AccountFacts
  energyWh : ℕ
  currentBillTotalCents : Option ℤ
  userUnsupportedLines : List UserUnsupportedLine
  lines_sorted : (userUnsupportedLines.map UserUnsupportedLine.lineItemKey).Pairwise (· < ·)
  deriving DecidableEq

structure ReplayInterval where
  startUtcNs : ℕ
  durationSeconds : ℕ
  energyWh : ℕ
  duration_pos : 0 < durationSeconds
  duration_le : durationSeconds ≤ 3600

instance : DecidableEq ReplayInterval := fun i j =>
  decidable_of_iff (i.startUtcNs = j.startUtcNs ∧ i.durationSeconds = j.durationSeconds ∧
    i.energyWh = j.energyWh) (by cases i; cases j; simp)

instance : Dump ReplayInterval where
  dump i := object [("start_utc_ns", dump i.startUtcNs),
    ("duration_seconds", dump i.durationSeconds), ("energy_wh", dump i.energyWh)]

namespace ReplayInterval

def endUtcNs (i : ReplayInterval) : ℕ := i.startUtcNs + i.durationSeconds * 1000000000

/-- `datetime.fromtimestamp(start_utc_ns // 1_000_000_000, tz=UTC)`. -/
def startUtc (i : ReplayInterval) : ℤ := (i.startUtcNs / 1000000000 : ℕ) * 1000000

/-- The instant the interval ends. -/
def endUtc (i : ReplayInterval) : ℤ := i.startUtc + i.durationSeconds * 1000000

end ReplayInterval

/-- A request with interval data: the intervals carry all the energy, start on whole
seconds and follow one another without overlap. -/
structure IntervalReplayRequest extends ReplayRequestBase where
  intervals : List ReplayInterval
  datedEligibilityFacts : Option DatedEligibilityFacts
  intervals_ne : intervals ≠ []
  energy_eq : (intervals.map ReplayInterval.energyWh).sum = energyWh
  whole_seconds : ∀ i ∈ intervals, i.startUtcNs % 1000000000 = 0
  disjoint : intervals.IsChain fun i j => i.endUtcNs ≤ j.startUtcNs
  deriving DecidableEq

/-- A replay request: total energy only, or interval data. -/
inductive Request where
  | aggregate (r : ReplayRequestBase)
  | interval (r : IntervalReplayRequest)
  deriving DecidableEq

namespace Request

def base : Request → ReplayRequestBase
  | .aggregate r => r
  | .interval r => r.toReplayRequestBase

/-- `request.dated_eligibility_facts if isinstance(request, IntervalReplayRequest) else None`. -/
def datedFacts : Request → Option DatedEligibilityFacts
  | .aggregate _ => none
  | .interval r => r.datedEligibilityFacts

def isInterval : Request → Bool
  | .aggregate _ => false
  | .interval _ => true

end Request

/-! ### Results -/

structure ChargeLineItem where
  ruleId : String
  tariffVersionId : String
  sourceId : String
  sourceSheetIds : List String
  lineItemKey : String
  chargeComponentKey : ChargeComponentKey
  quantityNumerator : ℤ
  quantityUnit : String
  rateNumeratorMicrodollars : ℤ
  rateUnit : String
  preRoundMicrodollars : ℚ
  roundedCents : ℤ
  contributingServiceWindow : DateRange
  explanationKey : String
  roundingOperator : RoundingOperator
  deriving DecidableEq

instance : Dump ChargeLineItem where
  dump l := object [("rule_id", dump l.ruleId), ("tariff_version_id", dump l.tariffVersionId),
    ("source_id", dump l.sourceId), ("source_sheet_ids", dump l.sourceSheetIds),
    ("line_item_key", dump l.lineItemKey), ("charge_component_key", dump l.chargeComponentKey),
    ("quantity_numerator", dump l.quantityNumerator), ("quantity_denominator", .int 1),
    ("quantity_unit", dump l.quantityUnit),
    ("rate_numerator_microdollars", dump l.rateNumeratorMicrodollars),
    ("rate_denominator", .int 1), ("rate_unit", dump l.rateUnit),
    ("pre_round_microdollars_numerator", dump l.preRoundMicrodollars.num),
    ("pre_round_microdollars_denominator", dump l.preRoundMicrodollars.den),
    ("rounded_cents", dump l.roundedCents),
    ("contributing_service_window", dump l.contributingServiceWindow),
    ("explanation_key", dump l.explanationKey), ("rounding_operator", dump l.roundingOperator),
    ("rounding_boundary", .str "LINE_ITEM")]

structure UnsupportedPlaceholder where
  ruleId : String
  lineItemKey : String
  sourceId : String
  reasonCode : String
  deriving DecidableEq

instance : Dump UnsupportedPlaceholder where
  dump p := object [("rule_id", dump p.ruleId), ("line_item_key", dump p.lineItemKey),
    ("source_id", dump p.sourceId), ("reason_code", dump p.reasonCode), ("amount_cents", .null)]

structure ReconciliationPolicy where
  reviewToleranceCents : ℤ := 100
  warningThresholdCents : ℤ := 500

instance : Dump ReconciliationPolicy where
  dump p := object [("policy_version", .str "current-bill-reconciliation-v1"),
    ("review_tolerance_cents", dump p.reviewToleranceCents),
    ("warning_threshold_cents", dump p.warningThresholdCents)]

inductive ReconciliationClass where
  | exact
  | withinReviewTolerance
  | reviewRequired
  deriving DecidableEq

def ReconciliationClass.text : ReconciliationClass → String
  | .exact => "EXACT"
  | .withinReviewTolerance => "WITHIN_REVIEW_TOLERANCE"
  | .reviewRequired => "REVIEW_REQUIRED"

structure ReconciliationResult where
  supportedCalculatedCents : ℤ
  userUnsupportedCents : ℤ
  unexplainedResidualCents : ℤ
  enteredBillTotalCents : ℤ
  classification : ReconciliationClass
  inputSha256 : String
  policySha256 : String
  deriving DecidableEq

instance : Dump ReconciliationResult where
  dump r := object [("supported_calculated_cents", dump r.supportedCalculatedCents),
    ("user_unsupported_cents", dump r.userUnsupportedCents),
    ("unexplained_residual_cents", dump r.unexplainedResidualCents),
    ("entered_bill_total_cents", dump r.enteredBillTotalCents),
    ("classification", .str r.classification.text), ("input_sha256", dump r.inputSha256),
    ("policy_sha256", dump r.policySha256)]

structure DailyEnergyChargeAllocation where
  serviceDay : ℤ
  lineItemKey : String
  chargeComponentKey : ChargeComponentKey
  allocationWeightWh : ℤ
  allocatedCents : ℤ
  deriving DecidableEq

instance : Dump DailyEnergyChargeAllocation where
  dump a := object [("service_day", dumpDate a.serviceDay), ("line_item_key", dump a.lineItemKey),
    ("charge_component_key", dump a.chargeComponentKey),
    ("allocation_weight_wh", dump a.allocationWeightWh),
    ("allocated_cents", dump a.allocatedCents)]

structure MonthlyEnergyChargeAllocation where
  calendarMonth : String
  allocationWeightWh : ℤ
  allocatedCents : ℤ
  deriving DecidableEq

instance : Dump MonthlyEnergyChargeAllocation where
  dump a := object [("calendar_month", dump a.calendarMonth),
    ("allocation_weight_wh", dump a.allocationWeightWh),
    ("allocated_cents", dump a.allocatedCents)]

inductive AdjustmentKind where
  | supportedPeriodCharge
  | userUnsupported
  | unexplainedResidual
  | tierResetContext
  deriving DecidableEq

def AdjustmentKind.text : AdjustmentKind → String
  | .supportedPeriodCharge => "SUPPORTED_PERIOD_CHARGE"
  | .userUnsupported => "USER_UNSUPPORTED"
  | .unexplainedResidual => "UNEXPLAINED_RESIDUAL"
  | .tierResetContext => "TIER_RESET_CONTEXT"

structure BillingPeriodAdjustment where
  adjustmentKind : AdjustmentKind
  lineItemKey : String
  chargeComponentKey : Option ChargeComponentKey
  amountCents : ℤ
  deriving DecidableEq

instance : Dump BillingPeriodAdjustment where
  dump a := object [("adjustment_kind", .str a.adjustmentKind.text),
    ("line_item_key", dump a.lineItemKey), ("charge_component_key", dump a.chargeComponentKey),
    ("amount_cents", dump a.amountCents)]

structure CostAllocationReconciliation where
  dailyEnergyChargeCents : ℤ
  supportedPeriodAdjustmentCents : ℤ
  supportedCalculatedCents : ℤ
  userUnsupportedCents : ℤ
  unexplainedResidualCents : ℤ
  displayedTotalCents : ℤ
  deriving DecidableEq

instance : Dump CostAllocationReconciliation where
  dump r := object [("daily_energy_charge_cents", dump r.dailyEnergyChargeCents),
    ("supported_period_adjustment_cents", dump r.supportedPeriodAdjustmentCents),
    ("supported_calculated_cents", dump r.supportedCalculatedCents),
    ("user_unsupported_cents", dump r.userUnsupportedCents),
    ("unexplained_residual_cents", dump r.unexplainedResidualCents),
    ("displayed_total_cents", dump r.displayedTotalCents)]

structure DiagnosticCostAllocation where
  available : Bool
  dailyEnergyCharges : List DailyEnergyChargeAllocation
  monthlyEnergyCharges : List MonthlyEnergyChargeAllocation
  billingPeriodAdjustments : List BillingPeriodAdjustment
  reconciliation : CostAllocationReconciliation
  deriving DecidableEq

instance : Dump DiagnosticCostAllocation where
  dump a := object [("allocation_version", .str "private-cost-allocation-v1"),
    ("status", .str (if a.available then "AVAILABLE" else "INTERVAL_DATA_UNAVAILABLE")),
    ("timezone", .str "America/Los_Angeles"),
    ("daily_energy_charges", dump a.dailyEnergyCharges),
    ("monthly_energy_charges", dump a.monthlyEnergyCharges),
    ("billing_period_adjustments", dump a.billingPeriodAdjustments),
    ("reconciliation", dump a.reconciliation)]

/-- The manifest of a calculation; interval requests record the energy by period. -/
structure CalculationManifest where
  profileContentSha256 : String
  tariffCompilerContentSha256 : String
  tariffIrVersion : String
  tariffVersionId : String
  accountFactsSha256 : String
  replayInputSha256 : String
  reconciliationInputSha256 : Option String
  reconciliationPolicySha256 : Option String
  baselineAllowanceWh : ℤ
  billingDays : ℤ
  billCycleMonth : ℤ
  periodEnergyWh : Option (Dict TimeOfUsePeriod ℤ)
  calculationSha256 : String
  deriving DecidableEq

def CalculationManifest.manifestVersion (m : CalculationManifest) : String :=
  if m.periodEnergyWh.isSome then "historical-replay-manifest-v2" else "e1-calculation-manifest-v1"

instance : Dump CalculationManifest where
  dump m := object ([("manifest_version", dump m.manifestVersion),
    ("calculation_time_mode", .str "HISTORICAL_REPLAY"),
    ("profile_content_sha256", dump m.profileContentSha256),
    ("tariff_compiler_content_sha256", dump m.tariffCompilerContentSha256),
    ("tariff_ir_version", dump m.tariffIrVersion),
    ("tariff_version_id", dump m.tariffVersionId),
    ("account_facts_sha256", dump m.accountFactsSha256),
    ("replay_input_sha256", dump m.replayInputSha256),
    ("reconciliation_input_sha256", dump m.reconciliationInputSha256),
    ("reconciliation_policy_sha256", dump m.reconciliationPolicySha256),
    ("baseline_allowance_wh", dump m.baselineAllowanceWh), ("billing_days", dump m.billingDays),
    ("bill_cycle_month", dump m.billCycleMonth),
    ("calculation_sha256", dump m.calculationSha256)] ++
    m.periodEnergyWh.elim [] fun d =>
      [("period_energy_wh", object (d.entries.map fun e => (e.1.text, dump e.2)))])

structure ReplayResult where
  resultVersion : String
  eligibility : EligibilityResult
  supportedCalculatedCents : ℤ
  lineItems : List ChargeLineItem
  tariffUnsupportedPlaceholders : List UnsupportedPlaceholder
  userUnsupportedLines : List UserUnsupportedLine
  reconciliation : Option ReconciliationResult
  diagnosticCostAllocation : DiagnosticCostAllocation
  provenanceSources : List SourceCoverage
  manifest : CalculationManifest
  resultSha256 : String
  deriving DecidableEq

/-! ### Charge lines -/

/-- `round_half_up_cents` of a nonnegative amount of microdollars. -/
def roundHalfUpNonneg (microdollars : ℚ) : ℤ :=
  let threshold : ℤ := microdollars.den * 10000
  microdollars.num / threshold + if microdollars.num % threshold * 2 ≥ threshold then 1 else 0

/-- `round_half_up_cents`: ties round away from zero. -/
def roundHalfUpCents (microdollars : ℚ) : ℤ :=
  if microdollars < 0 then -roundHalfUpNonneg (-microdollars) else roundHalfUpNonneg microdollars

/-- What a charge line is made of, besides its rule. -/
structure LineInput where
  lineItemKey : String
  quantity : ℤ
  quantityUnit : String
  rate : ℤ
  rateUnit : String
  rawMicrodollars : ℚ
  chargeComponentKey : Option ChargeComponentKey := none

/-- `_line`. -/
def chargeLine (env : Env) (bundle : CompilationBundle) (rule : RuleBase)
    (serviceWindow : DateRange) (x : LineInput) : ChargeLineItem where
  ruleId := rule.ruleId
  tariffVersionId := bundle.ir.tariffVersionId
  sourceId := rule.source.sourceId
  sourceSheetIds := rule.source.sourceSheetIds
  lineItemKey := x.lineItemKey
  chargeComponentKey := x.chargeComponentKey.getD rule.chargeComponentKey
  quantityNumerator := x.quantity
  quantityUnit := x.quantityUnit
  rateNumeratorMicrodollars := x.rate
  rateUnit := x.rateUnit
  preRoundMicrodollars := x.rawMicrodollars
  roundedCents := roundHalfUpCents x.rawMicrodollars
  contributingServiceWindow := serviceWindow
  explanationKey := "tariff." ++ env.lower rule.ruleId
  roundingOperator := rule.rounding

/-- An energy line: a quantity in Wh at a rate per kWh. -/
def energyLine (lineItemKey : String) (quantity rate : ℤ)
    (chargeComponentKey : Option ChargeComponentKey) : LineInput where
  lineItemKey
  quantity
  quantityUnit := "Wh"
  rate
  rateUnit := "microdollars/kWh"
  rawMicrodollars := quantity * rate / 1000
  chargeComponentKey

/-! ### Baseline and schedules -/

/-- The baseline rules that apply. -/
def CompilationBundle.applicableBaselineRules (bundle : CompilationBundle) (facts : AccountFacts)
    (billCycleMonth : ℤ) : List IRBaselineAllowance :=
  bundle.baselineRules.filter fun rule => ruleApplies rule.applicability facts billCycleMonth

/-- `_baseline_allowance`. -/
def baselineAllowance (bundle : CompilationBundle) (facts : AccountFacts)
    (billingDays billCycleMonth : ℤ) : Except Raised ℤ :=
  if bundle.baselineRules = [] then .ok 0
  else match bundle.applicableBaselineRules facts billCycleMonth with
    | [rule] => .ok (rule.dailyAllowanceWh * billingDays)
    | _ => .error (.replayError .baselineRuleAmbiguity)

/-- The schedules of a bundle. -/
def CompilationBundle.schedules (bundle : CompilationBundle) : List IRTimeOfUseSchedule :=
  bundle.ir.operators.filterMap fun
    | .timeOfUseSchedule r => some r
    | _ => none

/-- `resolve_time_schedule`. -/
def resolveTimeSchedule (bundle : CompilationBundle) (ruleId : String) :
    Except Raised IRTimeOfUseSchedule :=
  match bundle.schedules.filter fun schedule => schedule.ruleId = ruleId with
  | [schedule] => .ok schedule
  | _ => .error (.replayError .touScheduleAmbiguity)

/-- Whether a window is in force at a local date and minute. -/
def TimeOfUseWindow.covers (window : TimeOfUseWindow) (holidayDates : List String)
    (date minute : ℤ) : Bool :=
  (window.daySelector = .everyDay || (window.daySelector = .nonholidayWeekday &&
    Date.weekday date < 5 && Date.isoformat date ∉ holidayDates)) &&
  ((window.startMinuteInclusive : ℤ) ≤ minute && minute < (window.endMinuteExclusive : ℤ))

/-- `_classify_local_period`. -/
def classifyLocalPeriod (zone : Zone) (schedule : IRTimeOfUseSchedule) (t : ℤ) :
    TimeOfUsePeriod :=
  match schedule.windows.find? fun window =>
    window.covers schedule.holidayDates (zone.localDate t) (zone.localMinute t) with
  | some window => window.period
  | none => schedule.defaultPeriod

/-- `classify_interval_period`: the first instant and the last microsecond decide. -/
def classifyIntervalPeriod (zone : Zone) (schedule : IRTimeOfUseSchedule) (startUtc : ℤ)
    (durationSeconds : ℕ) (serviceWindow : DateRange) : Except Raised TimeOfUsePeriod := do
  let final := startUtc + durationSeconds * 1000000 - 1
  let startPeriod := classifyLocalPeriod zone schedule startUtc
  failIf (startPeriod ≠ classifyLocalPeriod zone schedule final)
    (Raised.replayError .intervalCrossesTariffBoundary)
  failIf (serviceWindow.contains (zone.localDate startUtc) = false ∨
      serviceWindow.contains (zone.localDate final) = false)
    (Raised.replayError .intervalOutsideServiceWindow)
  .ok startPeriod

/-! ### Energy by period and by day -/

theorem TimeOfUsePeriod.text_injective : Function.Injective TimeOfUsePeriod.text := by
  intro x y h
  cases x <;> cases y <;> first | rfl | exact absurd h (by decide)

/-- Periods are sorted by their texts. -/
instance : LinearOrder TimeOfUsePeriod :=
  LinearOrder.lift' TimeOfUsePeriod.text TimeOfUsePeriod.text_injective

/-- Adds the energy of one interval to its period. -/
def addPeriodEnergy (zone : Zone) (serviceWindow : DateRange) (schedule : IRTimeOfUseSchedule)
    (totals : Dict TimeOfUsePeriod ℤ) (interval : ReplayInterval) :
    Except Raised (Dict TimeOfUsePeriod ℤ) := do
  let period ← classifyIntervalPeriod zone schedule interval.startUtc interval.durationSeconds
    serviceWindow
  .ok (totals.add period interval.energyWh)

/-- `_period_energy`, on an interval request. -/
def periodEnergy (zone : Zone) (request : IntervalReplayRequest)
    (schedule : IRTimeOfUseSchedule) : Except Raised (Dict TimeOfUsePeriod ℤ) :=
  request.intervals.foldlM (addPeriodEnergy zone request.accountFacts.serviceWindow schedule)
    Dict.empty

/-- The loop of `_interval_daily_energy`: the seconds of `[cursor, endUtc)` by local day.
Each turn takes at least one second, so the length in seconds is enough fuel. -/
def segmentSeconds (zone : Zone) (serviceWindow : DateRange) (endUtc : ℤ) :
    ℕ → ℤ → Dict ℤ ℤ → Except Raised (Dict ℤ ℤ)
  | 0, _, segments => .ok segments
  | fuel + 1, cursor, segments =>
    if cursor < endUtc then do
      let serviceDay := zone.localDate cursor
      failIf (serviceWindow.contains serviceDay = false)
        (Raised.replayError .intervalOutsideServiceWindow)
      let segmentEnd := min endUtc (zone.midnight (serviceDay + 1))
      let seconds := (segmentEnd - cursor) / 1000000
      failIf (seconds ≤ 0) (Raised.replayError .diagnosticIntervalInvalid)
      segmentSeconds zone serviceWindow endUtc fuel segmentEnd (segments.add serviceDay seconds)
    else .ok segments

/-- `_interval_daily_energy`. -/
def intervalDailyEnergy (zone : Zone) (serviceWindow : DateRange) (interval : ReplayInterval) :
    Except Raised (Dict ℤ ℤ) := do
  let segments ← segmentSeconds zone serviceWindow interval.endUtc interval.durationSeconds
    interval.startUtc Dict.empty
  apportionInteger interval.energyWh segments

/-- Adds the daily energy of one interval to the totals. -/
def addDailyEnergy (zone : Zone) (serviceWindow : DateRange) (totals : Dict ℤ ℤ)
    (interval : ReplayInterval) : Except Raised (Dict ℤ ℤ) := do
  let daily ← intervalDailyEnergy zone serviceWindow interval
  .ok (daily.entries.foldl (fun d e => d.add e.1 e.2) totals)

/-- `_daily_energy`. -/
def dailyEnergy (zone : Zone) (request : IntervalReplayRequest) : Except Raised (Dict ℤ ℤ) := do
  let totals ← request.intervals.foldlM
    (addDailyEnergy zone request.accountFacts.serviceWindow) Dict.empty
  .ok totals.sorted

/-- Adds the daily energy of one interval to the totals of its period. -/
def addPeriodDailyEnergy (zone : Zone) (serviceWindow : DateRange)
    (schedule : IRTimeOfUseSchedule) (totals : Dict TimeOfUsePeriod (Dict ℤ ℤ))
    (interval : ReplayInterval) : Except Raised (Dict TimeOfUsePeriod (Dict ℤ ℤ)) := do
  let period ← classifyIntervalPeriod zone schedule interval.startUtc interval.durationSeconds
    serviceWindow
  let byDay ← addDailyEnergy zone serviceWindow (totals.getD period Dict.empty) interval
  .ok (totals.set period byDay)

/-- `_period_daily_energy`. -/
def periodDailyEnergy (zone : Zone) (request : IntervalReplayRequest)
    (schedule : IRTimeOfUseSchedule) : Except Raised (Dict TimeOfUsePeriod (Dict ℤ ℤ)) := do
  let totals ← request.intervals.foldlM
    (addPeriodDailyEnergy zone request.accountFacts.serviceWindow schedule) Dict.empty
  .ok (totals.mapValues fun _ byDay => byDay.sorted).sorted

/-! ### The main loop -/

/-- What the loop over the operators reads. -/
structure ReplayContext where
  env : Env
  bundle : CompilationBundle
  request : Request
  serviceWindow : DateRange
  billingDays : ℤ
  billCycleMonth : ℤ
  baselineWh : ℤ
  allDailyEnergy : Dict ℤ ℤ

/-- What the loop over the operators collects. -/
structure ReplayState where
  lines : List ChargeLineItem := []
  placeholders : List UnsupportedPlaceholder := []
  periodEnergyBySchedule : Dict String (Dict TimeOfUsePeriod ℤ) := Dict.empty
  periodDailyEnergyBySchedule : Dict String (Dict TimeOfUsePeriod (Dict ℤ ℤ)) := Dict.empty
  lineDailyEnergy : Dict String (Dict ℤ ℤ) := Dict.empty
  hasTieredEnergy : Bool := false

namespace ReplayState

/-- `lines.append(line)`. -/
def addLine (s : ReplayState) (line : ChargeLineItem) : ReplayState :=
  { s with lines := s.lines ++ [line] }

/-- `line_daily_energy[key] = basis`. -/
def setBasis (s : ReplayState) (key : String) (basis : Dict ℤ ℤ) : ReplayState :=
  { s with lineDailyEnergy := s.lineDailyEnergy.set key basis }

end ReplayState

section Evaluate

variable (ctx : ReplayContext)

/-- The line of an operator. -/
def ReplayContext.line (rule : RuleBase) (x : LineInput) : ChargeLineItem :=
  chargeLine ctx.env ctx.bundle rule ctx.serviceWindow x

/-- The bound of a tier in Wh, where it has one. -/
def tierUpperBound (tier : IREnergyTier) : Except Raised (Option ℤ) :=
  match tier.upperBoundOperator with
  | .baselineAllowance => do
    let numerator := ctx.baselineWh * tier.upperBoundNumerator
    failIf (numerator % tier.upperBoundDenominator ≠ 0) (Raised.replayError .nonintegralTierBound)
    .ok (some (numerator / tier.upperBoundDenominator))
  | .unbounded => .ok none

/-- The part of the remaining energy that falls into a tier. -/
def tierQuantity (remaining lowerBound : ℤ) (upperBound : Option ℤ) : ℤ :=
  upperBound.elim remaining fun upper => min remaining (upper - lowerBound)

/-- The line of a tier, and for interval requests the days it is spread over; a tier
without energy has no line. -/
def chargeTier (rule : IRTieredEnergyCharge) (index : ℕ) (tier : IREnergyTier)
    (remaining quantity : ℤ) (s : ReplayState) : Except Raised ReplayState :=
  let line := ctx.line rule.toRuleBase (energyLine
    (rule.lineItemKey ++ ".tier_" ++ toString index) quantity tier.rateMicrodollarsPerKwh none)
  if quantity = 0 then .ok s
  else if ctx.request.isInterval then do
    let basis ← energySlice ctx.allDailyEnergy (ctx.request.base.energyWh - remaining) quantity
    .ok ((s.addLine line).setBasis line.lineItemKey basis)
  else .ok (s.addLine line)

/-- The loop over the tiers: the energy that is left over, and the state. -/
def allocateTiers (rule : IRTieredEnergyCharge) :
    ℕ → List IREnergyTier → ℤ → ℤ → ReplayState → Except Raised (ℤ × ReplayState)
  | _, [], remaining, _, s => .ok (remaining, s)
  | index, tier :: tiers, remaining, lowerBound, s => do
    let upperBound ← tierUpperBound ctx tier
    let quantity := tierQuantity remaining lowerBound upperBound
    failIf (quantity < 0) (Raised.replayError .invalidTierBound)
    let s ← chargeTier ctx rule index tier remaining quantity s
    if remaining - quantity = 0 then .ok (0, s)
    else allocateTiers rule (index + 1) tiers (remaining - quantity) (upperBound.getD lowerBound) s

/-- A tiered energy charge. -/
def evaluateTiered (rule : IRTieredEnergyCharge) (s : ReplayState) :
    Except Raised ReplayState := do
  let (remaining, s) ← allocateTiers ctx rule 1 rule.tiers ctx.request.base.energyWh 0
    { s with hasTieredEnergy := true }
  failIf (remaining ≠ 0) (Raised.replayError .uncoveredTier)
  .ok s

/-- The line of one period of a time-of-use charge. -/
def chargePeriod (rule : IRTimeOfUseEnergyCharge) (energy : Dict TimeOfUsePeriod ℤ)
    (daily : Dict TimeOfUsePeriod (Dict ℤ ℤ)) (s : ReplayState) (rate : TimeOfUsePeriodRate) :
    ReplayState :=
  let quantity := energy.getD rate.period 0
  if quantity = 0 then s
  else
    let line := ctx.line rule.toRuleBase (energyLine
      (rule.lineItemKey ++ "." ++ rate.period.lower) quantity rate.rateMicrodollarsPerKwh none)
    (s.addLine line).setBasis line.lineItemKey (daily.getD rate.period Dict.empty)

/-- The line of a baseline credit. -/
def chargeCredit (rule : IRTimeOfUseEnergyCharge) (credit : BaselineCredit) (s : ReplayState) :
    Except Raised ReplayState := do
  let quantity := min (ctx.request.base.energyWh : ℤ) ctx.baselineWh
  let line := ctx.line rule.toRuleBase (energyLine (rule.lineItemKey ++ ".baseline_credit")
    quantity credit.microdollarsPerKwh (some credit.chargeComponentKey))
  let basis ← energySlice ctx.allDailyEnergy 0 quantity
  .ok ((s.addLine line).setBasis line.lineItemKey basis)

/-- A time-of-use energy charge; energy by period is computed once per schedule. -/
def evaluateTimeOfUse (rule : IRTimeOfUseEnergyCharge) (s : ReplayState) :
    Except Raised ReplayState := do
  let schedule ← resolveTimeSchedule ctx.bundle rule.scheduleRuleId
  match ctx.request with
  | .aggregate _ => .error (.replayError .intervalDataRequired)
  | .interval request => do
    let computed ← periodEnergy ctx.env.zone request schedule
    let energies := s.periodEnergyBySchedule.setDefault schedule.ruleId computed
    let computedDaily ← periodDailyEnergy ctx.env.zone request schedule
    let dailies := s.periodDailyEnergyBySchedule.setDefault schedule.ruleId computedDaily
    let s := { s with
      periodEnergyBySchedule := energies.1
      periodDailyEnergyBySchedule := dailies.1 }
    let s := rule.periodRates.foldl (chargePeriod ctx rule energies.2 dailies.2) s
    match rule.baselineCredit with
    | none => .ok s
    | some credit => chargeCredit ctx rule credit s

/-- A fixed daily charge. -/
def fixedDailyLine (rule : IRFixedDailyCharge) : ChargeLineItem :=
  ctx.line rule.toRuleBase
    { lineItemKey := rule.lineItemKey
      quantity := ctx.billingDays
      quantityUnit := "days"
      rate := rule.rateMicrodollarsPerDay
      rateUnit := "microdollars/day"
      rawMicrodollars := (ctx.billingDays * rule.rateMicrodollarsPerDay : ℤ) }

/-- A fixed monthly charge. -/
def fixedMonthlyLine (rule : IRFixedMonthlyCharge) : ChargeLineItem :=
  ctx.line rule.toRuleBase
    { lineItemKey := rule.lineItemKey
      quantity := 1
      quantityUnit := "bill_cycle"
      rate := rule.amountMicrodollars
      rateUnit := "microdollars/bill_cycle"
      rawMicrodollars := rule.amountMicrodollars }

/-- One turn of the loop over the operators. -/
def evaluateOperator (s : ReplayState) (operator : CompiledRule) : Except Raised ReplayState :=
  if ruleApplies operator.base.applicability ctx.request.base.accountFacts ctx.billCycleMonth
      = false then .ok s
  else match operator with
    | .baselineAllowance _ => .ok s
    | .timeOfUseSchedule _ => .ok s
    | .tieredEnergyCharge rule => evaluateTiered ctx rule s
    | .timeOfUseEnergyCharge rule => evaluateTimeOfUse ctx rule s
    | .fixedDailyCharge rule => .ok (s.addLine (fixedDailyLine ctx rule))
    | .fixedMonthlyCharge rule => .ok (s.addLine (fixedMonthlyLine ctx rule))
    | .explicitUnsupportedCharge rule =>
      .ok { s with placeholders := s.placeholders ++
        [⟨rule.ruleId, rule.lineItemKey, rule.source.sourceId, rule.reasonCode⟩] }

/-- The loop over the operators. -/
def evaluateOperators : Except Raised ReplayState :=
  ctx.bundle.ir.operators.foldlM (evaluateOperator ctx) {}

end Evaluate

/-! ### Reconciliation and diagnostics -/

/-- `sum(item.amount_cents for item in items)`. -/
def userUnsupportedCents (lines : List UserUnsupportedLine) : ℤ :=
  (lines.map UserUnsupportedLine.amountCents).sum

/-- `_reconcile`. -/
def reconcile (env : Env) (request : ReplayRequestBase) (supportedCents : ℤ)
    (policy : ReconciliationPolicy) : Option ReconciliationResult :=
  request.currentBillTotalCents.map fun total =>
    let unsupported := userUnsupportedCents request.userUnsupportedLines
    let residual := total - supportedCents - unsupported
    { supportedCalculatedCents := supportedCents
      userUnsupportedCents := unsupported
      unexplainedResidualCents := residual
      enteredBillTotalCents := total
      classification :=
        if residual = 0 then .exact
        else if |residual| ≤ policy.reviewToleranceCents then .withinReviewTolerance
        else .reviewRequired
      inputSha256 := canonicalContentSha256 env "RateReplay.ReconciliationInput.v1"
        (object [("entered_bill_total_cents", dump total),
          ("user_unsupported_lines", dump request.userUnsupportedLines)])
      policySha256 :=
        canonicalContentSha256 env "RateReplay.ReconciliationPolicy.v1" (dump policy) }

/-- The daily entries of one line, or its adjustment of the period. -/
def allocateLine (intervalAvailable : Bool) (lineDailyEnergy : Dict String (Dict ℤ ℤ))
    (line : ChargeLineItem) :
    Except Raised (List DailyEnergyChargeAllocation × List BillingPeriodAdjustment) :=
  match lineDailyEnergy.get? line.lineItemKey with
  | some basis =>
    if intervalAvailable = true ∧ line.quantityUnit = "Wh" then do
      let allocated ← apportionInteger line.roundedCents basis
      -- every key of the shares is a key of the basis
      .ok (allocated.entries.map fun e =>
        ⟨e.1, line.lineItemKey, line.chargeComponentKey, basis.getD e.1 0, e.2⟩, [])
    else .ok ([], [⟨.supportedPeriodCharge, line.lineItemKey, some line.chargeComponentKey,
      line.roundedCents⟩])
  | none => .ok ([], [⟨.supportedPeriodCharge, line.lineItemKey, some line.chargeComponentKey,
      line.roundedCents⟩])

/-- `item.service_day.isoformat()[:7]`. -/
def calendarMonth (serviceDay : ℤ) : String :=
  String.ofList ((Date.isoformat serviceDay).toList.take 7)

/-- The daily entries summed by calendar month: weight and cents. -/
def monthlyValues (daily : List DailyEnergyChargeAllocation) : Dict String (ℤ × ℤ) :=
  daily.foldl (fun d item => d.add (calendarMonth item.serviceDay)
    (item.allocationWeightWh, item.allocatedCents)) Dict.empty

/-- The cents of the adjustments of one kind. -/
def adjustmentCents (kind : AdjustmentKind) (adjustments : List BillingPeriodAdjustment) : ℤ :=
  ((adjustments.filter fun a => a.adjustmentKind = kind).map
    BillingPeriodAdjustment.amountCents).sum

/-- The cents of the daily entries. -/
def dailyCents (daily : List DailyEnergyChargeAllocation) : ℤ :=
  (daily.map DailyEnergyChargeAllocation.allocatedCents).sum

/-- `DiagnosticCostAllocation.validate_exact_reconciliation`. -/
def DiagnosticCostAllocation.validate (a : DiagnosticCostAllocation) : Except Raised Unit := do
  let daily := dailyCents a.dailyEnergyCharges
  let supported := adjustmentCents .supportedPeriodCharge a.billingPeriodAdjustments
  let unsupported := adjustmentCents .userUnsupported a.billingPeriodAdjustments
  let residual := adjustmentCents .unexplainedResidual a.billingPeriodAdjustments
  failIf (daily ≠ (a.monthlyEnergyCharges.map MonthlyEnergyChargeAllocation.allocatedCents).sum)
    (Raised.valueError "daily and monthly diagnostic allocations must match")
  failIf (daily ≠ a.reconciliation.dailyEnergyChargeCents)
    (Raised.valueError "daily diagnostic allocation total does not reconcile")
  failIf (supported ≠ a.reconciliation.supportedPeriodAdjustmentCents)
    (Raised.valueError "supported period adjustment total does not reconcile")
  failIf (unsupported ≠ a.reconciliation.userUnsupportedCents)
    (Raised.valueError "unsupported period adjustment total does not reconcile")
  failIf (residual ≠ a.reconciliation.unexplainedResidualCents)
    (Raised.valueError "residual period adjustment total does not reconcile")
  failIf (daily + supported ≠ a.reconciliation.supportedCalculatedCents)
    (Raised.valueError "diagnostic supported charges do not reconcile")
  failIf (daily + supported + unsupported + residual ≠ a.reconciliation.displayedTotalCents)
    (Raised.valueError "diagnostic displayed total does not reconcile")
  failIf (a.available = false ∧ (a.dailyEnergyCharges ≠ [] ∨ a.monthlyEnergyCharges ≠ []))
    (Raised.valueError "unavailable interval diagnostics cannot contain daily data")

/-- The supported cost of a list of lines. -/
def supportedCents (lines : List ChargeLineItem) : ℤ := (lines.map ChargeLineItem.roundedCents).sum

/-- The adjustments that do not come from charge lines. -/
def contextAdjustments (request : Request) (hasTieredEnergy : Bool)
    (reconciliation : Option ReconciliationResult) : List BillingPeriodAdjustment :=
  (if request.isInterval && hasTieredEnergy
    then [⟨.tierResetContext, "tier_reset.billing_period", none, 0⟩] else []) ++
  request.base.userUnsupportedLines.map
    (fun l => ⟨.userUnsupported, l.lineItemKey, none, l.amountCents⟩) ++
  reconciliation.toList.map
    (fun r => ⟨.unexplainedResidual, "unexplained_residual", none, r.unexplainedResidualCents⟩)

/-- `_diagnostic_cost_allocation`. -/
def diagnosticCostAllocation (request : Request) (s : ReplayState)
    (reconciliation : Option ReconciliationResult) : Except Raised DiagnosticCostAllocation := do
  let allocated ← collect (allocateLine request.isInterval s.lineDailyEnergy) s.lines
  let daily := allocated.flatMap Prod.fst
  let adjustments := allocated.flatMap Prod.snd ++
    contextAdjustments request s.hasTieredEnergy reconciliation
  let supportedPeriod := adjustmentCents .supportedPeriodCharge adjustments
  let allocation : DiagnosticCostAllocation :=
    { available := request.isInterval
      dailyEnergyCharges := sortedBy (fun item => toLex (item.serviceDay, item.lineItemKey)) daily
      monthlyEnergyCharges := (monthlyValues daily).sorted.entries.map fun e =>
        ⟨e.1, e.2.1, e.2.2⟩
      billingPeriodAdjustments := adjustments
      reconciliation :=
        { dailyEnergyChargeCents := dailyCents daily
          supportedPeriodAdjustmentCents := supportedPeriod
          supportedCalculatedCents := supportedCents s.lines
          userUnsupportedCents := reconciliation.elim 0 ReconciliationResult.userUnsupportedCents
          unexplainedResidualCents :=
            reconciliation.elim 0 ReconciliationResult.unexplainedResidualCents
          displayedTotalCents := reconciliation.elim (dailyCents daily + supportedPeriod)
            ReconciliationResult.enteredBillTotalCents } }
  allocation.validate
  .ok allocation

/-! ### The evaluator -/

/-- The hash of the replay input. -/
def replayInputHash (env : Env) (request : Request) : String :=
  let fields := [("profile_content_sha256", dump request.base.profileContentSha256),
    ("energy_wh", dump request.base.energyWh),
    ("service_window", dump request.base.accountFacts.serviceWindow)]
  match request with
  | .aggregate _ => canonicalContentSha256 env "RateReplay.ReplayInput.v1" (object fields)
  | .interval r => canonicalContentSha256 env "RateReplay.IntervalReplayInput.v2"
      (object (fields ++ [("intervals", dump r.intervals),
        ("dated_eligibility_facts", dump r.datedEligibilityFacts)]))

/-- The hash of everything a calculation depends on. -/
def calculationHash (env : Env) (bundle : CompilationBundle) (request : Request)
    (accountFactsSha256 : String) (reconciliation : Option ReconciliationResult) : String :=
  canonicalContentSha256 env
    (if request.isInterval then "RateReplay.HistoricalReplayCalculation.v2"
      else "RateReplay.HistoricalReplayCalculation.v1")
    (object [("profile_content_sha256", dump request.base.profileContentSha256),
      ("tariff_compiler_content_sha256", dump bundle.compilerContentSha256),
      ("account_facts_sha256", dump accountFactsSha256),
      ("replay_input_sha256", dump (replayInputHash env request)),
      ("reconciliation_input_sha256", dump (reconciliation.map ReconciliationResult.inputSha256)),
      ("reconciliation_policy_sha256",
        dump (reconciliation.map ReconciliationResult.policySha256))])

/-- The energy by period, summed over the schedules used. -/
def combinedPeriodEnergy (energies : Dict String (Dict TimeOfUsePeriod ℤ)) :
    Dict TimeOfUsePeriod ℤ :=
  (energies.values.flatMap Dict.entries).foldl (fun d e => d.add e.1 e.2) Dict.empty

/-- The manifest of a calculation. -/
def calculationManifest (ctx : ReplayContext) (s : ReplayState) (accountFactsSha256 : String)
    (reconciliation : Option ReconciliationResult) : CalculationManifest where
  profileContentSha256 := ctx.request.base.profileContentSha256
  tariffCompilerContentSha256 := ctx.bundle.compilerContentSha256
  tariffIrVersion := ctx.bundle.ir.irVersion
  tariffVersionId := ctx.bundle.ir.tariffVersionId
  accountFactsSha256
  replayInputSha256 := replayInputHash ctx.env ctx.request
  reconciliationInputSha256 := reconciliation.map ReconciliationResult.inputSha256
  reconciliationPolicySha256 := reconciliation.map ReconciliationResult.policySha256
  baselineAllowanceWh := ctx.baselineWh
  billingDays := ctx.billingDays
  billCycleMonth := ctx.billCycleMonth
  periodEnergyWh := if ctx.request.isInterval
    then some (combinedPeriodEnergy s.periodEnergyBySchedule).sorted else none
  calculationSha256 :=
    calculationHash ctx.env ctx.bundle ctx.request accountFactsSha256 reconciliation

/-- The result of a replay, from what was calculated. -/
def replayResult (ctx : ReplayContext) (eligibility : EligibilityResult) (s : ReplayState)
    (reconciliation : Option ReconciliationResult) (diagnostic : DiagnosticCostAllocation) :
    ReplayResult :=
  let manifest := calculationManifest ctx s eligibility.accountFactsSha256 reconciliation
  let cents := supportedCents s.lines
  let userLines := ctx.request.base.userUnsupportedLines
  let sources := ctx.bundle.reports.sourceCoverage
  { resultVersion := if ctx.request.isInterval
      then "historical-replay-result-v3" else "e1-replay-result-v2"
    eligibility
    supportedCalculatedCents := cents
    lineItems := s.lines
    tariffUnsupportedPlaceholders := s.placeholders
    userUnsupportedLines := userLines
    reconciliation
    diagnosticCostAllocation := diagnostic
    provenanceSources := sources
    manifest
    resultSha256 := canonicalContentSha256 ctx.env "RateReplay.HistoricalReplayResult.v2"
      (object [("eligibility", dump eligibility), ("supported_calculated_cents", dump cents),
        ("line_items", dump s.lines), ("tariff_unsupported_placeholders", dump s.placeholders),
        ("user_unsupported_lines", dump userLines), ("reconciliation", dump reconciliation),
        ("diagnostic_cost_allocation", dump diagnostic), ("provenance_sources", dump sources),
        ("manifest", dump manifest)]) }

/-- `request.validate_reconciliation_inputs()`. -/
def validateReconciliationInputs (request : ReplayRequestBase) : Except Raised Unit :=
  failIf (request.currentBillTotalCents = none ∧ request.userUnsupportedLines ≠ [])
    (Raised.replayError .unsupportedLinesRequireBillTotal)

/-- The end of the billing period. -/
def billingPeriodEnd (serviceWindow : DateRange) : Except Raised ℤ :=
  serviceWindow.stop.elim (.error (.replayError .unboundedBillingPeriod)) .ok

/-- The checks before the loop over the operators: the verdict and what the loop reads. -/
def prepareReplay (env : Env) (bundle : CompilationBundle) (request : Request) :
    Except Raised (EligibilityResult × ReplayContext) := do
  validateReconciliationInputs request.base
  let eligibility ← evaluateEligibility env bundle request.base.accountFacts request.datedFacts
  failIf (eligibility.status ≠ .eligible) (Raised.replayError
    (.tariffNotEligible eligibility.status eligibility.reasonCodes))
  let serviceWindow := request.base.accountFacts.serviceWindow
  let stop ← billingPeriodEnd serviceWindow
  let billingDays := stop - serviceWindow.start
  failIf (billingDays ≤ 0 ∨ billingDays > bundle.ir.maximumBillingDays)
    (Raised.replayError .invalidBillingPeriod)
  failIf (request.base.energyWh > bundle.ir.maximumEnergyWh)
    (Raised.replayError .energyBoundExceeded)
  let billCycleMonth := Date.month stop
  let baselineWh ← baselineAllowance bundle request.base.accountFacts billingDays billCycleMonth
  let allDailyEnergy ← match request with
    | .aggregate _ => .ok Dict.empty
    | .interval r => dailyEnergy env.zone r
  .ok (eligibility, ⟨env, bundle, request, serviceWindow, billingDays, billCycleMonth,
    baselineWh, allDailyEnergy⟩)

/-- `replay_compiled_tariff`. -/
def replayCompiledTariff (env : Env) (bundle : CompilationBundle) (request : Request)
    (policy : ReconciliationPolicy := {}) : Except Raised ReplayResult := do
  let (eligibility, ctx) ← prepareReplay env bundle request
  let s ← evaluateOperators ctx
  let reconciliation := reconcile env request.base (supportedCents s.lines) policy
  let diagnostic ← diagnosticCostAllocation request s reconciliation
  .ok (replayResult ctx eligibility s reconciliation diagnostic)

end RateReplay
