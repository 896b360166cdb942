import RateReplay.Calendar

/-!
# The tariff language

The strict models of the tariff schema.  What a model's validator checks is a field
of its structure, so a value is a validated model; a field with one admissible value
is a constant.

## Main definitions

* `DateRange`, `SourceLink`, `RuleBase`, `TariffRule` — the charge rules of a tariff.
* `AccountFacts`, `DatedEligibilityFacts`, `EligibilityPredicate` — eligibility.
* `TariffVersion` — a whole tariff definition.
-/

namespace RateReplay

/-! ### Enumerations -/

inductive EligibilityStatus where
  | eligible
  | ineligible
  | unknown
  deriving DecidableEq, Repr

def EligibilityStatus.text : EligibilityStatus → String
  | .eligible => "ELIGIBLE"
  | .ineligible => "INELIGIBLE"
  | .unknown => "UNKNOWN"

inductive IncomeTier where
  | tier1
  | tier2
  | tier3
  | tier4
  deriving DecidableEq, Repr

def IncomeTier.text : IncomeTier → String
  | .tier1 => "TIER_1"
  | .tier2 => "TIER_2"
  | .tier3 => "TIER_3"
  | .tier4 => "TIER_4"

inductive BaselineTerritory where
  | p | q | r | s | t | v | w | x | y | z
  deriving DecidableEq, Repr

def BaselineTerritory.text : BaselineTerritory → String
  | .p => "P"
  | .q => "Q"
  | .r => "R"
  | .s => "S"
  | .t => "T"
  | .v => "V"
  | .w => "W"
  | .x => "X"
  | .y => "Y"
  | .z => "Z"

inductive BaselineQuantityCode where
  | basic
  | allElectric
  deriving DecidableEq, Repr

def BaselineQuantityCode.text : BaselineQuantityCode → String
  | .basic => "BASIC"
  | .allElectric => "ALL_ELECTRIC"

inductive QualifyingTechnology where
  | ev
  | heatPump
  | electricWaterHeat
  deriving DecidableEq, Repr

def QualifyingTechnology.text : QualifyingTechnology → String
  | .ev => "EV"
  | .heatPump => "HEAT_PUMP"
  | .electricWaterHeat => "ELECTRIC_WATER_HEAT"

inductive RoundingOperator where
  | exact
  | halfUpCentAtLineItem
  deriving DecidableEq, Repr

def RoundingOperator.text : RoundingOperator → String
  | .exact => "EXACT"
  | .halfUpCentAtLineItem => "HALF_UP_CENT_AT_LINE_ITEM"

inductive ChargeComponentKey where
  | baselineAllowance
  | bundledEnergy
  | baselineAdjustment
  | baseServicesCharge
  | californiaClimateCredit
  | minimumBillAdjustment
  | explicitUnsupported
  deriving DecidableEq, Repr

def ChargeComponentKey.text : ChargeComponentKey → String
  | .baselineAllowance => "baseline_allowance"
  | .bundledEnergy => "bundled_energy"
  | .baselineAdjustment => "baseline_adjustment"
  | .baseServicesCharge => "base_services_charge"
  | .californiaClimateCredit => "california_climate_credit"
  | .minimumBillAdjustment => "minimum_bill_adjustment"
  | .explicitUnsupported => "explicit_unsupported"

/-- `PEAK`, `PARTIAL_PEAK` and `OFF_PEAK`; windows name the first two only. -/
inductive TimeOfUsePeriod where
  | peak
  | partialPeak
  | offPeak
  deriving DecidableEq, Repr

namespace TimeOfUsePeriod

def text : TimeOfUsePeriod → String
  | .peak => "PEAK"
  | .partialPeak => "PARTIAL_PEAK"
  | .offPeak => "OFF_PEAK"

/-- `period.lower()`. -/
def lower : TimeOfUsePeriod → String
  | .peak => "peak"
  | .partialPeak => "partial_peak"
  | .offPeak => "off_peak"

/-- The order in which rate periods are listed. -/
def order : TimeOfUsePeriod → ℕ
  | .peak => 0
  | .partialPeak => 1
  | .offPeak => 2

end TimeOfUsePeriod

inductive DaySelector where
  | everyDay
  | nonholidayWeekday
  deriving DecidableEq, Repr

def DaySelector.text : DaySelector → String
  | .everyDay => "EVERY_DAY"
  | .nonholidayWeekday => "NONHOLIDAY_WEEKDAY"

inductive UpperBoundKind where
  | baselineAllowance
  | unbounded
  deriving DecidableEq, Repr

def UpperBoundKind.text : UpperBoundKind → String
  | .baselineAllowance => "BASELINE_ALLOWANCE"
  | .unbounded => "UNBOUNDED"

inductive OptimizationCapability where
  | supported
  | unsupportedWithReason
  deriving DecidableEq, Repr

def OptimizationCapability.text : OptimizationCapability → String
  | .supported => "SUPPORTED"
  | .unsupportedWithReason => "UNSUPPORTED_WITH_REASON"

instance : Dump EligibilityStatus := ⟨fun x => .str x.text⟩
instance : Dump IncomeTier := ⟨fun x => .str x.text⟩
instance : Dump BaselineTerritory := ⟨fun x => .str x.text⟩
instance : Dump BaselineQuantityCode := ⟨fun x => .str x.text⟩
instance : Dump QualifyingTechnology := ⟨fun x => .str x.text⟩
instance : Dump RoundingOperator := ⟨fun x => .str x.text⟩
instance : Dump ChargeComponentKey := ⟨fun x => .str x.text⟩
instance : Dump TimeOfUsePeriod := ⟨fun x => .str x.text⟩
instance : Dump DaySelector := ⟨fun x => .str x.text⟩
instance : Dump UpperBoundKind := ⟨fun x => .str x.text⟩
instance : Dump OptimizationCapability := ⟨fun x => .str x.text⟩

/-! ### Date ranges and sources -/

/-- A nonempty half-open range of dates; a missing end leaves it open. -/
structure DateRange where
  start : ℤ
  stop : Option ℤ
  nonempty : ∀ e ∈ stop, start < e
  deriving DecidableEq

namespace DateRange

def contains (range : DateRange) (value : ℤ) : Bool :=
  range.start ≤ value && range.stop.all fun e => value < e

def covers (range other : DateRange) : Bool :=
  if range.start > other.start then false
  else match range.stop with
    | none => true
    | some e => other.stop.any fun o => e ≥ o

instance : Dump DateRange where
  dump r := object [("start", dumpDate r.start), ("end", r.stop.elim .null dumpDate)]

end DateRange

structure SourceLink where
  sourceId : String
  sourceSha256 : String
  sourceSheetIds : List String
  sourceSheetIds_ne : sourceSheetIds ≠ []
  deriving DecidableEq

instance : Dump SourceLink where
  dump s := object [("source_id", dump s.sourceId), ("source_sha256", dump s.sourceSha256),
    ("source_sheet_ids", dump s.sourceSheetIds)]

structure TariffComponentVersion where
  componentVersionId : String
  componentKey : String
  effectiveRange : DateRange
  precedence : ℕ
  source : SourceLink
  extractedRuleIds : List String
  extractedRuleIds_ne : extractedRuleIds ≠ []
  extractedRuleIds_nodup : extractedRuleIds.Nodup

instance : Dump TariffComponentVersion where
  dump c := object [("component_version_id", dump c.componentVersionId),
    ("component_key", dump c.componentKey), ("effective_range", dump c.effectiveRange),
    ("precedence", dump c.precedence), ("source", dump c.source),
    ("extracted_rule_ids", dump c.extractedRuleIds)]

/-! ### Account facts -/

/-- The facts of one account for one service window.  Service provider and mode have
one admissible value each; the attestation time is kept as its ISO text. -/
structure AccountFacts where
  serviceWindow : DateRange
  meterCount : ℕ
  primaryMeterOnly : Bool
  incomeTier : IncomeTier
  careEnrolled : Bool
  feraEnrolled : Bool
  medicalBaseline : Bool
  ccaService : Bool
  directAccessService : Bool
  activeBillProtection : Bool
  solarOrExport : Bool
  baselineTerritory : BaselineTerritory
  baselineQuantityCode : BaselineQuantityCode
  qualifyingTechnologies : Option (List QualifyingTechnology)
  userAttestedAt : String
  meterCount_pos : 1 ≤ meterCount
  technologies_sorted : ∀ ts ∈ qualifyingTechnologies,
    (ts.map QualifyingTechnology.text).Pairwise (· ≤ ·)
  deriving DecidableEq

namespace AccountFacts

def schemaVersion (_ : AccountFacts) : String := "account-facts-v1"
def serviceProvider (_ : AccountFacts) : String := "PG&E"
def serviceMode (_ : AccountFacts) : String := "BUNDLED"

instance : Dump AccountFacts where
  dump f := object [("schema_version", dump f.schemaVersion),
    ("service_window", dump f.serviceWindow), ("service_provider", dump f.serviceProvider),
    ("service_mode", dump f.serviceMode), ("meter_count", dump f.meterCount),
    ("primary_meter_only", dump f.primaryMeterOnly), ("income_tier", dump f.incomeTier),
    ("care_enrolled", dump f.careEnrolled), ("fera_enrolled", dump f.feraEnrolled),
    ("medical_baseline", dump f.medicalBaseline), ("cca_service", dump f.ccaService),
    ("direct_access_service", dump f.directAccessService),
    ("active_bill_protection", dump f.activeBillProtection),
    ("solar_or_export", dump f.solarOrExport), ("baseline_territory", dump f.baselineTerritory),
    ("baseline_quantity_code", dump f.baselineQuantityCode),
    ("qualifying_technologies", dump f.qualifyingTechnologies),
    ("user_attested_at", dump f.userAttestedAt)]

end AccountFacts

structure DatedEligibilityFacts where
  factsAsOf : Option ℤ
  evRegisteredAndChargedAtPremises : Option Bool
  wholeHouseMetering : Option Bool
  annualUsagePeriod : Option DateRange
  annualUsageWh : Option ℕ
  annualBaselineAllowanceWh : Option ℕ
  annualBaselineAllowanceWh_pos : ∀ n ∈ annualBaselineAllowanceWh, 0 < n
  deriving DecidableEq

instance : Dump DatedEligibilityFacts where
  dump f := object [("facts_as_of", f.factsAsOf.elim .null dumpDate),
    ("ev_registered_and_charged_at_premises", dump f.evRegisteredAndChargedAtPremises),
    ("whole_house_metering", dump f.wholeHouseMetering),
    ("annual_usage_period", dump f.annualUsagePeriod),
    ("annual_usage_wh", dump f.annualUsageWh),
    ("annual_baseline_allowance_wh", dump f.annualBaselineAllowanceWh)]

/-! ### Eligibility predicates -/

/-- A bound on annual usage as a ratio to the annual baseline allowance; numerator and
denominator are given together or not at all. -/
structure AnnualBaselineRatio where
  numerator : ℕ
  denominator : ℕ
  numerator_pos : 0 < numerator
  denominator_pos : 0 < denominator

/-- What version 2 of the predicate adds. -/
structure EligibilityExtension where
  requiredAnyQualifyingTechnologies : List QualifyingTechnology
  requiresDatedTechnologyAttestation : Bool
  requiresEvRegistrationAtPremises : Bool
  requiresWholeHouseMetering : Bool
  maximumAnnualBaselineRatio : Option AnnualBaselineRatio
  technologies_sorted :
    (requiredAnyQualifyingTechnologies.map QualifyingTechnology.text).Pairwise (· ≤ ·)

/-- An eligibility predicate: version 2 when it has an extension, else version 1. -/
structure EligibilityPredicate where
  predicateId : String
  supportedIncomeTiers : List IncomeTier
  requiredQualifyingTechnology : Option QualifyingTechnology
  extension : Option EligibilityExtension
  sourceRuleIds : List String
  supportedIncomeTiers_ne : supportedIncomeTiers ≠ []
  sourceRuleIds_ne : sourceRuleIds ≠ []

namespace EligibilityPredicate

variable (p : EligibilityPredicate)

def predicateVersion : String :=
  if p.extension.isSome then "eligibility-predicate-v2" else "eligibility-predicate-v1"

def requiredServiceProvider (_ : EligibilityPredicate) : String := "PG&E"
def requiredServiceMode (_ : EligibilityPredicate) : String := "BUNDLED"
def requiredMeterCount (_ : EligibilityPredicate) : ℕ := 1
def requiresPrimaryMeterOnly (_ : EligibilityPredicate) : Bool := true
def requiresCareEnrolled (_ : EligibilityPredicate) : Bool := false
def requiresFeraEnrolled (_ : EligibilityPredicate) : Bool := false
def requiresMedicalBaseline (_ : EligibilityPredicate) : Bool := false
def requiresCcaService (_ : EligibilityPredicate) : Bool := false
def requiresDirectAccessService (_ : EligibilityPredicate) : Bool := false
def requiresActiveBillProtection (_ : EligibilityPredicate) : Bool := false
def requiresSolarOrExport (_ : EligibilityPredicate) : Bool := false

instance : Dump EligibilityPredicate where
  dump p := object ([("predicate_id", dump p.predicateId),
    ("predicate_version", dump p.predicateVersion),
    ("supported_income_tiers", dump p.supportedIncomeTiers),
    ("required_service_provider", dump p.requiredServiceProvider),
    ("required_service_mode", dump p.requiredServiceMode),
    ("required_meter_count", dump p.requiredMeterCount),
    ("requires_primary_meter_only", dump p.requiresPrimaryMeterOnly),
    ("requires_care_enrolled", dump p.requiresCareEnrolled),
    ("requires_fera_enrolled", dump p.requiresFeraEnrolled),
    ("requires_medical_baseline", dump p.requiresMedicalBaseline),
    ("requires_cca_service", dump p.requiresCcaService),
    ("requires_direct_access_service", dump p.requiresDirectAccessService),
    ("requires_active_bill_protection", dump p.requiresActiveBillProtection),
    ("requires_solar_or_export", dump p.requiresSolarOrExport),
    ("required_qualifying_technology", dump p.requiredQualifyingTechnology),
    ("source_rule_ids", dump p.sourceRuleIds)] ++ p.extension.elim [] fun x =>
      [("required_any_qualifying_technologies", dump x.requiredAnyQualifyingTechnologies),
        ("requires_dated_technology_attestation", dump x.requiresDatedTechnologyAttestation),
        ("requires_ev_registration_at_premises", dump x.requiresEvRegistrationAtPremises),
        ("requires_whole_house_metering", dump x.requiresWholeHouseMetering),
        ("maximum_annual_baseline_ratio_numerator",
          dump (x.maximumAnnualBaselineRatio.map AnnualBaselineRatio.numerator)),
        ("maximum_annual_baseline_ratio_denominator",
          dump (x.maximumAnnualBaselineRatio.map AnnualBaselineRatio.denominator))])

end EligibilityPredicate

/-! ### Charge rules -/

/-- To which accounts and bill cycles a rule applies; an empty list leaves it open. -/
structure RuleApplicability where
  incomeTiers : List IncomeTier
  baselineTerritories : List BaselineTerritory
  baselineQuantityCodes : List BaselineQuantityCode
  billCycleMonths : List ℤ
  incomeTiers_sorted : (incomeTiers.map IncomeTier.text).Pairwise (· < ·)
  baselineTerritories_sorted :
    (baselineTerritories.map BaselineTerritory.text).Pairwise (· < ·)
  baselineQuantityCodes_sorted :
    (baselineQuantityCodes.map BaselineQuantityCode.text).Pairwise (· < ·)
  billCycleMonths_sorted : billCycleMonths.Pairwise (· < ·)
  billCycleMonths_range : ∀ m ∈ billCycleMonths, 1 ≤ m ∧ m ≤ 12
  deriving DecidableEq

instance : Dump RuleApplicability where
  dump a := object [("income_tiers", dump a.incomeTiers),
    ("baseline_territories", dump a.baselineTerritories),
    ("baseline_quantity_codes", dump a.baselineQuantityCodes),
    ("bill_cycle_months", dump a.billCycleMonths)]

/-- What every charge rule has. -/
structure RuleBase where
  ruleId : String
  effectiveRange : DateRange
  applicability : RuleApplicability
  source : SourceLink
  rounding : RoundingOperator
  chargeComponentKey : ChargeComponentKey

/-- The dumped fields of a rule base. -/
def RuleBase.fields (r : RuleBase) : List (String × Json) :=
  [("rule_id", dump r.ruleId), ("effective_range", dump r.effectiveRange),
    ("applicability", dump r.applicability), ("source", dump r.source),
    ("rounding", dump r.rounding), ("charge_component_key", dump r.chargeComponentKey)]

structure BaselineAllowance extends RuleBase where
  dailyAllowanceWh : ℕ
  dailyAllowanceWh_pos : 0 < dailyAllowanceWh

structure EnergyTier where
  upperBoundKind : UpperBoundKind
  upperBoundNumerator : ℕ
  upperBoundDenominator : ℕ
  rateMicrodollarsPerKwh : ℕ
  numerator_pos : 0 < upperBoundNumerator
  denominator_pos : 0 < upperBoundDenominator

/-- The final tier, and no other, is unbounded. -/
structure TieredEnergyCharge extends RuleBase where
  lineItemKey : String
  tiers : List EnergyTier
  tiers_ne : tiers ≠ []
  final_unbounded : (tiers.getLast tiers_ne).upperBoundKind = .unbounded
  only_final_unbounded : ∀ tier ∈ tiers.dropLast, tier.upperBoundKind ≠ .unbounded

structure TimeOfUseWindow where
  period : TimeOfUsePeriod
  startMinuteInclusive : ℕ
  endMinuteExclusive : ℕ
  daySelector : DaySelector
  period_ne : period ≠ .offPeak
  nonempty : startMinuteInclusive < endMinuteExclusive
  end_le : endMinuteExclusive ≤ 1440
  deriving DecidableEq

instance : Dump TimeOfUseWindow where
  dump w := object [("period", dump w.period),
    ("start_minute_inclusive", dump w.startMinuteInclusive),
    ("end_minute_exclusive", dump w.endMinuteExclusive), ("day_selector", dump w.daySelector)]

/-- Neighbouring windows of one day selector, in the order of their starts, do not overlap. -/
def DisjointWindows (windows : List TimeOfUseWindow) : Prop :=
  (sortedBy (fun w => toLex (w.daySelector.text, w.startMinuteInclusive)) windows).IsChain
    fun previous current => ¬ (previous.daySelector = current.daySelector ∧
      previous.endMinuteExclusive > current.startMinuteInclusive)

instance (windows : List TimeOfUseWindow) : Decidable (DisjointWindows windows) :=
  inferInstanceAs (Decidable (List.IsChain _ _))

structure TimeOfUseSchedule extends RuleBase where
  windows : List TimeOfUseWindow
  calendarId : Option String
  calendarContentSha256 : Option String
  windows_ne : windows ≠ []
  windows_disjoint : DisjointWindows windows
  calendar_iff : (∃ w ∈ windows, w.daySelector = .nonholidayWeekday) ↔ calendarId.isSome = true
  calendar_together : calendarId.isNone = calendarContentSha256.isNone

structure TimeOfUsePeriodRate where
  period : TimeOfUsePeriod
  rateMicrodollarsPerKwh : ℕ
  deriving DecidableEq

instance : Dump TimeOfUsePeriodRate where
  dump r := object [("period", dump r.period),
    ("rate_microdollars_per_kwh", dump r.rateMicrodollarsPerKwh)]

/-- A baseline credit: rate, baseline rule and component are given together or not at
all, and the component has one admissible value. -/
structure BaselineCredit where
  microdollarsPerKwh : ℤ
  ruleId : String
  microdollarsPerKwh_nonpos : microdollarsPerKwh ≤ 0
  deriving DecidableEq

def BaselineCredit.chargeComponentKey (_ : BaselineCredit) : ChargeComponentKey :=
  .baselineAdjustment

structure TimeOfUseEnergyCharge extends RuleBase where
  lineItemKey : String
  scheduleRuleId : String
  periodRates : List TimeOfUsePeriodRate
  baselineCredit : Option BaselineCredit
  two_le_periodRates : 2 ≤ periodRates.length
  periods_sorted :
    (periodRates.map fun rate => rate.period.order).Pairwise (· < ·)

structure FixedDailyCharge extends RuleBase where
  lineItemKey : String
  rateMicrodollarsPerDay : ℤ

structure FixedMonthlyCharge extends RuleBase where
  lineItemKey : String
  amountMicrodollars : ℤ

structure ExplicitUnsupportedCharge extends RuleBase where
  lineItemKey : String
  reasonCode : String

/-- The rules of a tariff definition. -/
inductive TariffRule where
  | baselineAllowance (rule : BaselineAllowance)
  | tieredEnergyCharge (rule : TieredEnergyCharge)
  | timeOfUseSchedule (rule : TimeOfUseSchedule)
  | timeOfUseEnergyCharge (rule : TimeOfUseEnergyCharge)
  | fixedDailyCharge (rule : FixedDailyCharge)
  | fixedMonthlyCharge (rule : FixedMonthlyCharge)
  | explicitUnsupportedCharge (rule : ExplicitUnsupportedCharge)

def TariffRule.base : TariffRule → RuleBase
  | .baselineAllowance r => r.toRuleBase
  | .tieredEnergyCharge r => r.toRuleBase
  | .timeOfUseSchedule r => r.toRuleBase
  | .timeOfUseEnergyCharge r => r.toRuleBase
  | .fixedDailyCharge r => r.toRuleBase
  | .fixedMonthlyCharge r => r.toRuleBase
  | .explicitUnsupportedCharge r => r.toRuleBase

def TariffRule.ruleId (rule : TariffRule) : String := rule.base.ruleId

instance : Dump EnergyTier where
  dump t := object [("upper_bound_kind", dump t.upperBoundKind),
    ("upper_bound_numerator", dump t.upperBoundNumerator),
    ("upper_bound_denominator", dump t.upperBoundDenominator),
    ("rate_microdollars_per_kwh", dump t.rateMicrodollarsPerKwh)]

/-- The fields of a baseline credit; the component key is left out when there is none. -/
def baselineCreditFields (credit : Option BaselineCredit) : List (String × Json) :=
  [("baseline_credit_microdollars_per_kwh", dump (credit.map BaselineCredit.microdollarsPerKwh)),
    ("baseline_rule_id", dump (credit.map BaselineCredit.ruleId))] ++
  credit.elim [] fun c =>
    [("baseline_credit_charge_component_key", dump c.chargeComponentKey)]

instance : Dump TariffRule where
  dump
    | .baselineAllowance r => object (r.fields ++ [("rule_type", .str "BaselineAllowance"),
        ("daily_allowance_wh", dump r.dailyAllowanceWh), ("unit", .str "Wh/day")])
    | .tieredEnergyCharge r => object (r.fields ++ [("rule_type", .str "TieredEnergyCharge"),
        ("line_item_key", dump r.lineItemKey), ("quantity_unit", .str "Wh"),
        ("rate_unit", .str "microdollars/kWh"), ("tiers", dump r.tiers)])
    | .timeOfUseSchedule r => object (r.fields ++ [("rule_type", .str "TimeOfUseSchedule"),
        ("timezone", .str "America/Los_Angeles"), ("windows", dump r.windows),
        ("default_period", dump TimeOfUsePeriod.offPeak), ("calendar_id", dump r.calendarId),
        ("calendar_content_sha256", dump r.calendarContentSha256)])
    | .timeOfUseEnergyCharge r => object (r.fields ++
        [("rule_type", .str "TimeOfUseEnergyCharge"), ("line_item_key", dump r.lineItemKey),
          ("schedule_rule_id", dump r.scheduleRuleId), ("quantity_unit", .str "Wh"),
          ("rate_unit", .str "microdollars/kWh"), ("period_rates", dump r.periodRates)] ++
        baselineCreditFields r.baselineCredit)
    | .fixedDailyCharge r => object (r.fields ++ [("rule_type", .str "FixedDailyCharge"),
        ("line_item_key", dump r.lineItemKey),
        ("rate_microdollars_per_day", dump r.rateMicrodollarsPerDay),
        ("rate_unit", .str "microdollars/day")])
    | .fixedMonthlyCharge r => object (r.fields ++ [("rule_type", .str "FixedMonthlyCharge"),
        ("line_item_key", dump r.lineItemKey), ("amount_microdollars", dump r.amountMicrodollars),
        ("rate_unit", .str "microdollars/bill_cycle")])
    | .explicitUnsupportedCharge r => object (r.fields ++
        [("rule_type", .str "ExplicitUnsupportedCharge"), ("line_item_key", dump r.lineItemKey),
          ("reason_code", dump r.reasonCode)])

/-! ### Tariff definitions -/

structure TariffVersion where
  tariffVersionId : String
  planCode : String
  admittedServiceWindows : List DateRange
  componentVersions : List TariffComponentVersion
  eligibilityPredicate : EligibilityPredicate
  eligibilityQuestions : List String
  comparisonComponentKeys : List ChargeComponentKey
  optimizationCapability : OptimizationCapability
  optimizationUnsupportedReason : Option String
  chargeRules : List TariffRule
  sourceIds : List String
  sourceHashes : List String
  goldenCaseIds : List String
  admittedServiceWindows_ne : admittedServiceWindows ≠ []
  componentVersions_ne : componentVersions ≠ []
  comparisonComponentKeys_ne : comparisonComponentKeys ≠ []
  chargeRules_ne : chargeRules ≠ []
  ruleIds_nodup : (chargeRules.map TariffRule.ruleId).Nodup
  componentVersionIds_nodup :
    (componentVersions.map TariffComponentVersion.componentVersionId).Nodup
  sourceIds_ne : sourceIds ≠ []
  sourceIds_sorted : sourceIds.Pairwise (· < ·)
  sourceHashes_ne : sourceHashes ≠ []
  sourceHashes_sorted : sourceHashes.Pairwise (· < ·)
  goldenCaseIds_ne : goldenCaseIds ≠ []
  goldenCaseIds_sorted : goldenCaseIds.Pairwise (· < ·)
  reason_of_unsupported : optimizationCapability = .unsupportedWithReason →
    optimizationUnsupportedReason.getD "" ≠ ""
  no_reason_of_supported : optimizationCapability = .supported →
    optimizationUnsupportedReason.getD "" = ""

instance : Dump TariffVersion where
  dump t := object [("schema_version", .str "tariff-schema-v1"),
    ("compiler_version", .str "tariff-compiler-v1"),
    ("tariff_version_id", dump t.tariffVersionId), ("utility", .str "PG&E"),
    ("plan_code", dump t.planCode),
    ("admitted_service_windows", dump t.admittedServiceWindows),
    ("component_versions", dump t.componentVersions),
    ("timezone", .str "America/Los_Angeles"), ("currency", .str "USD"),
    ("eligibility_predicate", dump t.eligibilityPredicate),
    ("eligibility_questions", dump t.eligibilityQuestions),
    ("comparison_component_keys", dump t.comparisonComponentKeys),
    ("optimization_capability", dump t.optimizationCapability),
    ("optimization_unsupported_reason", dump t.optimizationUnsupportedReason),
    ("charge_rules", dump t.chargeRules), ("source_ids", dump t.sourceIds),
    ("source_hashes", dump t.sourceHashes), ("golden_case_ids", dump t.goldenCaseIds)]

end RateReplay
