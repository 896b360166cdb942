import RateReplay.Lib.Dict
import RateReplay.Tariff.Schema

/-!
# The compiled charge IR

What the compiler produces: the charge rules as IR operators, the reports about the
locks they were checked against, and a content hash of everything.  Windows, period
rates and baseline credits are carried over from the schema unchanged, so the IR uses
the schema's types for them.

The standard library and the time-zone database are parameters, gathered in `Env`.

## Main definitions

* `Env`, `canonicalContentSha256` — the hash function, text functions and time zone.
* `CompiledRule`, `CanonicalChargeIR` — the IR.
* `CompilationBundle` — IR, reports and content hash.
-/

namespace RateReplay

/-- The library functions the programs call. -/
structure Env where
  /-- SHA-256 of the UTF-8 bytes of a text, in hexadecimal. -/
  sha256 : String → String
  /-- `str.lower`. -/
  lower : String → String
  /-- `ZoneInfo("America/Los_Angeles")`. -/
  zone : Zone

/-- The hash of a domain tag, a zero byte and the canonical JSON text. -/
def canonicalContentSha256 (env : Env) (domain : String) (value : Json) : String :=
  env.sha256 (domain ++ "\x00" ++ canonicalJson value)

/-! ### Operators -/

structure IRBaselineAllowance extends RuleBase where
  dailyAllowanceWh : ℕ

structure IREnergyTier where
  upperBoundOperator : UpperBoundKind
  upperBoundNumerator : ℕ
  upperBoundDenominator : ℕ
  rateMicrodollarsPerKwh : ℕ

structure IRTieredEnergyCharge extends RuleBase where
  lineItemKey : String
  tiers : List IREnergyTier

structure IRTimeOfUseSchedule extends RuleBase where
  windows : List TimeOfUseWindow
  calendarId : Option String
  calendarContentSha256 : Option String
  holidayDates : List String

/-- Outside its windows a schedule is off-peak. -/
def IRTimeOfUseSchedule.defaultPeriod (_ : IRTimeOfUseSchedule) : TimeOfUsePeriod := .offPeak

structure IRTimeOfUseEnergyCharge extends RuleBase where
  lineItemKey : String
  scheduleRuleId : String
  periodRates : List TimeOfUsePeriodRate
  baselineCredit : Option BaselineCredit

structure IRFixedDailyCharge extends RuleBase where
  lineItemKey : String
  rateMicrodollarsPerDay : ℤ

structure IRFixedMonthlyCharge extends RuleBase where
  lineItemKey : String
  amountMicrodollars : ℤ

structure IRExplicitUnsupportedCharge extends RuleBase where
  lineItemKey : String
  reasonCode : String

/-- The operators of the IR. -/
inductive CompiledRule where
  | baselineAllowance (rule : IRBaselineAllowance)
  | tieredEnergyCharge (rule : IRTieredEnergyCharge)
  | timeOfUseSchedule (rule : IRTimeOfUseSchedule)
  | timeOfUseEnergyCharge (rule : IRTimeOfUseEnergyCharge)
  | fixedDailyCharge (rule : IRFixedDailyCharge)
  | fixedMonthlyCharge (rule : IRFixedMonthlyCharge)
  | explicitUnsupportedCharge (rule : IRExplicitUnsupportedCharge)

namespace CompiledRule

def base : CompiledRule → RuleBase
  | .baselineAllowance r => r.toRuleBase
  | .tieredEnergyCharge r => r.toRuleBase
  | .timeOfUseSchedule r => r.toRuleBase
  | .timeOfUseEnergyCharge r => r.toRuleBase
  | .fixedDailyCharge r => r.toRuleBase
  | .fixedMonthlyCharge r => r.toRuleBase
  | .explicitUnsupportedCharge r => r.toRuleBase

def ruleId (rule : CompiledRule) : String := rule.base.ruleId

/-- The operator tag. -/
def operator : CompiledRule → String
  | .baselineAllowance _ => "BASELINE_ALLOWANCE"
  | .tieredEnergyCharge _ => "TIER_ALLOCATE_AND_MULTIPLY_RATIONAL"
  | .timeOfUseSchedule _ => "CLASSIFY_LOCAL_TIME_PERIOD"
  | .timeOfUseEnergyCharge _ => "TIME_OF_USE_MULTIPLY_WITH_OPTIONAL_BASELINE_CREDIT"
  | .fixedDailyCharge _ => "MULTIPLY_DAYS_BY_INTEGER_RATE"
  | .fixedMonthlyCharge _ => "APPLICABILITY_GATED_INTEGER_AMOUNT"
  | .explicitUnsupportedCharge _ => "EMIT_UNSUPPORTED_PLACEHOLDER"

/-- The fields an operator adds to its base. -/
def ownFields : CompiledRule → List (String × Json)
  | .baselineAllowance r => [("daily_allowance_wh", dump r.dailyAllowanceWh)]
  | .tieredEnergyCharge r => [("line_item_key", dump r.lineItemKey),
      ("tiers", .arr (r.tiers.map fun t => object
        [("upper_bound_operator", dump t.upperBoundOperator),
          ("upper_bound_numerator", dump t.upperBoundNumerator),
          ("upper_bound_denominator", dump t.upperBoundDenominator),
          ("rate_microdollars_per_kwh", dump t.rateMicrodollarsPerKwh)]))]
  | .timeOfUseSchedule r => [("timezone", .str "America/Los_Angeles"),
      ("windows", dump r.windows), ("default_period", dump r.defaultPeriod),
      ("calendar_id", dump r.calendarId),
      ("calendar_content_sha256", dump r.calendarContentSha256),
      ("holiday_dates", dump r.holidayDates)]
  | .timeOfUseEnergyCharge r => [("line_item_key", dump r.lineItemKey),
      ("schedule_rule_id", dump r.scheduleRuleId), ("period_rates", dump r.periodRates)] ++
      baselineCreditFields r.baselineCredit
  | .fixedDailyCharge r => [("line_item_key", dump r.lineItemKey),
      ("rate_microdollars_per_day", dump r.rateMicrodollarsPerDay)]
  | .fixedMonthlyCharge r => [("line_item_key", dump r.lineItemKey),
      ("amount_microdollars", dump r.amountMicrodollars)]
  | .explicitUnsupportedCharge r => [("line_item_key", dump r.lineItemKey),
      ("reason_code", dump r.reasonCode)]

instance : Dump CompiledRule where
  dump r := object (r.base.fields ++ [("operator", dump r.operator)] ++ r.ownFields)

end CompiledRule

structure CanonicalChargeIR where
  tariffVersionId : String
  maximumEnergyWh : ℕ
  maximumBillingDays : ℕ
  operators : List CompiledRule

def CanonicalChargeIR.irVersion (_ : CanonicalChargeIR) : String := "compiled-charge-ir-v1"

instance : Dump CanonicalChargeIR where
  dump ir := object [("ir_version", dump ir.irVersion),
    ("tariff_version_id", dump ir.tariffVersionId),
    ("maximum_energy_wh", dump ir.maximumEnergyWh),
    ("maximum_billing_days", dump ir.maximumBillingDays), ("operators", dump ir.operators)]

/-! ### Reports -/

structure CoverageReport where
  serviceWindows : List DateRange
  completeComponentKeys : List String
  activeComponentCountByKey : List ℕ

instance : Dump CoverageReport where
  dump r := object [("service_windows", dump r.serviceWindows),
    ("complete_component_keys", dump r.completeComponentKeys),
    ("active_component_count_by_key", dump r.activeComponentCountByKey)]

structure SourceCoverage where
  sourceId : String
  sourceSha256 : String
  sourceUrl : String
  linkedRuleIds : List String
  deriving DecidableEq

instance : Dump SourceCoverage where
  dump s := object [("source_id", dump s.sourceId), ("source_sha256", dump s.sourceSha256),
    ("source_url", dump s.sourceUrl), ("linked_rule_ids", dump s.linkedRuleIds)]

structure GoldenCoverage where
  goldenCaseIds : List String
  ruleCaseIds : Dict String (List String)
  deriving DecidableEq

instance : Dump GoldenCoverage where
  dump g := object [("golden_case_ids", dump g.goldenCaseIds),
    ("rule_case_ids", object (g.ruleCaseIds.entries.map fun e => (e.1, dump e.2)))]

structure CompilationReports where
  normalizedAstSha256 : String
  eligibilityPredicateId : String
  componentVector : CoverageReport
  sourceCoverage : List SourceCoverage
  goldenCoverage : GoldenCoverage
  solverLoweringSupportedOperators : List String
  solverLoweringUnsupportedReasons : List String

instance : Dump CompilationReports where
  dump r := object [("normalized_ast_sha256", dump r.normalizedAstSha256),
    ("eligibility_predicate_id", dump r.eligibilityPredicateId),
    ("component_vector", dump r.componentVector), ("source_coverage", dump r.sourceCoverage),
    ("golden_coverage", dump r.goldenCoverage),
    ("solver_lowering_supported_operators", dump r.solverLoweringSupportedOperators),
    ("solver_lowering_unsupported_reasons", dump r.solverLoweringUnsupportedReasons)]

/-- The result of compiling a tariff.  The normalised AST is the definition itself;
the source keeps its JSON dump and parses the parts it needs again. -/
structure CompilationBundle where
  normalizedAst : TariffVersion
  ir : CanonicalChargeIR
  reports : CompilationReports
  compilerContentSha256 : String

end RateReplay
