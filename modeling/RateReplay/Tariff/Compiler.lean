import RateReplay.Lib.Outcome
import RateReplay.Tariff.Compiled

/-!
# The tariff compiler

`compile_tariff` checks a tariff definition against the source, component, account and
golden locks below the repository root and lowers its rules to IR operators.  It fails
closed: every check raises.  The lock files are plain JSON, read with `dict.get` and
`isinstance`; a file that cannot be read or is not JSON is missing from `Root`.

Exceptions other than `TariffCompileError` (a missing key, a value of the wrong type)
are not told apart.

## Main definitions

* `TariffCompileError`, `CompileRaised` — what the compiler raises.
* `validateWindows`, `validateComponentComposition`, `validateTargetAccount`,
  `validateBounds`, `validateTimeOperators`, `validateComparisonComponents`,
  `loadGoldenCoverage` — the checks.
* `lowerRule`, `compileTariff` — lowering, and the whole compiler.

## Main results

* `compileTariff_compiles` — **what the rest of the development uses of a compiled bundle.**
* `Compiles.ruleIds_nodup`, `Compiles.schedule_of_charge` — what the checks guarantee.
-/

namespace RateReplay

/-! ### Errors -/

/-- The errors of the compiler. -/
inductive TariffCompileError where
  | invalidJson (path : String)
  | notAnObject (path : String)
  | sourceLockMissing
  | sourceLockMalformed
  | duplicateSource (sourceId : String)
  | sourceMissing (sourceId : String)
  | sourceHashMismatch (sourceId : String)
  | sourceRuleMismatch (ruleId sourceId : String)
  | sourceUnretrievable (sourceId : String)
  | unboundedAdmission
  | admissionWindowOverlap
  | componentOverlap
  | componentCoverageGap (componentKey : String) (start : ℤ)
  | ruleCoverageGap (ruleId : String) (start : ℤ)
  | componentLockInvalid
  | componentLockMissing
  | componentWindowMismatch
  | lockedComponentsMalformed
  | componentNotLocked (componentKey : String)
  | componentLockMismatch (componentKey : String)
  | ruleComponentAmbiguity (ruleId : String)
  | ruleComponentSourceMismatch (ruleId : String)
  | eligibilityPredicateMismatch
  | eligibilityFactsMismatch
  | tierBoundOverflow (ruleId : String)
  | int64Overflow
  | touScheduleMissing (scheduleRuleId : String)
  | touPeriodCoverageMismatch (scheduleRuleId : String)
  | baselineRuleMissing (baselineRuleId : String)
  | touScheduleUnused
  | comparisonComponentCoverageMismatch (missing unmodeled : List String)
  | goldenLockMissing
  | goldenCompleteBillInvalid
  | goldenBoundaryCasesInvalid
  | goldenLockMismatch
  | goldenSourceMismatch
  | goldenRuleIdsInvalid
  | goldenCoverageGap (missing : List String)
  | calendarLockMissing
  | calendarHashMismatch
  | calendarLockInvalid
  deriving DecidableEq

/-- What `compile_tariff` raises: its own errors, or some other exception. -/
inductive CompileRaised where
  | compileError (e : TariffCompileError)
  | otherException
  deriving DecidableEq

instance : Coe TariffCompileError CompileRaised := ⟨.compileError⟩

/-! ### Reading lock files -/

/-- The files below the repository root, by relative path, as parsed JSON. -/
abbrev Root := String → Option Json

/-- The fields of a JSON object. -/
abbrev Fields := List (String × Json)

namespace Fields

/-- `fields.get(key)`, where `None` stands for a missing field too. -/
def get (fields : Fields) (key : String) : Json :=
  ((fields.find? fun e => e.1 = key).map Prod.snd).getD .null

/-- `key in fields`. -/
def has (fields : Fields) (key : String) : Bool := fields.any fun e => e.1 = key

end Fields

namespace Json

/-- `value if isinstance(value, dict) else None`. -/
def asDict : Json → Option Fields
  | .obj kvs => some kvs
  | _ => none

/-- `value if isinstance(value, list) else None`. -/
def asList : Json → Option (List Json)
  | .arr xs => some xs
  | _ => none

/-- `value if isinstance(value, str) else None`. -/
def asStr : Json → Option String
  | .str s => some s
  | _ => none

/-- `bool(value)`. -/
def truthy : Json → Bool
  | .null => false
  | .bool b => b
  | .int n => n ≠ 0
  | .str s => s ≠ ""
  | .arr xs => !xs.isEmpty
  | .obj kvs => !kvs.isEmpty

/-- Whether a value can be a dictionary key or set element. -/
def hashable : Json → Bool
  | .arr _ | .obj _ => false
  | _ => true

/-- `list(value)`, where the value can be iterated over. -/
def iterate : Json → Option (List Json)
  | .arr xs => some xs
  | .str s => some (s.toList.map fun c => .str (String.ofList [c]))
  | .obj kvs => some (kvs.map fun e => .str e.1)
  | _ => none

mutual

/-- The form in which values Python compares as equal coincide: `True` is 1, and the
order of the keys of a dictionary does not matter. -/
def normal : Json → Json
  | .bool b => .int (if b then 1 else 0)
  | .arr xs => .arr (normalItems xs)
  | .obj kvs => object (normalFields kvs)
  | v => v

def normalItems : List Json → List Json
  | [] => []
  | x :: xs => normal x :: normalItems xs

def normalFields : List (String × Json) → List (String × Json)
  | [] => []
  | (k, v) :: kvs => (k, normal v) :: normalFields kvs

end

/-- `a == b`. -/
def pyEq (a b : Json) : Bool := decide (normal a = normal b)

end Json

/-- `_read_object`. -/
def readObject (root : Root) (path : String) : Except CompileRaised Fields :=
  match root path with
  | none => .error (TariffCompileError.invalidJson path)
  | some v => match v.asDict with
    | none => .error (TariffCompileError.notAnObject path)
    | some fields => .ok fields

/-- The value, or an exception. -/
def orRaise {α : Type} (o : Option α) (e : CompileRaised) : Except CompileRaised α :=
  o.elim (.error e) .ok

/-! ### Sources -/

/-- The locked sources by identifier. -/
abbrev SourceRecords := Dict String Fields

/-- One turn of the loop of `_source_records`. -/
def addSourceRecord (records : SourceRecords) (item : Json) :
    Except CompileRaised SourceRecords := do
  let fields ← orRaise item.asDict TariffCompileError.sourceLockMalformed
  let sourceId ← orRaise (fields.get "source_id").asStr TariffCompileError.sourceLockMalformed
  failIf (sourceId ∈ records.keys) (CompileRaised.compileError (.duplicateSource sourceId))
  .ok (records.set sourceId fields)

/-- `_source_records`: the source lock and its records by identifier. -/
def sourceRecords (root : Root) : Except CompileRaised (Fields × SourceRecords) := do
  let sourceLock ← readObject root "tariffs/sources.lock.json"
  let sources ← orRaise (sourceLock.get "sources").asList TariffCompileError.sourceLockMissing
  let byId ← sources.foldlM addSourceRecord Dict.empty
  .ok (sourceLock, byId)

/-- `_validate_source_link`. -/
def validateSourceLink (sourceId sourceSha256 ruleId : String) (records : SourceRecords) :
    Except CompileRaised Unit := do
  let record ← orRaise (records.get? sourceId) (TariffCompileError.sourceMissing sourceId)
  failIf (record.get "sha256" ≠ .str sourceSha256)
    (CompileRaised.compileError (.sourceHashMismatch sourceId))
  failIf (¬ (record.get "rule_ids").asList.any fun ids => .str ruleId ∈ ids)
    (CompileRaised.compileError (.sourceRuleMismatch ruleId sourceId))
  failIf ((record.get "source_url").truthy = false ∧ (record.get "archive_location").truthy = false)
    (CompileRaised.compileError (.sourceUnretrievable sourceId))

/-! ### Windows and components -/

/-- The checks on neighbouring admitted windows, in the order of their starts. -/
def validateAdmittedWindows (previous : Option ℤ) : List DateRange → Except CompileRaised Unit
  | [] => .ok ()
  | window :: windows => do
    failIf (window.stop = none) (CompileRaised.compileError .unboundedAdmission)
    failIf (∃ e ∈ previous, e > window.start)
      (CompileRaised.compileError .admissionWindowOverlap)
    validateAdmittedWindows window.stop windows

/-- `_validate_windows`. -/
def validateWindows (tariff : TariffVersion) : Except CompileRaised Unit := do
  validateAdmittedWindows none (sortedBy DateRange.start tariff.admittedServiceWindows)
  failIf (¬ (tariff.componentVersions.map TariffComponentVersion.componentKey).Nodup)
    (CompileRaised.compileError .componentOverlap)
  checkAll (fun component => checkAll (fun window =>
      failIf (component.effectiveRange.covers window = false) (CompileRaised.compileError
        (.componentCoverageGap component.componentKey window.start)))
    tariff.admittedServiceWindows) tariff.componentVersions
  checkAll (fun rule : TariffRule => checkAll (fun window =>
      failIf (rule.base.effectiveRange.covers window = false) (CompileRaised.compileError
        (.ruleCoverageGap rule.ruleId window.start)))
    tariff.admittedServiceWindows) tariff.chargeRules

/-- The ISO texts of a range's ends, as the locks give them. -/
def lockedRange (range : DateRange) : Json :=
  .arr [dumpDate range.start, range.stop.elim .null dumpDate]

/-- The first admitted window. -/
def TariffVersion.firstWindow (tariff : TariffVersion) : DateRange :=
  tariff.admittedServiceWindows.head tariff.admittedServiceWindows_ne

/-- Compares one component with its lock and returns the rules it extracts, each with
the component's key. -/
def validateComponent (records : SourceRecords) (lockedComponents : List Fields)
    (component : TariffComponentVersion) : Except CompileRaised (List (String × String)) := do
  -- a later lock of the same component replaces an earlier one
  let locked ← orRaise
    (lockedComponents.reverse.find? fun item =>
      item.get "component_id" = .str component.componentKey)
    (TariffCompileError.componentNotLocked component.componentKey)
  failIf ((locked.get "effective_range").pyEq (lockedRange component.effectiveRange) = false ∨
      (locked.get "precedence").pyEq (dump component.precedence) = false ∨
      locked.get "source_id" ≠ .str component.source.sourceId)
    (CompileRaised.compileError (.componentLockMismatch component.componentKey))
  checkAll (fun ruleId => validateSourceLink component.source.sourceId
    component.source.sourceSha256 ruleId records) component.extractedRuleIds
  .ok (component.extractedRuleIds.map fun ruleId => (ruleId, component.componentKey))

/-- The rules that must be extracted and covered by golden cases. -/
def TariffVersion.requiredRuleIds (tariff : TariffVersion) : List String :=
  tariff.chargeRules.map TariffRule.ruleId ++ tariff.eligibilityPredicate.sourceRuleIds

/-- The components that extract a rule. -/
def ownersOf (owners : List (String × String)) (ruleId : String) : List String :=
  (owners.filter fun e => e.1 = ruleId).map Prod.snd

/-- The component of a key extracts the rule from the source the rule names. -/
def ownerSourceMatches (tariff : TariffVersion) (owners : List (String × String))
    (rule : TariffRule) : Bool :=
  (ownersOf owners rule.ruleId).head?.any fun ownerKey =>
    (tariff.componentVersions.find? fun item => item.componentKey = ownerKey).any fun owner =>
      rule.base.source.sourceId = owner.source.sourceId

/-- `_validate_component_composition`. -/
def validateComponentComposition (tariff : TariffVersion) (sourceLock : Fields)
    (records : SourceRecords) : Except CompileRaised Unit := do
  let vectors ← orRaise (sourceLock.get "tariff_component_vectors").asList
    TariffCompileError.componentLockInvalid
  let lockedVector ← orRaise ((vectors.filterMap Json.asDict).find? fun item =>
    item.get "tariff_id" = .str tariff.tariffVersionId) TariffCompileError.componentLockMissing
  failIf ((lockedVector.get "service_window").pyEq (lockedRange tariff.firstWindow) = false)
    (CompileRaised.compileError .componentWindowMismatch)
  let locked ← orRaise (lockedVector.get "components").asList
    TariffCompileError.lockedComponentsMalformed
  let lockedComponents := locked.filterMap Json.asDict
  failIf (∃ item ∈ lockedComponents, (item.get "component_id").hashable = false)
    CompileRaised.otherException
  let owners ← collect (validateComponent records lockedComponents) tariff.componentVersions
  checkAll (fun ruleId => failIf ((ownersOf owners.flatten ruleId).length ≠ 1)
    (CompileRaised.compileError (.ruleComponentAmbiguity ruleId))) tariff.requiredRuleIds
  checkAll (fun rule => failIf (ownerSourceMatches tariff owners.flatten rule = false)
    (CompileRaised.compileError (.ruleComponentSourceMismatch rule.ruleId))) tariff.chargeRules

/-- `_validate_target_account`. -/
def validateTargetAccount (root : Root) (tariff : TariffVersion) : Except CompileRaised Unit := do
  let lock ← readObject root "tariffs/admission/target-account-v1.json"
  let predicate := tariff.eligibilityPredicate
  failIf (predicate.predicateVersion = "eligibility-predicate-v1" ∧
      lock.get "predicate_id" ≠ .str predicate.predicateId)
    (CompileRaised.compileError .eligibilityPredicateMismatch)
  let lockedValues := object [("service_provider", dump predicate.requiredServiceProvider),
    ("service_mode", dump predicate.requiredServiceMode),
    ("meter_count", dump predicate.requiredMeterCount),
    ("primary_meter_only", dump predicate.requiresPrimaryMeterOnly),
    ("income_tier", dump (predicate.supportedIncomeTiers.head predicate.supportedIncomeTiers_ne)),
    ("care_enrolled", dump predicate.requiresCareEnrolled),
    ("fera_enrolled", dump predicate.requiresFeraEnrolled),
    ("medical_baseline", dump predicate.requiresMedicalBaseline),
    ("cca_service", dump predicate.requiresCcaService),
    ("direct_access_service", dump predicate.requiresDirectAccessService),
    ("active_bill_protection", dump predicate.requiresActiveBillProtection),
    ("solar_or_export", dump predicate.requiresSolarOrExport),
    ("service_window", lockedRange tariff.firstWindow)]
  failIf ((lock.get "required_facts").pyEq lockedValues = false)
    (CompileRaised.compileError .eligibilityFactsMismatch)

/-! ### Bounds -/

def signedInt64Max : ℤ := 2 ^ 63 - 1
def maximumCompiledEnergyWh : ℕ := 100000000
def maximumCompiledBillingDays : ℕ := 366

/-- The largest energy rate and the bound on fixed charges, so far. -/
structure BoundState where
  maximumRate : ℤ
  fixedBound : ℤ

/-- One turn of the loop of `_validate_bounds`. -/
def validateRuleBound (s : BoundState) : TariffRule → Except CompileRaised BoundState
  | .tieredEnergyCharge r => do
    checkAll (fun tier : EnergyTier => failIf
      ((tier.upperBoundNumerator : ℤ) > signedInt64Max / maximumCompiledEnergyWh)
      (CompileRaised.compileError (.tierBoundOverflow r.ruleId))) r.tiers
    .ok { s with maximumRate :=
      r.tiers.foldl (fun m tier => max m (tier.rateMicrodollarsPerKwh : ℤ)) s.maximumRate }
  | .timeOfUseEnergyCharge r =>
    let largestPeriodRate := r.periodRates.foldl
      (fun m period => max m (period.rateMicrodollarsPerKwh : ℤ)) 0
    let credit := (r.baselineCredit.elim 0 BaselineCredit.microdollarsPerKwh).natAbs
    .ok { s with maximumRate := max s.maximumRate (largestPeriodRate + credit) }
  | .fixedDailyCharge r =>
    .ok { s with fixedBound :=
      s.fixedBound + r.rateMicrodollarsPerDay.natAbs * maximumCompiledBillingDays }
  | .fixedMonthlyCharge r => .ok { s with fixedBound := s.fixedBound + r.amountMicrodollars.natAbs }
  | _ => .ok s

/-- `_validate_bounds`. -/
def validateBounds (tariff : TariffVersion) : Except CompileRaised Unit := do
  let s ← tariff.chargeRules.foldlM validateRuleBound ⟨0, 0⟩
  let energyBound := maximumCompiledEnergyWh * s.maximumRate
  failIf (max energyBound (max s.fixedBound (energyBound + s.fixedBound)) > signedInt64Max)
    (CompileRaised.compileError .int64Overflow)

/-! ### Time-of-use and comparison checks -/

/-- The schedules of a definition. -/
def TariffVersion.schedules (tariff : TariffVersion) : List TimeOfUseSchedule :=
  tariff.chargeRules.filterMap fun
    | .timeOfUseSchedule r => some r
    | _ => none

/-- The identifiers of the baseline rules of a definition. -/
def TariffVersion.baselineIds (tariff : TariffVersion) : List String :=
  tariff.chargeRules.filterMap fun
    | .baselineAllowance r => some r.ruleId
    | _ => none

/-- The time-of-use charges of a definition. -/
def TariffVersion.timeOfUseCharges (tariff : TariffVersion) : List TimeOfUseEnergyCharge :=
  tariff.chargeRules.filterMap fun
    | .timeOfUseEnergyCharge r => some r
    | _ => none

/-- The periods a schedule can classify to. -/
def TimeOfUseSchedule.periods (schedule : TimeOfUseSchedule) : List TimeOfUsePeriod :=
  .offPeak :: schedule.windows.map TimeOfUseWindow.period

/-- `set(xs) == set(ys)`. -/
def SameElements {α : Type*} (xs ys : List α) : Prop := (∀ x ∈ xs, x ∈ ys) ∧ ∀ y ∈ ys, y ∈ xs

instance {α : Type*} [DecidableEq α] (xs ys : List α) : Decidable (SameElements xs ys) :=
  inferInstanceAs (Decidable (_ ∧ _))

/-- The checks of `_validate_time_operators` on one charge. -/
def validateTimeOfUseCharge (tariff : TariffVersion) (rule : TimeOfUseEnergyCharge) :
    Except CompileRaised Unit := do
  let schedule ← orRaise
    (tariff.schedules.find? fun schedule => schedule.ruleId = rule.scheduleRuleId)
    (TariffCompileError.touScheduleMissing rule.scheduleRuleId)
  failIf (¬ SameElements (rule.periodRates.map TimeOfUsePeriodRate.period) schedule.periods)
    (CompileRaised.compileError (.touPeriodCoverageMismatch schedule.ruleId))
  checkAll (fun credit : BaselineCredit => failIf (credit.ruleId ∉ tariff.baselineIds)
    (CompileRaised.compileError (.baselineRuleMissing credit.ruleId))) rule.baselineCredit.toList

/-- `_validate_time_operators`. -/
def validateTimeOperators (tariff : TariffVersion) : Except CompileRaised Unit := do
  checkAll (validateTimeOfUseCharge tariff) tariff.timeOfUseCharges
  failIf (¬ SameElements (tariff.schedules.map fun schedule => schedule.ruleId)
      (tariff.timeOfUseCharges.map TimeOfUseEnergyCharge.scheduleRuleId))
    (CompileRaised.compileError .touScheduleUnused)

/-- The components a rule charges under. -/
def TariffRule.modeledComponents : TariffRule → List ChargeComponentKey
  | .tieredEnergyCharge r => [r.chargeComponentKey]
  | .timeOfUseEnergyCharge r => r.chargeComponentKey ::
      (r.baselineCredit.map BaselineCredit.chargeComponentKey).toList
  | .fixedDailyCharge r => [r.chargeComponentKey]
  | .fixedMonthlyCharge r => [r.chargeComponentKey]
  | _ => []

/-- The sorted texts of the elements of `xs` that are not in `ys`. -/
def missingComponents (xs ys : List ChargeComponentKey) : List String :=
  sortedBy id ((xs.filter fun x => x ∉ ys).map ChargeComponentKey.text).dedup

/-- `_validate_comparison_components`. -/
def validateComparisonComponents (tariff : TariffVersion) : Except CompileRaised Unit :=
  let modeled := tariff.chargeRules.flatMap TariffRule.modeledComponents
  let declared := tariff.comparisonComponentKeys
  failIf (¬ SameElements declared modeled) (CompileRaised.compileError
    (.comparisonComponentCoverageMismatch (missingComponents modeled declared)
      (missingComponents declared modeled)))

/-! ### Golden cases -/

/-- The golden cases of a tariff, complete bill first, and the sources of their suite. -/
def goldenCases (root : Root) (tariff : TariffVersion) :
    Except CompileRaised (List Json × Json) := do
  if tariff.planCode = "E-1" then
    let complete ← readObject root "tariffs/golden/e1-july-2026-complete-bill.json"
    let boundaries ← readObject root "tariffs/golden/e1-july-2026-boundaries.json"
    let boundaryCases ← orRaise (boundaries.get "cases").asList
      TariffCompileError.goldenBoundaryCasesInvalid
    .ok (.obj complete :: boundaryCases, .arr [])
  else
    let goldenLock ← readObject root "tariffs/admission/m3-golden-lock.json"
    let tariffs ← if goldenLock.has "tariffs"
      then orRaise (goldenLock.get "tariffs").iterate .otherException
      else .ok []
    let lockedTariff ← orRaise ((tariffs.filterMap Json.asDict).find? fun item =>
      item.get "plan_code" = .str tariff.planCode) TariffCompileError.goldenLockMissing
    let path ← orRaise (lockedTariff.get "golden_path").asStr .otherException
    let suite ← readObject root path
    let complete ← orRaise (suite.get "complete_bill").asDict
      TariffCompileError.goldenCompleteBillInvalid
    let boundaryCases ← orRaise (suite.get "boundary_cases").asList
      TariffCompileError.goldenBoundaryCasesInvalid
    .ok (.obj complete :: boundaryCases,
      if suite.has "source_ids" then suite.get "source_ids" else .arr [])

/-- `case["case_id"]`. -/
def goldenCaseId (case : Json) : Except CompileRaised String :=
  orRaise (case.asDict.bind fun fields => (fields.get "case_id").asStr) .otherException

/-- The sources a golden case names. -/
def goldenSourceIds (fields : Fields) (suiteSourceIds : Json) : Except CompileRaised (List Json) :=
  let sourceIds := if fields.has "source_ids" then fields.get "source_ids" else suiteSourceIds
  if sourceIds = .null then
    .ok ((fields.get "source_id").asStr.elim [] fun s => [.str s])
  else do
    let items ← orRaise sourceIds.iterate .otherException
    failIf (∃ item ∈ items, item.hashable = false) CompileRaised.otherException
    .ok items

/-- One turn of the loop of `_load_golden_coverage`. -/
def addGoldenCase (tariff : TariffVersion) (suiteSourceIds : Json)
    (byRule : Dict String (List String)) (case : Json) :
    Except CompileRaised (Dict String (List String)) := do
  let fields ← orRaise case.asDict .otherException
  let caseId ← goldenCaseId case
  let sourceIds ← goldenSourceIds fields suiteSourceIds
  failIf (∃ item ∈ sourceIds, item ∉ tariff.sourceIds.map Json.str)
    (CompileRaised.compileError .goldenSourceMismatch)
  if fields.get "rule_ids" = .null then .ok byRule
  else
    let ruleIds ← orRaise (fields.get "rule_ids").asList TariffCompileError.goldenRuleIdsInvalid
    .ok ((ruleIds.filterMap Json.asStr).foldl
      (fun d ruleId => d.set ruleId (d.getD ruleId [] ++ [caseId])) byRule)

/-- `_load_golden_coverage`. -/
def loadGoldenCoverage (root : Root) (tariff : TariffVersion) :
    Except CompileRaised GoldenCoverage := do
  let (cases, suiteSourceIds) ← goldenCases root tariff
  let caseIds ← collect goldenCaseId cases
  failIf (sortedBy id caseIds ≠ tariff.goldenCaseIds)
    (CompileRaised.compileError .goldenLockMismatch)
  let byRule ← cases.foldlM (addGoldenCase tariff suiteSourceIds) Dict.empty
  let missing := sortedBy id
    (tariff.requiredRuleIds.filter fun ruleId => byRule.getD ruleId [] = []).dedup
  failIf (missing ≠ []) (CompileRaised.compileError (.goldenCoverageGap missing))
  .ok ⟨sortedBy id caseIds, (byRule.mapValues fun _ ids => sortedBy id ids).sorted⟩

/-! ### Lowering -/

/-- The holidays of the calendar a schedule is locked to. -/
def holidayDates (root : Root) (rule : TimeOfUseSchedule) : Except CompileRaised (List String) :=
  match rule.calendarId with
  | none => .ok []
  | some calendarId => do
    let calendar ← readObject root "tariffs/calendars/ca-observed-holidays-2026.json"
    failIf (calendar.get "calendar_id" ≠ .str calendarId)
      (CompileRaised.compileError .calendarLockMissing)
    failIf (calendar.get "content_sha256" ≠ dump rule.calendarContentSha256)
      (CompileRaised.compileError .calendarHashMismatch)
    let holidays ← orRaise (calendar.get "holidays_used_in_july_window").asList
      TariffCompileError.calendarLockInvalid
    .ok (sortedBy id ((holidays.filterMap Json.asDict).filterMap fun item =>
      (item.get "date").asStr))

def lowerTier (tier : EnergyTier) : IREnergyTier where
  upperBoundOperator := tier.upperBoundKind
  upperBoundNumerator := tier.upperBoundNumerator
  upperBoundDenominator := tier.upperBoundDenominator
  rateMicrodollarsPerKwh := tier.rateMicrodollarsPerKwh

/-- `_lower_rule`. -/
def lowerRule (root : Root) : TariffRule → Except CompileRaised CompiledRule
  | .baselineAllowance r => .ok (.baselineAllowance ⟨r.toRuleBase, r.dailyAllowanceWh⟩)
  | .tieredEnergyCharge r =>
    .ok (.tieredEnergyCharge ⟨r.toRuleBase, r.lineItemKey, r.tiers.map lowerTier⟩)
  | .timeOfUseSchedule r => do
    let holidays ← holidayDates root r
    .ok (.timeOfUseSchedule ⟨r.toRuleBase, r.windows, r.calendarId, r.calendarContentSha256,
      holidays⟩)
  | .timeOfUseEnergyCharge r => .ok (.timeOfUseEnergyCharge
      ⟨r.toRuleBase, r.lineItemKey, r.scheduleRuleId, r.periodRates, r.baselineCredit⟩)
  | .fixedDailyCharge r =>
    .ok (.fixedDailyCharge ⟨r.toRuleBase, r.lineItemKey, r.rateMicrodollarsPerDay⟩)
  | .fixedMonthlyCharge r =>
    .ok (.fixedMonthlyCharge ⟨r.toRuleBase, r.lineItemKey, r.amountMicrodollars⟩)
  | .explicitUnsupportedCharge r =>
    .ok (.explicitUnsupportedCharge ⟨r.toRuleBase, r.lineItemKey, r.reasonCode⟩)

/-- The coverage record of one source of the definition. -/
def sourceCoverage (tariff : TariffVersion) (records : SourceRecords) (sourceId : String) :
    Except CompileRaised SourceCoverage := do
  let record ← orRaise (records.get? sourceId) .otherException
  let sha ← orRaise (record.get "sha256").asStr .otherException
  let url ← orRaise (record.get "source_url").asStr .otherException
  let ruleIds := (tariff.chargeRules.filter fun rule => rule.base.source.sourceId = sourceId).map
    TariffRule.ruleId
  let predicateIds :=
    if sourceId = "pge-advice-7846-e" then tariff.eligibilityPredicate.sourceRuleIds else []
  .ok ⟨sourceId, sha, url, sortedBy id (ruleIds ++ predicateIds).dedup⟩

/-- The checks of `compile_tariff`, up to the golden coverage. -/
def validateTariff (root : Root) (tariff : TariffVersion) :
    Except CompileRaised (SourceRecords × GoldenCoverage) := do
  let (sourceLock, records) ← sourceRecords root
  validateWindows tariff
  validateComponentComposition tariff sourceLock records
  validateTargetAccount root tariff
  validateBounds tariff
  validateTimeOperators tariff
  validateComparisonComponents tariff
  checkAll (fun rule : TariffRule => validateSourceLink rule.base.source.sourceId
    rule.base.source.sourceSha256 rule.ruleId records) tariff.chargeRules
  let golden ← loadGoldenCoverage root tariff
  .ok (records, golden)

/-- The reports of a bundle. -/
def compilationReports (env : Env) (tariff : TariffVersion) (operators : List CompiledRule)
    (coverage : List SourceCoverage) (golden : GoldenCoverage) : CompilationReports where
  normalizedAstSha256 := canonicalContentSha256 env "RateReplay.TariffAST.v1" (dump tariff)
  eligibilityPredicateId := tariff.eligibilityPredicate.predicateId
  componentVector :=
    { serviceWindows := tariff.admittedServiceWindows
      completeComponentKeys := tariff.componentVersions.map TariffComponentVersion.componentKey
      activeComponentCountByKey := tariff.componentVersions.map fun _ => 1 }
  sourceCoverage := coverage
  goldenCoverage := golden
  solverLoweringSupportedOperators :=
    if tariff.optimizationCapability = .supported
    then sortedBy id (operators.map CompiledRule.operator).dedup else []
  solverLoweringUnsupportedReasons :=
    if tariff.optimizationCapability = .supported
    then [] else tariff.optimizationUnsupportedReason.toList

/-- The bundle of a definition that passed the checks. -/
def compilationBundle (env : Env) (tariff : TariffVersion) (operators : List CompiledRule)
    (coverage : List SourceCoverage) (golden : GoldenCoverage) : CompilationBundle :=
  let ir : CanonicalChargeIR :=
    { tariffVersionId := tariff.tariffVersionId
      maximumEnergyWh := maximumCompiledEnergyWh
      maximumBillingDays := maximumCompiledBillingDays
      operators }
  let reports := compilationReports env tariff operators coverage golden
  { normalizedAst := tariff
    ir
    reports
    compilerContentSha256 := canonicalContentSha256 env "RateReplay.TariffCompilationBundle.v1"
      (object [("normalized_ast", dump tariff), ("ir", dump ir), ("reports", dump reports)]) }

/-- `compile_tariff`, from the loaded definition on. -/
def compileTariff (env : Env) (root : Root) (tariff : TariffVersion) :
    Except CompileRaised CompilationBundle := do
  let (records, golden) ← validateTariff root tariff
  let operators ← collect (lowerRule root) tariff.chargeRules
  let coverage ← collect (sourceCoverage tariff records) tariff.sourceIds
  .ok (compilationBundle env tariff operators coverage golden)

/-! ### What was compiled -/

section Inversion

variable {env : Env} {root : Root} {tariff : TariffVersion} {bundle : CompilationBundle}
  {rule : TariffRule} {op : CompiledRule}

theorem compileTariff_eq_ok :
    compileTariff env root tariff = .ok bundle ↔ ∃ records golden operators coverage,
      validateTariff root tariff = .ok (records, golden) ∧
      collect (lowerRule root) tariff.chargeRules = .ok operators ∧
      collect (sourceCoverage tariff records) tariff.sourceIds = .ok coverage ∧
      bundle = compilationBundle env tariff operators coverage golden := by
  simp only [compileTariff, bind_eq_ok, Except.ok.injEq, Prod.exists]
  constructor
  · rintro ⟨records, golden, hchks, operators, hoprs, coverage, hcoverage, rfl⟩
    exact ⟨records, golden, operators, coverage, hchks, hoprs, hcoverage, rfl⟩
  · rintro ⟨records, golden, operators, coverage, hchks, hoprs, hcoverage, rfl⟩
    exact ⟨records, golden, hchks, operators, hoprs, coverage, hcoverage, rfl⟩

/-- What `compile_tariff` leaves behind: the check that later programs rely on, and the operators
that they read. -/
structure Compiles (root : Root) (tariff : TariffVersion) (bundle : CompilationBundle) : Prop where
  timeOperators : validateTimeOperators tariff = .ok ()
  operators : List.Forall₂ (fun rule op => lowerRule root rule = .ok op)
    tariff.chargeRules bundle.ir.operators

theorem compileTariff_compiles (h : compileTariff env root tariff = .ok bundle) :
    Compiles root tariff bundle := by
  obtain ⟨records, golden, operators, coverage, hchks, hoprs, -, rfl⟩ :=
    compileTariff_eq_ok.mp h
  simp only [validateTariff, bind_eq_ok] at hchks
  obtain ⟨⟨sourceLock, records'⟩, -, _, -, _, -, _, -, _, -, _, htime, -⟩ := hchks
  exact ⟨htime, collect_eq_ok_iff.mp hoprs⟩

/-- Lowering keeps identifier, applicability, source, rounding and component. -/
theorem lowerRule_base (h : lowerRule root rule = .ok op) :
    op.base = rule.base := by
  cases rule with
  | timeOfUseSchedule r =>
    rw [lowerRule] at h
    obtain ⟨holidays, -, hop⟩ := bind_eq_ok.mp h
    cases hop
    rfl
  | _ =>
    cases h
    rfl

theorem Compiles.ruleIds (h : Compiles root tariff bundle) :
    bundle.ir.operators.map CompiledRule.ruleId = tariff.chargeRules.map TariffRule.ruleId := by
  have hops := h.operators
  generalize bundle.ir.operators = ops at hops
  generalize tariff.chargeRules = rules at hops
  induction hops with
  | nil => rfl
  | cons hop _ ih =>
    rw [List.map_cons, List.map_cons, ih, CompiledRule.ruleId, TariffRule.ruleId,
      lowerRule_base hop]

/-- The identifiers of the operators are distinct. -/
theorem Compiles.ruleIds_nodup (h : Compiles root tariff bundle) :
    (bundle.ir.operators.map CompiledRule.ruleId).Nodup := by
  rw [h.ruleIds]
  exact tariff.ruleIds_nodup

theorem forall₂_mem_right {α β : Type*} {R : α → β → Prop} {xs : List α} {ys : List β}
    (h : List.Forall₂ R xs ys) {y : β} (hy : y ∈ ys) : ∃ x ∈ xs, R x y := by
  induction h with
  | nil => cases hy
  | @cons x y' xs ys hxy _ ih =>
    rcases List.mem_cons.mp hy with rfl | hmem
    · exact ⟨x, List.mem_cons_self, hxy⟩
    · obtain ⟨x', hx', hR⟩ := ih hmem
      exact ⟨x', List.mem_cons_of_mem _ hx', hR⟩

/-- Each operator is the lowering of a rule. -/
theorem Compiles.exists_rule (h : Compiles root tariff bundle) (hop : op ∈ bundle.ir.operators) :
    ∃ rule ∈ tariff.chargeRules, lowerRule root rule = .ok op :=
  forall₂_mem_right h.operators hop

/-- Each rule is lowered to an operator. -/
theorem Compiles.exists_operator (h : Compiles root tariff bundle)
    (hrule : rule ∈ tariff.chargeRules) :
    ∃ op ∈ bundle.ir.operators, lowerRule root rule = .ok op :=
  forall₂_mem_right h.operators.flip hrule

/-! Which rule an operator comes from, by kind. -/

theorem lowerRule_timeOfUse {r : IRTimeOfUseEnergyCharge}
    (h : lowerRule root rule = .ok (.timeOfUseEnergyCharge r)) :
    ∃ a : TimeOfUseEnergyCharge, rule = .timeOfUseEnergyCharge a ∧
      r.scheduleRuleId = a.scheduleRuleId ∧ r.periodRates = a.periodRates ∧
      r.baselineCredit = a.baselineCredit := by
  cases rule with
  | timeOfUseEnergyCharge a =>
    cases h
    exact ⟨a, rfl, rfl, rfl, rfl⟩
  | timeOfUseSchedule a =>
    rw [lowerRule] at h
    obtain ⟨holidays, -, hop⟩ := bind_eq_ok.mp h
    cases hop
  | _ => cases h

/-- A schedule is lowered to a schedule with the same identifier and windows. -/
theorem lowerRule_schedule {a : TimeOfUseSchedule}
    (h : lowerRule root (.timeOfUseSchedule a) = .ok op) :
    ∃ r : IRTimeOfUseSchedule, op = .timeOfUseSchedule r ∧ r.ruleId = a.ruleId ∧
      r.windows = a.windows := by
  rw [lowerRule] at h
  obtain ⟨holidays, -, hop⟩ := bind_eq_ok.mp h
  cases hop
  exact ⟨_, rfl, rfl, rfl⟩

/-! ### Checks that later programs rely on -/

theorem orRaise_eq_ok {α : Type} {o : Option α} {e : CompileRaised} {a : α} :
    orRaise o e = .ok a ↔ o = some a := by
  cases o with
  | none => simp [orRaise]
  | some b => simp [orRaise]

/-- The schedule of a time-of-use charge is defined and its periods are the rated ones. -/
theorem Compiles.schedule_of_charge (h : Compiles root tariff bundle) {a : TimeOfUseEnergyCharge}
    (ha : TariffRule.timeOfUseEnergyCharge a ∈ tariff.chargeRules) :
    ∃ schedule : TimeOfUseSchedule, TariffRule.timeOfUseSchedule schedule ∈ tariff.chargeRules ∧
      schedule.ruleId = a.scheduleRuleId ∧
      SameElements (a.periodRates.map TimeOfUsePeriodRate.period) schedule.periods := by
  have htime := h.timeOperators
  simp only [validateTimeOperators, bind_eq_ok] at htime
  obtain ⟨_, hcharges, -⟩ := htime
  have hmem : a ∈ tariff.timeOfUseCharges := List.mem_filterMap.mpr ⟨_, ha, rfl⟩
  have hcheck := checkAll_eq_ok.mp hcharges a hmem
  simp only [validateTimeOfUseCharge, bind_eq_ok, orRaise_eq_ok, failIf_eq_ok, not_not] at hcheck
  obtain ⟨schedule, hfind, -, hperiods, -⟩ := hcheck
  have hid : schedule.ruleId = a.scheduleRuleId := by simpa using List.find?_some hfind
  obtain ⟨rule, hrule, hsch⟩ := List.mem_filterMap.mp (List.mem_of_find?_eq_some hfind)
  cases rule with
  | timeOfUseSchedule s =>
    cases hsch
    exact ⟨schedule, hrule, hid, hperiods⟩
  | _ => cases hsch

end Inversion
end RateReplay
