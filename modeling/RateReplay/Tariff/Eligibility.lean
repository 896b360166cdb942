import RateReplay.Tariff.Compiler

/-!
# Eligibility

`evaluate_eligibility` compares the facts of an account with the compiled predicate and
collects reasons against it.  One reason of ineligibility decides; otherwise an unknown
fact does.

## Main definitions

* `ReasonCode`, `EligibilityResult`, `ReplayError`, `Raised`.
* `ruleApplies` — the applicability decision shared by billing and optimisation.
* `evaluateEligibility`.

## Main results

* `evaluateEligibility_eligible` — **what an `ELIGIBLE` verdict says**: an admitted
  window, and an applicable baseline rule if there are any baseline rules.
-/

namespace RateReplay

variable {bundle : CompilationBundle} {facts : AccountFacts}

/-! ### Errors -/

/-- The reasons an account is not, or not known to be, eligible. -/
inductive ReasonCode where
  | serviceWindowNotAdmitted
  | unsupportedIncomeTier
  | serviceProviderMismatch
  | serviceModeMismatch
  | meterCountMismatch
  | primaryMeterRequirementMismatch
  | careStatusMismatch
  | feraStatusMismatch
  | medicalBaselineStatusMismatch
  | ccaStatusMismatch
  | directAccessStatusMismatch
  | billProtectionStatusMismatch
  | solarExportStatusMismatch
  | qualifyingTechnologyFactMissing
  | qualifyingTechnologyMissing
  | datedTechnologyFactMissing
  | datedTechnologyFactOutsideWindow
  | evRegistrationFactMissing
  | evRegistrationRequirementMismatch
  | wholeHouseMeteringFactMissing
  | wholeHouseMeteringRequirementMismatch
  | annualBaselineFactMissing
  | annualUsagePeriodMismatch
  | annualBaselineLimitExceeded
  | unsupportedBaselineConfiguration
  deriving DecidableEq

def ReasonCode.text : ReasonCode → String
  | .serviceWindowNotAdmitted => "SERVICE_WINDOW_NOT_ADMITTED"
  | .unsupportedIncomeTier => "UNSUPPORTED_INCOME_TIER"
  | .serviceProviderMismatch => "SERVICE_PROVIDER_MISMATCH"
  | .serviceModeMismatch => "SERVICE_MODE_MISMATCH"
  | .meterCountMismatch => "METER_COUNT_MISMATCH"
  | .primaryMeterRequirementMismatch => "PRIMARY_METER_REQUIREMENT_MISMATCH"
  | .careStatusMismatch => "CARE_STATUS_MISMATCH"
  | .feraStatusMismatch => "FERA_STATUS_MISMATCH"
  | .medicalBaselineStatusMismatch => "MEDICAL_BASELINE_STATUS_MISMATCH"
  | .ccaStatusMismatch => "CCA_STATUS_MISMATCH"
  | .directAccessStatusMismatch => "DIRECT_ACCESS_STATUS_MISMATCH"
  | .billProtectionStatusMismatch => "BILL_PROTECTION_STATUS_MISMATCH"
  | .solarExportStatusMismatch => "SOLAR_EXPORT_STATUS_MISMATCH"
  | .qualifyingTechnologyFactMissing => "QUALIFYING_TECHNOLOGY_FACT_MISSING"
  | .qualifyingTechnologyMissing => "QUALIFYING_TECHNOLOGY_MISSING"
  | .datedTechnologyFactMissing => "DATED_TECHNOLOGY_FACT_MISSING"
  | .datedTechnologyFactOutsideWindow => "DATED_TECHNOLOGY_FACT_OUTSIDE_WINDOW"
  | .evRegistrationFactMissing => "EV_REGISTRATION_FACT_MISSING"
  | .evRegistrationRequirementMismatch => "EV_REGISTRATION_REQUIREMENT_MISMATCH"
  | .wholeHouseMeteringFactMissing => "WHOLE_HOUSE_METERING_FACT_MISSING"
  | .wholeHouseMeteringRequirementMismatch => "WHOLE_HOUSE_METERING_REQUIREMENT_MISMATCH"
  | .annualBaselineFactMissing => "ANNUAL_BASELINE_FACT_MISSING"
  | .annualUsagePeriodMismatch => "ANNUAL_USAGE_PERIOD_MISMATCH"
  | .annualBaselineLimitExceeded => "ANNUAL_BASELINE_LIMIT_EXCEEDED"
  | .unsupportedBaselineConfiguration => "UNSUPPORTED_BASELINE_CONFIGURATION"

instance : Dump ReasonCode := ⟨fun c => .str c.text⟩

/-- The errors of the evaluator. -/
inductive ReplayError where
  | unsupportedLinesRequireBillTotal
  | tariffNotEligible (status : EligibilityStatus) (reasons : List ReasonCode)
  | unboundedBillingPeriod
  | invalidBillingPeriod
  | energyBoundExceeded
  | baselineRuleAmbiguity
  | touScheduleAmbiguity
  | intervalCrossesTariffBoundary
  | intervalOutsideServiceWindow
  | intervalDataRequired
  | diagnosticAllocationBasisMissing
  | diagnosticSliceBasisMissing
  | diagnosticAllocationInvalid
  | diagnosticIntervalInvalid
  | nonintegralTierBound
  | invalidTierBound
  | uncoveredTier
  deriving DecidableEq

/-- What the evaluator raises: its own errors, or a `ValueError` of a library call. -/
inductive Raised where
  | replayError (e : ReplayError)
  | valueError (message : String)
  deriving DecidableEq

/-! ### Applicability -/

/-- `rule_applies`: an empty list leaves a dimension open. -/
def ruleApplies (applicability : RuleApplicability) (facts : AccountFacts)
    (billCycleMonth : ℤ) : Bool :=
  (applicability.incomeTiers.isEmpty || facts.incomeTier ∈ applicability.incomeTiers) &&
  (applicability.baselineTerritories.isEmpty ||
    facts.baselineTerritory ∈ applicability.baselineTerritories) &&
  (applicability.baselineQuantityCodes.isEmpty ||
    facts.baselineQuantityCode ∈ applicability.baselineQuantityCodes) &&
  (applicability.billCycleMonths.isEmpty || billCycleMonth ∈ applicability.billCycleMonths)

/-- The baseline rules of a bundle. -/
def CompilationBundle.baselineRules (bundle : CompilationBundle) : List IRBaselineAllowance :=
  bundle.ir.operators.filterMap fun
    | .baselineAllowance r => some r
    | _ => none

/-! ### The verdict -/

structure EligibilityResult where
  status : EligibilityStatus
  reasonCodes : List ReasonCode
  predicateId : String
  predicateVersion : String
  sourceRuleIds : List String
  accountFactsSha256 : String
  deriving DecidableEq

instance : Dump EligibilityResult where
  dump r := object [("status", dump r.status), ("reason_codes", dump r.reasonCodes),
    ("predicate_id", dump r.predicateId), ("predicate_version", dump r.predicateVersion),
    ("source_rule_ids", dump r.sourceRuleIds),
    ("account_facts_sha256", dump r.accountFactsSha256)]

/-- `_predicate`: the dump of a validated predicate parses back to it. -/
def CompilationBundle.predicate (bundle : CompilationBundle) : EligibilityPredicate :=
  bundle.normalizedAst.eligibilityPredicate

/-- `_facts_hash`. -/
def factsHash (env : Env) (facts : AccountFacts) (datedFacts : Option DatedEligibilityFacts)
    (predicateVersion : String) : String :=
  if predicateVersion = "eligibility-predicate-v1" then
    canonicalContentSha256 env "RateReplay.AccountFacts.v1" (dump facts)
  else
    canonicalContentSha256 env "RateReplay.EligibilityFacts.v2"
      (object [("account_facts", dump facts), ("dated_eligibility_facts", dump datedFacts)])

/-- The reasons found so far. -/
structure Reasons where
  unknown : List ReasonCode := []
  ineligible : List ReasonCode := []

namespace Reasons

def addUnknown (r : Reasons) (code : ReasonCode) : Reasons :=
  { r with unknown := r.unknown ++ [code] }

def addIneligible (r : Reasons) (code : ReasonCode) : Reasons :=
  { r with ineligible := r.ineligible ++ [code] }

/-- `if bad: ineligible.append(code)`. -/
def ineligibleIf (r : Reasons) (bad : Bool) (code : ReasonCode) : Reasons :=
  if bad then r.addIneligible code else r

/-- `if bad: unknown.append(code)`. -/
def unknownIf (r : Reasons) (bad : Bool) (code : ReasonCode) : Reasons :=
  if bad then r.addUnknown code else r

end Reasons

/-- The account requirements, each with the code of its violation. -/
def requirements (predicate : EligibilityPredicate) (facts : AccountFacts) :
    List (Bool × ReasonCode) :=
  [(facts.serviceProvider = predicate.requiredServiceProvider, .serviceProviderMismatch),
    (facts.serviceMode = predicate.requiredServiceMode, .serviceModeMismatch),
    (facts.meterCount = predicate.requiredMeterCount, .meterCountMismatch),
    (facts.primaryMeterOnly = predicate.requiresPrimaryMeterOnly,
      .primaryMeterRequirementMismatch),
    (facts.careEnrolled = predicate.requiresCareEnrolled, .careStatusMismatch),
    (facts.feraEnrolled = predicate.requiresFeraEnrolled, .feraStatusMismatch),
    (facts.medicalBaseline = predicate.requiresMedicalBaseline, .medicalBaselineStatusMismatch),
    (facts.ccaService = predicate.requiresCcaService, .ccaStatusMismatch),
    (facts.directAccessService = predicate.requiresDirectAccessService,
      .directAccessStatusMismatch),
    (facts.activeBillProtection = predicate.requiresActiveBillProtection,
      .billProtectionStatusMismatch),
    (facts.solarOrExport = predicate.requiresSolarOrExport, .solarExportStatusMismatch)]

/-- A technology requirement against the technologies an account may have. -/
def checkTechnologies (reasons : Reasons) (facts : AccountFacts)
    (qualifies : List QualifyingTechnology → Bool) : Reasons :=
  match facts.qualifyingTechnologies with
  | none => reasons.addUnknown .qualifyingTechnologyFactMissing
  | some technologies =>
    reasons.ineligibleIf (!qualifies technologies) .qualifyingTechnologyMissing

/-- A yes-or-no requirement on a dated fact. -/
def checkDatedFlag (reasons : Reasons) (required : Bool) (fact : Option Bool)
    (missing mismatch : ReasonCode) : Reasons :=
  if required then
    match fact with
    | none => reasons.addUnknown missing
    | some value => reasons.ineligibleIf (!value) mismatch
  else reasons

/-- The date of the technology attestation. -/
def checkAttestation (reasons : Reasons) (required : Bool) (facts : AccountFacts)
    (datedFacts : Option DatedEligibilityFacts) : Reasons :=
  if required then
    match datedFacts.bind DatedEligibilityFacts.factsAsOf with
    | none => reasons.addUnknown .datedTechnologyFactMissing
    | some factsAsOf => reasons.unknownIf (factsAsOf ≠ facts.serviceWindow.start)
        .datedTechnologyFactOutsideWindow
  else reasons

/-- The bound on annual usage.  The start of the usage year is the window's start with
the year before, which does not exist for the 29th of February. -/
def checkAnnualBaseline (reasons : Reasons) (ratio : Option AnnualBaselineRatio)
    (facts : AccountFacts) (datedFacts : Option DatedEligibilityFacts) :
    Except Raised Reasons :=
  match ratio with
  | none => .ok reasons
  | some ratio =>
    match datedFacts.bind DatedEligibilityFacts.annualUsageWh,
      datedFacts.bind DatedEligibilityFacts.annualBaselineAllowanceWh,
      datedFacts.bind DatedEligibilityFacts.annualUsagePeriod with
    | some usage, some allowance, some period =>
      let start := facts.serviceWindow.start
      match Date.replaceYear start (Date.year start - 1) with
      | none => .error (.valueError
          (if Date.year start = 1 then "year 0 is out of range"
            else "day is out of range for month"))
      | some expectedStart =>
        if period.start ≠ expectedStart ∨ period.stop ≠ some start then
          .ok (reasons.addUnknown .annualUsagePeriodMismatch)
        else
          .ok (reasons.ineligibleIf (usage * ratio.denominator > allowance * ratio.numerator)
            .annualBaselineLimitExceeded)
    | _, _, _ => .ok (reasons.addUnknown .annualBaselineFactMissing)

/-- What version 2 of a predicate checks. -/
def checkExtension (reasons : Reasons) (x : EligibilityExtension) (facts : AccountFacts)
    (datedFacts : Option DatedEligibilityFacts) : Except Raised Reasons :=
  let r := if x.requiredAnyQualifyingTechnologies = [] then reasons
    else checkTechnologies reasons facts fun technologies =>
      x.requiredAnyQualifyingTechnologies.any (· ∈ technologies)
  let r := checkAttestation r x.requiresDatedTechnologyAttestation facts datedFacts
  let r := checkDatedFlag r x.requiresEvRegistrationAtPremises
    (datedFacts.bind DatedEligibilityFacts.evRegisteredAndChargedAtPremises)
    .evRegistrationFactMissing .evRegistrationRequirementMismatch
  let r := checkDatedFlag r x.requiresWholeHouseMetering
    (datedFacts.bind DatedEligibilityFacts.wholeHouseMetering)
    .wholeHouseMeteringFactMissing .wholeHouseMeteringRequirementMismatch
  checkAnnualBaseline r x.maximumAnnualBaselineRatio facts datedFacts

/-- The month of the bill cycle, 0 for an open window. -/
def eligibilityMonth (facts : AccountFacts) : ℤ := facts.serviceWindow.stop.elim 0 Date.month

/-- The reasons that do not depend on the version of the predicate, technology included. -/
def accountReasons (bundle : CompilationBundle) (facts : AccountFacts) : Reasons :=
  let predicate := bundle.predicate
  let r : Reasons := {}
  let r := r.ineligibleIf (facts.serviceWindow ∉ bundle.reports.componentVector.serviceWindows)
    .serviceWindowNotAdmitted
  let r := r.unknownIf (facts.incomeTier ∉ predicate.supportedIncomeTiers) .unsupportedIncomeTier
  let r := (requirements predicate facts).foldl (fun r c => r.ineligibleIf (!c.1) c.2) r
  match predicate.requiredQualifyingTechnology with
  | none => r
  | some technology => checkTechnologies r facts (technology ∈ ·)

/-- The baseline rules against the account. -/
def checkBaseline (reasons : Reasons) (bundle : CompilationBundle) (facts : AccountFacts) :
    Reasons :=
  reasons.unknownIf (bundle.baselineRules ≠ [] &&
      !bundle.baselineRules.any fun rule =>
        ruleApplies rule.applicability facts (eligibilityMonth facts))
    .unsupportedBaselineConfiguration

/-- The verdict the reasons give. -/
def Reasons.verdict (r : Reasons) : EligibilityStatus × List ReasonCode :=
  if r.ineligible ≠ [] then (.ineligible, sortedBy ReasonCode.text r.ineligible.dedup)
  else if r.unknown ≠ [] then (.unknown, sortedBy ReasonCode.text r.unknown.dedup)
  else (.eligible, [])

/-- The reasons that depend on the version of the predicate. -/
def checkVersion (reasons : Reasons) (extension : Option EligibilityExtension)
    (facts : AccountFacts) (datedFacts : Option DatedEligibilityFacts) : Except Raised Reasons :=
  match extension with
  | none => .ok reasons
  | some x => checkExtension reasons x facts datedFacts

/-- All reasons. -/
def eligibilityReasons (bundle : CompilationBundle) (facts : AccountFacts)
    (datedFacts : Option DatedEligibilityFacts) : Except Raised Reasons := do
  let r ← checkVersion (accountReasons bundle facts) bundle.predicate.extension facts datedFacts
  .ok (checkBaseline r bundle facts)

/-- `evaluate_eligibility`. -/
def evaluateEligibility (env : Env) (bundle : CompilationBundle) (facts : AccountFacts)
    (datedFacts : Option DatedEligibilityFacts) : Except Raised EligibilityResult := do
  let reasons ← eligibilityReasons bundle facts datedFacts
  let predicate := bundle.predicate
  .ok { status := reasons.verdict.1
        reasonCodes := reasons.verdict.2
        predicateId := predicate.predicateId
        predicateVersion := predicate.predicateVersion
        sourceRuleIds := predicate.sourceRuleIds
        accountFactsSha256 := factsHash env facts datedFacts predicate.predicateVersion }

/-! ### What an eligible verdict says -/

namespace Reasons

variable {r r' : Reasons} {facts : AccountFacts} {datedFacts : Option DatedEligibilityFacts}

/-- Every reason of `r` is still there in `r'`. -/
def Grows (r r' : Reasons) : Prop :=
  (r'.ineligible = [] → r.ineligible = []) ∧ (r'.unknown = [] → r.unknown = [])

theorem Grows.refl (r : Reasons) : r.Grows r := ⟨id, id⟩

theorem Grows.trans {r₁ r₂ r₃ : Reasons} (h : r₁.Grows r₂) (h' : r₂.Grows r₃) : r₁.Grows r₃ :=
  ⟨fun h₃ => h.1 (h'.1 h₃), fun h₃ => h.2 (h'.2 h₃)⟩

theorem grows_addUnknown (r : Reasons) (code : ReasonCode) : r.Grows (r.addUnknown code) :=
  ⟨id, fun h => by simp [addUnknown] at h⟩

theorem grows_addIneligible (r : Reasons) (code : ReasonCode) : r.Grows (r.addIneligible code) :=
  ⟨fun h => by simp [addIneligible] at h, id⟩

theorem grows_ineligibleIf (r : Reasons) (bad : Bool) (code : ReasonCode) :
    r.Grows (r.ineligibleIf bad code) := by
  cases bad with
  | false => exact Grows.refl r
  | true => exact grows_addIneligible r code

theorem grows_unknownIf (r : Reasons) (bad : Bool) (code : ReasonCode) :
    r.Grows (r.unknownIf bad code) := by
  cases bad with
  | false => exact Grows.refl r
  | true => exact grows_addUnknown r code

theorem grows_checkTechnologies (r : Reasons) (facts : AccountFacts)
    (qualifies : List QualifyingTechnology → Bool) :
    r.Grows (checkTechnologies r facts qualifies) := by
  rw [checkTechnologies]
  split
  · exact grows_addUnknown _ _
  · exact grows_ineligibleIf _ _ _

theorem grows_checkDatedFlag (r : Reasons) (required : Bool) (fact : Option Bool)
    (missing mismatch : ReasonCode) :
    r.Grows (checkDatedFlag r required fact missing mismatch) := by
  unfold checkDatedFlag
  split_ifs
  · cases fact with
    | none => exact grows_addUnknown _ _
    | some value => exact grows_ineligibleIf _ _ _
  · exact Grows.refl r

theorem grows_checkAttestation (r : Reasons) (required : Bool) (facts : AccountFacts)
    (datedFacts : Option DatedEligibilityFacts) :
    r.Grows (checkAttestation r required facts datedFacts) := by
  rw [checkAttestation]
  split_ifs
  · split
    · exact grows_addUnknown _ _
    · exact grows_unknownIf _ _ _
  · exact Grows.refl r

theorem grows_checkAnnualBaseline {ratio : Option AnnualBaselineRatio}
    (h : checkAnnualBaseline r ratio facts datedFacts = .ok r') : r.Grows r' := by
  unfold checkAnnualBaseline at h
  split at h
  · cases h
    exact Grows.refl r
  · split at h
    · dsimp only at h
      split at h
      · cases h
      · split_ifs at h
        · cases h
          exact grows_addUnknown _ _
        · cases h
          exact grows_ineligibleIf _ _ _
    · cases h
      exact grows_addUnknown _ _

theorem grows_checkExtension {x : EligibilityExtension}
    (h : checkExtension r x facts datedFacts = .ok r') : r.Grows r' := by
  have htechnologies : r.Grows (if x.requiredAnyQualifyingTechnologies = [] then r
      else checkTechnologies r facts fun technologies =>
        x.requiredAnyQualifyingTechnologies.any (· ∈ technologies)) := by
    split_ifs
    · exact Grows.refl r
    · exact grows_checkTechnologies _ _ _
  rw [checkExtension] at h
  exact ((htechnologies.trans (grows_checkAttestation _ _ _ _)).trans
    (grows_checkDatedFlag _ _ _ _ _)).trans
    ((grows_checkDatedFlag _ _ _ _ _).trans (grows_checkAnnualBaseline h))

theorem grows_foldl_ineligibleIf (cs : List (Bool × ReasonCode)) (r : Reasons) :
    r.Grows (cs.foldl (fun r c => r.ineligibleIf (!c.1) c.2) r) := by
  induction cs generalizing r with
  | nil => exact Grows.refl r
  | cons c cs ih => exact (grows_ineligibleIf r _ _).trans (ih _)

end Reasons

/-- Reasons against the window stay until the verdict. -/
theorem accountReasons_window (h : (accountReasons bundle facts).ineligible = []) :
    facts.serviceWindow ∈ bundle.reports.componentVector.serviceWindows := by
  by_contra hnot
  have hfst : (({} : Reasons).ineligibleIf
      (facts.serviceWindow ∉ bundle.reports.componentVector.serviceWindows)
      .serviceWindowNotAdmitted).Grows (accountReasons bundle facts) := by
    unfold accountReasons
    dsimp only
    split
    · exact (Reasons.grows_unknownIf _ _ _).trans (Reasons.grows_foldl_ineligibleIf _ _)
    · exact ((Reasons.grows_unknownIf _ _ _).trans
        (Reasons.grows_foldl_ineligibleIf _ _)).trans (Reasons.grows_checkTechnologies _ _ _)
  have hnil := hfst.1 h
  simp [Reasons.ineligibleIf, Reasons.addIneligible, hnot] at hnil

/-- **What an eligible verdict says**: the service window is admitted, and if there are
baseline rules, one of them applies. -/
theorem evaluateEligibility_eligible {env : Env} {datedFacts : Option DatedEligibilityFacts}
    {result : EligibilityResult} (h : evaluateEligibility env bundle facts datedFacts = .ok result)
    (helig : result.status = .eligible) :
    facts.serviceWindow ∈ bundle.reports.componentVector.serviceWindows ∧
      (bundle.baselineRules ≠ [] → ∃ rule ∈ bundle.baselineRules,
        ruleApplies rule.applicability facts (eligibilityMonth facts) = true) := by
  simp only [evaluateEligibility, eligibilityReasons, bind_eq_ok, Except.ok.injEq] at h
  obtain ⟨reasons, ⟨r, hr, rfl⟩, rfl⟩ := h
  have hgrow : (accountReasons bundle facts).Grows r := by
    unfold checkVersion at hr
    split at hr
    · cases hr
      exact Reasons.Grows.refl _
    · exact Reasons.grows_checkExtension hr
  have hbase := Reasons.grows_unknownIf r (bundle.baselineRules ≠ [] &&
      !bundle.baselineRules.any fun rule =>
        ruleApplies rule.applicability facts (eligibilityMonth facts))
    .unsupportedBaselineConfiguration
  -- the verdict is eligible only without any reason
  have hverdict : (checkBaseline r bundle facts).ineligible = [] ∧
      (checkBaseline r bundle facts).unknown = [] := by
    simp only [Reasons.verdict] at helig
    split_ifs at helig with hin hun
    exact ⟨not_not.mp hin, not_not.mp hun⟩
  refine ⟨accountReasons_window (hgrow.1 (hbase.1 hverdict.1)), fun hne => ?_⟩
  by_contra hnone
  have hany : (bundle.baselineRules.any fun rule =>
      ruleApplies rule.applicability facts (eligibilityMonth facts)) = false := by
    rw [List.any_eq_false]
    intro rule hrule happ
    exact hnone ⟨rule, hrule, happ⟩
  have hunknown := hverdict.2
  rw [checkBaseline, Reasons.unknownIf, hany] at hunknown
  simp [hne, Reasons.addUnknown] at hunknown

end RateReplay
