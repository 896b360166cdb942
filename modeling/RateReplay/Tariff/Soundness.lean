import RateReplay.Tariff.Replay

/-!
# What compilation guarantees about replays

The compiler rules out most structural failures of the evaluator: every referenced
schedule exists exactly once, and the last tier takes what is left.  It does not look at
how many baseline rules apply to an account, nor at where the tier bounds fall for the
allowance of an account; these are found out at evaluation time.  The main result says
exactly which requests are affected.

## Main definitions

* `baselineWhOf` — the allowance of the baseline rules that apply.
* `NoBoundaryCrossed`, `InsideWindow` — what a request's intervals have to satisfy.

## Main results

* `resolveTimeSchedule_of_compiles` — the schedule of a compiled charge is found.
* `replay_returns_iff_unambiguous` — **an eligible request within bounds returns exactly
  when at most one baseline rule applies and the tiers it reaches have integral,
  increasing bounds.**
-/

namespace RateReplay

open List

section Soundness

variable {env : Env} {root : Root} {tariff : TariffVersion} {bundle : CompilationBundle}
  {schedule : IRTimeOfUseSchedule}

/-! ### Schedules -/

theorem filter_eq_singleton {α β : Type*} [DecidableEq β] {f : α → β} {l : List α}
    (hnodup : (l.map f).Nodup) {a : α} (ha : a ∈ l) : l.filter (fun x => f x = f a) = [a] := by
  induction l with
  | nil => cases ha
  | cons x l ih =>
    rw [map_cons, nodup_cons] at hnodup
    rcases mem_cons.mp ha with rfl | hmem
    · rw [filter_cons_of_pos (by simp), filter_eq_nil_iff.mpr]
      intro y hy hya
      refine hnodup.1 (mem_map.mpr ⟨y, hy, ?_⟩)
      simpa using hya
    · have hne : f x ≠ f a := by
        intro heq
        exact hnodup.1 (mem_map.mpr ⟨a, hmem, heq.symm⟩)
      rw [filter_cons_of_neg (by simpa using hne), ih hnodup.2 hmem]

theorem mem_schedules :
    schedule ∈ bundle.schedules ↔
      CompiledRule.timeOfUseSchedule schedule ∈ bundle.ir.operators := by
  rw [CompilationBundle.schedules, mem_filterMap]
  constructor
  · rintro ⟨op, hop, heq⟩
    cases op with
    | timeOfUseSchedule s =>
      cases heq
      exact hop
    | _ => cases heq
  · intro h
    exact ⟨_, h, rfl⟩

theorem Compiles.schedules_nodup (h : Compiles root tariff bundle) :
    (bundle.schedules.map fun schedule => schedule.ruleId).Nodup := by
  have hids := h.ruleIds_nodup
  rw [CompilationBundle.schedules]
  generalize bundle.ir.operators = ops at hids
  induction ops with
  | nil => exact nodup_nil
  | cons op ops ih =>
    rw [map_cons, nodup_cons] at hids
    cases op with
    | timeOfUseSchedule s =>
      simp only [filterMap_cons, map_cons, nodup_cons]
      refine ⟨?_, ih hids.2⟩
      intro hmem
      obtain ⟨s', hs', hid⟩ := mem_map.mp hmem
      obtain ⟨op, hop, heq⟩ := mem_filterMap.mp hs'
      refine hids.1 (mem_map.mpr ⟨op, hop, ?_⟩)
      cases op with
      | timeOfUseSchedule t =>
        cases heq
        exact hid
      | _ => cases heq
    | _ =>
      simp only [filterMap_cons]
      exact ih hids.2

/-- A schedule of a compiled bundle is found under its identifier. -/
theorem Compiles.resolve (h : Compiles root tariff bundle) (hmem : schedule ∈ bundle.schedules) :
    resolveTimeSchedule bundle schedule.ruleId = .ok schedule := by
  rw [resolveTimeSchedule, filter_eq_singleton (f := fun s : IRTimeOfUseSchedule => s.ruleId)
    h.schedules_nodup hmem]

/-- The schedule of a compiled charge is found, and its periods are the rated ones. -/
theorem resolveTimeSchedule_of_compiles (h : Compiles root tariff bundle)
    {rule : IRTimeOfUseEnergyCharge}
    (hrule : CompiledRule.timeOfUseEnergyCharge rule ∈ bundle.ir.operators) :
    ∃ schedule ∈ bundle.schedules, resolveTimeSchedule bundle rule.scheduleRuleId = .ok schedule ∧
      SameElements (rule.periodRates.map TimeOfUsePeriodRate.period)
        (.offPeak :: schedule.windows.map TimeOfUseWindow.period) := by
  obtain ⟨a, ha, hlower⟩ := h.exists_rule hrule
  obtain ⟨charge, rfl, hid, hrates, -⟩ := lowerRule_timeOfUse hlower
  obtain ⟨source, hsource, hsourceId, hperiods⟩ := h.schedule_of_charge ha
  obtain ⟨op, hop, hlowered⟩ := h.exists_operator hsource
  obtain ⟨schedule, rfl, hscheduleId, hwindows⟩ := lowerRule_schedule hlowered
  have hmem : schedule ∈ bundle.schedules := mem_schedules.mpr hop
  refine ⟨schedule, hmem, ?_, ?_⟩
  · rw [hid, ← hsourceId, ← hscheduleId]
    exact h.resolve hmem
  · rw [hrates, hwindows]
    exact hperiods

/-! ### Baseline rules -/

/-- The allowance in Wh of the baseline rules that apply, over the billing days. -/
def baselineWhOf (bundle : CompilationBundle) (facts : AccountFacts)
    (billingDays billCycleMonth : ℤ) : ℤ :=
  ((bundle.applicableBaselineRules facts billCycleMonth).map
    fun rule => (rule.dailyAllowanceWh : ℤ)).sum * billingDays

/-- If some baseline rule applies whenever there is any, the allowance is found exactly
when no second one applies. -/
theorem baselineAllowance_isOk_iff {facts : AccountFacts} {days month : ℤ}
    (hsome : bundle.baselineRules ≠ [] → bundle.applicableBaselineRules facts month ≠ []) :
    (∃ b, baselineAllowance bundle facts days month = .ok b) ↔
      (bundle.applicableBaselineRules facts month).length ≤ 1 := by
  rw [baselineAllowance]
  by_cases hnil : bundle.baselineRules = []
  · rw [if_pos hnil, CompilationBundle.applicableBaselineRules, hnil]
    simp
  · rw [if_neg hnil]
    have hne := hsome hnil
    cases happ : bundle.applicableBaselineRules facts month with
    | nil => exact absurd happ hne
    | cons rule rules =>
      cases rules with
      | nil => simp
      | cons rule' rules => simp

theorem baselineAllowance_eq {facts : AccountFacts} {days month b : ℤ}
    (h : baselineAllowance bundle facts days month = .ok b) :
    b = baselineWhOf bundle facts days month := by
  rw [baselineAllowance] at h
  rw [baselineWhOf]
  split_ifs at h with hnil
  · cases h
    simp [CompilationBundle.applicableBaselineRules, hnil]
  · split at h
    · next rule happ =>
      cases h
      simp [happ]
    · cases h

/-! ### Requests -/

/-- Every instant of every interval lies in the service window. -/
def InsideWindow (zone : Zone) (r : IntervalReplayRequest) : Prop :=
  ∀ i ∈ r.intervals, ∀ t, i.startUtc ≤ t → t < i.endUtc →
    r.accountFacts.serviceWindow.contains (zone.localDate t) = true

/-- Each interval starts and ends in one period of every schedule. -/
def NoBoundaryCrossed (zone : Zone) (bundle : CompilationBundle) (r : IntervalReplayRequest) :
    Prop :=
  ∀ i ∈ r.intervals, ∀ schedule ∈ bundle.schedules,
    classifyLocalPeriod zone schedule i.startUtc
      = classifyLocalPeriod zone schedule (i.endUtc - 1)

instance (zone : Zone) (bundle : CompilationBundle) (r : IntervalReplayRequest) :
    Decidable (NoBoundaryCrossed zone bundle r) :=
  inferInstanceAs (Decidable (∀ _ ∈ _, ∀ _ ∈ _, _ = _))

theorem classifies_of_inside {r : IntervalReplayRequest} (hinside : InsideWindow env.zone r)
    (hboundary : NoBoundaryCrossed env.zone bundle r) (hsch : schedule ∈ bundle.schedules) :
    ∀ i ∈ r.intervals, i.Classifies env.zone schedule r.accountFacts.serviceWindow := by
  intro i hi
  have hpos := i.duration_pos
  have hend : i.endUtc = i.startUtc + i.durationSeconds * 1000000 := rfl
  refine ⟨hboundary i hi schedule hsch, hinside i hi _ le_rfl (by omega), ?_⟩
  rw [← hend]
  exact hinside i hi _ (by omega) (by omega)

/-- The tiered charges of the bundle that apply fit the energy. -/
def TieredChargesFit (bundle : CompilationBundle) (facts : AccountFacts)
    (billCycleMonth baselineWh energyWh : ℤ) : Prop :=
  ∀ rule, CompiledRule.tieredEnergyCharge rule ∈ bundle.ir.operators →
    ruleApplies rule.applicability facts billCycleMonth = true →
    TiersFit baselineWh energyWh rule.tiers 0

/-- **Which eligible requests return.**  For a compiled tariff and a request of interval
data that is eligible, within the compiled bounds, inside its service window and crosses
no time-of-use boundary, the replay returns exactly when unsupported lines come with a
bill total, at most one baseline rule applies, and in each tiered charge that applies the
tiers the energy reaches have integral bounds that do not decrease. -/
theorem replay_returns_iff_unambiguous (hcompile : compileTariff env root tariff = .ok bundle)
    (r : IntervalReplayRequest) (policy : ReconciliationPolicy) (eligibility : EligibilityResult)
    (hverdict : evaluateEligibility env bundle r.accountFacts r.datedEligibilityFacts
      = .ok eligibility)
    (heligible : eligibility.status = .eligible)
    (stop : ℤ) (hstop : r.accountFacts.serviceWindow.stop = some stop)
    (hdays : stop - r.accountFacts.serviceWindow.start ≤ bundle.ir.maximumBillingDays)
    (henergy : r.energyWh ≤ bundle.ir.maximumEnergyWh)
    (hinside : InsideWindow env.zone r) (hboundary : NoBoundaryCrossed env.zone bundle r) :
    (∃ result, replayCompiledTariff env bundle (.interval r) policy = .ok result) ↔
      (r.currentBillTotalCents = none → r.userUnsupportedLines = []) ∧
      (bundle.applicableBaselineRules r.accountFacts (Date.month stop)).length ≤ 1 ∧
      TieredChargesFit bundle r.accountFacts (Date.month stop)
        (baselineWhOf bundle r.accountFacts (stop - r.accountFacts.serviceWindow.start)
          (Date.month stop)) r.energyWh := by
  have hcompiles := compileTariff_compiles hcompile
  have hpos : 0 < stop - r.accountFacts.serviceWindow.start := by
    have := r.accountFacts.serviceWindow.nonempty stop hstop
    omega
  -- an eligible account has an applicable baseline rule if there is any baseline rule
  have hsome : bundle.baselineRules ≠ [] →
      bundle.applicableBaselineRules r.accountFacts (Date.month stop) ≠ [] := by
    intro hne happ
    obtain ⟨rule, hrule, happlies⟩ :=
      (evaluateEligibility_eligible hverdict heligible).2 hne
    rw [eligibilityMonth, hstop, Option.elim_some] at happlies
    have hmem : rule ∈ bundle.applicableBaselineRules r.accountFacts (Date.month stop) :=
      List.mem_filter.mpr ⟨hrule, happlies⟩
    rw [happ] at hmem
    cases hmem
  rw [replay_isOk_iff]
  constructor
  · rintro ⟨el, stop', baselineWh, hadmitted, -, hreturns⟩
    cases hadmitted.stop_eq.symm.trans hstop
    refine ⟨hadmitted.guard, (baselineAllowance_isOk_iff hsome).mp ⟨_, hadmitted.baseline⟩, ?_⟩
    intro rule hrule happlies
    rw [← baselineAllowance_eq hadmitted.baseline]
    exact hreturns _ hrule happlies
  · rintro ⟨hguard, hunique, hfit⟩
    obtain ⟨baselineWh, hbaseline⟩ := (baselineAllowance_isOk_iff hsome).mpr hunique
    rw [← baselineAllowance_eq hbaseline] at hfit
    refine ⟨eligibility, stop, baselineWh,
      ⟨hguard, hverdict, heligible, hstop, hpos, hdays, henergy, hbaseline⟩,
      fun i hi => ReplayInterval.splits_of_inside (hinside i hi), ?_⟩
    intro operator hoperator happlies
    cases operator with
    | tieredEnergyCharge rule => exact hfit rule hoperator happlies
    | timeOfUseEnergyCharge rule =>
      obtain ⟨schedule, hschedule, hresolve, -⟩ :=
        resolveTimeSchedule_of_compiles hcompiles hoperator
      exact ⟨schedule, hresolve, classifies_of_inside hinside hboundary hschedule⟩
    | _ => trivial

end Soundness

/-! ### A small tariff

A tariff with every kind of charge that needs a schedule, a baseline or tiers, and the
locks it compiles against. -/

namespace SmallTariff

def env : Env := ⟨id, id, Zone.fixed (-25200)⟩

/-- July 2026. -/
def july : DateRange := ⟨20635, some 20666, by decide⟩

def source : SourceLink := ⟨"book", "book-hash", ["sheet-1"], by decide⟩

def everyone : RuleApplicability :=
  ⟨[], [], [], [], by decide, by decide, by decide, by decide, by decide⟩

def base (ruleId : String) (key : ChargeComponentKey) : RuleBase :=
  ⟨ruleId, july, everyone, source, .halfUpCentAtLineItem, key⟩

def baseline (ruleId : String) : BaselineAllowance :=
  ⟨base ruleId .baselineAllowance, 10000, by decide⟩

/-- One kind of rate up to the baseline allowance, another beyond it. -/
def tiers : TieredEnergyCharge :=
  ⟨base "tiers" .bundledEnergy, "tiers",
    [⟨.baselineAllowance, 1, 1, 20000, by decide, by decide⟩,
      ⟨.unbounded, 1, 1, 30000, by decide, by decide⟩], by decide, by decide, by decide⟩

/-- Peak is from four to nine in the evening. -/
def schedule : TimeOfUseSchedule :=
  ⟨base "schedule" .bundledEnergy, [⟨.peak, 960, 1260, .everyDay, by decide, by decide, by decide⟩],
    none, none, by decide, by decide +kernel, by decide, by decide⟩

def energy : TimeOfUseEnergyCharge :=
  ⟨base "energy" .bundledEnergy, "energy", "schedule", [⟨.peak, 500000⟩, ⟨.offPeak, 300000⟩],
    some ⟨-50000, "baseline", by decide⟩, by decide, by decide⟩

def daily : FixedDailyCharge := ⟨base "daily" .baseServicesCharge, "daily", 800000⟩

/-- The rules, with the given baseline rules. -/
def rules (baselineIds : List String) : List TariffRule :=
  (baselineIds.map fun ruleId => .baselineAllowance (baseline ruleId)) ++
    [.tieredEnergyCharge tiers, .timeOfUseSchedule schedule, .timeOfUseEnergyCharge energy,
      .fixedDailyCharge daily]

def baselineIds (twice : Bool) : List String :=
  if twice then ["baseline", "baseline-2"] else ["baseline"]

def ruleIds (twice : Bool) : List String :=
  baselineIds twice ++ ["tiers", "schedule", "energy", "daily", "eligibility"]

/-- The definition, where the baseline rule may be given twice under two identifiers. -/
def tariff (twice : Bool) : TariffVersion where
  tariffVersionId := "small-v1"
  planCode := "E-1"
  admittedServiceWindows := [july]
  componentVersions := [⟨"component-v1", "component", july, 0, source, ruleIds twice,
    by cases twice <;> decide, by cases twice <;> decide⟩]
  eligibilityPredicate := ⟨"small-eligibility", [.tier3], none, none, ["eligibility"],
    by decide, by decide⟩
  eligibilityQuestions := []
  comparisonComponentKeys := [.bundledEnergy, .baselineAdjustment, .baseServicesCharge]
  optimizationCapability := .supported
  optimizationUnsupportedReason := none
  chargeRules := rules (baselineIds twice)
  sourceIds := ["book"]
  sourceHashes := ["book-hash"]
  goldenCaseIds := ["golden"]
  admittedServiceWindows_ne := by decide
  componentVersions_ne := by cases twice <;> simp
  comparisonComponentKeys_ne := by decide
  chargeRules_ne := by simp [rules]
  ruleIds_nodup := by cases twice <;> decide +kernel
  componentVersionIds_nodup := by cases twice <;> decide +kernel
  sourceIds_ne := by decide
  sourceIds_sorted := by decide
  sourceHashes_ne := by decide
  sourceHashes_sorted := by decide
  goldenCaseIds_ne := by decide
  goldenCaseIds_sorted := by decide
  reason_of_unsupported := by decide
  no_reason_of_supported := by decide

/-- The locks of a definition with the given rules. -/
def lockedRoot (ruleIds : List String) : Root := fun path =>
  let ids : Json := .arr (ruleIds.map Json.str)
  if path = "tariffs/sources.lock.json" then some (.obj
    [("sources", .arr [.obj [("source_id", .str "book"), ("sha256", .str "book-hash"),
      ("rule_ids", ids), ("source_url", .str "https://example.test/book")]]),
      ("tariff_component_vectors", .arr [.obj [("tariff_id", .str "small-v1"),
        ("service_window", lockedRange july),
        ("components", .arr [.obj [("component_id", .str "component"),
          ("effective_range", lockedRange july), ("precedence", .int 0),
          ("source_id", .str "book")]])]])])
  else if path = "tariffs/admission/target-account-v1.json" then some (.obj
    [("predicate_id", .str "small-eligibility"), ("required_facts", .obj
      [("service_provider", .str "PG&E"), ("service_mode", .str "BUNDLED"),
        ("meter_count", .int 1), ("primary_meter_only", .bool true),
        ("income_tier", .str "TIER_3"), ("care_enrolled", .bool false),
        ("fera_enrolled", .bool false), ("medical_baseline", .bool false),
        ("cca_service", .bool false), ("direct_access_service", .bool false),
        ("active_bill_protection", .bool false), ("solar_or_export", .bool false),
        ("service_window", lockedRange july)])])
  else if path = "tariffs/golden/e1-july-2026-complete-bill.json" then some (.obj
    [("case_id", .str "golden"), ("source_ids", .arr [.str "book"]), ("rule_ids", ids)])
  else if path = "tariffs/golden/e1-july-2026-boundaries.json" then some (.obj
    [("cases", .arr [])])
  else none

def root (twice : Bool) : Root := lockedRoot (ruleIds twice)

def facts : AccountFacts :=
  ⟨july, 1, true, .tier3, false, false, false, false, false, false, false, .t, .basic, none,
    "2026-08-01T00:00:00Z", by decide, by decide⟩

/-- Two intervals of the first of July: one before four in the afternoon, one after. -/
def request : IntervalReplayRequest :=
  ⟨⟨"profile-hash", facts, 3000, none, [], by decide⟩,
    [⟨1782943200000000000, 3600, 1000, by decide, by decide⟩,
      ⟨1782946800000000000, 3600, 2000, by decide, by decide⟩], none,
    by decide, by decide, by decide, by decide⟩

theorem request_inside : InsideWindow env.zone request := by
  intro i hi t hstart hend
  have hi' : i.startUtc = 1782943200000000 ∧ i.endUtc = 1782946800000000 ∨
      i.startUtc = 1782946800000000 ∧ i.endUtc = 1782950400000000 := by
    simp only [request, mem_cons, not_mem_nil, or_false] at hi
    rcases hi with rfl | rfl
    · exact .inl (by decide)
    · exact .inr (by decide)
  have hdate : env.zone.localDate t = 20635 := by
    simp only [env, Zone.localDate, Zone.localTime, Zone.fixed]
    omega
  show july.contains (env.zone.localDate t) = true
  rw [hdate]
  decide

def operators (twice : Bool) : List CompiledRule :=
  ((baselineIds twice).map fun ruleId =>
    .baselineAllowance ⟨base ruleId .baselineAllowance, 10000⟩) ++
  [.tieredEnergyCharge ⟨tiers.toRuleBase, "tiers", tiers.tiers.map lowerTier⟩,
    .timeOfUseSchedule ⟨schedule.toRuleBase, schedule.windows, none, none, []⟩,
    .timeOfUseEnergyCharge ⟨energy.toRuleBase, "energy", "schedule", energy.periodRates,
      energy.baselineCredit⟩,
    .fixedDailyCharge ⟨daily.toRuleBase, "daily", 800000⟩]

def coverage (twice : Bool) : List SourceCoverage :=
  [⟨"book", "book-hash", "https://example.test/book",
    baselineIds twice ++ ["daily", "energy", "schedule", "tiers"]⟩]

def golden (twice : Bool) : GoldenCoverage :=
  ⟨["golden"], ⟨((baselineIds twice) ++ ["daily", "eligibility", "energy", "schedule", "tiers"]).map
    fun ruleId => (ruleId, ["golden"]), by cases twice <;> decide⟩⟩

def bundle (twice : Bool) : CompilationBundle :=
  compilationBundle env (tariff twice) (operators twice) (coverage twice) (golden twice)

/-- The definition compiles, also when the baseline rule is given twice. -/
theorem compileTariff_eq (twice : Bool) :
    compileTariff env (root twice) (tariff twice) = .ok (bundle twice) := by
  obtain ⟨⟨records, _⟩, hv, rfl, hcoverage⟩ : ∃ p, validateTariff (root twice) (tariff twice)
      = .ok p ∧ p.2 = golden twice ∧
        (collect (sourceCoverage (tariff twice) p.1) (tariff twice).sourceIds).toOption
          = some (coverage twice) := by
    cases twice <;> decide +kernel
  refine compileTariff_eq_ok.mpr ⟨records, golden twice, operators twice, coverage twice, hv,
    by cases twice <;> rfl, ?_, rfl⟩
  cases hc : collect (sourceCoverage (tariff twice) records) (tariff twice).sourceIds with
  | error e => simp [hc, Except.toOption] at hcoverage
  | ok c => simpa [hc, Except.toOption] using hcoverage

theorem bundle_eligible (twice : Bool) : ∃ eligibility,
    evaluateEligibility env (bundle twice) request.accountFacts request.datedEligibilityFacts
      = .ok eligibility ∧ eligibility.status = .eligible := by
  cases twice <;> decide +kernel

theorem replays : ∃ result,
    replayCompiledTariff env (bundle false) (.interval request) {} = .ok result := by
  decide +kernel

theorem request_noBoundaryCrossed (twice : Bool) :
    NoBoundaryCrossed env.zone (bundle twice) request := by
  cases twice <;> decide +kernel

end SmallTariff

open SmallTariff in
/-- With one baseline rule the replay of the small tariff returns. -/
theorem replay_returns_one_baseline :
    ∃ result, replayCompiledTariff env (bundle false) (.interval request) {} = .ok result := by
  obtain ⟨eligibility, hverdict, hstatus⟩ := bundle_eligible false
  refine (replay_returns_iff_unambiguous (compileTariff_eq false) request {} eligibility hverdict
    hstatus 20666 rfl (by decide) (by decide) request_inside
    (request_noBoundaryCrossed false)).mpr ⟨fun _ => rfl, by decide +kernel, ?_⟩
  intro rule hrule happlies
  have hrule' : rule = ⟨tiers.toRuleBase, "tiers", tiers.tiers.map lowerTier⟩ := by
    simp only [bundle, compilationBundle, operators, baselineIds] at hrule
    simpa using hrule
  subst hrule'
  -- the energy does not reach the end of the first tier
  exact ⟨by decide +kernel, by decide +kernel, .inl (by decide +kernel)⟩

open SmallTariff in
/-- With two applicable baseline rules the definition still compiles, the account is
eligible and the request within bounds, and the replay raises. -/
theorem replay_two_baselines_ambiguous :
    compileTariff env (root true) (tariff true) = .ok (bundle true) ∧
    (∃ eligibility, evaluateEligibility env (bundle true) request.accountFacts
      request.datedEligibilityFacts = .ok eligibility ∧ eligibility.status = .eligible) ∧
    request.accountFacts.serviceWindow.stop = some 20666 ∧
    20666 - request.accountFacts.serviceWindow.start ≤ (bundle true).ir.maximumBillingDays ∧
    request.energyWh ≤ (bundle true).ir.maximumEnergyWh ∧
    InsideWindow env.zone request ∧ NoBoundaryCrossed env.zone (bundle true) request ∧
    replayCompiledTariff env (bundle true) (.interval request) {}
      = .error (.replayError .baselineRuleAmbiguity) := by
  refine ⟨compileTariff_eq true, bundle_eligible true, rfl, by decide, by decide, request_inside,
    request_noBoundaryCrossed true, ?_⟩
  decide +kernel

/-! ### Other schedules -/

namespace SmallTariff

/-- Peak on every day from four to nine, and on working days partial peak already from three. -/
def mixedWindows : List TimeOfUseWindow :=
  [⟨.peak, 960, 1260, .everyDay, by decide, by decide, by decide⟩,
    ⟨.partialPeak, 900, 1260, .nonholidayWeekday, by decide, by decide, by decide⟩]

def mixedSchedule : TimeOfUseSchedule :=
  ⟨base "schedule" .bundledEnergy, mixedWindows, some "holidays-2026", some "calendar-hash",
    by decide, by decide +kernel, by decide, by decide⟩

/-- Peak is from twenty past four to twenty to five. -/
def briefSchedule : TimeOfUseSchedule :=
  ⟨base "schedule" .bundledEnergy, [⟨.peak, 980, 1000, .everyDay, by decide, by decide, by decide⟩],
    none, none, by decide, by decide +kernel, by decide, by decide⟩

end SmallTariff

/-! ### A regional tariff

Two baseline rules for two territories, two tiered charges under one line item key, a
credit that names the baseline rule of the other territory and a bound on annual usage. -/

namespace SmallTariff

def within (territory : BaselineTerritory) : RuleApplicability :=
  ⟨[], [territory], [], [], by simp, by simp, by simp, by simp, by simp⟩

def regionalBaseline (ruleId : String) (territory : BaselineTerritory) (dailyAllowanceWh : ℕ)
    (hpos : 0 < dailyAllowanceWh) : BaselineAllowance :=
  ⟨{ base ruleId .baselineAllowance with applicability := within territory }, dailyAllowanceWh,
    hpos⟩

/-- One rate for all energy, under the line item key of `tiers`. -/
def delivery : TieredEnergyCharge :=
  ⟨base "delivery" .bundledEnergy, "tiers", [⟨.unbounded, 1, 1, 10000, by decide, by decide⟩],
    by decide, by decide, by decide⟩

def regionalRules : List TariffRule :=
  [.baselineAllowance (regionalBaseline "baseline-p" .p 20000 (by decide)),
    .baselineAllowance (regionalBaseline "baseline-t" .t 10000 (by decide)),
    .tieredEnergyCharge tiers, .tieredEnergyCharge delivery, .timeOfUseSchedule schedule,
    .timeOfUseEnergyCharge { energy with baselineCredit := some ⟨-50000, "baseline-p", by decide⟩ }]

def regionalIds : List String :=
  ["baseline-p", "baseline-t", "tiers", "delivery", "schedule", "energy", "eligibility"]

def regionalTariff : TariffVersion :=
  { tariff false with
    componentVersions := [⟨"component-v1", "component", july, 0, source, regionalIds, by decide,
      by decide⟩]
    eligibilityPredicate := ⟨"small-eligibility", [.tier3], none,
      some ⟨[], false, false, false, some ⟨4, 1, by decide, by decide⟩, by decide⟩,
      ["eligibility"], by decide, by decide⟩
    comparisonComponentKeys := [.bundledEnergy, .baselineAdjustment]
    chargeRules := regionalRules
    componentVersions_ne := by decide
    comparisonComponentKeys_ne := by decide
    chargeRules_ne := by simp [regionalRules]
    ruleIds_nodup := by decide +kernel
    componentVersionIds_nodup := by decide +kernel
    no_reason_of_supported := by decide
    reason_of_unsupported := by decide }

theorem compiles_regional :
    (compileTariff env (lockedRoot regionalIds) regionalTariff).toOption.isSome := by
  decide +kernel

def regionalBundle : CompilationBundle :=
  (compileTariff env (lockedRoot regionalIds) regionalTariff).toOption.get compiles_regional

theorem compileTariff_regional :
    compileTariff env (lockedRoot regionalIds) regionalTariff = .ok regionalBundle :=
  eq_ok_get compiles_regional

/-- The year before July 2026, well below four times the annual allowance. -/
def usageYear : DatedEligibilityFacts :=
  ⟨none, none, none, some ⟨20270, some 20635, by decide⟩, some 6000000, some 4000000, by decide⟩

/-- Two hours, on the first and on the second day of the window. -/
def regionalRequest : IntervalReplayRequest :=
  ⟨⟨"profile-hash", facts, 500000, none, [], by decide⟩,
    [⟨1782943200000000000, 3600, 200000, by decide, by decide⟩,
      ⟨1783033200000000000, 3600, 300000, by decide, by decide⟩], some usageYear,
    by decide, by decide, by decide, by decide⟩

/-- A month that starts on the 29th of February 2028. -/
def leapFacts : AccountFacts := { facts with serviceWindow := ⟨21243, some 21273, by decide⟩ }

end SmallTariff

end RateReplay
