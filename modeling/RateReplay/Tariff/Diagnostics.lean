import RateReplay.Tariff.Periods
import RateReplay.Tariff.Verdicts

/-!
# The diagnostics of a replay

A replay of interval data explains itself: every energy line is spread over the days of the
service window, and the parts reconcile with the bill.  This module says what these
explanations guarantee, and where they rest on something the compiler does not check: the
uniqueness of line item keys, and that a credit names the baseline rule that applies.

## Main definitions

* `ReplayError.IsDiagnostic`, `dailyEntries` — the errors and the entries of the diagnostics.
* `KeysAgree` — energy lines under one key have one quantity.
* `tierShares` — the energy in each tier.

## Main results

* `diagnostics_never_fail` — **the diagnostics raise nothing, return and reconcile.**
* `weights_match_iff_keysAgree` — **the weights of a line add up to its quantity exactly
  when its key is used for one quantity.**
* `credit_of_named_rule_iff` — **a credit goes by the rule it names exactly when the rule that
  applies grants the same.**
* `tiers_partition_energy` — **the tiers partition the energy**, and that of each day.
-/

namespace RateReplay

open List

/-! ### Errors of the loop -/

/-- The errors that concern the diagnostics alone. -/
def ReplayError.IsDiagnostic : ReplayError → Prop
  | .diagnosticAllocationBasisMissing | .diagnosticSliceBasisMissing
  | .diagnosticAllocationInvalid | .diagnosticIntervalInvalid => True
  | _ => False

/-- An error of the evaluator that does not come from its diagnostics. -/
def Raised.IsOrdinary (raised : Raised) : Prop := ∃ e, raised = .replayError e ∧ ¬ e.IsDiagnostic

/-- No error of the diagnostics: an ordinary one, or a `ValueError` of the verdict. -/
def Raised.NotDiagnostic : Raised → Prop
  | .replayError e => ¬ e.IsDiagnostic
  | .valueError _ => True

section Errors

variable {ctx : ReplayContext} {r : IntervalReplayRequest} {s : ReplayState}

theorem tierUpperBound_raises (tier : IREnergyTier) :
    RaisesOnly Raised.IsOrdinary (tierUpperBound ctx tier) := by
  rw [tierUpperBound]
  cases tier.upperBoundOperator with
  | unbounded => exact .of_ok rfl
  | baselineAllowance => exact (raisesOnly_failIf ⟨_, rfl, id⟩).bind fun _ _ => .of_ok rfl

theorem allocateTiers_raises (hctx : IntervalContext ctx r) (rule : IRTieredEnergyCharge) :
    ∀ (tiers : List IREnergyTier) (index : ℕ) (lower : ℤ) (s : ReplayState),
      ReplayInv ctx r s → 0 ≤ lower → lower ≤ r.energyWh → RaisesOnly Raised.IsOrdinary
        (allocateTiers ctx rule index tiers (r.energyWh - lower) lower s) := by
  intro tiers
  induction tiers with
  | nil => exact fun index lower s _ _ _ => .of_ok rfl
  | cons tier tiers ih =>
    intro index lower s hinv hlower hle
    rw [allocateTiers]
    refine (tierUpperBound_raises tier).bind fun upper _ => ?_
    refine (raisesOnly_failIf ⟨_, rfl, id⟩).bind fun _ hnonneg => ?_
    rw [failIf_eq_ok, not_lt] at hnonneg
    generalize hq : tierQuantity (r.energyWh - lower) lower upper = quantity at hnonneg
    have hqty : quantity ≤ r.energyWh - lower := by
      rw [← hq, tierQuantity]
      cases upper with
      | none => exact le_rfl
      | some upper => exact min_le_left _ _
    -- the slice of a tier lies within the daily energy, so its line is always added
    obtain ⟨mid, hmid, hmidInv, -⟩ :=
      chargeTier_spec hctx hinv rule index tier hlower hnonneg (by omega)
    rw [hmid, ok_bind]
    split_ifs with hdone
    · exact .of_ok rfl
    · cases upper with
      | none =>
        rw [tierQuantity, Option.elim_none] at hq
        omega
      | some upper =>
        rw [tierQuantity, Option.elim_some] at hq
        rw [Option.getD_some,
          show (r.energyWh : ℤ) - lower - quantity = r.energyWh - upper by omega]
        exact ih (index + 1) upper mid hmidInv (by omega) (by omega)

theorem evaluateTiered_raises (hctx : IntervalContext ctx r) (hinv : ReplayInv ctx r s)
    (rule : IRTieredEnergyCharge) : RaisesOnly Raised.IsOrdinary (evaluateTiered ctx rule s) := by
  have hloop := allocateTiers_raises hctx rule rule.tiers 1 0 { s with hasTieredEnergy := true }
    ⟨hinv.energies, hinv.dailies, hinv.bases, hinv.lines, hinv.backed⟩ le_rfl
    (Int.natCast_nonneg _)
  rw [sub_zero, ← base_energyWh hctx] at hloop
  exact hloop.bind fun _ _ => (raisesOnly_failIf ⟨_, rfl, id⟩).bind fun _ _ => .of_ok rfl

theorem periodEnergy_raises (schedule : IRTimeOfUseSchedule) :
    RaisesOnly Raised.IsOrdinary (periodEnergy ctx.env.zone r schedule) := by
  refine RaisesOnly.foldlM (I := fun _ => True) (fun totals i _ => ?_) (fun _ _ _ _ _ => trivial)
    _ _ trivial
  rw [addPeriodEnergy, classifyIntervalPeriod]
  refine RaisesOnly.bind ?_ fun _ _ => .of_ok rfl
  exact (raisesOnly_failIf ⟨_, rfl, id⟩).bind fun _ _ =>
    (raisesOnly_failIf ⟨_, rfl, id⟩).bind fun _ _ => .of_ok rfl

theorem evaluateTimeOfUse_raises (hctx : IntervalContext ctx r) (hinv : ReplayInv ctx r s)
    (rule : IRTimeOfUseEnergyCharge) :
    RaisesOnly Raised.IsOrdinary (evaluateTimeOfUse ctx rule s) := by
  by_cases hret : TimeOfUseReturns ctx r rule
  · obtain ⟨s', hs', -⟩ := evaluateTimeOfUse_spec hctx hinv hret
    exact .of_ok hs'
  · rw [evaluateTimeOfUse, hctx.request_eq]
    refine RaisesOnly.bind ?_ fun schedule hrsv => ?_
    · unfold resolveTimeSchedule
      split
      · exact .of_ok rfl
      · intro e he
        cases he
        exact ⟨_, rfl, id⟩
    · refine (periodEnergy_raises schedule).bind fun energy hen => ?_
      exact absurd ⟨schedule, hrsv, periodEnergy_isOk.mp ⟨energy, hen⟩⟩ hret

/-- The loop over the operators raises none of the diagnostic errors. -/
theorem evaluateOperators_raises (hctx : IntervalContext ctx r) :
    RaisesOnly Raised.IsOrdinary (evaluateOperators ctx) := by
  refine RaisesOnly.foldlM (fun s operator hinv => ?_)
    (fun s operator s' hinv hs' => evaluateOperator_keeps hctx hinv hs') _ _ ReplayInv.initial
  rw [evaluateOperator.eq_def]
  split_ifs
  · exact .of_ok rfl
  · cases operator with
    | tieredEnergyCharge rule => exact evaluateTiered_raises hctx hinv rule
    | timeOfUseEnergyCharge rule => exact evaluateTimeOfUse_raises hctx hinv rule
    | _ => exact .of_ok rfl

end Errors

section Checks

variable {zone : Zone} {serviceWindow : DateRange}

/-- A turn that ends where it started would be a diagnostic error; only a day outside the
service window stops the loop. -/
theorem segmentSeconds_raises {endUtc : ℤ} (hend : endUtc % 1000000 = 0) :
    ∀ (fuel : ℕ) (cursor : ℤ) (segments : Dict ℤ ℤ), cursor % 1000000 = 0 →
      RaisesOnly Raised.IsOrdinary
        (segmentSeconds zone serviceWindow endUtc fuel cursor segments) := by
  intro fuel
  induction fuel with
  | zero => exact fun _ _ _ => .of_ok rfl
  | succ fuel ih =>
    intro cursor segments hcursor
    rw [segmentSeconds]
    split_ifs with hlt
    · obtain ⟨hseconds, hwhole⟩ := segmentEnd_whole zone hend hcursor hlt
      refine (raisesOnly_failIf ⟨_, rfl, id⟩).bind fun _ _ => ?_
      exact RaisesOnly.bind (.of_ok (failIf_of_not _ (not_le.mpr hseconds)))
        fun _ _ => ih _ _ hwhole
    · exact .of_ok rfl

theorem dailyEnergy_raises (r : IntervalReplayRequest) :
    RaisesOnly Raised.IsOrdinary (dailyEnergy zone r) := by
  refine RaisesOnly.bind ?_ fun _ _ => .of_ok rfl
  refine RaisesOnly.foldlM (I := fun _ => True) (fun totals i _ => ?_) (fun _ _ _ _ _ => trivial)
    _ _ trivial
  by_cases hsplits : i.Splits zone r.accountFacts.serviceWindow
  · obtain ⟨d, hd⟩ : ∃ d, addDailyEnergy zone _ totals i = .ok d :=
      addDailyEnergy_isOk.mpr hsplits
    exact .of_ok hd
  · -- the apportionment is not reached
    refine RaisesOnly.bind ?_ fun _ _ => .of_ok rfl
    exact (segmentSeconds_raises i.whole.2 _ _ _ i.whole.1).bind
      fun segments hsegments => absurd ⟨segments, hsegments⟩ hsplits

/-- The checks before the loop raise none of the diagnostic errors either. -/
theorem prepareReplay_raises (env : Env) (bundle : CompilationBundle) (r : IntervalReplayRequest) :
    RaisesOnly Raised.NotDiagnostic (prepareReplay env bundle (.interval r)) := by
  refine (raisesOnly_failIf id).bind fun _ _ => RaisesOnly.bind ?_ fun eligibility _ => ?_
  · rcases evaluateEligibility_cases env bundle (Request.interval r).base.accountFacts
      (Request.interval r).datedFacts with ⟨⟨result, h⟩, -⟩ | ⟨⟨message, h⟩, -⟩
    · exact .of_ok h
    · intro raised hraised
      cases h.symm.trans hraised
      trivial
  refine (raisesOnly_failIf id).bind fun _ _ => RaisesOnly.bind ?_ fun stop _ => ?_
  · show RaisesOnly _ (billingPeriodEnd r.accountFacts.serviceWindow)
    rw [billingPeriodEnd]
    cases r.accountFacts.serviceWindow.stop with
    | none =>
      intro raised hraised
      cases hraised
      exact id
    | some stop => exact .of_ok rfl
  refine (raisesOnly_failIf id).bind fun _ _ => (raisesOnly_failIf id).bind fun _ _ =>
    RaisesOnly.bind ?_ fun baselineWh _ => RaisesOnly.bind ?_ fun daily _ => .of_ok rfl
  · show RaisesOnly _ (baselineAllowance bundle r.accountFacts _ _)
    unfold baselineAllowance
    split_ifs
    · exact .of_ok rfl
    · split
      · exact .of_ok rfl
      · intro raised hraised
        cases hraised
        exact id
  · intro raised hraised
    obtain ⟨e, rfl, he⟩ := dailyEnergy_raises r raised hraised
    exact he

end Checks

/-! ### Daily entries -/

/-- The daily entries produced for a line. -/
def dailyEntries (s : ReplayState) (line : ChargeLineItem) : List DailyEnergyChargeAllocation :=
  match allocateLine true s.lineDailyEnergy line with
  | .ok p => p.1
  | .error _ => []

/-- The weights of the days of a line. -/
def weightWh (entries : List DailyEnergyChargeAllocation) : ℤ :=
  (entries.map DailyEnergyChargeAllocation.allocationWeightWh).sum

section Entries

variable {ctx : ReplayContext} {r : IntervalReplayRequest} {s : ReplayState} {line : ChargeLineItem}

/-- An energy line is spread over the days that stand under its key. -/
theorem dailyEntries_spec (hinv : ReplayInv ctx r s) (hline : line ∈ s.lines)
    (hunit : line.quantityUnit = "Wh") :
    ∃ basis, s.lineDailyEnergy.get? line.lineItemKey = some basis ∧
      weightWh (dailyEntries s line) = basis.total ∧
      dailyCents (dailyEntries s line) = line.roundedCents := by
  obtain ⟨basis, hg⟩ := Option.isSome_iff_exists.mp ((hinv.lines line hline).2 hunit)
  obtain ⟨p, hp⟩ := hinv.allocates true line hline
  have hcents := (allocateLine_spreads hp).cents
  refine ⟨basis, hg, ?_⟩
  rw [dailyEntries, hp]
  rw [allocateLine, hg] at hp
  simp only [hunit, and_self, if_true] at hp
  obtain ⟨shares, hshares, hp⟩ := bind_eq_ok.mp hp
  cases hp
  rw [adjustmentCents_nil, add_zero] at hcents
  refine ⟨?_, hcents⟩
  rw [weightWh, map_map]
  exact apportionInteger_weights (hinv.bases _ _ hg).1 hshares

/-- The entries of all lines, in the order of their days. -/
theorem dailyEnergyCharges_eq {reconciliation : Option ReconciliationResult}
    {a : DiagnosticCostAllocation}
    (h : diagnosticCostAllocation (.interval r) s reconciliation = .ok a) :
    a.dailyEnergyCharges = sortedBy (fun item => toLex (item.serviceDay, item.lineItemKey))
      (s.lines.flatMap (dailyEntries s)) := by
  simp only [diagnosticCostAllocation, bind_eq_ok, Except.ok.injEq] at h
  obtain ⟨allocated, hallocated, -, -, rfl⟩ := h
  have hforall : List.Forall₂ (fun line p => dailyEntries s line = Prod.fst p) s.lines allocated :=
    (collect_eq_ok_iff.mp hallocated).imp fun line p hp => by
      rw [dailyEntries, show allocateLine true s.lineDailyEnergy line = .ok p from hp]
  have hent : s.lines.map (dailyEntries s) = allocated.map Prod.fst := by
    rw [← forall₂_eq_eq_eq, forall₂_map_left_iff, forall₂_map_right_iff]
    exact hforall
  rw [flatMap_def, ← hent, ← flatMap_def]

end Entries

/-! ### The diagnostics reconcile -/

section Reconciles

variable {env : Env} {bundle : CompilationBundle} {r : IntervalReplayRequest}

theorem sum_amountCents (xs : List BillingPeriodAdjustment) :
    (xs.map BillingPeriodAdjustment.amountCents).sum = adjustmentCents .supportedPeriodCharge xs +
      adjustmentCents .userUnsupported xs + adjustmentCents .unexplainedResidual xs +
      adjustmentCents .tierResetContext xs := by
  induction xs with
  | nil => rfl
  | cons x xs ih =>
    rw [map_cons, sum_cons, ih]
    obtain ⟨kind, key, component, amount⟩ := x
    cases kind <;> simp [adjustmentCents] <;> omega

/-- The reset of the tiers is mentioned and costs nothing. -/
theorem adjustmentCents_tierReset {s : ReplayState} {reconciliation : Option ReconciliationResult}
    {a : DiagnosticCostAllocation}
    (h : diagnosticCostAllocation (.interval r) s reconciliation = .ok a) :
    adjustmentCents .tierResetContext a.billingPeriodAdjustments = 0 := by
  simp only [diagnosticCostAllocation, bind_eq_ok, Except.ok.injEq] at h
  obtain ⟨allocated, hallocated, -, -, rfl⟩ := h
  obtain ⟨-, hk, -⟩ := spreads_sum ((collect_eq_ok_iff.mp hallocated).imp
    fun _ _ hp => allocateLine_spreads hp)
  have huser : adjustmentCents .tierResetContext
      ((Request.interval r).base.userUnsupportedLines.map fun l =>
        ⟨.userUnsupported, l.lineItemKey, none, l.amountCents⟩) = 0 := by
    apply adjustmentCents_of_forall_ne
    intro x hx
    obtain ⟨l, -, rfl⟩ := mem_map.mp hx
    exact fun h => by cases h
  rw [adjustmentCents_append, adjustmentCents_other (by decide) hk, contextAdjustments,
    adjustmentCents_append, adjustmentCents_append, huser]
  cases reconciliation <;> cases s.hasTieredEnergy <;> simp [adjustmentCents, Request.isInterval]

/-- **The diagnostics of a replay never fail.**  The checks before the loop, which split every
interval at the midnights, raise none of the diagnostic errors, and neither does the loop; if it
returns, the diagnostic allocation passes its own validator, the days of each energy line carry
its rounded cents, and days and adjustments together make up the supported total and the entered
bill. -/
theorem diagnostics_never_fail (env : Env) (bundle : CompilationBundle) (r : IntervalReplayRequest)
    (policy : ReconciliationPolicy) :
    (∀ raised, prepareReplay env bundle (.interval r) = .error raised → raised.NotDiagnostic) ∧
    ∀ eligibility ctx, prepareReplay env bundle (.interval r) = .ok (eligibility, ctx) →
      (∀ raised, evaluateOperators ctx = .error raised → raised.IsOrdinary) ∧
      ∀ s, evaluateOperators ctx = .ok s → ∃ a,
        diagnosticCostAllocation (.interval r) s
          (reconcile env r.toReplayRequestBase (supportedCents s.lines) policy) = .ok a ∧
        a.dailyEnergyCharges.Perm (s.lines.flatMap (dailyEntries s)) ∧
        (∀ line ∈ s.lines, line.quantityUnit = "Wh" →
          dailyCents (dailyEntries s line) = line.roundedCents) ∧
        dailyCents a.dailyEnergyCharges +
          adjustmentCents .supportedPeriodCharge a.billingPeriodAdjustments
            = supportedCents s.lines ∧
        ∀ total, r.currentBillTotalCents = some total → dailyCents a.dailyEnergyCharges +
          (a.billingPeriodAdjustments.map BillingPeriodAdjustment.amountCents).sum = total := by
  refine ⟨prepareReplay_raises env bundle r, fun eligibility ctx hprepare => ?_⟩
  obtain ⟨stop, baselineWh, daily, hadmitted, hdaily, rfl⟩ := prepareReplay_eq_ok.mp hprepare
  have hctx := hadmitted.intervalContext hdaily
  refine ⟨evaluateOperators_raises hctx, fun s hs => ?_⟩
  obtain ⟨hinv, -⟩ := evaluateOperators_spec hctx hs
  obtain ⟨a, ha⟩ := diagnosticCostAllocation_isOk env (.interval r) s policy hadmitted.guard
    (hinv.allocates _)
  refine ⟨a, ha, ?_, fun line hline hunit => ?_, ?_⟩
  · rw [dailyEnergyCharges_eq ha]
    exact sortedBy_perm _ _
  · obtain ⟨-, -, -, hcents⟩ := dailyEntries_spec hinv hline hunit
    exact hcents
  · have hreset := adjustmentCents_tierReset ha
    simp only [diagnosticCostAllocation, bind_eq_ok, Except.ok.injEq] at ha
    obtain ⟨allocated, -, _, hvalid, rfl⟩ := ha
    simp only [DiagnosticCostAllocation.validate, bind_eq_ok, failIf_eq_ok, ne_eq, not_not]
      at hvalid
    obtain ⟨_, -, _, -, _, -, _, -, _, -, _, hsupported, _, hdisplayed, -⟩ := hvalid
    refine ⟨hsupported, fun total htotal => ?_⟩
    rw [sum_amountCents, hreset, add_zero, ← add_assoc, ← add_assoc, hdisplayed, reconcile,
      show (Request.interval r).base.currentBillTotalCents = some total from htotal]
    rfl

end Reconciles

section

open SmallTariff

/-- The loop over the small tariff returns, and its diagnostics reconcile. -/
theorem diagnostics_never_fail_small : ∃ eligibility ctx s a,
    prepareReplay env (bundle false) (.interval request) = .ok (eligibility, ctx) ∧
    evaluateOperators ctx = .ok s ∧ diagnosticCostAllocation (.interval request) s
      (reconcile env request.toReplayRequestBase (supportedCents s.lines) {}) = .ok a ∧
    dailyCents a.dailyEnergyCharges +
      adjustmentCents .supportedPeriodCharge a.billingPeriodAdjustments
        = supportedCents s.lines := by
  obtain ⟨⟨eligibility, ctx⟩, hprepare, s, hs⟩ : ∃ p, prepareReplay env (bundle false)
      (.interval request) = .ok p ∧ ∃ s, evaluateOperators p.2 = .ok s := by decide +kernel
  obtain ⟨a, ha, -, -, hsupported, -⟩ :=
    ((diagnostics_never_fail env (bundle false) request {}).2 eligibility ctx hprepare).2 s hs
  exact ⟨eligibility, ctx, s, a, hprepare, hs, ha, hsupported⟩

end

/-! ### One key, one quantity -/

section Keys

variable {env : Env} {bundle : CompilationBundle} {r : IntervalReplayRequest}

/-- The keys a charge uses, each with the energy of the request it is used for: a tiered charge
cuts the energy at its bounds, a time-of-use charge sorts it by period, and its credit is for the
energy up to the allowance. -/
def chargedEnergy (env : Env) (bundle : CompilationBundle) (r : IntervalReplayRequest)
    (baselineWh : ℤ) : CompiledRule → List (String × ℤ)
  | .tieredEnergyCharge rule => (tierParts baselineWh r.energyWh 1 rule.tiers 0).map fun part =>
      (rule.lineItemKey ++ ".tier_" ++ toString part.index, part.quantity)
  | .timeOfUseEnergyCharge rule =>
    match resolveTimeSchedule bundle rule.scheduleRuleId with
    | .ok schedule =>
      (rule.periodRates.filterMap fun rate =>
        let quantity := periodQuantity env.zone schedule r.intervals rate.period
        if quantity = 0 then none
        else some (rule.lineItemKey ++ "." ++ rate.period.lower, quantity)) ++
      rule.baselineCredit.toList.map fun _ =>
        (rule.lineItemKey ++ ".baseline_credit", min (r.energyWh : ℤ) baselineWh)
    | .error _ => []
  | _ => []

/-- No two charges that apply to the account use one key for different amounts of energy. -/
def KeysAgree (env : Env) (bundle : CompilationBundle) (r : IntervalReplayRequest)
    (billCycleMonth baselineWh : ℤ) : Prop :=
  ∀ charge ∈ bundle.ir.operators, ∀ other ∈ bundle.ir.operators,
    ruleApplies charge.base.applicability r.accountFacts billCycleMonth = true →
    ruleApplies other.base.applicability r.accountFacts billCycleMonth = true →
    ∀ used ∈ chargedEnergy env bundle r baselineWh charge,
      ∀ used' ∈ chargedEnergy env bundle r baselineWh other, used.1 = used'.1 → used.2 = used'.2

instance (billCycleMonth baselineWh : ℤ) :
    Decidable (KeysAgree env bundle r billCycleMonth baselineWh) :=
  inferInstanceAs (Decidable (∀ charge ∈ bundle.ir.operators, ∀ other ∈ bundle.ir.operators,
    _ → _ → ∀ used ∈ chargedEnergy env bundle r baselineWh charge, _))

variable {stop baselineWh : ℤ}

/-- The energy lines of a charge are those of the keys it uses. -/
theorem mem_chargedEnergy (stop : ℤ) (daily : Dict ℤ ℤ) {charge : CompiledRule} {key : String}
    {quantity : ℤ} :
    (key, quantity) ∈ chargedEnergy env bundle r baselineWh charge ↔
      ∃ line ∈ ownLines (intervalContext env bundle r stop baselineWh daily) r charge,
        line.quantityUnit = "Wh" ∧ line.lineItemKey = key ∧ line.quantityNumerator = quantity := by
  cases charge with
  | tieredEnergyCharge rule =>
    simp only [chargedEnergy, ownLines, mem_map, Prod.mk.injEq, exists_exists_and_eq_and]
    exact exists_congr fun part => and_congr_right fun _ => (and_iff_right rfl).symm
  | timeOfUseEnergyCharge rule =>
    rw [chargedEnergy, ownLines, timeOfUseLines, intervalContext]
    cases hrsv : resolveTimeSchedule bundle rule.scheduleRuleId with
    | error e => simp
    | ok schedule =>
      simp only [periodLines, mem_append, mem_filterMap, mem_map, or_and_right, exists_or]
      refine or_congr ⟨?_, ?_⟩ ⟨?_, ?_⟩
      · rintro ⟨rate, hrate, hpair⟩
        split_ifs at hpair with hzero
        cases hpair
        exact ⟨_, ⟨rate, hrate, if_neg hzero⟩, rfl, rfl, rfl⟩
      · rintro ⟨_, ⟨rate, hrate, hline⟩, -, rfl, rfl⟩
        split_ifs at hline with hzero
        cases hline
        exact ⟨rate, hrate, if_neg hzero⟩
      · rintro ⟨credit, hcredit, hpair⟩
        cases hpair
        exact ⟨_, ⟨credit, hcredit, rfl⟩, rfl, rfl, rfl⟩
      · rintro ⟨_, ⟨credit, hcredit, rfl⟩, -, rfl, rfl⟩
        exact ⟨credit, hcredit, rfl⟩
  | _ => simp [chargedEnergy, ownLines, fixedDailyLine, fixedMonthlyLine, ReplayContext.line,
      chargeLine]

/-- **The weights of the days of a line.**  They add up to the quantity of the line, for
every energy line of a replay, exactly when no two charges that apply use one key for
different amounts of energy. -/
theorem weights_match_iff_keysAgree {policy : ReconciliationPolicy} {result : ReplayResult}
    (h : replayCompiledTariff env bundle (.interval r) policy = .ok result)
    (hstop : r.accountFacts.serviceWindow.stop = some stop)
    (hbaseline : baselineAllowance bundle r.accountFacts
      (stop - r.accountFacts.serviceWindow.start) (Date.month stop) = .ok baselineWh) :
    ∃ eligibility ctx s, prepareReplay env bundle (.interval r) = .ok (eligibility, ctx) ∧
      evaluateOperators ctx = .ok s ∧ result.lineItems = s.lines ∧
      result.diagnosticCostAllocation.dailyEnergyCharges
        = sortedBy (fun item => toLex (item.serviceDay, item.lineItemKey))
          (s.lines.flatMap (dailyEntries s)) ∧
      ((∀ line ∈ result.lineItems, line.quantityUnit = "Wh" →
          weightWh (dailyEntries s line) = line.quantityNumerator) ↔
        KeysAgree env bundle r (Date.month stop) baselineWh) := by
  simp only [replayCompiledTariff, bind_eq_ok, Except.ok.injEq] at h
  obtain ⟨⟨eligibility, ctx⟩, hprepare, s, hs, diagnostic, hdiagnostic, rfl⟩ := h
  refine ⟨eligibility, ctx, s, hprepare, hs, rfl, dailyEnergyCharges_eq hdiagnostic, ?_⟩
  obtain ⟨stop', baselineWh', daily, hadmitted, hdaily, rfl⟩ := prepareReplay_eq_ok.mp hprepare
  obtain rfl : stop' = stop := Option.some.inj (hadmitted.stop_eq.symm.trans hstop)
  obtain rfl : baselineWh' = baselineWh := Except.ok.inj (hadmitted.baseline.symm.trans hbaseline)
  obtain ⟨hinv, hlines⟩ := evaluateOperators_spec (hadmitted.intervalContext hdaily) hs
  show (∀ line ∈ s.lines, _) ↔ _
  -- an energy line, and the charge that uses its key
  have huses : ∀ {key quantity}, (∃ line ∈ s.lines, line.quantityUnit = "Wh" ∧
      line.lineItemKey = key ∧ line.quantityNumerator = quantity) ↔
      ∃ charge ∈ bundle.ir.operators,
        ruleApplies charge.base.applicability r.accountFacts (Date.month stop') = true ∧
        (key, quantity) ∈ chargedEnergy env bundle r baselineWh' charge := by
    intro key quantity
    simp only [hlines, mem_flatMap, operatorLines, mem_ite_nil_right,
      mem_chargedEnergy stop' daily]
    constructor
    · rintro ⟨line, ⟨charge, hcharge, happ, hline⟩, hrest⟩
      exact ⟨charge, hcharge, happ, line, hline, hrest⟩
    · rintro ⟨charge, hcharge, happ, line, hline, hrest⟩
      exact ⟨line, ⟨charge, hcharge, happ, hline⟩, hrest⟩
  constructor
  · rintro hmatch charge hcharge other hother happ happ' ⟨key, quantity⟩ hused ⟨_, quantity'⟩
      hused' rfl
    obtain ⟨line, hline, hunit, hkey, rfl⟩ := huses.mpr ⟨charge, hcharge, happ, hused⟩
    obtain ⟨line', hline', hunit', hkey', rfl⟩ := huses.mpr ⟨other, hother, happ', hused'⟩
    obtain ⟨basis, hget, hweight, -⟩ := dailyEntries_spec hinv hline hunit
    obtain ⟨basis', hget', hweight', -⟩ := dailyEntries_spec hinv hline' hunit'
    rw [hkey] at hget
    rw [hkey', hget] at hget'
    cases hget'
    rw [← hmatch line hline hunit, ← hmatch line' hline' hunit', hweight, hweight']
  · intro hagree line hline hunit
    obtain ⟨basis, hget, hweight, -⟩ := dailyEntries_spec hinv hline hunit
    -- the basis under the key was written for some energy line with that key
    obtain ⟨line', hline', hkey, hunit', htotal⟩ := hinv.backed _ _ hget
    obtain ⟨charge, hcharge, happ, hused⟩ := huses.mp ⟨line, hline, hunit, rfl, rfl⟩
    obtain ⟨other, hother, happ', hused'⟩ := huses.mp ⟨line', hline', hunit', hkey, rfl⟩
    rw [hweight, htotal]
    exact hagree other hother charge hcharge happ' happ _ hused' _ hused rfl

end Keys

section

open SmallTariff

/-- In the small tariff every energy line has a key of its own. -/
theorem weights_match_small : ∃ result eligibility ctx s,
    replayCompiledTariff env (bundle false) (.interval request) {} = .ok result ∧
    prepareReplay env (bundle false) (.interval request) = .ok (eligibility, ctx) ∧
    evaluateOperators ctx = .ok s ∧ ∀ line ∈ result.lineItems, line.quantityUnit = "Wh" →
      weightWh (dailyEntries s line) = line.quantityNumerator := by
  obtain ⟨result, hok⟩ := replays
  have hbaseline : baselineAllowance (bundle false) facts 31 8 = .ok 310000 := by decide +kernel
  obtain ⟨eligibility, ctx, s, hprepare, hs, -, -, hiff⟩ :=
    weights_match_iff_keysAgree hok rfl hbaseline
  exact ⟨result, eligibility, ctx, s, hok, hprepare, hs, hiff.mpr (by decide +kernel)⟩

/-- Two charges of the regional tariff share a line item key.  The first tier of one has
310 kWh, and its days carry the 500 kWh of the other. -/
theorem weights_differ_under_one_key :
    compileTariff env (lockedRoot regionalIds) regionalTariff = .ok regionalBundle ∧
    ∃ result eligibility ctx s line,
      replayCompiledTariff env regionalBundle (.interval regionalRequest) {} = .ok result ∧
      prepareReplay env regionalBundle (.interval regionalRequest) = .ok (eligibility, ctx) ∧
      evaluateOperators ctx = .ok s ∧
      line ∈ result.lineItems ∧ line.quantityUnit = "Wh" ∧ line.lineItemKey = "tiers.tier_1" ∧
      line.quantityNumerator = 310000 ∧ weightWh (dailyEntries s line) = 500000 := by
  refine ⟨compileTariff_regional, ?_⟩
  obtain ⟨result, hok, ⟨eligibility, ctx⟩, hprepare, s, hs, line, hline⟩ : ∃ result,
      replayCompiledTariff env regionalBundle (.interval regionalRequest) {} = .ok result ∧
      ∃ p, prepareReplay env regionalBundle (.interval regionalRequest) = .ok p ∧
      ∃ s, evaluateOperators p.2 = .ok s ∧ ∃ line ∈ result.lineItems, line.quantityUnit = "Wh" ∧
        line.lineItemKey = "tiers.tier_1" ∧ line.quantityNumerator = 310000 ∧
        weightWh (dailyEntries s line) = 500000 := by decide +kernel
  exact ⟨result, eligibility, ctx, s, line, hok, hprepare, hs, hline⟩

end

/-! ### The baseline rule of a credit -/

/-- Time-of-use charges are billed on interval data only. -/
theorem isInterval_of_applies {env : Env} {bundle : CompilationBundle} {request : Request}
    {policy : ReconciliationPolicy} {result : ReplayResult}
    (h : replayCompiledTariff env bundle request policy = .ok result) {stop : ℤ}
    (hstop : request.base.accountFacts.serviceWindow.stop = some stop)
    {rule : IRTimeOfUseEnergyCharge}
    (hrule : CompiledRule.timeOfUseEnergyCharge rule ∈ bundle.ir.operators)
    (happ : ruleApplies rule.applicability request.base.accountFacts (Date.month stop) = true) :
    ∃ r, request = .interval r := by
  cases request with
  | interval r => exact ⟨r, rfl⟩
  | aggregate r =>
    simp only [replayCompiledTariff, prepareReplay, bind_eq_ok, billingPeriodEnd_eq_ok,
      Except.ok.injEq] at h
    obtain ⟨_, ⟨_, -, _, -, _, -, stop', hstop', _, -, _, -, _, -, _, -, rfl⟩, s, hs, -⟩ := h
    obtain rfl : stop' = stop := Option.some.inj (hstop'.symm.trans hstop)
    obtain ⟨t, t', ht⟩ := foldlM_mem hrule hs
    rw [evaluateOperator.eq_def, if_neg (by rw [Bool.not_eq_false]; exact happ)] at ht
    obtain ⟨schedule, -, hrest⟩ := bind_eq_ok.mp ht
    cases hrest

/-- The credit line of a charge is the one line with its rule and its key. -/
theorem eq_creditLine {ctx : ReplayContext} {r : IntervalReplayRequest} {root : Root}
    {tariff : TariffVersion} (hcmp : Compiles root tariff ctx.bundle)
    {rule : IRTimeOfUseEnergyCharge}
    (hrule : CompiledRule.timeOfUseEnergyCharge rule ∈ ctx.bundle.ir.operators)
    {credit : BaselineCredit} (hcredit : rule.baselineCredit = some credit)
    {line : ChargeLineItem} (hline : line ∈ ctx.bundle.ir.operators.flatMap (operatorLines ctx r))
    (hid : line.ruleId = rule.ruleId)
    (hkey : line.lineItemKey = rule.lineItemKey ++ ".baseline_credit") :
    line = creditLine ctx rule credit := by
  obtain ⟨operator, hopr, hmem⟩ := mem_flatMap.mp hline
  obtain rfl : operator = .timeOfUseEnergyCharge rule :=
    inj_on_of_nodup_map hcmp.ruleIds_nodup hopr hrule
      ((ruleId_of_mem_operatorLines hmem).symm.trans hid)
  rw [operatorLines] at hmem
  split_ifs at hmem
  · obtain ⟨schedule, -, hrsv, -⟩ := resolveTimeSchedule_of_compiles hcmp hrule
    rw [ownLines, timeOfUseLines_eq hrsv, hcredit] at hmem
    rcases mem_append.mp hmem with hper | hlast
    · obtain ⟨rate, -, hrate⟩ := mem_filterMap.mp hper
      split_ifs at hrate
      cases hrate
      exact absurd ⟨_, hkey⟩ (not_isCreditKey_period _ _)
    · simpa using hlast
  · cases hmem

theorem min_allowance_iff {energy days : ℤ} {a b : ℕ} (hdays : 0 < days) :
    min energy (a * days) = min energy (b * days) ↔
      a = b ∨ energy ≤ a * days ∧ energy ≤ b * days := by
  have hcan : (a : ℤ) * days = b * days ↔ a = b := by
    rw [mul_left_inj' hdays.ne', Nat.cast_inj]
  rw [← hcan]
  omega

/-- **Which allowance a credit uses.**  The quantity of a baseline credit is the energy up to
the allowance of the rule it names, exactly when the one baseline rule that applies has the
same daily allowance or the energy stays within both. -/
theorem credit_of_named_rule_iff {env : Env} {root : Root} {tariff : TariffVersion}
    {bundle : CompilationBundle} {request : Request} {policy : ReconciliationPolicy}
    {result : ReplayResult} (hcompile : compileTariff env root tariff = .ok bundle)
    (h : replayCompiledTariff env bundle request policy = .ok result)
    {stop : ℤ} (hstop : request.base.accountFacts.serviceWindow.stop = some stop)
    {rule : IRTimeOfUseEnergyCharge}
    (hrule : CompiledRule.timeOfUseEnergyCharge rule ∈ bundle.ir.operators)
    (happlies : ruleApplies rule.applicability request.base.accountFacts (Date.month stop) = true)
    {credit : BaselineCredit} (hcredit : rule.baselineCredit = some credit) :
    (∀ line ∈ result.lineItems, line.ruleId = rule.ruleId →
        line.lineItemKey = rule.lineItemKey ++ ".baseline_credit" →
        ∀ named ∈ bundle.baselineRules, named.ruleId = credit.ruleId →
          line.quantityNumerator = min (request.base.energyWh : ℤ)
            (named.dailyAllowanceWh * (stop - request.base.accountFacts.serviceWindow.start))) ↔
      ∀ named ∈ bundle.baselineRules, named.ruleId = credit.ruleId →
        ∀ applied ∈ bundle.applicableBaselineRules request.base.accountFacts (Date.month stop),
          applied.dailyAllowanceWh = named.dailyAllowanceWh ∨
          (request.base.energyWh : ℤ) ≤
            applied.dailyAllowanceWh * (stop - request.base.accountFacts.serviceWindow.start) ∧
          (request.base.energyWh : ℤ) ≤
            named.dailyAllowanceWh * (stop - request.base.accountFacts.serviceWindow.start) := by
  have hcompiles := compileTariff_compiles hcompile
  obtain ⟨r, rfl⟩ := isInterval_of_applies h hstop hrule happlies
  obtain ⟨eligibility, stop', baselineWh, hadmitted, hlines, -⟩ := replay_lines h
  obtain rfl : stop' = stop := Option.some.inj (hadmitted.stop_eq.symm.trans hstop)
  generalize hctx : intervalContext env bundle r stop' baselineWh Dict.empty = ctx at hlines
  have hbundle : ctx.bundle = bundle := by rw [← hctx]; rfl
  have hquantity : (creditLine ctx rule credit).quantityNumerator
      = min (r.energyWh : ℤ) baselineWh := by
    rw [← hctx]
    rfl
  have hcreditLine : creditLine ctx rule credit ∈ result.lineItems := by
    obtain ⟨schedule, -, hresolve, -⟩ := resolveTimeSchedule_of_compiles hcompiles hrule
    rw [← hbundle] at hresolve
    have happlies' : Applies ctx (.timeOfUseEnergyCharge rule) := by
      rw [← hctx]
      exact happlies
    rw [hlines]
    refine List.mem_flatMap.mpr ⟨_, hrule, ?_⟩
    rw [operatorLines, if_pos happlies', ownLines, timeOfUseLines_eq hresolve, hcredit]
    exact List.mem_append_right _ (List.mem_singleton_self _)
  have hdays := hadmitted.days_pos
  -- the allowance is that of the only rule that applies
  have hbaseline : bundle.baselineRules ≠ [] → ∃ applied, bundle.applicableBaselineRules
      r.accountFacts (Date.month stop') = [applied] ∧ baselineWh = applied.dailyAllowanceWh *
        (stop' - r.accountFacts.serviceWindow.start) := by
    intro hne
    have hallowance := hadmitted.baseline
    rw [baselineAllowance, if_neg hne] at hallowance
    split at hallowance
    · next applied happlied =>
      cases hallowance
      exact ⟨applied, happlied, rfl⟩
    · cases hallowance
  simp only [Request.base]
  constructor
  · intro hall named hnamed hname applied happlied
    obtain ⟨only, honly, hwh⟩ := hbaseline (List.ne_nil_of_mem hnamed)
    rw [honly, List.mem_singleton] at happlied
    have hq := hall _ hcreditLine rfl rfl named hnamed hname
    rw [hquantity, hwh, ← happlied] at hq
    exact (min_allowance_iff hdays).mp hq
  · intro hcond line hline hid hkey named hnamed hname
    obtain ⟨only, honly, hwh⟩ := hbaseline (List.ne_nil_of_mem hnamed)
    rw [hlines, ← hbundle] at hline
    rw [eq_creditLine (hbundle ▸ hcompiles) (hbundle ▸ hrule) hcredit hline hid hkey, hquantity,
      hwh]
    refine (min_allowance_iff hdays).mpr (hcond named hnamed hname only ?_)
    rw [honly]
    exact List.mem_singleton_self only

section

open SmallTariff

/-- The credit of the small tariff names the only baseline rule. -/
theorem credit_of_named_rule_small : ∃ result,
    replayCompiledTariff env (bundle false) (.interval request) {} = .ok result ∧
    ∀ line ∈ result.lineItems, line.ruleId = "energy" →
      line.lineItemKey = "energy.baseline_credit" → line.quantityNumerator = 3000 := by
  obtain ⟨result, hok⟩ := replays
  refine ⟨result, hok, fun line hline hid hkey => ?_⟩
  have hrule : CompiledRule.timeOfUseEnergyCharge ⟨energy.toRuleBase, "energy", "schedule",
      energy.periodRates, energy.baselineCredit⟩ ∈ (bundle false).ir.operators := by
    simp [bundle, compilationBundle, operators]
  have hiff := credit_of_named_rule_iff (compileTariff_eq false) hok rfl hrule (by decide +kernel)
    rfl
  exact hiff.mpr (by decide +kernel) line hline hid hkey _ List.mem_cons_self rfl

/-- The credit of the regional tariff names the rule of territory P, by which all 500 kWh are
within the allowance; the rule of territory T applies, and 310 kWh are credited. -/
theorem credit_ignores_named_rule :
    compileTariff env (lockedRoot regionalIds) regionalTariff = .ok regionalBundle ∧
    (∃ rule named, CompiledRule.timeOfUseEnergyCharge rule ∈ regionalBundle.ir.operators ∧
      rule.ruleId = "energy" ∧ rule.baselineCredit.map (·.ruleId) = some "baseline-p" ∧
      named ∈ regionalBundle.baselineRules ∧ named.ruleId = "baseline-p" ∧
      min 500000 (named.dailyAllowanceWh * 31) = 500000) ∧
    ∃ result line, replayCompiledTariff env regionalBundle (.interval regionalRequest) {}
        = .ok result ∧
      line ∈ result.lineItems ∧ line.ruleId = "energy" ∧
      line.lineItemKey = "energy.baseline_credit" ∧ line.quantityNumerator = 310000 := by
  refine ⟨compileTariff_regional, ?_, ?_⟩
  · have hrules : (regionalBundle.ir.operators.any fun
        | .timeOfUseEnergyCharge rule => decide (rule.ruleId = "energy" ∧
            rule.baselineCredit.map (·.ruleId) = some "baseline-p")
        | _ => false) ∧ ∃ named ∈ regionalBundle.baselineRules, named.ruleId = "baseline-p" ∧
          min 500000 (named.dailyAllowanceWh * 31) = 500000 := by decide +kernel
    obtain ⟨hrule, named, hnamed, hname⟩ := hrules
    obtain ⟨operator, hoperator, hrule⟩ := List.any_eq_true.mp hrule
    cases operator with
    | timeOfUseEnergyCharge rule =>
      obtain ⟨hid, hcredit⟩ := of_decide_eq_true hrule
      exact ⟨rule, named, hoperator, hid, hcredit, hnamed, hname⟩
    | _ => cases hrule
  · obtain ⟨result, hok, line, hline⟩ : ∃ result, replayCompiledTariff env regionalBundle
        (.interval regionalRequest) {} = .ok result ∧ ∃ line ∈ result.lineItems,
          line.ruleId = "energy" ∧ line.lineItemKey = "energy.baseline_credit" ∧
            line.quantityNumerator = 310000 := by decide +kernel
    exact ⟨result, line, hok, hline⟩

end

/-! ### Tiers and days -/

/-- The energy in each tier: the overlap with the stretch from the highest bound below the
tier to its own.  A bound below an earlier one leaves its tier empty. -/
def tierShares (baselineWh energy : ℤ) : List IREnergyTier → ℤ → List ℤ
  | [], _ => []
  | tier :: tiers, lower =>
    let upper := max lower ((tierBound baselineWh tier).getD (max lower energy))
    overlap 0 energy lower upper :: tierShares baselineWh energy tiers upper

section Tiers

variable {baselineWh energy : ℤ}

theorem tierShares_above (tiers : List IREnergyTier) {lower : ℤ} (h : energy ≤ lower) :
    ∀ share ∈ tierShares baselineWh energy tiers lower, share = 0 := by
  induction tiers generalizing lower with
  | nil => exact fun _ hmem => by cases hmem
  | cons tier tiers ih =>
    intro share hmem
    rw [tierShares] at hmem
    rcases mem_cons.mp hmem with rfl | hrest
    · unfold overlap
      omega
    · exact ih (le_max_of_le_left h) share hrest

/-- Where the bounds fit, the parts are the nonempty shares, and they use up the energy. -/
theorem tierParts_shares (tiers : List IREnergyTier) (index : ℕ) {lower : ℤ} (hlower : 0 ≤ lower)
    (hle : lower ≤ energy) (hfit : TiersFit baselineWh energy tiers lower) :
    (tierParts baselineWh energy index tiers lower).map TierPart.quantity
        = (tierShares baselineWh energy tiers lower).filter (· ≠ 0) ∧
      ((tierParts baselineWh energy index tiers lower).map TierPart.quantity).sum
        = energy - lower ∧
      ∀ part ∈ tierParts baselineWh energy index tiers lower, 0 ≤ part.quantity := by
  induction tiers generalizing index lower with
  | nil =>
    rw [TiersFit] at hfit
    exact ⟨rfl, by rw [tierParts, hfit]; simp, fun part h => by cases h⟩
  | cons tier tiers ih =>
    rw [TiersFit] at hfit
    rw [tierParts, tierShares]
    generalize hupper : max lower ((tierBound baselineWh tier).getD (max lower energy)) = upper
    generalize hq : tierQuantity (energy - lower) lower (tierBound baselineWh tier) = quantity
    have hshare : overlap 0 energy lower upper = quantity ∧ 0 ≤ quantity := by
      unfold overlap
      cases hb : tierBound baselineWh tier with
      | none =>
        rw [hb, Option.getD_none] at hupper
        rw [hb, tierQuantity, Option.elim_none] at hq
        omega
      | some bound =>
        rw [hb] at hfit
        rw [hb, Option.getD_some] at hupper
        rw [hb, tierQuantity, Option.elim_some] at hq
        omega
    -- the part in this tier, and those in the tiers above it
    have hhead : ∀ head : List TierPart,
        head = (if quantity = 0 then [] else [⟨index, tier, quantity⟩]) →
        head.map TierPart.quantity = [quantity].filter (· ≠ 0) ∧
        (head.map TierPart.quantity).sum = quantity ∧ ∀ part ∈ head, 0 ≤ part.quantity := by
      rintro _ rfl
      by_cases hzero : quantity = 0
      · simp [hzero]
      · simp [hzero, hshare.2]
    have htail : ∀ tail : List TierPart, tail = (if energy - lower - quantity = 0 then []
          else tierParts baselineWh energy (index + 1) tiers
            ((tierBound baselineWh tier).getD lower)) →
        tail.map TierPart.quantity = (tierShares baselineWh energy tiers upper).filter (· ≠ 0) ∧
        (tail.map TierPart.quantity).sum = energy - lower - quantity ∧
        ∀ part ∈ tail, 0 ≤ part.quantity := by
      rintro _ rfl
      by_cases hdone : energy - lower - quantity = 0
      · have hempty : (tierShares baselineWh energy tiers upper).filter (· ≠ 0) = [] := by
          rw [filter_eq_nil_iff]
          intro share hmem
          simp [tierShares_above tiers (by unfold overlap at hshare; omega) share hmem]
        rw [if_pos hdone, hempty]
        exact ⟨rfl, hdone.symm, fun part h => by cases h⟩
      · rw [if_neg hdone]
        cases hb : tierBound baselineWh tier with
        | none =>
          rw [hb, tierQuantity, Option.elim_none] at hq
          omega
        | some bound =>
          rw [hb] at hfit
          rw [hb, Option.getD_some] at hupper
          rw [hb, tierQuantity, Option.elim_some] at hq
          obtain rfl : bound = upper := by omega
          have hrest := ih (index + 1) (show 0 ≤ bound by omega) (by omega)
            (hfit.2.2.resolve_left (by omega))
          rw [Option.getD_some, show energy - lower - quantity = energy - bound by omega]
          exact hrest
    obtain ⟨hmap, hsum, hnonneg⟩ := hhead _ rfl
    obtain ⟨hmap', hsum', hnonneg'⟩ := htail _ rfl
    refine ⟨?_, ?_, fun part hpart => ?_⟩
    · rw [map_append, hmap, hmap', hshare.1]
      exact (filter_append [quantity] _).symm
    · rw [map_append, sum_append, hsum, hsum']
      omega
    · exact (mem_append.mp hpart).elim (hnonneg part) (hnonneg' part)

/-- Slices of consecutive parts take consecutive parts of each day. -/
theorem Sliced.sum {daily : Dict ℤ ℤ} (hnn : daily.Nonneg) :
    ∀ {parts : List TierPart} {slices : List (Dict ℤ ℤ)} {lower : ℤ},
      Sliced daily lower parts slices → (∀ part ∈ parts, 0 ≤ part.quantity) → ∀ day,
      (slices.map fun slice => slice.getD day 0).sum = dayPart daily.entries lower
        (lower + (parts.map TierPart.quantity).sum) day := by
  intro parts
  induction parts with
  | nil =>
    intro slices lower h _ day
    cases slices with
    | nil => exact (dayPart_of_empty hnn day (.inl (by simp))).symm
    | cons slice slices => cases h
  | cons part parts ih =>
    intro slices lower h hparts day
    cases slices with
    | nil => cases h
    | cons slice slices =>
      have hrest : ∀ p ∈ parts, 0 ≤ p.quantity := fun p hp => hparts p (mem_cons_of_mem _ hp)
      have hsum : 0 ≤ (parts.map TierPart.quantity).sum := by
        apply sum_nonneg
        intro q hq
        obtain ⟨p, hp, rfl⟩ := mem_map.mp hq
        exact hrest p hp
      have hpart := hparts part mem_cons_self
      rw [map_cons, sum_cons, h.2.1 day, ih h.2.2 hrest day,
        dayPart_add hnn day (by omega) (by omega), map_cons, sum_cons, add_assoc]

end Tiers

/-- **The tiers partition the energy.**  When a replay of interval data returns, the lines
of each tiered charge that applies have as quantities the overlaps of the energy with the
stretches between consecutive bounds, and these add up to the energy.  The loop cuts the
slices of the daily energy without error, in the order of the days, and over all tiers they
add up to each day. -/
theorem tiers_partition_energy {env : Env} {bundle : CompilationBundle}
    {r : IntervalReplayRequest} {policy : ReconciliationPolicy} {result : ReplayResult}
    (h : replayCompiledTariff env bundle (.interval r) policy = .ok result) :
    ∃ eligibility ctx, prepareReplay env bundle (.interval r) = .ok (eligibility, ctx) ∧
      ctx.allDailyEnergy.keys.Pairwise (· ≤ ·) ∧
      ∀ before rule after,
        bundle.ir.operators = before ++ .tieredEnergyCharge rule :: after →
        Applies ctx (.tieredEnergyCharge rule) →
        ∃ parts s s' slices, parts.map (tierLine ctx rule) <:+: result.lineItems ∧
          parts.map TierPart.quantity
            = (tierShares ctx.baselineWh r.energyWh rule.tiers 0).filter (· ≠ 0) ∧
          (parts.map TierPart.quantity).sum = (r.energyWh : ℤ) ∧
          before.foldlM (evaluateOperator ctx) {} = .ok s ∧
          evaluateTiered ctx rule s = .ok s' ∧
          s'.lines = s.lines ++ parts.map (tierLine ctx rule) ∧
          s'.lineDailyEnergy = (parts.zip slices).foldl
            (fun d p => d.set (tierLine ctx rule p.1).lineItemKey p.2) s.lineDailyEnergy ∧
          Sliced ctx.allDailyEnergy 0 parts slices ∧
          ∀ day, (slices.map fun slice => slice.getD day 0).sum
            = ctx.allDailyEnergy.getD day 0 := by
  simp only [replayCompiledTariff, bind_eq_ok, Except.ok.injEq] at h
  obtain ⟨⟨eligibility, ctx⟩, hprepare, s, hs, diagnostic, -, rfl⟩ := h
  refine ⟨eligibility, ctx, hprepare, ?_⟩
  obtain ⟨stop, baselineWh, daily, hadmitted, hdaily, hctxEq⟩ := prepareReplay_eq_ok.mp hprepare
  have hctx : IntervalContext ctx r := hctxEq ▸ hadmitted.intervalContext hdaily
  have hbundle : ctx.bundle = bundle := by rw [hctxEq]; rfl
  have hreturns := (evaluateOperators_isOk hctx).mp ⟨s, hs⟩
  obtain ⟨-, hlines⟩ := evaluateOperators_spec hctx hs
  rw [hbundle] at hreturns hlines
  refine ⟨?_, fun before rule after hops happlies => ?_⟩
  · simp only [dailyEnergy, bind_eq_ok, Except.ok.injEq] at hdaily
    obtain ⟨totals, -, rfl⟩ := hdaily
    rw [hctxEq]
    exact List.pairwise_map.mpr (pairwise_sortedBy _ _)
  · -- the loop has returned, so the tiers of every charge that applies fit the energy
    rw [hops] at hreturns
    have hfit : TiersFit ctx.baselineWh r.energyWh rule.tiers 0 :=
      hreturns _ (List.mem_append_right _ List.mem_cons_self) happlies
    obtain ⟨hmap, hsum, hnonneg⟩ :=
      tierParts_shares rule.tiers 1 le_rfl (Int.natCast_nonneg r.energyWh) hfit
    obtain ⟨mid, hmid, hinv, -⟩ := foldlM_evaluateOperator hctx before {} ReplayInv.initial
      fun op hop => hreturns op (List.mem_append_left _ hop)
    obtain ⟨s', hs', -, hadds⟩ := evaluateTiered_spec hctx hinv hfit
    obtain ⟨slices, hsliced, hbases⟩ := hadds.slices
    rw [sub_zero] at hsum
    refine ⟨_, mid, s', slices, ?_, hmap, hsum, hmid, hs', hadds.lines, hbases, hsliced,
      fun day => ?_⟩
    · refine ⟨before.flatMap (operatorLines ctx r), after.flatMap (operatorLines ctx r), ?_⟩
      show _ = s.lines
      rw [hlines, hops, List.flatMap_append, List.flatMap_cons, List.append_assoc, operatorLines,
        if_pos happlies]
      rfl
    · rw [Sliced.sum hctx.daily_nonneg hsliced hnonneg day, hsum, zero_add, ← hctx.daily_total,
        dayPart_total hctx.daily_nonneg]

open SmallTariff in
/-- Two tiers share out the energy of two days, and the first takes ten kilowatt-hours of each
day of the window. -/
theorem tiers_partition_two_days : ∃ result ctx rule, ∃ parts : List TierPart,
    ∃ slices : List (Dict ℤ ℤ),
    replayCompiledTariff env regionalBundle (.interval regionalRequest) {} = .ok result ∧
    parts.map (tierLine ctx rule) <:+: result.lineItems ∧
    parts.map TierPart.quantity = [310000, 190000] ∧
    ctx.allDailyEnergy.entries = [(20635, 200000), (20636, 300000)] ∧
    Sliced ctx.allDailyEnergy 0 parts slices ∧
    ∀ day, (slices.map fun slice => slice.getD day 0).sum = ctx.allDailyEnergy.getD day 0 := by
  obtain ⟨result, hok⟩ : ∃ result,
      replayCompiledTariff env regionalBundle (.interval regionalRequest) {} = .ok result := by
    decide +kernel
  obtain ⟨p, hp, hdaily, hbaseline⟩ : ∃ p,
      prepareReplay env regionalBundle (.interval regionalRequest) = .ok p ∧
      p.2.allDailyEnergy.entries = [(20635, 200000), (20636, 300000)] ∧
      p.2.baselineWh = 310000 := by
    decide +kernel
  obtain ⟨eligibility, ctx, hprepare, -, htiers⟩ := tiers_partition_energy hok
  rw [hp] at hprepare
  cases hprepare
  obtain ⟨parts, -, -, slices, hlines, hquantity, -, -, -, -, -, hslices, hdays⟩ :=
    htiers [_, _] _ _ rfl rfl
  rw [hbaseline] at hquantity
  exact ⟨result, _, _, parts, slices, hok, hlines, hquantity, hdaily, hslices, hdays⟩

end RateReplay
