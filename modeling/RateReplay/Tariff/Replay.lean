import RateReplay.Tariff.Charges

/-!
# Replays that return

Once the lines are there, nothing else can fail: the diagnostic allocation splits every
energy line over days that carry energy, and passes its own reconciliation.  So a replay
of interval data returns exactly when the request passes the checks before the loop and
each applicable operator returns.

## Main results

* `diagnosticCostAllocation_isOk` — the diagnostic allocation returns.
* `prepareReplay_eq_ok` — what the checks before the loop establish.
* `replay_isOk_iff` — **when a replay of interval data returns.**
* `replay_lines` — **its supported cost is the sum of its lines.**
-/

namespace RateReplay

open List

variable {b : Bool} {kind : AdjustmentKind} {xs : List BillingPeriodAdjustment}
  {line : ChargeLineItem}

/-! ### Spreading one line -/

theorem adjustmentCents_nil (kind : AdjustmentKind) : adjustmentCents kind [] = 0 := rfl

theorem adjustmentCents_append (kind : AdjustmentKind) (xs ys : List BillingPeriodAdjustment) :
    adjustmentCents kind (xs ++ ys) = adjustmentCents kind xs + adjustmentCents kind ys := by
  rw [adjustmentCents, filter_append, map_append, sum_append]
  rfl

theorem dailyCents_append (xs ys : List DailyEnergyChargeAllocation) :
    dailyCents (xs ++ ys) = dailyCents xs + dailyCents ys := by
  rw [dailyCents, map_append, sum_append]
  rfl

/-- Adjustments of other kinds do not count. -/
theorem adjustmentCents_of_forall_ne (h : ∀ x ∈ xs, x.adjustmentKind ≠ kind) :
    adjustmentCents kind xs = 0 := by
  have hfilter : xs.filter (fun a => a.adjustmentKind = kind) = [] := by
    rw [filter_eq_nil_iff]
    intro x hx hk
    exact h x hx (by simpa using hk)
  rw [adjustmentCents, hfilter]
  rfl

/-- What becomes of a line: daily entries, or one adjustment of the period, of the same
amount. -/
structure Spreads (intervalAvailable : Bool) (line : ChargeLineItem)
    (p : List DailyEnergyChargeAllocation × List BillingPeriodAdjustment) : Prop where
  cents : dailyCents p.1 + adjustmentCents .supportedPeriodCharge p.2 = line.roundedCents
  kind : ∀ a ∈ p.2, a.adjustmentKind = .supportedPeriodCharge
  daily : intervalAvailable = false → p.1 = []

theorem spreads_period (b : Bool) (line : ChargeLineItem) :
    Spreads b line ([], [⟨.supportedPeriodCharge, line.lineItemKey, some line.chargeComponentKey,
      line.roundedCents⟩]) where
  cents := by simp [dailyCents, adjustmentCents]
  kind a ha := by
    rw [mem_singleton] at ha
    rw [ha]
  daily _ := rfl

theorem allocateLine_spreads {d : Dict String (Dict ℤ ℤ)}
    {p : List DailyEnergyChargeAllocation × List BillingPeriodAdjustment}
    (h : allocateLine b d line = .ok p) : Spreads b line p := by
  rw [allocateLine] at h
  cases hg : d.get? line.lineItemKey with
  | none =>
    rw [hg] at h
    cases h
    exact spreads_period b line
  | some basis =>
    rw [hg] at h
    dsimp only at h
    split_ifs at h with hwh
    · obtain ⟨shares, hshares, hp⟩ := bind_eq_ok.mp h
      cases hp
      refine ⟨?_, fun a ha => (by cases ha), fun hb => absurd hwh.1 (by rw [hb]; decide)⟩
      have htot := apportionInteger_total hshares
      rw [adjustmentCents_nil, add_zero, dailyCents, map_map, ← htot]
      rfl
    · cases h
      exact spreads_period b line

/-- A line can be spread unless it is a nonzero energy line on an empty basis. -/
theorem allocateLine_isOk {d : Dict String (Dict ℤ ℤ)}
    (h : ∀ basis, d.get? line.lineItemKey = some basis → b = true → line.quantityUnit = "Wh" →
      line.roundedCents = 0 ∨ 0 < (positiveWeights basis).total) :
    ∃ p, allocateLine b d line = .ok p := by
  rw [allocateLine]
  cases hg : d.get? line.lineItemKey with
  | none => exact ⟨_, rfl⟩
  | some basis =>
    dsimp only
    split_ifs with hwh
    · obtain ⟨shares, hshares⟩ := apportionInteger_isOk.mpr (h basis hg hwh.1 hwh.2)
      exact ⟨_, by rw [hshares]; rfl⟩
    · exact ⟨_, rfl⟩

/-! ### Spreading all lines -/

theorem spreads_sum {lines : List ChargeLineItem}
    {ps : List (List DailyEnergyChargeAllocation × List BillingPeriodAdjustment)}
    (h : List.Forall₂ (Spreads b) lines ps) :
    dailyCents (ps.flatMap Prod.fst) +
        adjustmentCents .supportedPeriodCharge (ps.flatMap Prod.snd) = supportedCents lines ∧
      (∀ a ∈ ps.flatMap Prod.snd, a.adjustmentKind = .supportedPeriodCharge) ∧
      (b = false → ps.flatMap Prod.fst = []) := by
  induction h with
  | nil => exact ⟨rfl, fun a ha => (by cases ha), fun _ => rfl⟩
  | @cons line p lines ps hp _ ih =>
    obtain ⟨hcents, hk, hdaily⟩ := ih
    refine ⟨?_, ?_, ?_⟩
    · rw [flatMap_cons, flatMap_cons, dailyCents_append, adjustmentCents_append,
        supportedCents, map_cons, sum_cons]
      rw [supportedCents] at hcents
      have := hp.cents
      omega
    · intro a ha
      rw [flatMap_cons, mem_append] at ha
      rcases ha with hhead | htail
      · exact hp.kind a hhead
      · exact hk a htail
    · intro hb
      rw [flatMap_cons, hp.daily hb, hdaily hb, append_nil]

theorem sum_map_snd {α β : Type*} [AddMonoid α] [AddMonoid β] (l : List (α × β)) :
    (l.map Prod.snd).sum = l.sum.2 :=
  (map_list_sum (AddMonoidHom.snd α β) l).symm

/-- The months add up to the days. -/
theorem monthlyValues_cents (daily : List DailyEnergyChargeAllocation) :
    ((monthlyValues daily).sorted.entries.map fun e => e.2.2).sum = dailyCents daily := by
  have hfold : monthlyValues daily = (daily.map fun item => (calendarMonth item.serviceDay,
      (item.allocationWeightWh, item.allocatedCents))).foldl
      (fun d e => d.add e.1 e.2) Dict.empty := by
    rw [foldl_map]
    rfl
  have htot : (monthlyValues daily).sorted.total
      = (daily.map fun item => (item.allocationWeightWh, item.allocatedCents)).sum := by
    rw [Dict.total_sorted, hfold, Dict.total_foldl_add, map_map, Dict.total_empty, zero_add]
    rfl
  calc ((monthlyValues daily).sorted.entries.map fun e => e.2.2).sum
      = (((monthlyValues daily).sorted.entries.map Prod.snd).map Prod.snd).sum := by
        rw [map_map]
        rfl
    _ = (monthlyValues daily).sorted.total.2 := sum_map_snd _
    _ = ((daily.map fun item => (item.allocationWeightWh, item.allocatedCents)).map
          Prod.snd).sum := by rw [htot, sum_map_snd]
    _ = dailyCents daily := by
        rw [map_map]
        rfl

theorem contextAdjustments_unsupported (request : Request) (tiered : Bool)
    (rec : Option ReconciliationResult) :
    adjustmentCents .userUnsupported (contextAdjustments request tiered rec)
      = userUnsupportedCents request.base.userUnsupportedLines := by
  rw [contextAdjustments, adjustmentCents_append, adjustmentCents_append]
  have hreset : adjustmentCents .userUnsupported (if request.isInterval && tiered
      then [⟨.tierResetContext, "tier_reset.billing_period", none, 0⟩] else []) = 0 := by
    apply adjustmentCents_of_forall_ne
    intro x hx
    split_ifs at hx
    · rw [mem_singleton] at hx
      rw [hx]
      decide
    · cases hx
  have hresidual : adjustmentCents .userUnsupported (rec.toList.map fun r =>
      ⟨.unexplainedResidual, "unexplained_residual", none, r.unexplainedResidualCents⟩) = 0 := by
    apply adjustmentCents_of_forall_ne
    intro x hx
    obtain ⟨r, -, rfl⟩ := mem_map.mp hx
    exact fun h => by cases h
  have hlines : adjustmentCents .userUnsupported (request.base.userUnsupportedLines.map fun l =>
      ⟨.userUnsupported, l.lineItemKey, none, l.amountCents⟩)
      = userUnsupportedCents request.base.userUnsupportedLines := by
    rw [adjustmentCents, userUnsupportedCents, filter_eq_self.mpr, map_map]
    · rfl
    · intro x hx
      obtain ⟨l, -, rfl⟩ := mem_map.mp hx
      rfl
  rw [hreset, hlines, hresidual, zero_add, add_zero]

theorem contextAdjustments_residual (request : Request) (tiered : Bool)
    (rec : Option ReconciliationResult) :
    adjustmentCents .unexplainedResidual (contextAdjustments request tiered rec)
      = rec.elim 0 ReconciliationResult.unexplainedResidualCents := by
  rw [contextAdjustments, adjustmentCents_append, adjustmentCents_of_forall_ne]
  · cases rec with
    | none => rfl
    | some r => simp [adjustmentCents]
  · intro x hx
    rcases mem_append.mp hx with hreset | hline
    · split_ifs at hreset
      · rw [mem_singleton] at hreset
        rw [hreset]
        decide
      · cases hreset
    · obtain ⟨l, -, rfl⟩ := mem_map.mp hline
      exact fun h => by cases h

theorem contextAdjustments_supported (request : Request) (tiered : Bool)
    (rec : Option ReconciliationResult) :
    adjustmentCents .supportedPeriodCharge (contextAdjustments request tiered rec) = 0 := by
  apply adjustmentCents_of_forall_ne
  intro x hx
  rw [contextAdjustments, mem_append, mem_append] at hx
  rcases hx with (hreset | hline) | hresidual
  · split_ifs at hreset
    · rw [mem_singleton] at hreset
      rw [hreset]
      decide
    · cases hreset
  · obtain ⟨l, -, rfl⟩ := mem_map.mp hline
    exact fun h => by cases h
  · obtain ⟨r, -, rfl⟩ := mem_map.mp hresidual
    exact fun h => by cases h

/-- Lines of a kind that are not supported charges come from the context only. -/
theorem adjustmentCents_other (hk : kind ≠ .supportedPeriodCharge)
    (h : ∀ a ∈ xs, a.adjustmentKind = .supportedPeriodCharge) : adjustmentCents kind xs = 0 := by
  apply adjustmentCents_of_forall_ne
  intro x hx hx'
  exact hk (hx' ▸ h x hx)

/-- **The diagnostic allocation returns** once each line can be spread; its own validator
never fails. -/
theorem diagnosticCostAllocation_isOk (env : Env) (request : Request) (s : ReplayState)
    (policy : ReconciliationPolicy)
    (hguard : request.base.currentBillTotalCents = none → request.base.userUnsupportedLines = [])
    (hlines : ∀ line ∈ s.lines,
      ∃ p, allocateLine request.isInterval s.lineDailyEnergy line = .ok p) :
    ∃ a, diagnosticCostAllocation request s
      (reconcile env request.base (supportedCents s.lines) policy) = .ok a := by
  obtain ⟨ps, hps⟩ := collect_isOk.mpr hlines
  have hspreads : List.Forall₂ (Spreads request.isInterval) s.lines ps :=
    (collect_eq_ok_iff.mp hps).imp fun _ _ h => allocateLine_spreads h
  obtain ⟨hcents, hk, hdaily⟩ := spreads_sum hspreads
  generalize hdailyList : ps.flatMap Prod.fst = daily at hcents hdaily
  generalize hown : ps.flatMap Prod.snd = own at hcents hk
  generalize hrec : reconcile env request.base (supportedCents s.lines) policy = rec
  have hsupported : adjustmentCents .supportedPeriodCharge
      (own ++ contextAdjustments request s.hasTieredEnergy rec)
      = adjustmentCents .supportedPeriodCharge own := by
    rw [adjustmentCents_append, contextAdjustments_supported, add_zero]
  have hunsupported : adjustmentCents .userUnsupported
      (own ++ contextAdjustments request s.hasTieredEnergy rec)
      = rec.elim 0 ReconciliationResult.userUnsupportedCents := by
    rw [adjustmentCents_append, adjustmentCents_other (by decide) hk,
      contextAdjustments_unsupported, zero_add, ← hrec, reconcile]
    cases htot : request.base.currentBillTotalCents with
    | none => rw [hguard htot]; rfl
    | some total => rfl
  have hresidual : adjustmentCents .unexplainedResidual
      (own ++ contextAdjustments request s.hasTieredEnergy rec)
      = rec.elim 0 ReconciliationResult.unexplainedResidualCents := by
    rw [adjustmentCents_append, adjustmentCents_other (by decide) hk,
      contextAdjustments_residual, zero_add]
  have hdisplayed : dailyCents daily + adjustmentCents .supportedPeriodCharge own +
      rec.elim 0 ReconciliationResult.userUnsupportedCents +
      rec.elim 0 ReconciliationResult.unexplainedResidualCents
      = rec.elim (dailyCents daily + adjustmentCents .supportedPeriodCharge own)
        ReconciliationResult.enteredBillTotalCents := by
    rw [← hrec, reconcile]
    cases request.base.currentBillTotalCents with
    | none => simp
    | some total =>
      simp only [Option.map_some, Option.elim_some]
      omega
  have hsrt : dailyCents (sortedBy (fun item : DailyEnergyChargeAllocation =>
      toLex (item.serviceDay, item.lineItemKey)) daily) = dailyCents daily :=
    ((sortedBy_perm _ daily).map _).sum_eq
  rw [diagnosticCostAllocation, hps, ok_bind, hdailyList, hown]
  dsimp only
  rw [bind_isOk]
  refine ⟨(), ?_, _, rfl⟩
  simp only [DiagnosticCostAllocation.validate, bind_eq_ok, failIf_eq_ok]
  -- the eight checks of the allocation, in the order of the source
  refine ⟨(), ?_, (), ?_, (), ?_, (), ?_, (), ?_, (), ?_, (), ?_, ?_⟩
  · rw [hsrt, map_map, ne_eq, not_not, ← monthlyValues_cents daily]
    rfl
  · rw [hsrt, ne_eq, not_not]
  · rw [ne_eq, not_not]
  · rw [hunsupported, ne_eq, not_not]
  · rw [hresidual, ne_eq, not_not]
  · rw [hsrt, hsupported, ne_eq, not_not, hcents]
  · rw [hsrt, hsupported, hunsupported, hresidual, ne_eq, not_not, hdisplayed]
  · rintro ⟨havailable, hne⟩
    rw [hdaily havailable] at hne
    rcases hne with hne | hne
    · exact hne rfl
    · exact hne rfl

/-- The lines the loop collected can all be spread. -/
theorem ReplayInv.allocates {ctx : ReplayContext} {r : IntervalReplayRequest} {s : ReplayState}
    (hinv : ReplayInv ctx r s) (b : Bool) :
    ∀ line ∈ s.lines, ∃ p, allocateLine b s.lineDailyEnergy line = .ok p := by
  intro line hline
  apply allocateLine_isOk
  intro basis hg _ hunit
  obtain ⟨hnn, hpos⟩ := hinv.bases _ _ hg
  rcases hpos with hpos | ⟨hkey, hzero⟩
  · right
    rw [total_positiveWeights hnn]
    exact hpos
  · left
    exact (hinv.lines line hline).1 hunit hkey hzero

/-! ### The whole replay -/

section Replay

variable {env : Env} {bundle : CompilationBundle} {r : IntervalReplayRequest}
  {policy : ReconciliationPolicy} {baselineWh stop : ℤ} {eligibility : EligibilityResult}
  {result : ReplayResult}

/-- The context of a replay of interval data. -/
def intervalContext (env : Env) (bundle : CompilationBundle) (r : IntervalReplayRequest)
    (stop baselineWh : ℤ) (daily : Dict ℤ ℤ) : ReplayContext where
  env
  bundle
  request := .interval r
  serviceWindow := r.accountFacts.serviceWindow
  billingDays := stop - r.accountFacts.serviceWindow.start
  billCycleMonth := Date.month stop
  baselineWh
  allDailyEnergy := daily

/-- The checks before the loop, for a request with interval data. -/
structure Admitted (env : Env) (bundle : CompilationBundle) (r : IntervalReplayRequest)
    (eligibility : EligibilityResult) (stop baselineWh : ℤ) : Prop where
  guard : r.currentBillTotalCents = none → r.userUnsupportedLines = []
  verdict : evaluateEligibility env bundle r.accountFacts r.datedEligibilityFacts = .ok eligibility
  eligible : eligibility.status = .eligible
  stop_eq : r.accountFacts.serviceWindow.stop = some stop
  days_pos : 0 < stop - r.accountFacts.serviceWindow.start
  days_le : stop - r.accountFacts.serviceWindow.start ≤ bundle.ir.maximumBillingDays
  energy_le : r.energyWh ≤ bundle.ir.maximumEnergyWh
  baseline : baselineAllowance bundle r.accountFacts (stop - r.accountFacts.serviceWindow.start)
    (Date.month stop) = .ok baselineWh

theorem billingPeriodEnd_eq_ok {window : DateRange} :
    billingPeriodEnd window = .ok stop ↔ window.stop = some stop := by
  rw [billingPeriodEnd]
  cases window.stop with
  | none => simp
  | some e => simp

/-- What the checks before the loop establish. -/
theorem prepareReplay_eq_ok {ctx : ReplayContext} :
    prepareReplay env bundle (.interval r) = .ok (eligibility, ctx) ↔
      ∃ stop baselineWh daily, Admitted env bundle r eligibility stop baselineWh ∧
        dailyEnergy env.zone r = .ok daily ∧
        ctx = intervalContext env bundle r stop baselineWh daily := by
  simp only [prepareReplay, validateReconciliationInputs, bind_eq_ok, failIf_eq_ok,
    billingPeriodEnd_eq_ok, Except.ok.injEq, Prod.mk.injEq]
  constructor
  · rintro ⟨-, hguard, el, hel, -, hstatus, stop, hstop, -, hdays, -, hen, baselineWh,
      hbase, daily, hdaily, rfl, rfl⟩
    refine ⟨stop, baselineWh, daily, ⟨?_, hel, by simpa using hstatus, hstop, ?_, ?_, ?_,
      hbase⟩, hdaily, rfl⟩
    · intro hnone
      by_contra hne
      exact hguard ⟨hnone, hne⟩
    · show 0 < stop - _
      have : ¬ (stop - r.accountFacts.serviceWindow.start ≤ 0) := fun h => hdays (.inl h)
      omega
    · have : ¬ (stop - r.accountFacts.serviceWindow.start > bundle.ir.maximumBillingDays) :=
        fun h => hdays (.inr h)
      omega
    · exact not_lt.mp hen
  · rintro ⟨stop, baselineWh, daily, h, hdaily, rfl⟩
    have hpos := h.days_pos
    have hle := h.days_le
    refine ⟨(), ?_, eligibility, h.verdict, (), by simp [h.eligible], stop, h.stop_eq, (), ?_, (),
      not_lt.mpr h.energy_le, baselineWh, h.baseline, daily, hdaily, rfl, rfl⟩
    · rintro ⟨hnone, hne⟩
      exact hne (h.guard hnone)
    · show ¬ (stop - r.accountFacts.serviceWindow.start ≤ 0 ∨
        stop - r.accountFacts.serviceWindow.start > bundle.ir.maximumBillingDays)
      omega

theorem baselineAllowance_nonneg {facts : AccountFacts} {days month : ℤ} (hdays : 0 ≤ days)
    (h : baselineAllowance bundle facts days month = .ok baselineWh) :
    0 ≤ baselineWh := by
  rw [baselineAllowance] at h
  split_ifs at h
  · cases h
    exact le_rfl
  · split at h
    · cases h
      exact mul_nonneg (Int.natCast_nonneg _) hdays
    · cases h

/-- The checks establish what the loop needs. -/
theorem Admitted.intervalContext {daily : Dict ℤ ℤ}
    (h : Admitted env bundle r eligibility stop baselineWh)
    (hdaily : dailyEnergy env.zone r = .ok daily) :
    IntervalContext (intervalContext env bundle r stop baselineWh daily) r where
  request_eq := rfl
  daily_total := (dailyEnergy_spec hdaily).1
  daily_nonneg := (dailyEnergy_spec hdaily).2
  splits := dailyEnergy_isOk.mp ⟨daily, hdaily⟩
  baseline_nonneg := baselineAllowance_nonneg h.days_pos.le h.baseline

theorem replay_eq_ok (h : replayCompiledTariff env bundle (.interval r) policy = .ok result) :
    ∃ eligibility stop baselineWh daily s, Admitted env bundle r eligibility stop baselineWh ∧
      dailyEnergy env.zone r = .ok daily ∧
      evaluateOperators (intervalContext env bundle r stop baselineWh daily) = .ok s ∧
      result.supportedCalculatedCents = supportedCents s.lines ∧ result.lineItems = s.lines := by
  simp only [replayCompiledTariff, bind_eq_ok, Except.ok.injEq] at h
  obtain ⟨⟨eligibility, ctx⟩, hprep, s, hs, diagnostic, -, rfl⟩ := h
  obtain ⟨stop, baselineWh, daily, hadm, hdaily, rfl⟩ := prepareReplay_eq_ok.mp hprep
  exact ⟨eligibility, stop, baselineWh, daily, s, hadm, hdaily, hs, rfl, rfl⟩

/-- When an operator of a bundle returns, for a request with interval data. -/
def Returns (env : Env) (bundle : CompilationBundle) (r : IntervalReplayRequest)
    (stop baselineWh : ℤ) (operator : CompiledRule) : Prop :=
  ruleApplies operator.base.applicability r.accountFacts (Date.month stop) = true →
    OperatorReturns (intervalContext env bundle r stop baselineWh Dict.empty) r operator

/-- **When a replay of interval data returns**: the request passes the checks before the
loop, each interval splits into local days, and each operator that applies returns. -/
theorem replay_isOk_iff :
    (∃ result, replayCompiledTariff env bundle (.interval r) policy = .ok result) ↔
      ∃ eligibility stop baselineWh, Admitted env bundle r eligibility stop baselineWh ∧
        (∀ i ∈ r.intervals, i.Splits env.zone r.accountFacts.serviceWindow) ∧
        ∀ operator ∈ bundle.ir.operators, Returns env bundle r stop baselineWh operator := by
  constructor
  · rintro ⟨result, h⟩
    obtain ⟨eligibility, stop, baselineWh, daily, s, hadm, hdaily, hs, -, -⟩ := replay_eq_ok h
    exact ⟨eligibility, stop, baselineWh, hadm, dailyEnergy_isOk.mp ⟨daily, hdaily⟩,
      (evaluateOperators_isOk (hadm.intervalContext hdaily)).mp ⟨s, hs⟩⟩
  · rintro ⟨eligibility, stop, baselineWh, hadm, hsplits, hret⟩
    obtain ⟨daily, hdaily⟩ := dailyEnergy_isOk.mpr hsplits
    have hctx := hadm.intervalContext hdaily
    obtain ⟨s, hs⟩ := (evaluateOperators_isOk hctx).mpr hret
    obtain ⟨hinv, -⟩ := evaluateOperators_spec hctx hs
    obtain ⟨diagnostic, hdiagnostic⟩ := diagnosticCostAllocation_isOk env (.interval r) s policy
      hadm.guard (hinv.allocates _)
    rw [replayCompiledTariff, prepareReplay_eq_ok.mpr
      ⟨stop, baselineWh, daily, hadm, hdaily, rfl⟩, ok_bind, bind_isOk]
    refine ⟨s, hs, ?_⟩
    rw [bind_isOk]
    exact ⟨diagnostic, hdiagnostic, _, rfl⟩

/-- **The supported cost of a replay is the sum of the lines of its operators.** -/
theorem replay_lines (h : replayCompiledTariff env bundle (.interval r) policy = .ok result) :
    ∃ eligibility stop baselineWh, Admitted env bundle r eligibility stop baselineWh ∧
      result.lineItems = bundle.ir.operators.flatMap (operatorLines
        (intervalContext env bundle r stop baselineWh Dict.empty) r) ∧
      result.supportedCalculatedCents = supportedCents result.lineItems := by
  obtain ⟨eligibility, stop, baselineWh, daily, s, hadm, hdaily, hs, hcents, hlines⟩ :=
    replay_eq_ok h
  obtain ⟨-, hoprs⟩ := evaluateOperators_spec (hadm.intervalContext hdaily) hs
  refine ⟨eligibility, stop, baselineWh, hadm, ?_, by rw [hcents, hlines]⟩
  rw [hlines, hoprs]
  rfl

end Replay
end RateReplay
