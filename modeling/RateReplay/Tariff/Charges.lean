import RateReplay.Tariff.DailyEnergy

/-!
# The charge lines of a replay

The loop over the operators as a function: which lines each operator adds, and when it
returns.  Tier lines, credits and fixed charges depend on the facts and the total energy
only; the period lines of a time-of-use charge depend on the energy by period.

The days a line is spread over are kept under the key of the line, and two operators may
use one key.  The invariant `ReplayInv` says why this is harmless: whatever stands under
the key of an energy line has a positive sum, except under the key of a baseline credit
of no energy, whose line is zero.

## Main definitions

* `TiersFit` — the tiers that the energy reaches have integral, increasing bounds.
* `OperatorReturns`, `operatorLines` — when an operator returns, and its lines.
* `ReplayInv` — the invariant of the loop.

## Main results

* `evaluateOperators_isOk` — **the loop returns exactly when each operator does.**
* `evaluateOperators_spec` — **and collects the lines of the operators in order.**
* `diagnosticCostAllocation_isOk` — the diagnostic allocation never fails after it.
-/

namespace RateReplay

open List

/-! ### Keys of baseline credits -/

/-- The key of a baseline credit line. -/
def IsCreditKey (key : String) : Prop := ∃ stem, key = stem ++ ".baseline_credit"

theorem IsCreditKey.getLast? {key : String} (h : IsCreditKey key) :
    key.toList.getLast? = some 't' := by
  obtain ⟨stem, rfl⟩ := h
  rw [String.toList_append, getLast?_append]
  rfl

theorem not_isCreditKey_tier (stem : String) (index : ℕ) :
    ¬ IsCreditKey (stem ++ ".tier_" ++ toString index) := by
  intro h
  have hlast := h.getLast?
  rw [String.toList_append, getLast?_append, Nat.toString_eq_ofList_toDigits,
    String.toList_ofList] at hlast
  cases hdigits : (Nat.toDigits 10 index).getLast? with
  | none => exact Nat.toDigits_ne_nil (getLast?_eq_none_iff.mp hdigits)
  | some c =>
    rw [hdigits, Option.some_or, Option.some.injEq] at hlast
    have hdigit := Json.isDigit_toDigits c (mem_of_getLast? hdigits)
    rw [hlast] at hdigit
    exact absurd hdigit (by decide)

theorem not_isCreditKey_period (stem : String) (period : TimeOfUsePeriod) :
    ¬ IsCreditKey (stem ++ "." ++ period.lower) := by
  intro h
  have hlast := h.getLast?
  have hper : period.lower.toList.getLast? = some 'k' := by cases period <;> rfl
  rw [String.toList_append, getLast?_append, hper] at hlast
  exact absurd (Option.some.inj hlast) (by decide)

/-! ### Tiers -/

/-- The bound of a tier in Wh, rounded down. -/
def tierBound (baselineWh : ℤ) (tier : IREnergyTier) : Option ℤ :=
  match tier.upperBoundOperator with
  | .baselineAllowance =>
    some (baselineWh * tier.upperBoundNumerator / tier.upperBoundDenominator)
  | .unbounded => none

/-- The tiers above `lower` that the energy reaches have integral bounds that do not
decrease, and one of them takes the last of the energy. -/
def TiersFit (baselineWh energy : ℤ) : List IREnergyTier → ℤ → Prop
  | [], lower => energy = lower
  | tier :: tiers, lower =>
    match tierBound baselineWh tier with
    | none => True
    | some upper => baselineWh * tier.upperBoundNumerator % tier.upperBoundDenominator = 0 ∧
        lower ≤ upper ∧ (energy ≤ upper ∨ TiersFit baselineWh energy tiers upper)

/-- The part of the energy that falls into one tier. -/
structure TierPart where
  index : ℕ
  tier : IREnergyTier
  quantity : ℤ

/-- The nonempty parts into which the tiers above `lower` cut the energy. -/
def tierParts (baselineWh energy : ℤ) : ℕ → List IREnergyTier → ℤ → List TierPart
  | _, [], _ => []
  | index, tier :: tiers, lower =>
    let upper := tierBound baselineWh tier
    let quantity := tierQuantity (energy - lower) lower upper
    (if quantity = 0 then [] else [⟨index, tier, quantity⟩]) ++
    (if energy - lower - quantity = 0 then []
      else tierParts baselineWh energy (index + 1) tiers (upper.getD lower))

theorem tierUpperBound_eq_ok {ctx : ReplayContext} {tier : IREnergyTier} {upper : Option ℤ} :
    tierUpperBound ctx tier = .ok upper ↔ upper = tierBound ctx.baselineWh tier ∧
      (upper.isSome = true →
        ctx.baselineWh * tier.upperBoundNumerator % tier.upperBoundDenominator = 0) := by
  rw [tierUpperBound, tierBound]
  cases tier.upperBoundOperator with
  | unbounded =>
    simp only [Except.ok.injEq]
    constructor
    · rintro rfl
      exact ⟨rfl, by simp⟩
    · rintro ⟨rfl, -⟩
      rfl
  | baselineAllowance =>
    simp only [bind_eq_ok, failIf_eq_ok, Except.ok.injEq, ne_eq, not_not]
    constructor
    · rintro ⟨-, hmod, rfl⟩
      exact ⟨rfl, fun _ => hmod⟩
    · rintro ⟨rfl, hmod⟩
      exact ⟨(), hmod rfl, rfl⟩

/-! ### The invariant of the loop -/

section Charges

variable {ctx : ReplayContext} {r : IntervalReplayRequest} {s s' : ReplayState}
  {rule : IRTieredEnergyCharge} {lower : ℤ} {operator : CompiledRule}

/-- What the checks before the loop establish for an interval request. -/
structure IntervalContext (ctx : ReplayContext) (r : IntervalReplayRequest) : Prop where
  request_eq : ctx.request = .interval r
  daily_total : ctx.allDailyEnergy.total = r.energyWh
  daily_nonneg : ctx.allDailyEnergy.Nonneg
  splits : ∀ i ∈ r.intervals, i.Splits ctx.env.zone r.accountFacts.serviceWindow
  baseline_nonneg : 0 ≤ ctx.baselineWh

/-- The energy a baseline credit applies to. -/
def creditQuantity (ctx : ReplayContext) : ℤ := min (ctx.request.base.energyWh : ℤ) ctx.baselineWh

/-- A basis can carry a nonzero charge, unless its key is that of a credit of no energy. -/
def GoodBasis (ctx : ReplayContext) (key : String) (basis : Dict ℤ ℤ) : Prop :=
  basis.Nonneg ∧ (0 < basis.total ∨ (IsCreditKey key ∧ creditQuantity ctx = 0))

/-- An energy line under the key of a credit of no energy is zero. -/
def GoodLine (ctx : ReplayContext) (line : ChargeLineItem) : Prop :=
  line.quantityUnit = "Wh" → IsCreditKey line.lineItemKey → creditQuantity ctx = 0 →
    line.roundedCents = 0

/-- The invariant of the loop over the operators. -/
structure ReplayInv (ctx : ReplayContext) (r : IntervalReplayRequest) (s : ReplayState) : Prop where
  energies : ∀ id d, s.periodEnergyBySchedule.get? id = some d →
    ∃ schedule, resolveTimeSchedule ctx.bundle id = .ok schedule ∧
      periodEnergy ctx.env.zone r schedule = .ok d
  dailies : ∀ id d, s.periodDailyEnergyBySchedule.get? id = some d →
    ∃ schedule, resolveTimeSchedule ctx.bundle id = .ok schedule ∧
      periodDailyEnergy ctx.env.zone r schedule = .ok d
  bases : ∀ key basis, s.lineDailyEnergy.get? key = some basis → GoodBasis ctx key basis
  lines : ∀ line ∈ s.lines, GoodLine ctx line ∧
    (line.quantityUnit = "Wh" → (s.lineDailyEnergy.get? line.lineItemKey).isSome = true)
  backed : ∀ key basis, s.lineDailyEnergy.get? key = some basis →
    ∃ line ∈ s.lines, line.lineItemKey = key ∧ line.quantityUnit = "Wh" ∧
      basis.total = line.quantityNumerator

theorem ReplayInv.initial : ReplayInv ctx r {} where
  energies id d h := by cases h
  dailies id d h := by cases h
  bases key basis h := by cases h
  lines line h := by cases h
  backed key basis h := by cases h

/-- A line that is not an energy line needs no basis. -/
theorem ReplayInv.addLine (hinv : ReplayInv ctx r s) {line : ChargeLineItem}
    (hunit : line.quantityUnit ≠ "Wh") : ReplayInv ctx r (s.addLine line) where
  energies := hinv.energies
  dailies := hinv.dailies
  bases := hinv.bases
  lines l hl := by
    rcases mem_append.mp hl with hold | hnew
    · exact hinv.lines l hold
    · rw [mem_singleton] at hnew
      subst hnew
      exact ⟨fun h => absurd h hunit, fun h => absurd h hunit⟩
  backed key basis hg := by
    obtain ⟨l, hl, hl'⟩ := hinv.backed key basis hg
    exact ⟨l, mem_append_left _ hl, hl'⟩

/-- An energy line comes with its basis. -/
theorem ReplayInv.addEnergyLine (hinv : ReplayInv ctx r s) (line : ChargeLineItem)
    {basis : Dict ℤ ℤ} (hbasis : GoodBasis ctx line.lineItemKey basis)
    (hline : GoodLine ctx line) (hunit : line.quantityUnit = "Wh")
    (htot : basis.total = line.quantityNumerator) :
    ReplayInv ctx r ((s.addLine line).setBasis line.lineItemKey basis) where
  energies := hinv.energies
  dailies := hinv.dailies
  bases key b hg := by
    rw [ReplayState.setBasis, Dict.get?_set] at hg
    split_ifs at hg with hkey
    · cases hg
      exact hkey ▸ hbasis
    · exact hinv.bases key b hg
  lines l hl := by
    have hkeep : ∀ key, (s.lineDailyEnergy.get? key).isSome = true ∨ key = line.lineItemKey →
        ((s.lineDailyEnergy.set line.lineItemKey basis).get? key).isSome = true := by
      intro key hkey
      rw [Dict.get?_set]
      split_ifs with heq
      · rfl
      · exact hkey.resolve_right heq
    rcases mem_append.mp hl with hold | hnew
    · obtain ⟨hgood, hsome⟩ := hinv.lines l hold
      exact ⟨hgood, fun hunit => hkeep _ (.inl (hsome hunit))⟩
    · rw [mem_singleton] at hnew
      subst hnew
      exact ⟨hline, fun _ => hkeep _ (.inr rfl)⟩
  backed key b hg := by
    rw [ReplayState.setBasis, Dict.get?_set] at hg
    split_ifs at hg with hkey
    · cases hg
      exact ⟨line, mem_append_right _ (mem_singleton_self _), hkey.symm, hunit, htot⟩
    · obtain ⟨l, hl, hl'⟩ := hinv.backed key b hg
      exact ⟨l, mem_append_left _ hl, hl'⟩

/-! ### Tiered charges -/

/-- The line of a part. -/
def tierLine (ctx : ReplayContext) (rule : IRTieredEnergyCharge) (part : TierPart) :
    ChargeLineItem :=
  ctx.line rule.toRuleBase (energyLine (rule.lineItemKey ++ ".tier_" ++ toString part.index)
    part.quantity part.tier.rateMicrodollarsPerKwh none)

/-- The slices of the daily energy for parts that follow one another from `lower` on: each
is cut out without error and has, of every day, what lies in its stretch. -/
def Sliced (daily : Dict ℤ ℤ) : ℤ → List TierPart → List (Dict ℤ ℤ) → Prop
  | _, [], [] => True
  | lower, part :: parts, slice :: slices => energySlice daily lower part.quantity = .ok slice ∧
      (∀ day, slice.getD day 0 = dayPart daily.entries lower (lower + part.quantity) day) ∧
      Sliced daily (lower + part.quantity) parts slices
  | _, _, _ => False

/-- What the loop over the tiers adds for the given parts: their lines, and under the key
of each line its slice of the daily energy. -/
structure AddsTiers (ctx : ReplayContext) (rule : IRTieredEnergyCharge) (lower : ℤ)
    (parts : List TierPart) (s s' : ReplayState) : Prop where
  lines : s'.lines = s.lines ++ parts.map (tierLine ctx rule)
  slices : ∃ slices, Sliced ctx.allDailyEnergy lower parts slices ∧ s'.lineDailyEnergy =
    (parts.zip slices).foldl (fun d p => d.set (tierLine ctx rule p.1).lineItemKey p.2)
      s.lineDailyEnergy

theorem AddsTiers.none (s : ReplayState) :
    AddsTiers ctx rule lower [] s s :=
  ⟨by rw [map_nil, append_nil], [], trivial, rfl⟩

/-- A tier, and then the tiers above it. -/
theorem AddsTiers.append {quantity : ℤ} {index : ℕ} {tier : IREnergyTier} {parts : List TierPart}
    {mid : ReplayState}
    (h : AddsTiers ctx rule lower (if quantity = 0 then [] else [⟨index, tier, quantity⟩]) s mid)
    (h' : AddsTiers ctx rule (lower + quantity) parts mid s') :
    AddsTiers ctx rule lower ((if quantity = 0 then [] else [⟨index, tier, quantity⟩]) ++ parts)
      s s' := by
  obtain ⟨slices', hsliced', hbases'⟩ := h'.slices
  refine ⟨by rw [h'.lines, h.lines, map_append, append_assoc], ?_⟩
  obtain ⟨slices, hsliced, hbases⟩ := h.slices
  split_ifs at hsliced hbases ⊢ with hzero
  · rw [hbases, zip_nil_left] at hbases'
    rw [hzero, add_zero] at hsliced'
    exact ⟨slices', hsliced', hbases'⟩
  · match slices, hsliced with
    | [slice], ⟨hslice, hdays, _⟩ =>
      refine ⟨slice :: slices', ⟨hslice, hdays, hsliced'⟩, ?_⟩
      rw [hbases', hbases]
      rfl

theorem base_energyWh (hctx : IntervalContext ctx r) : ctx.request.base.energyWh = r.energyWh := by
  rw [hctx.request_eq]
  rfl

theorem chargeTier_spec (hctx : IntervalContext ctx r) (hinv : ReplayInv ctx r s)
    (rule : IRTieredEnergyCharge) (index : ℕ) (tier : IREnergyTier) {quantity : ℤ}
    (hlower : 0 ≤ lower) (hqty : 0 ≤ quantity) (hle : lower + quantity ≤ r.energyWh) :
    ∃ s', chargeTier ctx rule index tier (r.energyWh - lower) quantity s = .ok s' ∧
      ReplayInv ctx r s' ∧ AddsTiers ctx rule lower
        (if quantity = 0 then [] else [⟨index, tier, quantity⟩]) s s' := by
  by_cases hzero : quantity = 0
  · refine ⟨s, by rw [chargeTier, if_pos hzero], hinv, ?_⟩
    rw [if_pos hzero]
    exact .none s
  obtain ⟨basis, hslice, htot, hnn, hdays⟩ := energySlice_spec lower quantity
    hctx.daily_nonneg hlower hqty (by rw [hctx.daily_total]; exact hle)
  have hoffset : (ctx.request.base.energyWh : ℤ) - (r.energyWh - lower) = lower := by
    rw [base_energyWh hctx]
    omega
  refine ⟨((s.addLine (tierLine ctx rule ⟨index, tier, quantity⟩)).setBasis
    (tierLine ctx rule ⟨index, tier, quantity⟩).lineItemKey basis), ?_, ?_,
    by rw [if_neg hzero]; exact ⟨rfl, [basis], ⟨hslice, hdays, trivial⟩, rfl⟩⟩
  · have hinterval : ctx.request.isInterval = true := by
      rw [hctx.request_eq]
      rfl
    rw [chargeTier, if_neg hzero, if_pos hinterval, hoffset, hslice]
    rfl
  · apply hinv.addEnergyLine
    · exact ⟨hnn, .inl (by omega)⟩
    · intro _ hkey
      exact absurd hkey (not_isCreditKey_tier _ _)
    · rfl
    · exact htot

/-- The loop over the tiers, from a lower bound on. -/
theorem allocateTiers_spec (hctx : IntervalContext ctx r) (rule : IRTieredEnergyCharge) :
    ∀ (tiers : List IREnergyTier) (index : ℕ) (lower : ℤ) (s : ReplayState),
      ReplayInv ctx r s → 0 ≤ lower → lower ≤ r.energyWh →
      TiersFit ctx.baselineWh r.energyWh tiers lower →
      ∃ s', allocateTiers ctx rule index tiers (r.energyWh - lower) lower s = .ok (0, s') ∧
        ReplayInv ctx r s' ∧ AddsTiers ctx rule lower
          (tierParts ctx.baselineWh r.energyWh index tiers lower) s s' := by
  intro tiers
  induction tiers with
  | nil =>
    intro index lower s hinv _ _ hfit
    have hzero : (r.energyWh : ℤ) - lower = 0 := by
      rw [TiersFit] at hfit
      omega
    exact ⟨s, by rw [allocateTiers, hzero], hinv, .none s⟩
  | cons tier tiers ih =>
    intro index lower s hinv hlower hle hfit
    rw [TiersFit] at hfit
    -- the bound is integral where there is one, and it does not fall below `lower`
    have hupper : tierUpperBound ctx tier = .ok (tierBound ctx.baselineWh tier) := by
      refine tierUpperBound_eq_ok.mpr ⟨rfl, fun hsome => ?_⟩
      cases hb : tierBound ctx.baselineWh tier with
      | none => rw [hb] at hsome; cases hsome
      | some upper => rw [hb] at hfit; exact hfit.1
    have hqty : 0 ≤ tierQuantity (r.energyWh - lower) lower (tierBound ctx.baselineWh tier) ∧
        tierQuantity (r.energyWh - lower) lower (tierBound ctx.baselineWh tier)
          ≤ r.energyWh - lower := by
      cases hb : tierBound ctx.baselineWh tier with
      | none =>
        simp only [tierQuantity, Option.elim_none]
        omega
      | some upper =>
        rw [hb] at hfit
        simp only [tierQuantity, Option.elim_some]
        omega
    generalize hq : tierQuantity (r.energyWh - lower) lower (tierBound ctx.baselineWh tier)
      = quantity at hqty
    obtain ⟨mid, hmid, hmidInv, hmidAdds⟩ :=
      chargeTier_spec hctx hinv rule index tier hlower hqty.1 (by omega)
    have hstep : ∀ rest, allocateTiers ctx rule index (tier :: tiers) (r.energyWh - lower) lower s
        = rest ↔ (if (r.energyWh : ℤ) - lower - quantity = 0 then .ok (0, mid)
          else allocateTiers ctx rule (index + 1) tiers (r.energyWh - lower - quantity)
            ((tierBound ctx.baselineWh tier).getD lower) mid) = rest := by
      intro rest
      rw [allocateTiers, hupper, ok_bind]
      simp only [hq]
      rw [failIf_of_not _ (by omega), ok_bind, hmid, ok_bind]
    rw [tierParts]
    simp only [hq]
    by_cases hdone : (r.energyWh : ℤ) - lower - quantity = 0
    · refine ⟨mid, (hstep _).mpr (if_pos hdone), hmidInv, ?_⟩
      rw [if_pos hdone]
      exact hmidAdds.append (.none mid)
    · -- energy is left, so the tier has a bound below the energy
      cases hb : tierBound ctx.baselineWh tier with
      | none =>
        rw [hb, tierQuantity, Option.elim_none] at hq
        omega
      | some upper =>
        rw [hb] at hfit hq
        rw [tierQuantity, Option.elim_some] at hq
        obtain ⟨-, hmono, hrest⟩ := hfit
        have hlt : upper < r.energyWh := by omega
        obtain ⟨s', hs', hs'Inv, hs'Adds⟩ := ih (index + 1) upper mid hmidInv (by omega) hlt.le
          (hrest.resolve_left (by omega))
        refine ⟨s', (hstep _).mpr ?_, hs'Inv, ?_⟩
        · rw [if_neg hdone, hb, Option.getD_some, show (r.energyWh : ℤ) - lower - quantity
            = r.energyWh - upper by omega]
          exact hs'
        · rw [if_neg hdone, Option.getD_some]
          rw [show upper = lower + quantity by omega] at hs'Adds ⊢
          exact hmidAdds.append hs'Adds

/-- A tier loop that uses up the energy has integral, increasing bounds. -/
theorem tiersFit_of_allocateTiers (rule : IRTieredEnergyCharge) :
    ∀ (tiers : List IREnergyTier) (index : ℕ) (energy lower : ℤ) (s s' : ReplayState),
      lower ≤ energy →
      allocateTiers ctx rule index tiers (energy - lower) lower s = .ok (0, s') →
      TiersFit ctx.baselineWh energy tiers lower := by
  intro tiers
  induction tiers with
  | nil =>
    intro index energy lower s s' _ h
    rw [allocateTiers, Except.ok.injEq, Prod.mk.injEq] at h
    rw [TiersFit]
    omega
  | cons tier tiers ih =>
    intro index energy lower s s' hle h
    simp only [allocateTiers, bind_eq_ok, failIf_eq_ok] at h
    obtain ⟨upper, hupper, -, hnonneg, mid, -, hrest⟩ := h
    obtain ⟨rfl, hintegral⟩ := tierUpperBound_eq_ok.mp hupper
    rw [TiersFit]
    cases hb : tierBound ctx.baselineWh tier with
    | none => trivial
    | some upper =>
      rw [hb] at hrest hnonneg hintegral
      rw [show tierQuantity (energy - lower) lower (some upper)
        = min (energy - lower) (upper - lower) from rfl] at hrest hnonneg
      refine ⟨hintegral rfl, by omega, ?_⟩
      by_cases hdone : energy - lower - min (energy - lower) (upper - lower) = 0
      · left
        omega
      · right
        rw [if_neg hdone, Option.getD_some, show energy - lower - min (energy - lower)
          (upper - lower) = energy - upper by omega] at hrest
        exact ih _ _ _ _ _ (by omega) hrest

theorem evaluateTiered_spec (hctx : IntervalContext ctx r) (hinv : ReplayInv ctx r s)
    (hfit : TiersFit ctx.baselineWh r.energyWh rule.tiers 0) :
    ∃ s', evaluateTiered ctx rule s = .ok s' ∧ ReplayInv ctx r s' ∧ AddsTiers ctx rule 0
      (tierParts ctx.baselineWh r.energyWh 1 rule.tiers 0) s s' := by
  have hinv' : ReplayInv ctx r { s with hasTieredEnergy := true } :=
    ⟨hinv.energies, hinv.dailies, hinv.bases, hinv.lines, hinv.backed⟩
  obtain ⟨s', hs', hs'Inv, hadds⟩ := allocateTiers_spec hctx rule rule.tiers 1 0 _ hinv' le_rfl
    (Int.natCast_nonneg _) hfit
  rw [sub_zero] at hs'
  refine ⟨s', ?_, hs'Inv, hadds.lines, hadds.slices⟩
  rw [evaluateTiered, base_energyWh hctx, hs', ok_bind]
  exact rfl

theorem tiersFit_of_evaluateTiered (hctx : IntervalContext ctx r)
    (h : evaluateTiered ctx rule s = .ok s') :
    TiersFit ctx.baselineWh r.energyWh rule.tiers 0 := by
  simp only [evaluateTiered, bind_eq_ok, failIf_eq_ok, ne_eq, not_not] at h
  obtain ⟨⟨remaining, mid⟩, hloop, -, hzero, -⟩ := h
  dsimp only at hzero
  subst hzero
  rw [base_energyWh hctx] at hloop
  exact tiersFit_of_allocateTiers rule rule.tiers 1 r.energyWh 0 _ mid (Int.natCast_nonneg _)
    (by rw [sub_zero]; exact hloop)

/-! ### Time-of-use charges -/

/-- The lines of the periods with energy. -/
def periodLines (ctx : ReplayContext) (rule : IRTimeOfUseEnergyCharge)
    (quantity : TimeOfUsePeriod → ℤ) (rates : List TimeOfUsePeriodRate) : List ChargeLineItem :=
  rates.filterMap fun rate =>
    if quantity rate.period = 0 then none
    else some (ctx.line rule.toRuleBase (energyLine (rule.lineItemKey ++ "." ++ rate.period.lower)
      (quantity rate.period) rate.rateMicrodollarsPerKwh none))

/-- The line of the baseline credit. -/
def creditLine (ctx : ReplayContext) (rule : IRTimeOfUseEnergyCharge) (credit : BaselineCredit) :
    ChargeLineItem :=
  ctx.line rule.toRuleBase (energyLine (rule.lineItemKey ++ ".baseline_credit")
    (creditQuantity ctx) credit.microdollarsPerKwh (some credit.chargeComponentKey))

theorem foldl_chargePeriod (rule : IRTimeOfUseEnergyCharge) {energy : Dict TimeOfUsePeriod ℤ}
    {daily : Dict TimeOfUsePeriod (Dict ℤ ℤ)} {quantity : TimeOfUsePeriod → ℤ}
    (hen : ∀ p, energy.getD p 0 = quantity p) (hdaily : DailyMatches daily quantity) :
    ∀ (rates : List TimeOfUsePeriodRate) (s : ReplayState), ReplayInv ctx r s →
      ReplayInv ctx r (rates.foldl (chargePeriod ctx rule energy daily) s) ∧
      (rates.foldl (chargePeriod ctx rule energy daily) s).lines =
        s.lines ++ periodLines ctx rule quantity rates := by
  intro rates
  induction rates with
  | nil =>
    intro s hinv
    exact ⟨hinv, by simp [periodLines]⟩
  | cons rate rates ih =>
    intro s hinv
    rw [foldl_cons]
    by_cases hzero : quantity rate.period = 0
    · have hskip : chargePeriod ctx rule energy daily s rate = s := by
        rw [chargePeriod, hen, if_pos hzero]
      rw [hskip]
      obtain ⟨hinv', hlines⟩ := ih s hinv
      refine ⟨hinv', ?_⟩
      rw [hlines, periodLines, periodLines, filterMap_cons_none (by rw [if_pos hzero])]
    · have hcharge : chargePeriod ctx rule energy daily s rate =
          (s.addLine (ctx.line rule.toRuleBase (energyLine
            (rule.lineItemKey ++ "." ++ rate.period.lower) (quantity rate.period)
            rate.rateMicrodollarsPerKwh none))).setBasis
            (rule.lineItemKey ++ "." ++ rate.period.lower)
            (daily.getD rate.period Dict.empty) := by
        rw [chargePeriod, hen, if_neg hzero]
        rfl
      obtain ⟨htot, hnn⟩ := hdaily rate.period
      have hpos : 0 < (daily.getD rate.period Dict.empty).total := by
        have := Dict.total_nonneg hnn
        omega
      have hinv' : ReplayInv ctx r (chargePeriod ctx rule energy daily s rate) := by
        rw [hcharge]
        exact hinv.addEnergyLine (ctx.line rule.toRuleBase (energyLine
          (rule.lineItemKey ++ "." ++ rate.period.lower) (quantity rate.period)
          rate.rateMicrodollarsPerKwh none)) ⟨hnn, .inl hpos⟩
          (fun _ hkey => absurd hkey (not_isCreditKey_period _ _)) rfl htot
      obtain ⟨hinv'', hlines⟩ := ih _ hinv'
      refine ⟨hinv'', ?_⟩
      rw [hlines, hcharge, periodLines, periodLines,
        filterMap_cons_some (by rw [if_neg hzero])]
      simp [ReplayState.setBasis, ReplayState.addLine]

theorem roundHalfUpCents_zero : roundHalfUpCents 0 = 0 := by decide +kernel

theorem chargeCredit_spec (hctx : IntervalContext ctx r) (hinv : ReplayInv ctx r s)
    (rule : IRTimeOfUseEnergyCharge) (credit : BaselineCredit) :
    ∃ s', chargeCredit ctx rule credit s = .ok s' ∧ ReplayInv ctx r s' ∧
      s'.lines = s.lines ++ [creditLine ctx rule credit] := by
  have hbase := base_energyWh hctx
  have hcredit : creditQuantity ctx = min (r.energyWh : ℤ) ctx.baselineWh := by
    rw [creditQuantity, hbase]
  have hbaseline := hctx.baseline_nonneg
  have htot := hctx.daily_total
  obtain ⟨basis, hslice, hbasisTotal, hnn, -⟩ := energySlice_spec 0 (creditQuantity ctx)
    hctx.daily_nonneg le_rfl (by omega) (by omega)
  refine ⟨((s.addLine (creditLine ctx rule credit)).setBasis
    (creditLine ctx rule credit).lineItemKey basis), ?_, ?_, rfl⟩
  · rw [chargeCredit]
    show (energySlice ctx.allDailyEnergy 0 (creditQuantity ctx) >>= _) = _
    rw [hslice]
    rfl
  · have hkey : IsCreditKey (creditLine ctx rule credit).lineItemKey := ⟨rule.lineItemKey, rfl⟩
    apply hinv.addEnergyLine
    · refine ⟨hnn, ?_⟩
      by_cases hzero : creditQuantity ctx = 0
      · exact .inr ⟨hkey, hzero⟩
      · left
        omega
    · intro _ _ hzero
      show roundHalfUpCents _ = 0
      rw [energyLine, hzero]
      simp [roundHalfUpCents_zero]
    · rfl
    · exact hbasisTotal

theorem setDefault_snd_eq {κ α : Type*} [DecidableEq κ] {d : Dict κ α} {k : κ} {v : α}
    (h : ∀ w, d.get? k = some w → w = v) : (d.setDefault k v).2 = v := by
  rw [Dict.setDefault]
  cases hg : d.get? k with
  | none => rfl
  | some w => exact h w hg

theorem get?_setDefault_fst {κ α : Type*} [DecidableEq κ] {d : Dict κ α} {k j : κ} {v w : α}
    (h : (d.setDefault k v).1.get? j = some w) : d.get? j = some w ∨ (j = k ∧ w = v) := by
  rw [Dict.setDefault] at h
  cases hg : d.get? k with
  | none =>
    rw [hg] at h
    dsimp only at h
    rw [Dict.get?_set] at h
    split_ifs at h with hj
    · cases h
      exact .inr ⟨hj, rfl⟩
    · exact .inl h
  | some x =>
    rw [hg] at h
    exact .inl h

theorem resolveTimeSchedule_ruleId {bundle : CompilationBundle} {id : String}
    {schedule : IRTimeOfUseSchedule} (h : resolveTimeSchedule bundle id = .ok schedule) :
    schedule.ruleId = id := by
  rw [resolveTimeSchedule] at h
  split at h
  · next schedule' hfilter =>
    cases h
    have hmem : schedule ∈ bundle.schedules.filter fun s => s.ruleId = id := by
      rw [hfilter]
      exact mem_singleton_self _
    simpa using (mem_filter.mp hmem).2
  · cases h

/-- When a time-of-use charge returns. -/
def TimeOfUseReturns (ctx : ReplayContext) (r : IntervalReplayRequest)
    (rule : IRTimeOfUseEnergyCharge) : Prop :=
  ∃ schedule, resolveTimeSchedule ctx.bundle rule.scheduleRuleId = .ok schedule ∧
    ∀ i ∈ r.intervals, i.Classifies ctx.env.zone schedule r.accountFacts.serviceWindow

/-- The lines of a time-of-use charge. -/
def timeOfUseLines (ctx : ReplayContext) (r : IntervalReplayRequest)
    (rule : IRTimeOfUseEnergyCharge) : List ChargeLineItem :=
  match resolveTimeSchedule ctx.bundle rule.scheduleRuleId with
  | .ok schedule => periodLines ctx rule (periodQuantity ctx.env.zone schedule r.intervals)
      rule.periodRates ++ rule.baselineCredit.toList.map (creditLine ctx rule)
  | .error _ => []

theorem timeOfUseLines_eq {rule : IRTimeOfUseEnergyCharge} {schedule : IRTimeOfUseSchedule}
    (h : resolveTimeSchedule ctx.bundle rule.scheduleRuleId = .ok schedule) :
    timeOfUseLines ctx r rule = periodLines ctx rule
      (periodQuantity ctx.env.zone schedule r.intervals) rule.periodRates ++
      rule.baselineCredit.toList.map (creditLine ctx rule) := by
  rw [timeOfUseLines, h]

section InContext

variable (hctx : IntervalContext ctx r)

include hctx

theorem evaluateTimeOfUse_spec (hinv : ReplayInv ctx r s) {rule : IRTimeOfUseEnergyCharge}
    (hret : TimeOfUseReturns ctx r rule) :
    ∃ s', evaluateTimeOfUse ctx rule s = .ok s' ∧ ReplayInv ctx r s' ∧
      s'.lines = s.lines ++ timeOfUseLines ctx r rule := by
  obtain ⟨schedule, hrsv, hclass⟩ := hret
  obtain ⟨energy, hen⟩ := periodEnergy_isOk.mpr hclass
  obtain ⟨daily, hdaily⟩ := periodDailyEnergy_isOk hclass hctx.splits
  have hid := resolveTimeSchedule_ruleId hrsv
  -- what the caches hold for this schedule is what was just computed
  have hcached : (s.periodEnergyBySchedule.setDefault schedule.ruleId energy).2 = energy := by
    apply setDefault_snd_eq
    intro w hw
    obtain ⟨schedule', hrsv', hw'⟩ := hinv.energies _ _ hw
    rw [hid, hrsv] at hrsv'
    cases hrsv'
    rw [hen] at hw'
    exact (Except.ok.inj hw').symm
  have hcachedDaily :
      (s.periodDailyEnergyBySchedule.setDefault schedule.ruleId daily).2 = daily := by
    apply setDefault_snd_eq
    intro w hw
    obtain ⟨schedule', hrsv', hw'⟩ := hinv.dailies _ _ hw
    rw [hid, hrsv] at hrsv'
    cases hrsv'
    rw [hdaily] at hw'
    exact (Except.ok.inj hw').symm
  have hinv₁ : ReplayInv ctx r { s with
      periodEnergyBySchedule := (s.periodEnergyBySchedule.setDefault schedule.ruleId energy).1
      periodDailyEnergyBySchedule :=
        (s.periodDailyEnergyBySchedule.setDefault schedule.ruleId daily).1 } := by
    refine ⟨fun id d hg => ?_, fun id d hg => ?_, hinv.bases, hinv.lines, hinv.backed⟩
    · rcases get?_setDefault_fst hg with hold | ⟨rfl, rfl⟩
      · exact hinv.energies id d hold
      · exact ⟨schedule, by rw [hid]; exact hrsv, hen⟩
    · rcases get?_setDefault_fst hg with hold | ⟨rfl, rfl⟩
      · exact hinv.dailies id d hold
      · exact ⟨schedule, by rw [hid]; exact hrsv, hdaily⟩
  obtain ⟨hinv₂, hlines₂⟩ := foldl_chargePeriod rule (periodEnergy_getD hen)
    (periodDailyEnergy_spec hdaily) rule.periodRates _ hinv₁
  have hstep : evaluateTimeOfUse ctx rule s = rule.baselineCredit.elim .ok (chargeCredit ctx rule)
      (rule.periodRates.foldl (chargePeriod ctx rule energy daily) { s with
        periodEnergyBySchedule := (s.periodEnergyBySchedule.setDefault schedule.ruleId energy).1
        periodDailyEnergyBySchedule :=
          (s.periodDailyEnergyBySchedule.setDefault schedule.ruleId daily).1 }) := by
    rw [evaluateTimeOfUse, hrsv, ok_bind]
    simp only [hctx.request_eq, hen, hdaily, ok_bind, hcached, hcachedDaily]
    cases rule.baselineCredit <;> rfl
  rw [hstep, timeOfUseLines_eq hrsv]
  cases rule.baselineCredit with
  | none =>
    refine ⟨_, rfl, hinv₂, ?_⟩
    rw [hlines₂, Option.toList_none, map_nil, append_nil]
  | some credit =>
    obtain ⟨s', hs', hinv', hlines'⟩ := chargeCredit_spec hctx hinv₂ rule credit
    refine ⟨s', hs', hinv', ?_⟩
    rw [hlines', hlines₂, Option.toList_some, map_cons, map_nil, append_assoc]

theorem timeOfUseReturns_of_evaluate {rule : IRTimeOfUseEnergyCharge}
    (h : evaluateTimeOfUse ctx rule s = .ok s') :
    TimeOfUseReturns ctx r rule := by
  rw [evaluateTimeOfUse] at h
  obtain ⟨schedule, hrsv, hrest⟩ := bind_eq_ok.mp h
  rw [hctx.request_eq] at hrest
  obtain ⟨energy, hen, -⟩ := bind_eq_ok.mp hrest
  exact ⟨schedule, hrsv, periodEnergy_isOk.mp ⟨energy, hen⟩⟩

/-! ### The loop -/

/-- The operator applies to the account. -/
def Applies (ctx : ReplayContext) (operator : CompiledRule) : Prop :=
  ruleApplies operator.base.applicability ctx.request.base.accountFacts ctx.billCycleMonth = true

instance (ctx : ReplayContext) (operator : CompiledRule) : Decidable (Applies ctx operator) :=
  inferInstanceAs (Decidable (_ = true))

/-- When an operator returns. -/
def OperatorReturns (ctx : ReplayContext) (r : IntervalReplayRequest) : CompiledRule → Prop
  | .tieredEnergyCharge rule => TiersFit ctx.baselineWh r.energyWh rule.tiers 0
  | .timeOfUseEnergyCharge rule => TimeOfUseReturns ctx r rule
  | _ => True

/-- The lines of an operator that applies. -/
def ownLines (ctx : ReplayContext) (r : IntervalReplayRequest) : CompiledRule → List ChargeLineItem
  | .tieredEnergyCharge rule =>
    (tierParts ctx.baselineWh r.energyWh 1 rule.tiers 0).map (tierLine ctx rule)
  | .timeOfUseEnergyCharge rule => timeOfUseLines ctx r rule
  | .fixedDailyCharge rule => [fixedDailyLine ctx rule]
  | .fixedMonthlyCharge rule => [fixedMonthlyLine ctx rule]
  | _ => []

/-- The lines of an operator. -/
def operatorLines (ctx : ReplayContext) (r : IntervalReplayRequest) (operator : CompiledRule) :
    List ChargeLineItem :=
  if Applies ctx operator then ownLines ctx r operator else []

/-- One turn of the loop. -/
theorem evaluateOperator_spec (hinv : ReplayInv ctx r s)
    (hret : Applies ctx operator → OperatorReturns ctx r operator) :
    ∃ s', evaluateOperator ctx s operator = .ok s' ∧ ReplayInv ctx r s' ∧
      s'.lines = s.lines ++ operatorLines ctx r operator := by
  by_cases happ : Applies ctx operator
  · have happ' : ¬ ruleApplies operator.base.applicability ctx.request.base.accountFacts
        ctx.billCycleMonth = false := by
      rw [Bool.not_eq_false]
      exact happ
    rw [evaluateOperator.eq_def, if_neg happ', operatorLines, if_pos happ]
    have hown := hret happ
    cases operator with
    | baselineAllowance rule => exact ⟨s, rfl, hinv, (append_nil s.lines).symm⟩
    | timeOfUseSchedule rule => exact ⟨s, rfl, hinv, (append_nil s.lines).symm⟩
    | tieredEnergyCharge rule =>
      obtain ⟨s', hs', hinv', hadds⟩ := evaluateTiered_spec hctx hinv hown
      exact ⟨s', hs', hinv', hadds.lines⟩
    | timeOfUseEnergyCharge rule => exact evaluateTimeOfUse_spec hctx hinv hown
    | fixedDailyCharge rule =>
      exact ⟨_, rfl, hinv.addLine (show ("days" : String) ≠ "Wh" by decide), rfl⟩
    | fixedMonthlyCharge rule =>
      exact ⟨_, rfl, hinv.addLine (show ("bill_cycle" : String) ≠ "Wh" by decide), rfl⟩
    | explicitUnsupportedCharge rule =>
      exact ⟨_, rfl, ⟨hinv.energies, hinv.dailies, hinv.bases, hinv.lines, hinv.backed⟩,
        (append_nil s.lines).symm⟩
  · have happ' : ruleApplies operator.base.applicability ctx.request.base.accountFacts
        ctx.billCycleMonth = false := by
      rw [← Bool.not_eq_true]
      exact happ
    rw [evaluateOperator.eq_def, if_pos happ', operatorLines, if_neg happ]
    exact ⟨s, rfl, hinv, by rw [append_nil]⟩

theorem operatorReturns_of_evaluate (h : evaluateOperator ctx s operator = .ok s')
    (happ : Applies ctx operator) :
    OperatorReturns ctx r operator := by
  have happ' : ¬ ruleApplies operator.base.applicability ctx.request.base.accountFacts
      ctx.billCycleMonth = false := by
    rw [Bool.not_eq_false]
    exact happ
  rw [evaluateOperator.eq_def, if_neg happ'] at h
  cases operator with
  | tieredEnergyCharge rule => exact tiersFit_of_evaluateTiered hctx h
  | timeOfUseEnergyCharge rule => exact timeOfUseReturns_of_evaluate hctx h
  | _ => trivial

theorem evaluateOperator_keeps (hinv : ReplayInv ctx r s)
    (h : evaluateOperator ctx s operator = .ok s') :
    ReplayInv ctx r s' := by
  obtain ⟨s'', hs'', hinv', -⟩ := evaluateOperator_spec hctx hinv
    (operatorReturns_of_evaluate hctx h)
  rw [h] at hs''
  cases hs''
  exact hinv'

/-- A run over a list of operators. -/
theorem foldlM_evaluateOperator :
    ∀ (operators : List CompiledRule) (s : ReplayState), ReplayInv ctx r s →
      (∀ operator ∈ operators, Applies ctx operator → OperatorReturns ctx r operator) →
      ∃ s', operators.foldlM (evaluateOperator ctx) s = .ok s' ∧ ReplayInv ctx r s' ∧
        s'.lines = s.lines ++ operators.flatMap (operatorLines ctx r) := by
  intro operators
  induction operators with
  | nil =>
    intro s hinv _
    exact ⟨s, rfl, hinv, by simp⟩
  | cons operator operators ih =>
    intro s hinv hret
    obtain ⟨mid, hmid, hmidInv, hmidLines⟩ := evaluateOperator_spec hctx hinv
      (hret operator mem_cons_self)
    obtain ⟨s', hs', hs'Inv, hs'Lines⟩ := ih mid hmidInv
      fun op hop => hret op (mem_cons_of_mem _ hop)
    refine ⟨s', ?_, hs'Inv, ?_⟩
    · rw [foldlM_cons, hmid, ok_bind]
      exact hs'
    · rw [hs'Lines, hmidLines, flatMap_cons, append_assoc]

/-- **The loop returns exactly when each operator that applies does.** -/
theorem evaluateOperators_isOk :
    (∃ s, evaluateOperators ctx = .ok s) ↔
      ∀ operator ∈ ctx.bundle.ir.operators, Applies ctx operator →
        OperatorReturns ctx r operator := by
  refine foldlM_isOk (I := ReplayInv ctx r)
    (P := fun operator => Applies ctx operator → OperatorReturns ctx r operator) ?_ ?_ _ _
    ReplayInv.initial
  · intro s operator hinv
    constructor
    · rintro ⟨s', hs'⟩ happ
      exact operatorReturns_of_evaluate hctx hs' happ
    · intro hret
      obtain ⟨s', hs', -⟩ := evaluateOperator_spec hctx hinv hret
      exact ⟨s', hs'⟩
  · exact fun s operator s' hinv hs' => evaluateOperator_keeps hctx hinv hs'

/-- **It collects the lines of the operators in order.** -/
theorem evaluateOperators_spec (h : evaluateOperators ctx = .ok s) :
    ReplayInv ctx r s ∧ s.lines = ctx.bundle.ir.operators.flatMap (operatorLines ctx r) := by
  obtain ⟨s', hs', hinv, hlines⟩ := foldlM_evaluateOperator hctx ctx.bundle.ir.operators {}
    ReplayInv.initial ((evaluateOperators_isOk hctx).mp ⟨s, h⟩)
  rw [evaluateOperators, hs'] at h
  cases h
  exact ⟨hinv, by rw [hlines]; rfl⟩

end InContext

end Charges
end RateReplay
