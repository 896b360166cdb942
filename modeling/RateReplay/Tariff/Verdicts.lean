import RateReplay.Tariff.Soundness

/-!
# Verdicts and missing facts

Eligibility is decided on what is known: a missing fact is a reason to answer `UNKNOWN`,
never a reason for or against the account.  So filling one in can only settle an open
verdict.  The evaluation itself is total but for the year of usage before the service
window, which need not start on a date of the calendar.

## Main definitions

* `AccountFacts.withTechnologies`, `FillsIn` — facts with more of them known.
* `Reasons.DecidesAs` — reasons that decide whatever the others decide.
* `UsageYearStarts` — the year of usage before the window starts on some date.

## Main results

* `verdict_kept_when_filled` — **filling in missing facts keeps every decided verdict.**
* `evaluateEligibility_answers_iff` — **the evaluation answers exactly when the year of
  usage starts on a date.**
-/

namespace RateReplay

/-! ### Filling in missing facts -/

/-- The facts with other qualifying technologies, or with none known. -/
def AccountFacts.withTechnologies (facts : AccountFacts)
    (technologies : Option (List QualifyingTechnology))
    (hsorted : ∀ ts ∈ technologies, (ts.map QualifyingTechnology.text).Pairwise (· ≤ ·)) :
    AccountFacts :=
  { facts with qualifyingTechnologies := technologies, technologies_sorted := hsorted }

/-- What is known stays; what is missing may become known. -/
def Extends {α : Type*} (known more : Option α) : Prop := ∀ x, known = some x → more = some x

/-- Dated facts of which some missing ones are filled in, or all of them at once. -/
structure FillsIn (dated filled : Option DatedEligibilityFacts) : Prop where
  factsAsOf : Extends (dated.bind (·.factsAsOf)) (filled.bind (·.factsAsOf))
  evRegistered : Extends (dated.bind (·.evRegisteredAndChargedAtPremises))
    (filled.bind (·.evRegisteredAndChargedAtPremises))
  wholeHouse : Extends (dated.bind (·.wholeHouseMetering)) (filled.bind (·.wholeHouseMetering))
  period : Extends (dated.bind (·.annualUsagePeriod)) (filled.bind (·.annualUsagePeriod))
  usage : Extends (dated.bind (·.annualUsageWh)) (filled.bind (·.annualUsageWh))
  allowance : Extends (dated.bind (·.annualBaselineAllowanceWh))
    (filled.bind (·.annualBaselineAllowanceWh))

namespace Reasons

/-- A reason against the account has a counterpart in `r'`, and if `r` has no reason at all,
neither has `r'`. -/
structure DecidesAs (r r' : Reasons) : Prop where
  against : r.ineligible ≠ [] → r'.ineligible ≠ []
  clear : r.ineligible = [] → r.unknown = [] → r'.ineligible = [] ∧ r'.unknown = []

namespace DecidesAs

variable {r r' s s' : Reasons} {facts : AccountFacts} {dated filled : Option DatedEligibilityFacts}
  {facts' : AccountFacts}

theorem refl (r : Reasons) : r.DecidesAs r := ⟨id, fun h h' => ⟨h, h'⟩⟩

section Kept

variable (h : r.DecidesAs r')

include h

theorem ineligibleIf (bad : Bool) (code : ReasonCode) :
    (r.ineligibleIf bad code).DecidesAs (r'.ineligibleIf bad code) := by
  cases bad with
  | false => exact h
  | true => exact ⟨fun _ => by simp [Reasons.ineligibleIf, addIneligible],
      fun hnil => by simp [Reasons.ineligibleIf, addIneligible] at hnil⟩

theorem unknownIf (bad : Bool) (code : ReasonCode) :
    (r.unknownIf bad code).DecidesAs (r'.unknownIf bad code) := by
  cases bad with
  | false => exact h
  | true => exact ⟨h.against, fun _ hnil => by simp [Reasons.unknownIf, addUnknown] at hnil⟩

/-- Where a fact is missing nothing is decided, whatever the fact turns out to say. -/
theorem missing (code : ReasonCode) (hgrows : r'.Grows s) :
    (r.addUnknown code).DecidesAs s :=
  ⟨fun hne hnil => h.against hne (hgrows.1 hnil), fun _ hnil => by simp [addUnknown] at hnil⟩

theorem checkTechnologies
    (hext : Extends facts.qualifyingTechnologies facts'.qualifyingTechnologies)
    (qualifies : List QualifyingTechnology → Bool) :
    (checkTechnologies r facts qualifies).DecidesAs (checkTechnologies r' facts' qualifies) := by
  cases hknown : facts.qualifyingTechnologies with
  | none =>
    simp only [RateReplay.checkTechnologies, hknown]
    exact h.missing _ (grows_checkTechnologies r' facts' qualifies)
  | some technologies =>
    simp only [RateReplay.checkTechnologies, hknown, hext _ hknown]
    exact h.ineligibleIf _ _

theorem checkDatedFlag {known more : Option Bool} (hext : Extends known more) (required : Bool)
    (absent mismatch : ReasonCode) :
    (checkDatedFlag r required known absent mismatch).DecidesAs
      (checkDatedFlag r' required more absent mismatch) := by
  cases required with
  | false => exact h
  | true =>
    cases known with
    | none => exact h.missing _ (grows_checkDatedFlag r' true more absent mismatch)
    | some value =>
      rw [hext value rfl]
      exact h.ineligibleIf _ _

theorem checkAttestation (hwin : facts'.serviceWindow = facts.serviceWindow)
    (hfills : FillsIn dated filled) (required : Bool) :
    (checkAttestation r required facts dated).DecidesAs
      (checkAttestation r' required facts' filled) := by
  cases required with
  | false => exact h
  | true =>
    rw [RateReplay.checkAttestation, if_pos rfl]
    cases hknown : dated.bind DatedEligibilityFacts.factsAsOf with
    | none => exact h.missing _ (grows_checkAttestation r' true facts' filled)
    | some factsAsOf =>
      rw [RateReplay.checkAttestation, if_pos rfl, hfills.factsAsOf _ hknown, hwin]
      exact h.unknownIf _ _

theorem checkAnnualBaseline (hwin : facts'.serviceWindow = facts.serviceWindow)
    (hfills : FillsIn dated filled) {ratio : Option AnnualBaselineRatio}
    (hs : checkAnnualBaseline r ratio facts dated = .ok s)
    (hs' : checkAnnualBaseline r' ratio facts' filled = .ok s') : s.DecidesAs s' := by
  have hgrows := grows_checkAnnualBaseline hs'
  unfold RateReplay.checkAnnualBaseline at hs
  split at hs
  · cases hs
    cases hs'
    exact h
  · split at hs
    · -- all three facts are known, so the filled ones are compared in the same way
      next husage halw hper =>
      simp only [RateReplay.checkAnnualBaseline, hfills.usage _ husage,
        hfills.allowance _ halw, hfills.period _ hper, hwin] at hs'
      dsimp only at hs
      split at hs
      · cases hs
      · next hstart =>
        simp only [hstart] at hs'
        split_ifs at hs hs'
        · cases hs
          cases hs'
          exact h.unknownIf true _
        · cases hs
          cases hs'
          exact h.ineligibleIf _ _
    · cases hs
      exact h.missing _ hgrows

/-- What the predicate checks from version 2 on. -/
theorem checkVersion (hwin : facts'.serviceWindow = facts.serviceWindow)
    (hext : Extends facts.qualifyingTechnologies facts'.qualifyingTechnologies)
    (hfills : FillsIn dated filled) {extension : Option EligibilityExtension}
    (hs : checkVersion r extension facts dated = .ok s)
    (hs' : checkVersion r' extension facts' filled = .ok s') : s.DecidesAs s' := by
  cases extension with
  | none =>
    cases hs
    cases hs'
    exact h
  | some x =>
    rw [RateReplay.checkVersion, checkExtension] at hs hs'
    refine checkAnnualBaseline (checkDatedFlag (checkDatedFlag (checkAttestation ?_ hwin
      hfills _) hfills.evRegistered _ _ _) hfills.wholeHouse _ _ _) hwin hfills hs hs'
    split_ifs
    · exact h
    · exact h.checkTechnologies hext _

end Kept

theorem accountReasons {bundle : CompilationBundle} {technologies}
    (hsrt : ∀ ts ∈ technologies, (ts.map QualifyingTechnology.text).Pairwise (· ≤ ·))
    (hext : Extends facts.qualifyingTechnologies technologies) :
    (accountReasons bundle facts).DecidesAs
      (accountReasons bundle (facts.withTechnologies technologies hsrt)) := by
  unfold RateReplay.accountReasons
  dsimp only
  split
  · exact refl _
  · exact (refl _).checkTechnologies hext _

theorem verdict (h : r.DecidesAs r') (hknown : r.verdict.1 ≠ .unknown) :
    r'.verdict.1 = r.verdict.1 := by
  unfold Reasons.verdict at hknown ⊢
  by_cases hagainst : r.ineligible = []
  · by_cases hopen : r.unknown = []
    · obtain ⟨hagainst', hopen'⟩ := h.clear hagainst hopen
      simp [hagainst, hopen, hagainst', hopen']
    · simp [hagainst, hopen] at hknown
  · simp [hagainst, h.against hagainst]

end DecidesAs

end Reasons

/-- **Missing facts are never held for or against an account**: filling in technologies
that were unknown, dated facts that were absent or absent fields of them keeps a verdict
of `ELIGIBLE` or `INELIGIBLE`. -/
theorem verdict_kept_when_filled {env : Env} {bundle : CompilationBundle} {facts : AccountFacts}
    {dated filled : Option DatedEligibilityFacts} {technologies}
    (hsorted : ∀ ts ∈ technologies, (ts.map QualifyingTechnology.text).Pairwise (· ≤ ·))
    (hextends : Extends facts.qualifyingTechnologies technologies) (hfills : FillsIn dated filled)
    {before after : EligibilityResult}
    (hbefore : evaluateEligibility env bundle facts dated = .ok before)
    (hafter : evaluateEligibility env bundle (facts.withTechnologies technologies hsorted) filled
      = .ok after)
    (hknown : before.status ≠ .unknown) : after.status = before.status := by
  simp only [evaluateEligibility, eligibilityReasons, bind_eq_ok, Except.ok.injEq]
    at hbefore hafter
  obtain ⟨_, ⟨r, hr, rfl⟩, rfl⟩ := hbefore
  obtain ⟨_, ⟨r', hr', rfl⟩, rfl⟩ := hafter
  have hwindow : (facts.withTechnologies technologies hsorted).serviceWindow
      = facts.serviceWindow := rfl
  have hdecides : r.DecidesAs r' :=
    (Reasons.DecidesAs.accountReasons hsorted hextends).checkVersion hwindow hextends hfills hr hr'
  exact (hdecides.unknownIf _ _).verdict hknown

section

open SmallTariff

/-- A customer with a discount stays ineligible when the year of usage becomes known. -/
theorem verdict_kept_when_usage_known : ∃ before after,
    evaluateEligibility env regionalBundle { facts with careEnrolled := true } none
      = .ok before ∧
    evaluateEligibility env regionalBundle
      (AccountFacts.withTechnologies { facts with careEnrolled := true } (some []) (by simp))
      (some usageYear) = .ok after ∧
    before.status = .ineligible ∧ after.status = before.status := by
  obtain ⟨before, hbefore, hineligible⟩ : ∃ e, evaluateEligibility env regionalBundle
      { facts with careEnrolled := true } none = .ok e ∧ e.status = .ineligible := by
    decide +kernel
  obtain ⟨after, hafter⟩ : ∃ e, evaluateEligibility env regionalBundle
      (AccountFacts.withTechnologies { facts with careEnrolled := true } (some []) (by simp))
      (some usageYear) = .ok e := by
    decide +kernel
  have hfills : FillsIn none (some usageYear) := by
    constructor <;> intro _ h <;> cases h
  exact ⟨before, after, hbefore, hafter, hineligible, verdict_kept_when_filled (by simp)
    (fun _ h => by cases h) hfills hbefore hafter (by rw [hineligible]; decide)⟩

end

/-! ### The year of usage -/

/-- If annual usage is bounded and its three facts are known, the first day of the service
window has a counterpart in the year before. -/
def UsageYearStarts (ratio : Option AnnualBaselineRatio) (facts : AccountFacts)
    (dated : Option DatedEligibilityFacts) : Prop :=
  ratio.isSome → (dated.bind (·.annualUsageWh)).isSome →
    (dated.bind (·.annualBaselineAllowanceWh)).isSome →
    (dated.bind (·.annualUsagePeriod)).isSome →
    (Date.replaceYear facts.serviceWindow.start (Date.year facts.serviceWindow.start - 1)).isSome

theorem checkAnnualBaseline_cases (r : Reasons) (ratio : Option AnnualBaselineRatio)
    (facts : AccountFacts) (dated : Option DatedEligibilityFacts) :
    (∃ s, checkAnnualBaseline r ratio facts dated = .ok s) ∧ UsageYearStarts ratio facts dated ∨
      (∃ message, checkAnnualBaseline r ratio facts dated = .error (.valueError message)) ∧
        ¬ UsageYearStarts ratio facts dated := by
  unfold checkAnnualBaseline UsageYearStarts
  split
  · exact .inl ⟨⟨_, rfl⟩, fun h => by simp at h⟩
  · split
    · next husage halw hper =>
      dsimp only
      split
      · next hstart =>
        refine .inr ⟨⟨_, rfl⟩, fun h => ?_⟩
        have := h rfl (by rw [husage]; rfl) (by rw [halw]; rfl) (by rw [hper]; rfl)
        rw [hstart] at this
        cases this
      · next hstart =>
        refine .inl ⟨?_, fun _ _ _ _ => by rw [hstart]; rfl⟩
        split_ifs
        · exact ⟨_, rfl⟩
        · exact ⟨_, rfl⟩
    · next hmissing =>
      refine .inl ⟨⟨_, rfl⟩, fun _ husage halw hper => ?_⟩
      obtain ⟨usage, husage⟩ := Option.isSome_iff_exists.mp husage
      obtain ⟨allowance, halw⟩ := Option.isSome_iff_exists.mp halw
      obtain ⟨period, hper⟩ := Option.isSome_iff_exists.mp hper
      exact (hmissing usage allowance period husage halw hper).elim

/-- An evaluation returns a verdict, or the year of usage starts on no date. -/
theorem evaluateEligibility_cases (env : Env) (bundle : CompilationBundle)
    (facts : AccountFacts) (dated : Option DatedEligibilityFacts) :
    (∃ result, evaluateEligibility env bundle facts dated = .ok result) ∧
        UsageYearStarts (bundle.predicate.extension.bind (·.maximumAnnualBaselineRatio)) facts
          dated ∨
      (∃ message, evaluateEligibility env bundle facts dated = .error (.valueError message)) ∧
        ¬ UsageYearStarts (bundle.predicate.extension.bind (·.maximumAnnualBaselineRatio)) facts
          dated := by
  rw [evaluateEligibility, eligibilityReasons]
  cases hextension : bundle.predicate.extension with
  | none => exact .inl ⟨⟨_, rfl⟩, fun h => by simp at h⟩
  | some x =>
    rw [checkVersion, checkExtension, Option.bind_some]
    rcases checkAnnualBaseline_cases _ x.maximumAnnualBaselineRatio facts dated with
      ⟨⟨s, hs⟩, hstarts⟩ | ⟨⟨message, hs⟩, hstarts⟩
    · rw [hs]
      exact .inl ⟨⟨_, rfl⟩, hstarts⟩
    · rw [hs]
      exact .inr ⟨⟨message, rfl⟩, hstarts⟩

/-- **When an evaluation answers.**  It returns a verdict or raises one of the evaluator's
own errors exactly when the year of usage starts on a date, if the predicate asks for it. -/
theorem evaluateEligibility_answers_iff (env : Env) (bundle : CompilationBundle)
    (facts : AccountFacts) (dated : Option DatedEligibilityFacts) :
    ((∃ result, evaluateEligibility env bundle facts dated = .ok result) ∨
      ∃ e, evaluateEligibility env bundle facts dated = .error (.replayError e)) ↔
      UsageYearStarts (bundle.predicate.extension.bind (·.maximumAnnualBaselineRatio)) facts
        dated := by
  rcases evaluateEligibility_cases env bundle facts dated with
    ⟨⟨result, h⟩, hstarts⟩ | ⟨⟨message, h⟩, hstarts⟩
  · exact ⟨fun _ => hstarts, fun _ => .inl ⟨result, h⟩⟩
  · rw [h]
    refine ⟨?_, fun hs => absurd hs hstarts⟩
    rintro (⟨result, hr⟩ | ⟨e, he⟩)
    · cases hr
    · cases he

/-- The compiled regional tariff asks for annual usage; for a month that starts on the 29th
of February the evaluation raises `ValueError`. -/
theorem evaluateEligibility_raises_on_leap_day :
    compileTariff SmallTariff.env (SmallTariff.lockedRoot SmallTariff.regionalIds)
      SmallTariff.regionalTariff = .ok SmallTariff.regionalBundle ∧
    evaluateEligibility SmallTariff.env SmallTariff.regionalBundle SmallTariff.leapFacts
      (some SmallTariff.usageYear) = .error (.valueError "day is out of range for month") := by
  refine ⟨SmallTariff.compileTariff_regional, ?_⟩
  decide +kernel

end RateReplay
