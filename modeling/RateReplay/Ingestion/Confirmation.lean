import RateReplay.Domain.ProfileHash

/-!
# Confirmation of a draft

A draft is confirmed for a billing period (`normalize.py`): the readings that lie inside the
period are walked in the order of the draft, each one has to start where the one before it has
stopped, and the last has to stop with the period.

The hash behind the identifiers of warnings is a parameter.

## Main definitions

* `NormalizedDraft`, `confirmDraft` — the draft, and its confirmation.
* `Tiles` — readings that cover a period and do not overlap.

## Main results

* `coverFrom_eq_ok_iff` — **ordered readings pass the walk exactly when they tile the period.**
* `confirm_draft_iff` — **what is confirmed**: an attested period with a reading inside it, whose
  readings tile it.
-/

namespace RateReplay
namespace Ingestion

open ProfileHash

structure ConfirmationError where
  code : String
  message : String
  deriving DecidableEq, Repr

/-- `NormalizedDraft`. -/
structure NormalizedDraft where
  sourceHash : String
  adapterFingerprint : String
  tariffTimezone : String
  intervalResolutionSeconds : ℤ
  readings : List CanonicalReading
  findings : List CanonicalFinding
  deriving DecidableEq

/-- `_warning_id`. -/
def warningId (sha256 : String → String) (finding : CanonicalFinding) : String :=
  sha256 ("RateReplay.ImportWarning.v1\x00" ++ "\x00".intercalate
    [finding.code, finding.severity, finding.fieldPath, finding.safeValue])

/-- `NormalizedDraft.warning_ids`. -/
def NormalizedDraft.warningIds (sha256 : String → String) (draft : NormalizedDraft) :
    List String :=
  (draft.findings.filter fun finding => finding.severity = "WARNING").map (warningId sha256)

/-- Where a reading stops. -/
def stopUtcNs (reading : CanonicalReading) : ℤ :=
  reading.startUtcNs + reading.durationSeconds * 1000000000

/-- The readings of a draft that lie inside a period. -/
def NormalizedDraft.inside (draft : NormalizedDraft) (start stop : ℤ) : List CanonicalReading :=
  draft.readings.filter fun reading => start ≤ reading.startUtcNs ∧ stopUtcNs reading ≤ stop

/-- The walk over the selected readings: where the next one is expected to start. -/
def coverFrom (resolution : ℤ) : ℤ → List CanonicalReading → Except ConfirmationError ℤ
  | expectedStart, [] => .ok expectedStart
  | expectedStart, reading :: readings => do
    failIf (reading.durationSeconds ≠ resolution)
      ⟨"MIXED_INTERVAL_DURATIONS", "Selected period mixes interval resolutions."⟩
    failIf (reading.startUtcNs ≠ expectedStart)
      ⟨"INCOMPLETE_BILLING_PERIOD", "Selected period contains a gap or overlap."⟩
    coverFrom resolution (expectedStart + reading.durationSeconds * 1000000000) readings

/-- The content of a confirmed draft. -/
def NormalizedDraft.confirmed (draft : NormalizedDraft) (start stop : ℤ)
    (acknowledgedWarningIds : List String) : CanonicalProfileContentV1 where
  parserContractVersion := "interval-import-parser-v1"
  adapterFingerprint := draft.adapterFingerprint
  findingPolicyVersion := "import-finding-policy-v1"
  confirmationPolicyVersion := "profile-confirmation-policy-v1"
  billingPeriodStartUtcNs := start
  billingPeriodEndUtcNs := stop
  tariffTimezone := draft.tariffTimezone
  intervalResolutionSeconds := draft.intervalResolutionSeconds
  readings := draft.inside start stop
  findings := draft.findings
  acknowledgedWarningIds := sortedBy id acknowledgedWarningIds

/-- `confirm_draft`. -/
def confirmDraft (sha256 : String → String) (draft : NormalizedDraft) (start stop : ℤ)
    (acknowledgedWarningIds : List String) (pgeServiceAttested : Bool) :
    Except ConfirmationError CanonicalProfileContentV1 := do
  failIf (pgeServiceAttested = false)
    ⟨"PGE_SERVICE_ATTESTATION_REQUIRED", "Confirmation requires the PG&E service attestation."⟩
  let required := (draft.warningIds sha256).toFinset
  let acknowledged := acknowledgedWarningIds.toFinset
  failIf (acknowledged.card ≠ acknowledgedWarningIds.length ∨ acknowledged ≠ required)
    ⟨"WARNING_ACKNOWLEDGEMENT_MISMATCH",
      "Every current nonfatal warning must be acknowledged exactly once."⟩
  let selected := draft.inside start stop
  failIf (selected = []) ⟨"INCOMPLETE_BILLING_PERIOD", "Selected period has no readings."⟩
  let expectedStart ← coverFrom draft.intervalResolutionSeconds start selected
  failIf (expectedStart ≠ stop)
    ⟨"INCOMPLETE_BILLING_PERIOD", "Selected period is not completely covered."⟩
  return draft.confirmed start stop acknowledgedWarningIds

/-! ### Tilings -/

/-- The instant lies in the half-open interval of the reading. -/
def Within (reading : CanonicalReading) (t : ℤ) : Prop :=
  reading.startUtcNs ≤ t ∧ t < stopUtcNs reading

/-- Readings of one duration that cover a half-open period and do not overlap. -/
structure Tiles (resolution start stop : ℤ) (readings : List CanonicalReading) : Prop where
  duration : ∀ reading ∈ readings, reading.durationSeconds = resolution
  disjoint : readings.Pairwise fun a b => ∀ t, Within a t → ¬ Within b t
  covers : ∀ t, (∃ reading ∈ readings, Within reading t) ↔ start ≤ t ∧ t < stop

section Tilings

variable {resolution start stop : ℤ} {reading : CanonicalReading} {readings : List CanonicalReading}

theorem coverFrom_cons_eq_ok : coverFrom resolution start (reading :: readings) = .ok stop ↔
    reading.durationSeconds = resolution ∧ reading.startUtcNs = start ∧
      coverFrom resolution (stopUtcNs reading) readings = .ok stop := by
  rw [coverFrom, failIf_bind_eq_ok, failIf_bind_eq_ok, not_not, not_not]
  constructor
  · rintro ⟨hduration, rfl, hrest⟩
    exact ⟨hduration, rfl, hrest⟩
  · rintro ⟨hduration, rfl, hrest⟩
    exact ⟨hduration, rfl, hrest⟩

/-- Readings that pass the walk tile what it has walked over. -/
theorem tiles_of_coverFrom (hpos : 0 < resolution)
    (h : coverFrom resolution start readings = .ok stop) :
    start ≤ stop ∧ Tiles resolution start stop readings := by
  induction readings generalizing start with
  | nil =>
    obtain rfl : start = stop := Except.ok.inj h
    exact ⟨le_rfl, by simp, List.Pairwise.nil, fun t => by simp⟩
  | cons reading readings ih =>
    obtain ⟨hduration, rfl, hrest⟩ := coverFrom_cons_eq_ok.mp h
    obtain ⟨hle, htiles⟩ := ih hrest
    have hstop : reading.startUtcNs < stopUtcNs reading := by
      rw [stopUtcNs, hduration]
      omega
    refine ⟨by omega, ?_, ?_, fun t => ?_⟩
    · simpa [hduration] using htiles.duration
    · refine List.Pairwise.cons (fun other hmem t ht hother => ?_) htiles.disjoint
      have := (htiles.covers t).mp ⟨other, hmem, hother⟩
      exact absurd ht.2 (by omega)
    · have hrest := htiles.covers t
      simp only [List.mem_cons, exists_eq_or_imp]
      rw [hrest, Within]
      omega

/-- Ordered readings that tile a period pass the walk. -/
theorem coverFrom_of_tiles (hpos : 0 < resolution) (hle : start ≤ stop)
    (hordered : readings.Pairwise fun a b => a.startUtcNs ≤ b.startUtcNs)
    (h : Tiles resolution start stop readings) :
    coverFrom resolution start readings = .ok stop := by
  induction readings generalizing start with
  | nil =>
    have := h.covers start
    simp only [List.not_mem_nil, false_and, exists_false, false_iff, not_and, le_refl,
      true_implies, not_lt] at this
    obtain rfl : start = stop := by omega
    rfl
  | cons reading readings ih =>
    rw [List.pairwise_cons] at hordered
    have hduration := h.duration reading List.mem_cons_self
    have hstop : stopUtcNs reading = reading.startUtcNs + resolution * 1000000000 := by
      rw [stopUtcNs, hduration]
    have hin : ∀ other ∈ reading :: readings,
        start ≤ other.startUtcNs ∧ stopUtcNs other ≤ stop := by
      intro other hmem
      have hother : stopUtcNs other = other.startUtcNs + resolution * 1000000000 := by
        rw [stopUtcNs, h.duration other hmem]
      have hfirst := (h.covers other.startUtcNs).mp ⟨other, hmem, le_rfl, by omega⟩
      have hlast := (h.covers (stopUtcNs other - 1)).mp ⟨other, hmem, by omega, by omega⟩
      omega
    obtain ⟨hfirst, hlast⟩ := hin reading List.mem_cons_self
    -- the start of the period lies in some reading, and none starts before this one
    have hstart : reading.startUtcNs = start := by
      obtain ⟨other, hmem, hother⟩ := (h.covers start).mpr ⟨le_rfl, by omega⟩
      rcases List.mem_cons.mp hmem with rfl | hlater
      · exact le_antisymm hother.1 hfirst
      · exact le_antisymm ((hordered.1 other hlater).trans hother.1) hfirst
    refine coverFrom_cons_eq_ok.mpr ⟨hduration, hstart, ih hlast hordered.2 ?_⟩
    have hdisjoint := List.pairwise_cons.mp h.disjoint
    refine ⟨fun other hmem => h.duration other (List.mem_cons_of_mem _ hmem), hdisjoint.2,
      fun t => ⟨?_, fun ht => ?_⟩⟩
    · rintro ⟨other, hmem, hother⟩
      have hperiod := (h.covers t).mp ⟨other, List.mem_cons_of_mem _ hmem, hother⟩
      have hapart : ¬ Within reading t := fun ht => hdisjoint.1 other hmem t ht hother
      rw [Within] at hapart
      omega
    · obtain ⟨other, hmem, hother⟩ := (h.covers t).mpr (by omega)
      rcases List.mem_cons.mp hmem with rfl | hlater
      · exact absurd hother.2 (by omega)
      · exact ⟨other, hlater, hother⟩

/-- **Ordered readings, at least one of them, pass the walk exactly when they tile the period.** -/
theorem coverFrom_eq_ok_iff (hpos : 0 < resolution) (hne : readings ≠ [])
    (hordered : readings.Pairwise fun a b => a.startUtcNs ≤ b.startUtcNs) :
    coverFrom resolution start readings = .ok stop ↔ Tiles resolution start stop readings := by
  refine ⟨fun h => (tiles_of_coverFrom hpos h).2, fun h => ?_⟩
  obtain ⟨reading, hmem⟩ := List.exists_mem_of_ne_nil _ hne
  have hwithin : Within reading reading.startUtcNs := by
    rw [Within, stopUtcNs, h.duration reading hmem]
    omega
  have := (h.covers _).mp ⟨reading, hmem, hwithin⟩
  exact coverFrom_of_tiles hpos (by omega) hordered h

end Tilings

theorem confirmDraft_eq_ok_iff {sha256 : String → String} {draft : NormalizedDraft} {start stop : ℤ}
    {acknowledged : List String} {attested : Bool} {content : CanonicalProfileContentV1} :
    confirmDraft sha256 draft start stop acknowledged attested = .ok content ↔
      attested = true ∧ acknowledged.Nodup ∧
        (∀ id, id ∈ acknowledged ↔ id ∈ draft.warningIds sha256) ∧
        draft.inside start stop ≠ [] ∧
        coverFrom draft.intervalResolutionSeconds start (draft.inside start stop) = .ok stop ∧
        draft.confirmed start stop acknowledged = content := by
  have hnodup : acknowledged.toFinset.card = acknowledged.length ↔ acknowledged.Nodup :=
    Multiset.toFinset_card_eq_card_iff_nodup (m := (acknowledged : Multiset String))
  rw [confirmDraft, failIf_bind_eq_ok, failIf_bind_eq_ok, failIf_bind_eq_ok, bind_eq_ok,
    not_or, not_not, not_not, hnodup, Finset.ext_iff]
  simp only [failIf_bind_eq_ok, not_not, pure_eq_ok, Except.ok.injEq, Bool.not_eq_false,
    List.mem_toFinset, and_assoc]
  constructor
  · rintro ⟨hattested, honce, hall, hne, _, hcover, rfl, hcontent⟩
    exact ⟨hattested, honce, hall, hne, hcover, hcontent⟩
  · rintro ⟨hattested, honce, hall, hne, hcover, hcontent⟩
    exact ⟨hattested, honce, hall, hne, stop, hcover, rfl, hcontent⟩

/-- **What is confirmed**: an attested period with every warning acknowledged once and a reading
inside it, whose readings tile it. -/
theorem confirm_draft_iff (sha256 : String → String) (draft : NormalizedDraft)
    (hresolution : 0 < draft.intervalResolutionSeconds)
    (hordered : draft.readings.Pairwise fun a b => a.startUtcNs ≤ b.startUtcNs) (start stop : ℤ)
    (acknowledged : List String) (attested : Bool) :
    ((∃ content, confirmDraft sha256 draft start stop acknowledged attested = .ok content) ↔
      attested = true ∧ acknowledged.Nodup ∧
        (∀ id, id ∈ acknowledged ↔ id ∈ draft.warningIds sha256) ∧
        draft.inside start stop ≠ [] ∧
        Tiles draft.intervalResolutionSeconds start stop (draft.inside start stop)) ∧
      ∀ content, confirmDraft sha256 draft start stop acknowledged attested = .ok content →
        content.readings = draft.inside start stop := by
  have hinside : (draft.inside start stop).Pairwise fun a b => a.startUtcNs ≤ b.startUtcNs :=
    hordered.sublist List.filter_sublist
  refine ⟨⟨?_, ?_⟩, ?_⟩
  · rintro ⟨content, hok⟩
    obtain ⟨hattested, honce, hall, hne, hcover, -⟩ := confirmDraft_eq_ok_iff.mp hok
    exact ⟨hattested, honce, hall, hne, (coverFrom_eq_ok_iff hresolution hne hinside).mp hcover⟩
  · rintro ⟨hattested, honce, hall, hne, htiles⟩
    have hcover := (coverFrom_eq_ok_iff hresolution hne hinside).mpr htiles
    exact ⟨_, confirmDraft_eq_ok_iff.mpr ⟨hattested, honce, hall, hne, hcover, rfl⟩⟩
  · intro content hok
    obtain ⟨-, -, -, -, -, rfl⟩ := confirmDraft_eq_ok_iff.mp hok
    rfl

/-- Two hours of readings and no findings. -/
def plainDraft : NormalizedDraft :=
  ⟨"", "espi-4.0-download-my-data-v1", "America/Los_Angeles", 3600,
    [plainReading 0 5, plainReading 3600000000000 7], []⟩

theorem confirm_draft_two_hours :
    ∃ content, confirmDraft id plainDraft 0 7200000000000 [] true = .ok content ∧
      content.readings.length = 2 ∧ Tiles 3600 0 7200000000000 content.readings := by
  obtain ⟨hiff, hreadings⟩ := confirm_draft_iff id plainDraft (by decide) (by decide) 0
    7200000000000 [] true
  obtain ⟨content, hok, htwo⟩ : ∃ content, confirmDraft id plainDraft 0 7200000000000 [] true
      = .ok content ∧ content.readings.length = 2 := by decide +kernel
  refine ⟨content, hok, htwo, ?_⟩
  rw [hreadings content hok]
  exact (hiff.mp ⟨content, hok⟩).2.2.2.2

/-- **An empty period is tiled by the readings inside it, of which there are none, and is not
confirmed.** -/
theorem empty_period_not_confirmed :
    Tiles 3600 0 0 (plainDraft.inside 0 0) ∧ plainDraft.warningIds id = [] ∧
      confirmDraft id plainDraft 0 0 [] true =
        .error ⟨"INCOMPLETE_BILLING_PERIOD", "Selected period has no readings."⟩ := by
  have hnone : plainDraft.inside 0 0 = [] := by decide +kernel
  refine ⟨?_, rfl, by decide +kernel⟩
  rw [hnone]
  exact ⟨by simp, List.Pairwise.nil, fun t => by simp⟩

end Ingestion
end RateReplay
