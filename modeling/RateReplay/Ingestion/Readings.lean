import RateReplay.Lib.Outcome
import RateReplay.Lib.Sorted

/-!
# The readings of an ESPI document

`_normalized_readings` of `espi.py` reads the interval blocks in the order of the document, sorts
the readings and rejects repeated and overlapping ones.  What the document's order leaves behind
is one warning.  `int` and the admission of energies are parameters.

## Main definitions

* `normalizedReadings` — the function, `findingsOf` its findings.

## Main results

* `filter_findingsOf` — the other warnings are the same for every order.
* `normalized_readings_reordered` — **another order of the blocks and their readings** is accepted
  too, with the same readings.
-/

namespace RateReplay
namespace Ingestion

open List

structure EspiParseError where
  (code message : String)
  deriving DecidableEq, Repr

structure RawReading where
  (start duration value : Option String)
  qualityCodes : List String

structure EspiFinding where
  (code severity fieldPath : String)
  deriving DecidableEq

structure EspiReading where
  (startUtcSeconds durationSeconds : ℤ)
  energyWh : ℕ
  qualityFlags : List String
  deriving DecidableEq

namespace EspiReading

variable (reading : EspiReading)

/-- The order of the readings. -/
def key : ℤ ×ₗ ℤ := toLex (reading.startUtcSeconds, reading.durationSeconds)

/-- Where the reading ends. -/
def stop : ℤ := reading.startUtcSeconds + reading.durationSeconds

/-- The findings of one reading, one for each flag. -/
def findings : List EspiFinding := reading.qualityFlags.map fun flag =>
  ⟨flag, "WARNING", "readings[" ++ toString reading.startUtcSeconds ++ "]"⟩

end EspiReading

def nonMonotonicIntervals : EspiFinding := ⟨"NON_MONOTONIC_INTERVALS", "WARNING", "readings"⟩

def intervalGap : EspiFinding := ⟨"INTERVAL_GAP", "WARNING", "readings"⟩

/-- The order of the findings. -/
def EspiFinding.key (finding : EspiFinding) : String ×ₗ String :=
  toLex (finding.code, finding.fieldPath)

/-- `int` (none where it raises), and `exact_watt_hours` of a number of Wh with a multiplier. -/
structure Parsers where
  int : String → Option ℤ
  exactWattHours : String → ℤ → Except EspiParseError ℕ

def qualityName (quality : String) : Except EspiParseError String :=
  if quality = "7" then .ok "MANUALLY_EDITED"
  else if quality = "8" then .ok "ESTIMATED_USING_REFERENCE_DAY"
  else .error ⟨"UNSUPPORTED_READING_QUALITY", "Unknown reading quality"⟩

section Normalization

variable (parsers : Parsers) (intervalSeconds multiplier : ℤ)

/-- One turn of the loop over the readings of the blocks. -/
def normalizedReading (raw : RawReading) : Except EspiParseError EspiReading :=
  match raw.start, raw.duration, raw.value with
  | some start, some duration, some value =>
    match parsers.int start, parsers.int duration with
    | some start, some duration => do
      failIf (duration ≠ intervalSeconds) (EspiParseError.mk "MIXED_INTERVAL_DURATIONS"
        "Reading duration differs from ReadingType")
      let flags ← collect qualityName raw.qualityCodes
      let energyWh ← parsers.exactWattHours value multiplier
      .ok ⟨start, duration, energyWh, flags.dedup⟩
    | _, _ => .error ⟨"INVALID_READING_SEMANTIC", "Invalid interval time"⟩
  | _, _, _ => .error ⟨"MISSING_READING_SEMANTIC", "Interval is incomplete"⟩

/-- `normalized`. -/
def normalized (readings : List EspiReading) : List EspiReading :=
  sortedBy EspiReading.key readings

/-- `pairwise(normalized)`. -/
def neighbours (readings : List EspiReading) : List (EspiReading × EspiReading) :=
  (normalized readings).zip (normalized readings).tail

/-- The findings, as they are appended. -/
def appendedFindings (readings : List EspiReading) : List EspiFinding :=
  readings.flatMap EspiReading.findings ++
    (if readings.map EspiReading.key = sortedBy id (readings.map EspiReading.key) then []
      else [nonMonotonicIntervals]) ++
    ((neighbours readings).filter fun p => p.1.stop < p.2.startUtcSeconds).map
      fun _ => intervalGap

/-- The findings that are returned. -/
def findingsOf (readings : List EspiReading) : List EspiFinding :=
  sortedBy EspiFinding.key (appendedFindings readings).dedup

/-- `_normalized_readings`, with the readings of each block. -/
def normalizedReadings (intervalBlocks : List (List RawReading)) :
    Except EspiParseError (List EspiReading × List EspiFinding) := do
  let readings ← collect (normalizedReading parsers intervalSeconds multiplier)
    intervalBlocks.flatten
  failIf (readings = []) (EspiParseError.mk "EMPTY_FILE" "No interval readings were resolved")
  failIf (¬ ((normalized readings).map EspiReading.key).Nodup)
    (EspiParseError.mk "DUPLICATE_INTERVALS" "Duplicate interval identity")
  failIf (∃ p ∈ neighbours readings, p.2.startUtcSeconds < p.1.stop)
    (EspiParseError.mk "OVERLAPPING_INTERVALS" "Intervals overlap")
  .ok (normalized readings, findingsOf readings)

end Normalization

section Order

variable {readings readings' : List EspiReading}

theorem mem_appendedFindings {f : EspiFinding} :
    f ∈ appendedFindings readings ↔ (∃ r ∈ readings, f ∈ r.findings) ∨
      (readings.map EspiReading.key ≠ sortedBy id (readings.map EspiReading.key) ∧
        f = nonMonotonicIntervals) ∨
      ∃ p ∈ neighbours readings, p.1.stop < p.2.startUtcSeconds ∧ intervalGap = f := by
  rw [appendedFindings, mem_append, mem_append, mem_flatMap, or_assoc, mem_map]
  split_ifs with h
  · simp only [not_mem_nil, eq_true h, ne_eq, not_true_eq_false, false_and, mem_filter,
      decide_eq_true_eq, and_assoc]
  · simp only [mem_singleton, eq_false h, ne_eq, not_false_eq_true, true_and, mem_filter,
      decide_eq_true_eq, and_assoc]

/-- Every finding is a warning, so its key tells it apart. -/
theorem severity_of_mem {f : EspiFinding} (h : f ∈ findingsOf readings) :
    f.severity = "WARNING" := by
  rw [findingsOf, mem_sortedBy, mem_dedup, mem_appendedFindings] at h
  rcases h with ⟨r, -, hf⟩ | ⟨-, rfl⟩ | ⟨p, -, -, rfl⟩
  · obtain ⟨flag, -, rfl⟩ := mem_map.mp hf
    rfl
  · rfl
  · rfl

/-- **The order of the readings** shows in no other warning. -/
theorem filter_findingsOf (hperm : readings.Perm readings')
    (hsort : normalized readings' = normalized readings) :
    (findingsOf readings').filter (· ≠ nonMonotonicIntervals) =
      (findingsOf readings).filter (· ≠ nonMonotonicIntervals) := by
  refine Perm.eq_of_pairwise ?_ ((pairwise_sortedBy _ _).filter _)
    ((pairwise_sortedBy _ _).filter _) ?_
  · intro f g hf hg hle hge
    have hkey := Prod.mk.inj (ofLex_inj.mpr (le_antisymm hle hge))
    have hf := severity_of_mem (mem_of_mem_filter hf)
    have hg := severity_of_mem (mem_of_mem_filter hg)
    cases f
    cases g
    simp_all
  · have hnodup : ∀ l, ((findingsOf l).filter (· ≠ nonMonotonicIntervals)).Nodup := fun l =>
      ((sortedBy_perm _ _).nodup_iff.mpr (nodup_dedup _)).filter _
    refine (perm_ext_iff_of_nodup (hnodup _) (hnodup _)).mpr fun f => ?_
    have hmem : (∃ r ∈ readings', f ∈ r.findings) ↔ ∃ r ∈ readings, f ∈ r.findings := by
      simp only [hperm.mem_iff]
    simp only [findingsOf, mem_filter, mem_sortedBy, mem_dedup, mem_appendedFindings, hmem,
      neighbours, hsort, decide_eq_true_eq]
    refine and_congr_left fun hne => ?_
    simp only [hne, and_false]

theorem pairwise_start_le (readings : List EspiReading) :
    (normalized readings).Pairwise fun a b => a.startUtcSeconds ≤ b.startUtcSeconds := by
  refine (pairwise_sortedBy EspiReading.key readings).imp ?_
  intro a b hle
  rcases Prod.Lex.le_iff.mp hle with hlt | ⟨heq, -⟩
  · exact hlt.le
  · exact heq.le

/-- Neighbours that do not overlap are disjoint from all later readings. -/
theorem pairwise_stop_le
    (h : ¬ ∃ p ∈ neighbours readings, p.2.startUtcSeconds < p.1.stop) :
    (normalized readings).Pairwise fun a b => a.stop ≤ b.startUtcSeconds := by
  have hstart := pairwise_start_le readings
  rw [neighbours] at h
  generalize normalized readings = l at h hstart
  induction l with
  | nil => exact .nil
  | cons a l ih =>
    obtain ⟨hfirst, hrest⟩ := pairwise_cons.mp hstart
    cases l with
    | nil => exact pairwise_singleton _ _
    | cons b l =>
      simp only [tail_cons, zip_cons_cons, exists_mem_cons_iff, not_or, not_lt] at h ih
      refine pairwise_cons.mpr ⟨?_, ih h.2 hrest⟩
      intro c hc
      rcases mem_cons.mp hc with rfl | hlater
      · exact h.1
      · exact h.1.trans ((pairwise_cons.mp hrest).1 c hlater)

end Order

/-- **Another order of the blocks and of the readings within them** is accepted too, with the
same readings, in order and disjoint, and the same findings but for the one about the order. -/
theorem normalized_readings_reordered (parsers : Parsers) (intervalSeconds multiplier : ℤ)
    {blocks blocks' : List (List RawReading)} {readings : List EspiReading}
    {findings : List EspiFinding} (hblocks : blocks.flatten.Perm blocks'.flatten)
    (hok : normalizedReadings parsers intervalSeconds multiplier blocks
      = .ok (readings, findings)) :
    (∃ findings', normalizedReadings parsers intervalSeconds multiplier blocks'
        = .ok (readings, findings') ∧
      findings'.filter (· ≠ nonMonotonicIntervals)
        = findings.filter (· ≠ nonMonotonicIntervals)) ∧
    (readings.Pairwise fun a b => a.startUtcSeconds ≤ b.startUtcSeconds) ∧
    readings.Pairwise fun a b => a.stop ≤ b.startUtcSeconds := by
  simp only [normalizedReadings, bind_eq_ok, failIf_eq_ok, not_not] at hok ⊢
  obtain ⟨read, hread, _, hne, _, hnodup, _, hdisjoint, heq⟩ := hok
  cases heq
  -- the same readings are read, in another order
  obtain ⟨read', hread', hperm⟩ := perm_comp_forall₂ hblocks.symm (collect_eq_ok_iff.mp hread)
  have hsort : normalized read' = normalized read := by
    refine (sortedBy_eq_of_perm hperm.symm fun a ha b hb => ?_).symm
    exact inj_on_of_nodup_map hnodup ((mem_sortedBy _).mpr ha) ((mem_sortedBy _).mpr hb)
  refine ⟨⟨_, ⟨read', collect_eq_ok_iff.mpr hread', (), ?_, (), ?_, (), ?_, ?_⟩,
    filter_findingsOf hperm.symm hsort⟩, pairwise_start_le read, pairwise_stop_le hdisjoint⟩
  · rintro rfl
    exact hne hperm.nil_eq.symm
  · rwa [hsort]
  · rwa [neighbours, hsort]
  · rw [hsort]

def smallParsers : Parsers :=
  ⟨fun text => some (if text = "0" then 0 else 3600), fun _ _ => .ok 1⟩

def smallBlocks (start start' : String) : List (List RawReading) :=
  [[⟨some start, some "3600", some "1", []⟩], [⟨some start', some "3600", some "1", []⟩]]

theorem normalized_readings_reordered_hours : ∃ readings findings,
    normalizedReadings smallParsers 3600 0 (smallBlocks "3600" "0")
      = .ok (readings, findings) := by
  obtain ⟨⟨readings, findings⟩, hok⟩ : ∃ result, normalizedReadings smallParsers 3600 0
    (smallBlocks "0" "3600") = .ok result := by decide +kernel
  have hperm : (smallBlocks "0" "3600").flatten.Perm (smallBlocks "3600" "0").flatten :=
    .swap _ _ _
  obtain ⟨⟨findings', hok', -⟩, -⟩ := normalized_readings_reordered _ _ _ hperm hok
  exact ⟨readings, findings', hok'⟩

end Ingestion
end RateReplay
