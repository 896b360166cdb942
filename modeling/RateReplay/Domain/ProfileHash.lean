import RateReplay.Lib.Framing
import RateReplay.Lib.Sorted

/-!
# The canonical profile encoding

A confirmed profile is identified by the hash of its canonical byte vector
(`profile_hash.py`).  Texts are length-prefixed UTF-8, integers are eight bytes,
and collections carry their length, so every field is self-delimiting; readings,
findings and acknowledged warnings are sorted before they are written.

Text normalisation is a parameter `nfc`: the encoder only compares a text with
its normal form and refuses it when they differ.

## Main definitions

* `CanonicalReading`, `CanonicalFinding`, `CanonicalProfileContentV1` — the
  content of a profile.
* `CanonicalProfileContentV1.toBytes` — the diagnostic canonical byte vector.

## Main results

* `toBytes_eq_iff_and_invariant` — **two encodable profiles have the same bytes
  exactly when they have the same content up to the order of their collections.**
-/

namespace RateReplay
namespace ProfileHash

/-- A value cannot be represented by the frozen canonical encoding. -/
inductive CanonicalEncodingError
  | notNfcNormalized
  | integerOutsideInt64
  | lengthOutsideUint32
  | duplicateIntervalKey
  | resolutionNotPositive
  | emptyBillingPeriod
  | duplicateWarningIdentity
  deriving DecidableEq, Repr

/-- The result of an encoding step. -/
abbrev Encoded := Except CanonicalEncodingError Bytes

inductive FlowDirection
  | import_
  | export_
  | reverse
  | unknown
  deriving DecidableEq, Repr

def FlowDirection.value : FlowDirection → String
  | .import_ => "IMPORT"
  | .export_ => "EXPORT"
  | .reverse => "REVERSE"
  | .unknown => "UNKNOWN"

theorem FlowDirection.value_injective : Function.Injective FlowDirection.value := by
  intro a b h
  cases a <;> cases b <;> first | rfl | exact absurd h (by decide)

/-- One interval reading with its source metadata. -/
structure CanonicalReading where
  startUtcNs : ℤ
  durationSeconds : ℤ
  energyWh : ℤ
  flowDirection : FlowDirection
  sourceUnit : String
  sourceMultiplier : ℤ
  sourceReadingType : String
  sourceServiceCategory : String
  sourceCommodity : String
  sourceAccumulationBehavior : String
  sourceDataQualifier : String
  sourceTimeAttribute : String
  sourceLocalTimeParametersHash : Option String
  sourceTimezoneOffsetSeconds : Option ℤ
  sourceDstOffsetSeconds : Option ℤ
  qualityFlags : Finset String
  deriving DecidableEq

/-- One import finding; findings are ordered field by field. -/
structure CanonicalFinding where
  code : String
  severity : String
  fieldPath : String
  safeValue : String
  deriving DecidableEq, Repr

/-- The content a profile hash covers. -/
structure CanonicalProfileContentV1 where
  parserContractVersion : String
  adapterFingerprint : String
  findingPolicyVersion : String
  confirmationPolicyVersion : String
  billingPeriodStartUtcNs : ℤ
  billingPeriodEndUtcNs : ℤ
  tariffTimezone : String
  intervalResolutionSeconds : ℤ
  readings : List CanonicalReading
  findings : List CanonicalFinding
  acknowledgedWarningIds : List String
  deriving DecidableEq

def domainSeparator : Bytes := "RateReplay.ProfileContent.v1".toUTF8.data.toList

/-! ### Field encoders -/

/-- `_int64`: eight bytes, two's complement, most significant first. -/
def int64 (value : ℤ) : Encoded :=
  if -2 ^ 63 ≤ value ∧ value < 2 ^ 63 then .ok (bigEndian 8 (value % 2 ^ 64).toNat)
  else .error .integerOutsideInt64

/-- `_uint32`: four bytes, most significant first. -/
def uint32 (value : ℕ) : Encoded :=
  if value < 2 ^ 32 then .ok (bigEndian 4 value) else .error .lengthOutsideUint32

/-- `_text`: the UTF-8 bytes of an already normalised text after their count. -/
def text (nfc : String → String) (value : String) : Encoded :=
  if value ≠ nfc value then .error .notNfcNormalized
  else
    let encoded := (nfc value).toUTF8.data.toList
    catBytes (uint32 encoded.length) (.ok encoded)

/-- An absent value is a zero byte, a present one a one byte and its encoding. -/
def optional {α : Type} (enc : α → Encoded) : Option α → Encoded
  | none => .ok [0]
  | some value => catBytes (.ok [1]) (enc value)

def optionalText (nfc : String → String) : Option String → Encoded := optional (text nfc)

def optionalInt64 : Option ℤ → Encoded := optional int64

/-- `_sequence`: the encodings of a collection after their count. -/
def sequence (items : List Encoded) : Encoded :=
  catBytes (uint32 items.length) (seqBytes items)

/-- Concatenation of the fields of a record. -/
def fields (items : List Encoded) : Encoded := seqBytes items

/-- The bytes of one reading. -/
def readingBytes (nfc : String → String) (reading : CanonicalReading) : Encoded :=
  fields [
    int64 reading.startUtcNs,
    int64 reading.durationSeconds,
    int64 reading.energyWh,
    text nfc reading.flowDirection.value,
    text nfc reading.sourceUnit,
    int64 reading.sourceMultiplier,
    text nfc reading.sourceReadingType,
    text nfc reading.sourceServiceCategory,
    text nfc reading.sourceCommodity,
    text nfc reading.sourceAccumulationBehavior,
    text nfc reading.sourceDataQualifier,
    text nfc reading.sourceTimeAttribute,
    optionalText nfc reading.sourceLocalTimeParametersHash,
    optionalInt64 reading.sourceTimezoneOffsetSeconds,
    optionalInt64 reading.sourceDstOffsetSeconds,
    sequence ((reading.qualityFlags.sort (· ≤ ·)).map (text nfc))]

/-- The bytes of one finding. -/
def findingBytes (nfc : String → String) (finding : CanonicalFinding) : Encoded :=
  fields [
    text nfc finding.code,
    text nfc finding.severity,
    text nfc finding.fieldPath,
    text nfc finding.safeValue]

/-- Readings are ordered, and told apart, by start and duration. -/
def CanonicalReading.key (reading : CanonicalReading) : ℤ ×ₗ ℤ :=
  toLex (reading.startUtcNs, reading.durationSeconds)

/-- The dataclass order of findings. -/
def CanonicalFinding.key (finding : CanonicalFinding) : String ×ₗ String ×ₗ String ×ₗ String :=
  toLex (finding.code, toLex (finding.severity, toLex (finding.fieldPath, finding.safeValue)))

/-- The fields of a profile in the order they are written. -/
def CanonicalProfileContentV1.fieldBytes (nfc : String → String)
    (content : CanonicalProfileContentV1) : Encoded :=
  fields [
    text nfc content.parserContractVersion,
    text nfc content.adapterFingerprint,
    text nfc content.findingPolicyVersion,
    text nfc content.confirmationPolicyVersion,
    int64 content.billingPeriodStartUtcNs,
    int64 content.billingPeriodEndUtcNs,
    text nfc content.tariffTimezone,
    int64 content.intervalResolutionSeconds,
    sequence ((sortedBy CanonicalReading.key content.readings).map (readingBytes nfc)),
    sequence ((sortedBy CanonicalFinding.key content.findings).map (findingBytes nfc)),
    sequence ((sortedBy id content.acknowledgedWarningIds).map (text nfc))]

/-- `CanonicalProfileContentV1.to_bytes`. -/
def CanonicalProfileContentV1.toBytes (nfc : String → String)
    (content : CanonicalProfileContentV1) : Encoded := do
  failIf (¬ ((sortedBy CanonicalReading.key content.readings).map CanonicalReading.key).Nodup)
    .duplicateIntervalKey
  failIf (content.intervalResolutionSeconds ≤ 0) .resolutionNotPositive
  failIf (content.billingPeriodEndUtcNs ≤ content.billingPeriodStartUtcNs) .emptyBillingPeriod
  failIf (¬ (sortedBy id content.acknowledgedWarningIds).Nodup) .duplicateWarningIdentity
  let encoded ← content.fieldBytes nfc
  pure (domainSeparator ++ [0] ++ encoded)

/-! ### Reading a field back -/

theorem int64_selfDelimiting : SelfDelimiting int64 := by
  intro a b x y r s ha hb hxy
  unfold int64 at ha hb
  split at ha <;> simp only [Except.ok.injEq, reduceCtorEq] at ha
  split at hb <;> simp only [Except.ok.injEq, reduceCtorEq] at hb
  next hra hrb =>
    subst ha hb
    obtain ⟨h, hrs⟩ := eq_of_bigEndian_append (by omega) (by omega) hxy
    exact ⟨by omega, hrs⟩

theorem uint32_selfDelimiting : SelfDelimiting uint32 := by
  intro a b x y r s ha hb hxy
  unfold uint32 at ha hb
  split at ha <;> simp only [Except.ok.injEq, reduceCtorEq] at ha
  split at hb <;> simp only [Except.ok.injEq, reduceCtorEq] at hb
  next hra hrb =>
    subst ha hb
    exact eq_of_bigEndian_append (by omega) (by omega) hxy

theorem utf8_injective {a b : String}
    (h : a.toUTF8.data.toList = b.toUTF8.data.toList) : a = b := by
  rw [← String.toByteArray_inj]
  exact ByteArray.ext (Array.toList_inj.mp h)

/-- A byte string of known length followed by anything is read back. -/
theorem separates_raw {u v : Bytes} (hlen : u.length = v.length) :
    Separates (.ok u : Encoded) (.ok v) (u = v) := by
  intro x y r s hx hy hxy
  cases hx
  cases hy
  exact List.append_inj hxy hlen

theorem text_selfDelimiting (nfc : String → String) : SelfDelimiting (text nfc) := by
  intro a b
  unfold text
  split
  · intro x y r s ha
    cases ha
  split
  · intro x y r s _ hb
    cases hb
  next hna hnb =>
    rw [not_not] at hna hnb
    refine ((uint32_selfDelimiting _ _).cat separates_raw).mono ?_
    rintro ⟨-, h⟩
    rw [hna, hnb]
    exact utf8_injective h

theorem optional_selfDelimiting {α : Type} {enc : α → Encoded} (h : SelfDelimiting enc) :
    SelfDelimiting (optional enc) := by
  intro a b
  cases a with
  | none =>
    cases b with
    | none => exact (separates_raw rfl).mono fun _ => rfl
    | some b =>
      -- the tag bytes differ, so the bytes cannot agree
      intro x y r s hx hy hxy
      cases hx
      obtain ⟨u, v, hu, -, rfl⟩ := catBytes_eq_ok.mp hy
      cases hu
      simp at hxy
  | some a =>
    cases b with
    | none =>
      intro x y r s hx hy hxy
      cases hy
      obtain ⟨u, v, hu, -, rfl⟩ := catBytes_eq_ok.mp hx
      cases hu
      simp at hxy
    | some b =>
      refine ((separates_raw rfl).cat fun _ => h a b).mono ?_
      rintro ⟨-, rfl⟩
      rfl

theorem sequence_selfDelimiting {α : Type} {enc : α → Encoded} (h : SelfDelimiting enc) :
    SelfDelimiting fun items : List α => sequence (items.map enc) := by
  intro as bs
  unfold sequence
  refine ((uint32_selfDelimiting _ _).cat fun hlen => ?_).mono And.right
  exact h.list (by simpa using hlen)

theorem sort_injective : Function.Injective fun s : Finset String => s.sort (· ≤ ·) := by
  intro s t h
  simp only at h
  rw [← Finset.sort_toFinset s (· ≤ ·), ← Finset.sort_toFinset t (· ≤ ·), h]

/-- The bytes of a reading determine it. -/
theorem readingBytes_selfDelimiting (nfc : String → String) :
    SelfDelimiting (readingBytes nfc) := by
  intro a b
  have hint := int64_selfDelimiting
  have htext := text_selfDelimiting nfc
  have hoptInt : SelfDelimiting optionalInt64 := optional_selfDelimiting hint
  have hoptText : SelfDelimiting (optionalText nfc) := optional_selfDelimiting htext
  have hflags := sequence_selfDelimiting htext
  refine ((hint _ _).cons <| (hint _ _).cons <| (hint _ _).cons <| (htext _ _).cons <|
    (htext _ _).cons <| (hint _ _).cons <| (htext _ _).cons <| (htext _ _).cons <|
    (htext _ _).cons <| (htext _ _).cons <| (htext _ _).cons <| (htext _ _).cons <|
    (hoptText _ _).cons <| (hoptInt _ _).cons <| (hoptInt _ _).cons <|
    (hflags _ _).cons Separates.nil).mono ?_
  rintro ⟨h1, h2, h3, h4, h5, h6, h7, h8, h9, h10, h11, h12, h13, h14, h15, h16, -⟩
  have h4' := FlowDirection.value_injective h4
  have h16' := sort_injective h16
  cases a
  cases b
  simp_all

theorem findingBytes_selfDelimiting (nfc : String → String) :
    SelfDelimiting (findingBytes nfc) := by
  intro a b
  have htext := text_selfDelimiting nfc
  refine ((htext _ _).cons <| (htext _ _).cons <| (htext _ _).cons <|
    (htext _ _).cons Separates.nil).mono ?_
  rintro ⟨h1, h2, h3, h4, -⟩
  cases a
  cases b
  simp_all

/-! ### What the bytes of a profile determine -/

/-- The fields that are not collections agree. -/
structure SameScalars (a b : CanonicalProfileContentV1) : Prop where
  parserContractVersion : a.parserContractVersion = b.parserContractVersion
  adapterFingerprint : a.adapterFingerprint = b.adapterFingerprint
  findingPolicyVersion : a.findingPolicyVersion = b.findingPolicyVersion
  confirmationPolicyVersion : a.confirmationPolicyVersion = b.confirmationPolicyVersion
  billingPeriodStartUtcNs : a.billingPeriodStartUtcNs = b.billingPeriodStartUtcNs
  billingPeriodEndUtcNs : a.billingPeriodEndUtcNs = b.billingPeriodEndUtcNs
  tariffTimezone : a.tariffTimezone = b.tariffTimezone
  intervalResolutionSeconds : a.intervalResolutionSeconds = b.intervalResolutionSeconds

theorem CanonicalFinding.key_injective : Function.Injective CanonicalFinding.key := by
  intro a b h
  cases a
  cases b
  simpa [CanonicalFinding.key] using h

/-- What `to_bytes` checked, and what it returned. -/
theorem toBytes_eq_ok {nfc : String → String} {a : CanonicalProfileContentV1} {x : Bytes} :
    a.toBytes nfc = .ok x ↔
      (a.readings.map CanonicalReading.key).Nodup ∧ 0 < a.intervalResolutionSeconds ∧
        a.billingPeriodStartUtcNs < a.billingPeriodEndUtcNs ∧
        a.acknowledgedWarningIds.Nodup ∧
        ∃ u, a.fieldBytes nfc = .ok u ∧ x = domainSeparator ++ [0] ++ u := by
  have hkeys := ((sortedBy_perm CanonicalReading.key a.readings).map CanonicalReading.key).nodup_iff
  have hids := (sortedBy_perm id a.acknowledgedWarningIds).nodup_iff
  unfold CanonicalProfileContentV1.toBytes
  simp only [bind_eq_ok, failIf_eq_ok, not_not, not_le, pure_eq_ok, Except.ok.injEq, hkeys, hids,
    exists_const, eq_comm (a := x)]

/-- **The bytes determine the sorted content.** -/
theorem sorted_eq_of_toBytes_eq {nfc : String → String} {a b : CanonicalProfileContentV1}
    {x : Bytes} (ha : a.toBytes nfc = .ok x) (hb : b.toBytes nfc = .ok x) :
    SameScalars a b ∧
      sortedBy CanonicalReading.key a.readings = sortedBy CanonicalReading.key b.readings ∧
      sortedBy CanonicalFinding.key a.findings = sortedBy CanonicalFinding.key b.findings ∧
      sortedBy id a.acknowledgedWarningIds = sortedBy id b.acknowledgedWarningIds := by
  have hint := int64_selfDelimiting
  have htext := text_selfDelimiting nfc
  have hrd := sequence_selfDelimiting (readingBytes_selfDelimiting nfc)
  have hfind := sequence_selfDelimiting (findingBytes_selfDelimiting nfc)
  have hwarn := sequence_selfDelimiting htext
  obtain ⟨-, -, -, -, u, hu, rfl⟩ := toBytes_eq_ok.mp ha
  obtain ⟨-, -, -, -, v, hv, huv⟩ := toBytes_eq_ok.mp hb
  -- both vectors start with the same domain separator
  have huv : u = v := List.append_cancel_left huv
  subst huv
  have hsep := (htext a.parserContractVersion b.parserContractVersion).cons <|
    (htext a.adapterFingerprint b.adapterFingerprint).cons <|
    (htext a.findingPolicyVersion b.findingPolicyVersion).cons <|
    (htext a.confirmationPolicyVersion b.confirmationPolicyVersion).cons <|
    (hint a.billingPeriodStartUtcNs b.billingPeriodStartUtcNs).cons <|
    (hint a.billingPeriodEndUtcNs b.billingPeriodEndUtcNs).cons <|
    (htext a.tariffTimezone b.tariffTimezone).cons <|
    (hint a.intervalResolutionSeconds b.intervalResolutionSeconds).cons <|
    (hrd (sortedBy CanonicalReading.key a.readings)
      (sortedBy CanonicalReading.key b.readings)).cons <|
    (hfind (sortedBy CanonicalFinding.key a.findings)
      (sortedBy CanonicalFinding.key b.findings)).cons <|
    (hwarn (sortedBy id a.acknowledgedWarningIds)
      (sortedBy id b.acknowledgedWarningIds)).cons Separates.nil
  obtain ⟨h1, h2, h3, h4, h5, h6, h7, h8, h9, h10, h11, -⟩ := hsep.of_eq hu hv
  exact ⟨⟨h1, h2, h3, h4, h5, h6, h7, h8⟩, h9, h10, h11⟩

/-- Profiles that differ only in the order of their collections are encoded
alike, and refused alike. -/
theorem toBytes_eq_of_perm (nfc : String → String) {a b : CanonicalProfileContentV1}
    (hscalars : SameScalars a b) (hrd : a.readings.Perm b.readings)
    (hfindings : a.findings.Perm b.findings)
    (hwarnings : a.acknowledgedWarningIds.Perm b.acknowledgedWarningIds) :
    a.toBytes nfc = b.toBytes nfc := by
  obtain ⟨h1, h2, h3, h4, h5, h6, h7, h8⟩ := hscalars
  have hfind : sortedBy CanonicalFinding.key a.findings
      = sortedBy CanonicalFinding.key b.findings :=
    sortedBy_eq_of_perm hfindings fun _ _ _ _ h => CanonicalFinding.key_injective h
  have hwarn : sortedBy id a.acknowledgedWarningIds = sortedBy id b.acknowledgedWarningIds :=
    sortedBy_eq_of_perm hwarnings fun _ _ _ _ h => h
  by_cases hnodup : (a.readings.map CanonicalReading.key).Nodup
  · have hread : sortedBy CanonicalReading.key a.readings
        = sortedBy CanonicalReading.key b.readings :=
      sortedBy_eq_of_perm hrd fun r hr s hs h => List.inj_on_of_nodup_map hnodup hr hs h
    simp only [CanonicalProfileContentV1.toBytes, CanonicalProfileContentV1.fieldBytes,
      h1, h2, h3, h4, h5, h6, h7, h8, hread, hfind, hwarn]
  · -- a repeated key is refused before anything else is looked at
    have hsort : ∀ c : CanonicalProfileContentV1, c.readings.Perm a.readings →
        c.toBytes nfc = .error .duplicateIntervalKey := by
      intro c hc
      have hdup : ¬ ((sortedBy CanonicalReading.key c.readings).map CanonicalReading.key).Nodup :=
        fun h => hnodup ((((sortedBy_perm _ _).trans hc).map CanonicalReading.key).nodup_iff.mp h)
      rw [CanonicalProfileContentV1.toBytes, failIf_of _ hdup]
      rfl
    rw [hsort a (List.Perm.refl _), hsort b hrd.symm]

/-- **The canonical encoding is injective up to the order of its collections, and
does not see that order.** -/
theorem toBytes_eq_iff_and_invariant (nfc : String → String) :
    (∀ (a b : CanonicalProfileContentV1) (x y : Bytes),
      a.toBytes nfc = .ok x → b.toBytes nfc = .ok y →
      (x = y ↔ SameScalars a b ∧ (∀ r, r ∈ a.readings ↔ r ∈ b.readings) ∧
        a.findings.Perm b.findings ∧
        ∀ w, w ∈ a.acknowledgedWarningIds ↔ w ∈ b.acknowledgedWarningIds)) ∧
    ∀ a b : CanonicalProfileContentV1, SameScalars a b → a.readings.Perm b.readings →
      a.findings.Perm b.findings →
      a.acknowledgedWarningIds.Perm b.acknowledgedWarningIds →
      a.toBytes nfc = b.toBytes nfc := by
  refine ⟨fun a b x y ha hb => ⟨?_, ?_⟩, fun a b h₁ h₂ h₃ h₄ => toBytes_eq_of_perm nfc h₁ h₂ h₃ h₄⟩
  · rintro rfl
    obtain ⟨hscalars, hreadings, hfindings, hwarnings⟩ := sorted_eq_of_toBytes_eq ha hb
    refine ⟨hscalars, fun r => ?_, ?_, fun w => ?_⟩
    · rw [← mem_sortedBy CanonicalReading.key, hreadings, mem_sortedBy]
    · exact (sortedBy_perm CanonicalFinding.key a.findings).symm.trans
        (hfindings ▸ sortedBy_perm CanonicalFinding.key b.findings)
    · rw [← mem_sortedBy id, hwarnings, mem_sortedBy]
  · rintro ⟨hscalars, hreadings, hfindings, hwarnings⟩
    obtain ⟨hra, -, -, hwa, -⟩ := toBytes_eq_ok.mp ha
    obtain ⟨hrb, -, -, hwb, -⟩ := toBytes_eq_ok.mp hb
    have hperm := toBytes_eq_of_perm nfc hscalars
      ((List.perm_ext_iff_of_nodup (hra.of_map _) (hrb.of_map _)).mpr hreadings) hfindings
      ((List.perm_ext_iff_of_nodup hwa hwb).mpr hwarnings)
    rw [ha, hb, Except.ok.injEq] at hperm
    exact hperm

/-- A reading of one hour with no source metadata. -/
def plainReading (start : ℤ) (energy : ℤ) : CanonicalReading where
  startUtcNs := start
  durationSeconds := 3600
  energyWh := energy
  flowDirection := .import_
  sourceUnit := "Wh"
  sourceMultiplier := 0
  sourceReadingType := ""
  sourceServiceCategory := ""
  sourceCommodity := ""
  sourceAccumulationBehavior := ""
  sourceDataQualifier := ""
  sourceTimeAttribute := ""
  sourceLocalTimeParametersHash := none
  sourceTimezoneOffsetSeconds := some (-28800)
  sourceDstOffsetSeconds := none
  qualityFlags := ∅

/-- A two-hour profile with the given readings and acknowledgements. -/
def plainContent (readings : List CanonicalReading) (warnings : List String) :
    CanonicalProfileContentV1 where
  parserContractVersion := "p"
  adapterFingerprint := "a"
  findingPolicyVersion := "f"
  confirmationPolicyVersion := "c"
  billingPeriodStartUtcNs := 0
  billingPeriodEndUtcNs := 7200000000000
  tariffTimezone := "America/Los_Angeles"
  intervalResolutionSeconds := 3600
  readings := readings
  findings := [⟨"GAP", "WARNING", "r", "1"⟩, ⟨"GAP", "WARNING", "r", "1"⟩]
  acknowledgedWarningIds := warnings

theorem toBytes_swapped_readings :
    (∃ x, (plainContent [plainReading 0 5, plainReading 3600000000000 7] ["w", "v"]).toBytes id
        = .ok x ∧
      (plainContent [plainReading 3600000000000 7, plainReading 0 5] ["v", "w"]).toBytes id
        = .ok x) ∧
    ∃ x y, (plainContent [plainReading 0 5] []).toBytes id = .ok x ∧
      (plainContent [plainReading 0 6] []).toBytes id = .ok y ∧ x ≠ y := by
  obtain ⟨hiff, hperm⟩ := toBytes_eq_iff_and_invariant id
  constructor
  · obtain ⟨x, hx⟩ : ∃ x, (plainContent [plainReading 0 5, plainReading 3600000000000 7]
      ["w", "v"]).toBytes id = .ok x := by decide +kernel
    refine ⟨x, hx, ?_⟩
    rw [← hx]
    exact hperm _ _ ⟨rfl, rfl, rfl, rfl, rfl, rfl, rfl, rfl⟩ (List.Perm.swap _ _ _)
      (List.Perm.refl _) (List.Perm.swap _ _ _)
  · obtain ⟨x, hx⟩ : ∃ x, (plainContent [plainReading 0 5] []).toBytes id = .ok x := by
      decide +kernel
    obtain ⟨y, hy⟩ : ∃ y, (plainContent [plainReading 0 6] []).toBytes id = .ok y := by
      decide +kernel
    refine ⟨x, y, hx, hy, fun hxy => ?_⟩
    have hmem := ((hiff _ _ x y hx hy).mp hxy).2.1 (plainReading 0 5)
    exact absurd (hmem.mp (by decide)) (by decide)

end ProfileHash
end RateReplay
