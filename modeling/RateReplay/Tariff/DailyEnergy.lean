import RateReplay.Tariff.Billing

/-!
# Energy by period and by day

What the loops over the intervals of a request compute, and when they return.  An
interval is accepted by a schedule when its first and last instants have one period and
lie in the service window; it is split into local days when each of its days lies in the
service window.  Neither depends on the energy of the interval.

## Main definitions

* `periodQuantity` — the energy of the intervals that start in a period.
* `Classifies`, `Splits` — when an interval is accepted.

## Main results

* `segmentSeconds_isOk_of_inside` — an interval inside the service window is split.
* `periodEnergy_isOk`, `dailyEnergy_isOk`, `periodDailyEnergy_isOk` — **the loops return exactly
  when each interval is accepted.**
* `periodEnergy_getD`, `dailyEnergy_spec`, `periodDailyEnergy_spec` — **they account for all of
  its energy.**
-/

namespace RateReplay

open List

/-! ### Nonnegative dictionaries -/

/-- No value is negative. -/
def Dict.Nonneg {κ : Type*} (d : Dict κ ℤ) : Prop := ∀ e ∈ d.entries, 0 ≤ e.2

namespace Dict.Nonneg

variable {κ : Type*}

theorem empty : (Dict.empty : Dict κ ℤ).Nonneg := by
  intro e he
  cases he

theorem sorted [LinearOrder κ] {d : Dict κ ℤ} (h : d.Nonneg) : d.sorted.Nonneg := by
  intro e he
  exact h e ((mem_sortedBy Prod.fst).mp he)

variable [DecidableEq κ]

theorem getD {d : Dict κ ℤ} (h : d.Nonneg) (k : κ) : 0 ≤ d.getD k 0 := by
  rw [Dict.getD]
  cases hg : d.get? k with
  | none => exact le_rfl
  | some v => exact h (k, v) (Dict.get?_eq_some.mp hg)

theorem add {d : Dict κ ℤ} (h : d.Nonneg) (k : κ) {n : ℤ} (hn : 0 ≤ n) : (d.add k n).Nonneg := by
  intro e he
  rcases Dict.mem_entries_set.mp he with rfl | ⟨hmem, -⟩
  · have := h.getD k
    show 0 ≤ d.getD k 0 + n
    omega
  · exact h e hmem

theorem foldl_add {entries : List (κ × ℤ)} (hent : ∀ e ∈ entries, 0 ≤ e.2) :
    ∀ {d : Dict κ ℤ}, d.Nonneg → (entries.foldl (fun d e => d.add e.1 e.2) d).Nonneg := by
  induction entries with
  | nil => exact fun h => h
  | cons e entries ih =>
    intro d h
    rw [foldl_cons]
    exact ih (fun e' he' => hent e' (mem_cons_of_mem _ he'))
      (h.add e.1 (hent e mem_cons_self))

end Dict.Nonneg

/-- The shares of a nonnegative total are nonnegative. -/
theorem apportionInteger_nonneg {κ : Type} [LinearOrder κ] {total : ℤ}
    {weights shares : Dict κ ℤ} (htot : 0 ≤ total)
    (h : apportionInteger total weights = .ok shares) : shares.Nonneg := by
  intro e he
  rw [← Dict.getD_of_mem he 0, getD_apportionInteger h]
  exact mul_nonneg (Int.sign_nonneg_iff.mpr htot) allocations_nonneg

/-! ### Classification -/

section Zone

variable {zone : Zone} {serviceWindow : DateRange} {schedule : IRTimeOfUseSchedule}
  {i : ReplayInterval} {endUtc : ℤ} {r : IntervalReplayRequest} {intervals : List ReplayInterval}

/-- The schedule accepts an interval. -/
def Classifies (zone : Zone) (schedule : IRTimeOfUseSchedule) (serviceWindow : DateRange)
    (startUtc : ℤ) (durationSeconds : ℕ) : Prop :=
  classifyLocalPeriod zone schedule startUtc =
    classifyLocalPeriod zone schedule (startUtc + durationSeconds * 1000000 - 1) ∧
  serviceWindow.contains (zone.localDate startUtc) = true ∧
  serviceWindow.contains (zone.localDate (startUtc + durationSeconds * 1000000 - 1)) = true

theorem classifyIntervalPeriod_eq_ok {startUtc : ℤ} {durationSeconds : ℕ}
    {period : TimeOfUsePeriod} :
    classifyIntervalPeriod zone schedule startUtc durationSeconds serviceWindow = .ok period ↔
      Classifies zone schedule serviceWindow startUtc durationSeconds ∧
        period = classifyLocalPeriod zone schedule startUtc := by
  simp only [classifyIntervalPeriod, bind_eq_ok, failIf_eq_ok, Except.ok.injEq, Classifies,
    not_or, Bool.not_eq_false, ne_eq, not_not]
  constructor
  · rintro ⟨-, hsame, -, hinside, rfl⟩
    exact ⟨⟨hsame, hinside⟩, rfl⟩
  · rintro ⟨⟨hsame, hinside⟩, rfl⟩
    exact ⟨(), hsame, (), hinside, rfl⟩

/-- The energy of the intervals that start in a period. -/
def periodQuantity (zone : Zone) (schedule : IRTimeOfUseSchedule)
    (intervals : List ReplayInterval) (period : TimeOfUsePeriod) : ℤ :=
  (intervals.map fun i =>
    if period = classifyLocalPeriod zone schedule i.startUtc then (i.energyWh : ℤ) else 0).sum

/-- An interval of a request is accepted. -/
def ReplayInterval.Classifies (zone : Zone) (schedule : IRTimeOfUseSchedule)
    (serviceWindow : DateRange) (i : ReplayInterval) : Prop :=
  RateReplay.Classifies zone schedule serviceWindow i.startUtc i.durationSeconds

theorem addPeriodEnergy_eq_ok {totals totals' : Dict TimeOfUsePeriod ℤ} :
    addPeriodEnergy zone serviceWindow schedule totals i = .ok totals' ↔
      i.Classifies zone schedule serviceWindow ∧
        totals' = totals.add (classifyLocalPeriod zone schedule i.startUtc) i.energyWh := by
  simp only [addPeriodEnergy, bind_eq_ok, classifyIntervalPeriod_eq_ok, Except.ok.injEq]
  constructor
  · rintro ⟨p, ⟨hc, rfl⟩, rfl⟩
    exact ⟨hc, rfl⟩
  · rintro ⟨hc, rfl⟩
    exact ⟨_, ⟨hc, rfl⟩, rfl⟩

theorem foldlM_addPeriodEnergy :
    ∀ {totals totals' : Dict TimeOfUsePeriod ℤ},
      intervals.foldlM (addPeriodEnergy zone serviceWindow schedule) totals = .ok totals' →
      ∀ p, totals'.getD p 0 = totals.getD p 0 + periodQuantity zone schedule intervals p := by
  induction intervals with
  | nil =>
    intro totals totals' h p
    cases h
    simp [periodQuantity]
  | cons i intervals ih =>
    intro totals totals' h p
    rw [foldlM_cons] at h
    obtain ⟨mid, hmid, hrest⟩ := bind_eq_ok.mp h
    obtain ⟨-, rfl⟩ := addPeriodEnergy_eq_ok.mp hmid
    rw [ih hrest p, Dict.getD_add, periodQuantity, periodQuantity, map_cons, sum_cons,
      add_assoc]

/-- **Energy by period**: the loop returns exactly when each interval is accepted, and
then every period has the energy of its intervals. -/
theorem periodEnergy_isOk {request : IntervalReplayRequest} :
    (∃ d, periodEnergy zone request schedule = .ok d) ↔
      ∀ i ∈ request.intervals, i.Classifies zone schedule request.accountFacts.serviceWindow := by
  refine foldlM_isOk (I := fun _ => True) ?_ (fun _ _ _ _ _ => trivial) _ _ trivial
  intro totals i _
  simp only [addPeriodEnergy_eq_ok]
  constructor
  · rintro ⟨_, hc, -⟩
    exact hc
  · intro hc
    exact ⟨_, hc, rfl⟩

theorem periodEnergy_getD {request : IntervalReplayRequest} {d : Dict TimeOfUsePeriod ℤ}
    (h : periodEnergy zone request schedule = .ok d) (p : TimeOfUsePeriod) :
    d.getD p 0 = periodQuantity zone schedule request.intervals p := by
  have hsum := foldlM_addPeriodEnergy h p
  rw [hsum]
  simp [Dict.getD]

/-! ### Local days -/

/-- The interval can be split into local days of the service window. -/
def Splits (zone : Zone) (serviceWindow : DateRange) (startUtc : ℤ) (durationSeconds : ℕ) : Prop :=
  ∃ segments, segmentSeconds zone serviceWindow (startUtc + durationSeconds * 1000000)
    durationSeconds startUtc Dict.empty = .ok segments

def ReplayInterval.Splits (zone : Zone) (serviceWindow : DateRange) (i : ReplayInterval) : Prop :=
  RateReplay.Splits zone serviceWindow i.startUtc i.durationSeconds

theorem segmentSeconds_succ_of_lt {cursor : ℤ} {fuel : ℕ} {segments segments' : Dict ℤ ℤ}
    (hlt : cursor < endUtc) :
    segmentSeconds zone serviceWindow endUtc (fuel + 1) cursor segments = .ok segments' ↔
      serviceWindow.contains (zone.localDate cursor) = true ∧
      0 < (min endUtc (zone.midnight (zone.localDate cursor + 1)) - cursor) / 1000000 ∧
      segmentSeconds zone serviceWindow endUtc fuel
        (min endUtc (zone.midnight (zone.localDate cursor + 1)))
        (segments.add (zone.localDate cursor)
          ((min endUtc (zone.midnight (zone.localDate cursor + 1)) - cursor) / 1000000))
        = .ok segments' := by
  simp only [segmentSeconds, if_pos hlt, bind_eq_ok, failIf_eq_ok, Bool.not_eq_false, not_le]
  constructor
  · rintro ⟨-, hin, -, hpos, hrest⟩
    exact ⟨hin, hpos, hrest⟩
  · rintro ⟨hin, hpos, hrest⟩
    exact ⟨(), hin, (), hpos, hrest⟩

/-- The segments keep nonnegative, and their sum does not shrink. -/
theorem segmentSeconds_nonneg : ∀ {fuel : ℕ} {cursor : ℤ}
    {segments segments' : Dict ℤ ℤ}, segments.Nonneg →
    segmentSeconds zone serviceWindow endUtc fuel cursor segments = .ok segments' →
    segments'.Nonneg ∧ segments.total ≤ segments'.total := by
  intro fuel
  induction fuel with
  | zero =>
    intro cursor segments segments' hnn h
    cases h
    exact ⟨hnn, le_rfl⟩
  | succ fuel ih =>
    intro cursor segments segments' hnn h
    by_cases hlt : cursor < endUtc
    · obtain ⟨-, hpos, hrest⟩ := (segmentSeconds_succ_of_lt hlt).mp h
      obtain ⟨hnn', hle⟩ := ih (hnn.add _ hpos.le) hrest
      rw [Dict.total_add] at hle
      exact ⟨hnn', by omega⟩
    · rw [segmentSeconds, if_neg hlt] at h
      cases h
      exact ⟨hnn, le_rfl⟩

/-- A nonempty interval has a positive number of seconds. -/
theorem segmentSeconds_total_pos {cursor : ℤ} {fuel : ℕ} {segments : Dict ℤ ℤ}
    (hlt : cursor < endUtc)
    (h : segmentSeconds zone serviceWindow endUtc (fuel + 1) cursor Dict.empty = .ok segments) :
    segments.Nonneg ∧ 0 < segments.total := by
  obtain ⟨-, hpos, hrest⟩ := (segmentSeconds_succ_of_lt hlt).mp h
  obtain ⟨hnn, hle⟩ := segmentSeconds_nonneg (Dict.Nonneg.empty.add _ hpos.le) hrest
  rw [Dict.total_add, Dict.total_empty] at hle
  exact ⟨hnn, by omega⟩

/-- A turn ends on a whole second after the cursor. -/
theorem segmentEnd_whole (zone : Zone) {cursor : ℤ} (hend : endUtc % 1000000 = 0)
    (hcursor : cursor % 1000000 = 0) (hlt : cursor < endUtc) :
    0 < (min endUtc (zone.midnight (zone.localDate cursor + 1)) - cursor) / 1000000 ∧
      min endUtc (zone.midnight (zone.localDate cursor + 1)) % 1000000 = 0 := by
  have hnext := zone.lt_midnight_localDate cursor
  have hwhole := zone.midnight_whole (zone.localDate cursor + 1)
  generalize zone.midnight (zone.localDate cursor + 1) = midnight at hnext hwhole
  omega

/-- **An interval whose instants all lie in the service window is split**: each turn
advances to the next local midnight, which comes after the cursor. -/
theorem segmentSeconds_isOk_of_inside (hend : endUtc % 1000000 = 0) :
    ∀ (fuel : ℕ) (cursor : ℤ) (segments : Dict ℤ ℤ), cursor % 1000000 = 0 →
    (∀ t, cursor ≤ t → t < endUtc → serviceWindow.contains (zone.localDate t) = true) →
    ∃ segments', segmentSeconds zone serviceWindow endUtc fuel cursor segments = .ok segments' := by
  intro fuel
  induction fuel with
  | zero => exact fun _ segments _ _ => ⟨segments, rfl⟩
  | succ fuel ih =>
    intro cursor segments hcursor hinside
    by_cases hlt : cursor < endUtc
    · obtain ⟨hseconds, hwhole⟩ := segmentEnd_whole zone hend hcursor hlt
      obtain ⟨segments', hrest⟩ := ih _ (segments.add (zone.localDate cursor)
        ((min endUtc (zone.midnight (zone.localDate cursor + 1)) - cursor) / 1000000)) hwhole
        (fun t ht ht' => hinside t (by omega) ht')
      exact ⟨segments', (segmentSeconds_succ_of_lt hlt).mpr
        ⟨hinside cursor le_rfl hlt, hseconds, hrest⟩⟩
    · exact ⟨segments, by rw [segmentSeconds, if_neg hlt]⟩

theorem ReplayInterval.whole (i : ReplayInterval) :
    i.startUtc % 1000000 = 0 ∧ i.endUtc % 1000000 = 0 := by
  rw [ReplayInterval.endUtc, ReplayInterval.startUtc]
  omega

theorem ReplayInterval.splits_of_inside (hinside : ∀ t, i.startUtc ≤ t → t < i.endUtc →
      serviceWindow.contains (zone.localDate t) = true) : i.Splits zone serviceWindow :=
  segmentSeconds_isOk_of_inside i.whole.2 _ _ _ i.whole.1 hinside

/-- An interval is split into days exactly when its seconds are; its energy is then
distributed in full. -/
theorem intervalDailyEnergy_isOk :
    (∃ d, intervalDailyEnergy zone serviceWindow i = .ok d) ↔ i.Splits zone serviceWindow := by
  simp only [intervalDailyEnergy, bind_eq_ok]
  constructor
  · rintro ⟨d, segments, hseg, -⟩
    exact ⟨segments, hseg⟩
  · rintro ⟨segments, hseg⟩
    obtain ⟨n, hn⟩ : ∃ n, i.durationSeconds = n + 1 := ⟨i.durationSeconds - 1, by
      have := i.duration_pos
      omega⟩
    have hlt : i.startUtc < i.startUtc + i.durationSeconds * 1000000 := by
      have := i.duration_pos
      omega
    have hseg' := hseg
    rw [hn] at hseg'
    have hpos := segmentSeconds_total_pos (by rw [hn] at hlt; exact hlt) hseg'
    obtain ⟨shares, hshares⟩ := apportionInteger_isOk.mpr
      (.inr (by rw [total_positiveWeights hpos.1]; exact hpos.2) :
        (i.energyWh : ℤ) = 0 ∨ 0 < (positiveWeights segments).total)
    exact ⟨shares, segments, hseg, hshares⟩

theorem intervalDailyEnergy_spec {d : Dict ℤ ℤ}
    (h : intervalDailyEnergy zone serviceWindow i = .ok d) : d.total = i.energyWh ∧ d.Nonneg := by
  simp only [intervalDailyEnergy, bind_eq_ok] at h
  obtain ⟨segments, -, happortion⟩ := h
  exact ⟨apportionInteger_total happortion,
    apportionInteger_nonneg (Int.natCast_nonneg _) happortion⟩

theorem addDailyEnergy_isOk {totals : Dict ℤ ℤ} :
    (∃ d, addDailyEnergy zone serviceWindow totals i = .ok d) ↔ i.Splits zone serviceWindow := by
  rw [← intervalDailyEnergy_isOk]
  simp only [addDailyEnergy, bind_eq_ok, Except.ok.injEq]
  constructor
  · rintro ⟨_, d, hd, -⟩
    exact ⟨d, hd⟩
  · rintro ⟨d, hd⟩
    exact ⟨_, d, hd, rfl⟩

theorem addDailyEnergy_spec {totals totals' : Dict ℤ ℤ} (hnn : totals.Nonneg)
    (h : addDailyEnergy zone serviceWindow totals i = .ok totals') :
    totals'.total = totals.total + i.energyWh ∧ totals'.Nonneg := by
  simp only [addDailyEnergy, bind_eq_ok, Except.ok.injEq] at h
  obtain ⟨d, hd, rfl⟩ := h
  obtain ⟨htot, hnonneg⟩ := intervalDailyEnergy_spec hd
  refine ⟨?_, Dict.Nonneg.foldl_add hnonneg hnn⟩
  rw [Dict.total_foldl_add, ← htot]
  rfl

theorem foldlM_addDailyEnergy :
    ∀ {totals totals' : Dict ℤ ℤ}, totals.Nonneg →
      intervals.foldlM (addDailyEnergy zone serviceWindow) totals = .ok totals' →
      totals'.total = totals.total + (intervals.map fun i => (i.energyWh : ℤ)).sum ∧
        totals'.Nonneg := by
  induction intervals with
  | nil =>
    intro totals totals' hnn h
    cases h
    exact ⟨by simp, hnn⟩
  | cons i intervals ih =>
    intro totals totals' hnn h
    rw [foldlM_cons] at h
    obtain ⟨mid, hmid, hrest⟩ := bind_eq_ok.mp h
    obtain ⟨hmidTotal, hmidNn⟩ := addDailyEnergy_spec hnn hmid
    obtain ⟨htot, hnn'⟩ := ih hmidNn hrest
    refine ⟨?_, hnn'⟩
    rw [htot, hmidTotal, map_cons, sum_cons, add_assoc]

theorem IntervalReplayRequest.sum_energy (r : IntervalReplayRequest) :
    (r.intervals.map fun i => (i.energyWh : ℤ)).sum = r.energyWh := by
  rw [← r.energy_eq]
  induction r.intervals with
  | nil => rfl
  | cons i is ih =>
    rw [map_cons, sum_cons, ih, map_cons, sum_cons]
    push_cast
    rfl

/-- **Energy by day**: the loop returns exactly when each interval can be split. -/
theorem dailyEnergy_isOk :
    (∃ d, dailyEnergy zone r = .ok d) ↔
      ∀ i ∈ r.intervals, i.Splits zone r.accountFacts.serviceWindow := by
  have hloop := foldlM_isOk (f := addDailyEnergy zone r.accountFacts.serviceWindow)
    (P := fun i => i.Splits zone r.accountFacts.serviceWindow) (I := fun _ => True)
    (fun _ _ _ => addDailyEnergy_isOk) (fun _ _ _ _ _ => trivial) r.intervals Dict.empty trivial
  rw [← hloop]
  simp only [dailyEnergy, bind_eq_ok, Except.ok.injEq]
  constructor
  · rintro ⟨_, totals, htotals, -⟩
    exact ⟨totals, htotals⟩
  · rintro ⟨totals, htotals⟩
    exact ⟨_, totals, htotals, rfl⟩

theorem dailyEnergy_spec {d : Dict ℤ ℤ} (h : dailyEnergy zone r = .ok d) :
    d.total = r.energyWh ∧ d.Nonneg := by
  simp only [dailyEnergy, bind_eq_ok, Except.ok.injEq] at h
  obtain ⟨totals, htotals, rfl⟩ := h
  obtain ⟨htot, hnn⟩ := foldlM_addDailyEnergy Dict.Nonneg.empty htotals
  refine ⟨?_, hnn.sorted⟩
  rw [Dict.total_sorted, htot, Dict.total_empty, zero_add, r.sum_energy]

/-! ### Local days of each period -/

/-- The days of each period account for the energy of the period. -/
def DailyMatches (totals : Dict TimeOfUsePeriod (Dict ℤ ℤ)) (quantity : TimeOfUsePeriod → ℤ) :
    Prop :=
  ∀ p, (totals.getD p Dict.empty).total = quantity p ∧ (totals.getD p Dict.empty).Nonneg

theorem addPeriodDailyEnergy_isOk {totals : Dict TimeOfUsePeriod (Dict ℤ ℤ)} :
    (∃ d, addPeriodDailyEnergy zone serviceWindow schedule totals i = .ok d) ↔
      i.Classifies zone schedule serviceWindow ∧ i.Splits zone serviceWindow := by
  simp only [addPeriodDailyEnergy, bind_eq_ok, classifyIntervalPeriod_eq_ok, Except.ok.injEq]
  constructor
  · rintro ⟨_, p, ⟨hc, rfl⟩, byDay, hday, -⟩
    exact ⟨hc, addDailyEnergy_isOk.mp ⟨byDay, hday⟩⟩
  · rintro ⟨hc, hs⟩
    obtain ⟨byDay, hday⟩ := addDailyEnergy_isOk.mpr hs
    exact ⟨_, _, ⟨hc, rfl⟩, byDay, hday, rfl⟩

theorem addPeriodDailyEnergy_spec {totals totals' : Dict TimeOfUsePeriod (Dict ℤ ℤ)}
    {quantity : TimeOfUsePeriod → ℤ} (hmatch : DailyMatches totals quantity)
    (h : addPeriodDailyEnergy zone serviceWindow schedule totals i = .ok totals') :
    DailyMatches totals' fun p => quantity p +
      if p = classifyLocalPeriod zone schedule i.startUtc then (i.energyWh : ℤ) else 0 := by
  simp only [addPeriodDailyEnergy, bind_eq_ok, classifyIntervalPeriod_eq_ok,
    Except.ok.injEq] at h
  obtain ⟨_, ⟨-, rfl⟩, byDay, hday, rfl⟩ := h
  intro p
  obtain ⟨htot, hnn⟩ := addDailyEnergy_spec (hmatch _).2 hday
  dsimp only
  by_cases hp : p = classifyLocalPeriod zone schedule i.startUtc
  · rw [if_pos hp, Dict.getD, hp, Dict.get?_set_self, Option.getD_some]
    exact ⟨by rw [htot, (hmatch _).1], hnn⟩
  · rw [if_neg hp, add_zero, Dict.getD, Dict.get?_set_of_ne _ _ hp]
    exact hmatch p

theorem foldlM_addPeriodDailyEnergy :
    ∀ {totals totals' : Dict TimeOfUsePeriod (Dict ℤ ℤ)} {quantity : TimeOfUsePeriod → ℤ},
      DailyMatches totals quantity →
      intervals.foldlM (addPeriodDailyEnergy zone serviceWindow schedule) totals = .ok totals' →
      DailyMatches totals' fun p => quantity p + periodQuantity zone schedule intervals p := by
  induction intervals with
  | nil =>
    intro totals totals' quantity hmatch h
    cases h
    intro p
    simpa [periodQuantity] using hmatch p
  | cons i intervals ih =>
    intro totals totals' quantity hmatch h
    rw [foldlM_cons] at h
    obtain ⟨mid, hmid, hrest⟩ := bind_eq_ok.mp h
    intro p
    have hp := ih (addPeriodDailyEnergy_spec hmatch hmid) hrest p
    simpa only [periodQuantity, map_cons, sum_cons, add_assoc] using hp

/-- **Energy by period and day**: the loop returns when each interval is accepted and can
be split. -/
theorem periodDailyEnergy_isOk
    (hclass : ∀ i ∈ r.intervals, i.Classifies zone schedule r.accountFacts.serviceWindow)
    (hsplit : ∀ i ∈ r.intervals, i.Splits zone r.accountFacts.serviceWindow) :
    ∃ d, periodDailyEnergy zone r schedule = .ok d := by
  obtain ⟨totals, htotals⟩ := (foldlM_isOk
    (f := addPeriodDailyEnergy zone r.accountFacts.serviceWindow schedule)
    (P := fun i => i.Classifies zone schedule r.accountFacts.serviceWindow ∧
      i.Splits zone r.accountFacts.serviceWindow) (I := fun _ => True)
    (fun _ _ _ => addPeriodDailyEnergy_isOk) (fun _ _ _ _ _ => trivial) r.intervals Dict.empty
    trivial).mpr fun i hi => ⟨hclass i hi, hsplit i hi⟩
  exact ⟨_, by rw [periodDailyEnergy, htotals]; rfl⟩

theorem get?_sorted_mapValues (totals : Dict TimeOfUsePeriod (Dict ℤ ℤ)) (p : TimeOfUsePeriod) :
    (totals.mapValues fun _ byDay => byDay.sorted).sorted.get? p
      = (totals.get? p).map Dict.sorted := by
  apply Option.ext
  intro d
  rw [Dict.get?_eq_some, Dict.entries_sorted, mem_sortedBy, Dict.entries_mapValues, mem_map,
    Option.map_eq_some_iff]
  constructor
  · rintro ⟨⟨q, byDay⟩, hmem, heq⟩
    obtain ⟨rfl, rfl⟩ := Prod.mk.inj heq
    exact ⟨byDay, Dict.get?_eq_some.mpr hmem, rfl⟩
  · rintro ⟨byDay, hg, rfl⟩
    exact ⟨(p, byDay), Dict.get?_eq_some.mp hg, rfl⟩

theorem periodDailyEnergy_spec {d : Dict TimeOfUsePeriod (Dict ℤ ℤ)}
    (h : periodDailyEnergy zone r schedule = .ok d) :
    DailyMatches d fun p => periodQuantity zone schedule r.intervals p := by
  simp only [periodDailyEnergy, bind_eq_ok, Except.ok.injEq] at h
  obtain ⟨totals, htotals, rfl⟩ := h
  have hempty : DailyMatches (Dict.empty : Dict TimeOfUsePeriod (Dict ℤ ℤ)) fun _ => 0 :=
    fun p => ⟨rfl, Dict.Nonneg.empty⟩
  intro p
  obtain ⟨htot, hnn⟩ := foldlM_addPeriodDailyEnergy hempty htotals p
  dsimp only at htot ⊢
  rw [Dict.getD, get?_sorted_mapValues]
  rw [Dict.getD] at htot hnn
  rw [zero_add] at htot
  cases hg : totals.get? p with
  | none =>
    rw [hg] at htot
    exact ⟨htot, Dict.Nonneg.empty⟩
  | some byDay =>
    rw [hg, Option.getD_some] at htot hnn
    rw [Option.map_some, Option.getD_some]
    exact ⟨by rw [Dict.total_sorted, htot], hnn.sorted⟩

end Zone
end RateReplay
