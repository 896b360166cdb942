import RateReplay.Tariff.Soundness

/-!
# Time-of-use periods

What a schedule makes of instants and intervals.  The windows of one day selector do not overlap,
so within one selector at most one window is in force; windows of different selectors may
overlap, and then the first one in the list decides.  An interval is classified by its first
instant and its last microsecond alone.

## Main definitions

* `OnePeriod`, `ListedInAnyOrder` — one period applies at every instant, however the windows are
  listed.
* `WindowEdge`, `ClockChange` — the instants at which the period can switch.
* `isPeriodLine` — the lines of a time-of-use charge, its baseline credit apart.

## Main results

* `DisjointWindows.disjoint` — the overlap check holds any two windows of one selector apart.
* `period_order_independent_iff` — **the period does not depend on the order of the windows
  exactly when windows of different selectors and periods do not overlap.**
* `interval_one_period_iff` — **an accepted interval has one period exactly when no edge inside
  it switches the period.**
* `hourly_windows_one_period` — so it has when all windows start and end on full hours.
* `period_lines_conserve_energy` — **the period lines of a charge bill all energy once.**
-/

namespace RateReplay

open List

variable {v w : TimeOfUseWindow} {holidayDates : List String}

/-! ### Windows of one selector -/

/-- Two windows have no minute in common. -/
def TimeOfUseWindow.Apart (v w : TimeOfUseWindow) : Prop :=
  v.endMinuteExclusive ≤ w.startMinuteInclusive ∨ w.endMinuteExclusive ≤ v.startMinuteInclusive

theorem TimeOfUseWindow.Apart.symm (h : v.Apart w) : w.Apart v := Or.symm h

theorem DaySelector.text_injective : Function.Injective DaySelector.text := by
  intro x y h
  cases x <;> cases y <;> first | rfl | exact absurd h (by decide)

/-- The order of the windows in the overlap check. -/
def windowKey (w : TimeOfUseWindow) : String ×ₗ ℕ :=
  toLex (w.daySelector.text, w.startMinuteInclusive)

/-- One window comes before another, and ends before it starts when both have one selector. -/
def Precedes (v w : TimeOfUseWindow) : Prop :=
  windowKey v ≤ windowKey w ∧
    (v.daySelector = w.daySelector → v.endMinuteExclusive ≤ w.startMinuteInclusive)

theorem precedes_trans {u : TimeOfUseWindow} (huv : Precedes u v) (hvw : Precedes v w) :
    Precedes u w := by
  refine ⟨huv.1.trans hvw.1, fun hsame => ?_⟩
  -- what stands between two windows of one selector has that selector
  have hleft : u.daySelector.text ≤ v.daySelector.text := by
    rcases Prod.Lex.toLex_le_toLex.mp huv.1 with hlt | ⟨heq, -⟩
    · exact hlt.le
    · exact heq.le
  have hright : v.daySelector.text ≤ w.daySelector.text := by
    rcases Prod.Lex.toLex_le_toLex.mp hvw.1 with hlt | ⟨heq, -⟩
    · exact hlt.le
    · exact heq.le
  have hmiddle : u.daySelector = v.daySelector := by
    apply DaySelector.text_injective
    rw [← hsame] at hright
    exact le_antisymm hleft hright
  have hfst := huv.2 hmiddle
  have hsnd := hvw.2 (hmiddle ▸ hsame)
  have := v.nonempty
  omega

/-- **Two windows of one selector have no minute in common.** -/
theorem DisjointWindows.disjoint {windows : List TimeOfUseWindow} (h : DisjointWindows windows)
    (hv : v ∈ windows) (hw : w ∈ windows) (hsame : v.daySelector = w.daySelector) (hne : v ≠ w) :
    v.Apart w := by
  have : Trans Precedes Precedes Precedes := ⟨precedes_trans⟩
  have hsrt := (pairwise_sortedBy windowKey windows).isChain
  have hch : (sortedBy windowKey windows).IsChain Precedes := by
    refine isChain_iff_getElem.mpr fun i hi => ⟨isChain_iff_getElem.mp hsrt i hi, ?_⟩
    intro heq
    by_contra hlt
    exact isChain_iff_getElem.mp h i hi ⟨heq, not_le.mp hlt⟩
  have hapart : (sortedBy windowKey windows).Pairwise
      fun v w => v.daySelector = w.daySelector → v.Apart w :=
    (isChain_iff_pairwise.mp hch).imp fun hvw heq => .inl (hvw.2 heq)
  have : Std.Symm fun v w : TimeOfUseWindow => v.daySelector = w.daySelector → v.Apart w :=
    ⟨fun x y hxy heq => (hxy heq.symm).symm⟩
  exact hapart.forall ((mem_sortedBy _).mpr hv) ((mem_sortedBy _).mpr hw) hne hsame

/-! ### The order of the windows -/

/-- The schedule a definition is compiled to, with its windows listed in the given order. -/
def TimeOfUseSchedule.listing (schedule : TimeOfUseSchedule) (holidayDates : List String)
    (windows : List TimeOfUseWindow) : IRTimeOfUseSchedule where
  toRuleBase := schedule.toRuleBase
  windows
  calendarId := schedule.calendarId
  calendarContentSha256 := schedule.calendarContentSha256
  holidayDates

/-- At every local instant at most one period applies. -/
def OnePeriod (schedule : TimeOfUseSchedule) (holidayDates : List String) : Prop :=
  ∀ (zone : Zone) (t : ℤ), ∀ v ∈ schedule.windows, ∀ w ∈ schedule.windows,
    v.covers holidayDates (zone.localDate t) (zone.localMinute t) = true →
    w.covers holidayDates (zone.localDate t) (zone.localMinute t) = true → v.period = w.period

/-- At every local instant the period is the same however the windows are listed. -/
def ListedInAnyOrder (schedule : TimeOfUseSchedule) (holidayDates : List String) : Prop :=
  ∀ windows : List TimeOfUseWindow, windows.Perm schedule.windows → ∀ (zone : Zone) (t : ℤ),
    classifyLocalPeriod zone (schedule.listing holidayDates windows) t =
      classifyLocalPeriod zone (schedule.listing holidayDates schedule.windows) t

theorem covers_minute {date minute : ℤ} (h : w.covers holidayDates date minute = true) :
    (w.startMinuteInclusive : ℤ) ≤ minute ∧ minute < (w.endMinuteExclusive : ℤ) := by
  simp only [TimeOfUseWindow.covers, Bool.and_eq_true, decide_eq_true_eq] at h
  exact h.2

/-- On a working day every window is in force at its minutes. -/
theorem covers_workday {date minute : ℤ} (hday : Date.weekday date < 5)
    (hholiday : Date.isoformat date ∉ holidayDates) (w : TimeOfUseWindow)
    (hstart : (w.startMinuteInclusive : ℤ) ≤ minute) (hend : minute < (w.endMinuteExclusive : ℤ)) :
    w.covers holidayDates date minute = true := by
  cases hselector : w.daySelector <;>
    simp [TimeOfUseWindow.covers, hselector, hday, hholiday, hstart, hend]

/-- A finite list of holidays leaves working days. -/
theorem exists_workday (holidayDates : List String) :
    ∃ date : ℤ, Date.weekday date < 5 ∧ Date.isoformat date ∉ holidayDates := by
  have hinjective : Function.Injective fun n : ℕ => Date.isoformat (4 + 7 * n) := by
    intro m n h
    have := Date.isoformat_injective h
    omega
  obtain ⟨text, ⟨n, rfl⟩, hn⟩ :=
    (Set.infinite_range_of_injective hinjective).exists_notMem_finset holidayDates.toFinset
  refine ⟨4 + 7 * n, ?_, by simpa using hn⟩
  rw [Date.weekday]
  omega

/-- The windows of a schedule that overlap have one selector or one period. -/
def SelectorsAgree (schedule : TimeOfUseSchedule) : Prop :=
  ∀ v ∈ schedule.windows, ∀ w ∈ schedule.windows, v.daySelector ≠ w.daySelector →
    v.period ≠ w.period → v.Apart w

theorem SelectorsAgree.onePeriod {schedule : TimeOfUseSchedule} (h : SelectorsAgree schedule)
    (holidayDates : List String) : OnePeriod schedule holidayDates := by
  intro zone t v hv w hw hcv hcw
  by_contra hper
  have hminute := covers_minute hcv
  have hminute' := covers_minute hcw
  have hapart : v.Apart w := by
    by_cases hsame : v.daySelector = w.daySelector
    · refine schedule.windows_disjoint.disjoint hv hw hsame ?_
      rintro rfl
      exact hper rfl
    · exact h v hv w hw hsame hper
  rcases hapart with hgap | hgap <;> omega

theorem OnePeriod.listedInAnyOrder {schedule : TimeOfUseSchedule}
    (h : OnePeriod schedule holidayDates) : ListedInAnyOrder schedule holidayDates := by
  intro windows hperm zone t
  simp only [classifyLocalPeriod, TimeOfUseSchedule.listing]
  -- both searches find a window in force, or neither does
  cases hleft : windows.find? fun w =>
      w.covers holidayDates (zone.localDate t) (zone.localMinute t) with
  | none =>
    rw [find?_eq_none] at hleft
    rw [find?_eq_none.mpr fun w hw => hleft w (hperm.mem_iff.mpr hw)]
    rfl
  | some v =>
    have hv := hperm.mem_iff.mp (mem_of_find?_eq_some hleft)
    cases hright : schedule.windows.find? fun w =>
        w.covers holidayDates (zone.localDate t) (zone.localMinute t) with
    | none => exact absurd (find?_some hleft) (find?_eq_none.mp hright v hv)
    | some w =>
      have hcv := find?_some hleft
      have hcw := find?_some hright
      exact h zone t v hv w (mem_of_find?_eq_some hright) hcv hcw

/-- A local date and minute as an instant of the zone without offset. -/
theorem local_fixed (date minute : ℤ) (hminute : 0 ≤ minute ∧ minute < 1440) :
    (Zone.fixed 0).localDate (date * 86400000000 + minute * 60000000) = date ∧
      (Zone.fixed 0).localMinute (date * 86400000000 + minute * 60000000) = minute := by
  simp only [Zone.localDate, Zone.localMinute, Zone.localTime, Zone.fixed]
  omega

/-- **The period depends neither on the order of the windows nor on which of them is taken
exactly when windows of different day selectors and periods do not overlap.** -/
theorem period_order_independent_iff (schedule : TimeOfUseSchedule) (holidayDates : List String) :
    (ListedInAnyOrder schedule holidayDates ∧ OnePeriod schedule holidayDates) ↔
      SelectorsAgree schedule := by
  constructor
  · rintro ⟨-, hone⟩ v hv w hw - hperiod
    by_contra hapart
    rw [TimeOfUseWindow.Apart, not_or, not_le, not_le] at hapart
    have hstart := v.nonempty
    have hstart' := w.nonempty
    have hend := v.end_le
    obtain ⟨date, hday, hholiday⟩ := exists_workday holidayDates
    -- the later of the two starts lies in both windows
    obtain ⟨hdate, hminute⟩ := local_fixed date
      (max v.startMinuteInclusive w.startMinuteInclusive : ℕ) (by omega)
    apply hperiod
    refine hone (Zone.fixed 0) (date * 86400000000 +
      (max v.startMinuteInclusive w.startMinuteInclusive : ℕ) * 60000000) v hv w hw ?_ ?_
    · rw [hdate, hminute]
      exact covers_workday hday hholiday v (by omega) (by omega)
    · rw [hdate, hminute]
      exact covers_workday hday hholiday w (by omega) (by omega)
  · intro h
    exact ⟨(h.onePeriod holidayDates).listedInAnyOrder, h.onePeriod holidayDates⟩

open SmallTariff in
/-- The schedule is accepted, and on Wednesday the first of July at five in the afternoon its
period is that of the window that is listed first. -/
theorem period_of_first_listed_window :
    classifyLocalPeriod env.zone (mixedSchedule.listing [] mixedSchedule.windows)
      1782950400000000 = .peak ∧
    classifyLocalPeriod env.zone (mixedSchedule.listing [] mixedSchedule.windows.reverse)
      1782950400000000 = .partialPeak ∧
    mixedSchedule.windows.reverse.Perm mixedSchedule.windows := by
  refine ⟨by decide +kernel, by decide +kernel, List.reverse_perm _⟩

/-! ### The period of an interval -/

section Interval

variable {zone : Zone} {schedule : IRTimeOfUseSchedule}

/-- A local minute begins at which a day or a window begins or a window ends. -/
def WindowEdge (zone : Zone) (schedule : IRTimeOfUseSchedule) (t : ℤ) : Prop :=
  zone.localTime t % 60000000 = 0 ∧ (zone.localMinute t = 0 ∨ ∃ w ∈ schedule.windows,
    zone.localMinute t = w.startMinuteInclusive ∨ zone.localMinute t = w.endMinuteExclusive)

/-- The local clock is set forward or back. -/
def ClockChange (zone : Zone) (t : ℤ) : Prop :=
  zone.utcOffset (t / 1000000) ≠ zone.utcOffset ((t - 1) / 1000000)

/-- Windows in force at the same minutes of one day classify alike. -/
theorem classifyLocalPeriod_congr {t u : ℤ} (hdate : zone.localDate t = zone.localDate u)
    (h : ∀ w ∈ schedule.windows,
      ((w.startMinuteInclusive : ℤ) ≤ zone.localMinute t ∧
        zone.localMinute t < (w.endMinuteExclusive : ℤ)) ↔
      ((w.startMinuteInclusive : ℤ) ≤ zone.localMinute u ∧
        zone.localMinute u < (w.endMinuteExclusive : ℤ))) :
    classifyLocalPeriod zone schedule t = classifyLocalPeriod zone schedule u := by
  have hcovers : ∀ w ∈ schedule.windows,
      w.covers schedule.holidayDates (zone.localDate t) (zone.localMinute t) =
        w.covers schedule.holidayDates (zone.localDate u) (zone.localMinute u) := by
    intro w hw
    rw [Bool.eq_iff_iff, TimeOfUseWindow.covers, TimeOfUseWindow.covers, hdate]
    simp only [Bool.and_eq_true, decide_eq_true_eq]
    exact and_congr_right fun _ => h w hw
  rw [classifyLocalPeriod, classifyLocalPeriod, find?_congr hcovers]

/-- Away from the edges the period stays as it is. -/
theorem classifyLocalPeriod_of_no_edge {t : ℤ} (hedge : ¬WindowEdge zone schedule t)
    (hclock : ¬ClockChange zone t) :
    classifyLocalPeriod zone schedule t = classifyLocalPeriod zone schedule (t - 1) := by
  rw [ClockChange, not_not] at hclock
  have hlocal : zone.localTime (t - 1) = zone.localTime t - 1 := by
    rw [Zone.localTime, Zone.localTime, hclock]
    omega
  -- when a minute begins, neither a day nor a window begins or ends with it
  simp only [WindowEdge, Zone.localMinute, not_and, not_or, not_exists] at hedge
  refine classifyLocalPeriod_congr ?_ fun w hw => ?_
  · have hmidnight := fun hminute => (hedge hminute).1
    rw [Zone.localDate, Zone.localDate, hlocal]
    omega
  · have hwindow := fun hminute => (hedge hminute).2 w hw
    rw [Zone.localMinute, Zone.localMinute, hlocal]
    omega

end Interval

/-- **Every instant of an accepted interval has its period exactly when no edge of a window, no
midnight and no clock change strictly inside the interval switches the period.** -/
theorem interval_one_period_iff (zone : Zone) (schedule : TimeOfUseSchedule)
    (holidayDates : List String) (startUtc : ℤ) (durationSeconds : ℕ) (serviceWindow : DateRange)
    (period : TimeOfUsePeriod)
    (h : classifyIntervalPeriod zone (schedule.listing holidayDates schedule.windows) startUtc
      durationSeconds serviceWindow = .ok period) :
    (∀ t, startUtc ≤ t → t < startUtc + durationSeconds * 1000000 →
      classifyLocalPeriod zone (schedule.listing holidayDates schedule.windows) t = period) ↔
    ∀ t, startUtc < t → t < startUtc + durationSeconds * 1000000 →
      WindowEdge zone (schedule.listing holidayDates schedule.windows) t ∨ ClockChange zone t →
      classifyLocalPeriod zone (schedule.listing holidayDates schedule.windows) t =
        classifyLocalPeriod zone (schedule.listing holidayDates schedule.windows) (t - 1) := by
  obtain ⟨-, rfl⟩ := classifyIntervalPeriod_eq_ok.mp h
  constructor
  · intro hall t hlt hend _
    rw [hall t hlt.le hend, hall (t - 1) (by omega) (by omega)]
  · intro hedges t hstart
    -- from one microsecond to the next the period switches at an edge only
    induction t, hstart using Int.leInduction with
    | base => intro _; rfl
    | succ t hstart ih =>
      intro hend
      rw [← ih (by omega)]
      have hsub : t + 1 - 1 = t := by omega
      by_cases hedge : WindowEdge zone (schedule.listing holidayDates schedule.windows) (t + 1) ∨
          ClockChange zone (t + 1)
      · have hkept := hedges (t + 1) (by omega) hend hedge
        rwa [hsub] at hkept
      · rw [not_or] at hedge
        have hkept := classifyLocalPeriod_of_no_edge hedge.1 hedge.2
        rwa [hsub] at hkept

open SmallTariff in
/-- A window from four to nine, and the hour from three to four. -/
theorem interval_one_period_before_peak :
    classifyIntervalPeriod env.zone (schedule.listing [] schedule.windows) 1782943200000000 3600
        july = .ok .offPeak ∧
      ∀ t : ℤ, 1782943200000000 ≤ t → t < 1782943200000000 + (3600 : ℕ) * 1000000 →
        classifyLocalPeriod env.zone (schedule.listing [] schedule.windows) t = .offPeak := by
  have hok : classifyIntervalPeriod env.zone (schedule.listing [] schedule.windows)
      1782943200000000 3600 july = .ok .offPeak := by decide +kernel
  refine ⟨hok, (interval_one_period_iff env.zone schedule [] _ _ _ _ hok).mpr ?_⟩
  intro t hstart hend hedge
  exfalso
  -- strictly between three and four no window begins or ends
  rcases hedge with ⟨hminute, hmidnight | ⟨w, hw, hw'⟩⟩ | hclock
  · simp only [env, Zone.localTime, Zone.localMinute, Zone.fixed] at hminute hmidnight
    omega
  · have hwindow : w = ⟨.peak, 960, 1260, .everyDay, by decide, by decide, by decide⟩ := by
      simpa [TimeOfUseSchedule.listing, schedule] using hw
    subst hwindow
    simp only [env, Zone.localTime, Zone.localMinute, Zone.fixed] at hminute hw'
    omega
  · exact hclock rfl

open SmallTariff in
/-- The hour from four to five is accepted as off-peak, although half past four is peak. -/
theorem interval_hides_peak :
    classifyIntervalPeriod env.zone (briefSchedule.listing [] briefSchedule.windows)
      1782946800000000 3600 july = .ok .offPeak ∧
    (1782946800000000 : ℤ) ≤ 1782948600000000 ∧
    (1782948600000000 : ℤ) < 1782946800000000 + (3600 : ℕ) * 1000000 ∧
    classifyLocalPeriod env.zone (briefSchedule.listing [] briefSchedule.windows)
      1782948600000000 = .peak := by
  refine ⟨by decide +kernel, by decide, by decide, by decide +kernel⟩

/-- The clock of a zone that is set at full hours, by full hours. -/
structure HourlyClock (zone : Zone) : Prop where
  whole : ∀ s, zone.utcOffset s % 3600 = 0
  within : ∀ s s', s / 3600 = s' / 3600 → zone.utcOffset s = zone.utcOffset s'

/-- All windows start and end on full hours. -/
def HourlyWindows (schedule : IRTimeOfUseSchedule) : Prop :=
  ∀ w ∈ schedule.windows, w.startMinuteInclusive % 60 = 0 ∧ w.endMinuteExclusive % 60 = 0

/-- Then one hour has one period. -/
theorem HourlyWindows.classify_eq {zone : Zone} {schedule : IRTimeOfUseSchedule}
    (h : HourlyWindows schedule) (hclock : HourlyClock zone) {t u : ℤ}
    (hour : t / 3600000000 = u / 3600000000) :
    classifyLocalPeriod zone schedule t = classifyLocalPeriod zone schedule u := by
  have hoffset : zone.utcOffset (t / 1000000) = zone.utcOffset (u / 1000000) :=
    hclock.within _ _ (by omega)
  have hwhole := hclock.whole (u / 1000000)
  refine classifyLocalPeriod_congr ?_ fun w hw => ?_
  · rw [Zone.localDate, Zone.localDate, Zone.localTime, Zone.localTime, hoffset]
    omega
  · obtain ⟨hstart, hend⟩ := h w hw
    rw [Zone.localMinute, Zone.localMinute, Zone.localTime, Zone.localTime, hoffset]
    omega

/-- **Between full hours the two ends decide**: an accepted interval of at most an hour has one
period when the windows and the clock change on full hours only. -/
theorem hourly_windows_one_period {zone : Zone} {schedule : IRTimeOfUseSchedule}
    (h : HourlyWindows schedule) (hclock : HourlyClock zone) {startUtc : ℤ} {durationSeconds : ℕ}
    (hduration : durationSeconds ≤ 3600) {serviceWindow : DateRange} {period : TimeOfUsePeriod}
    (hok : classifyIntervalPeriod zone schedule startUtc durationSeconds serviceWindow = .ok period)
    {t : ℤ} (hstart : startUtc ≤ t) (hend : t < startUtc + durationSeconds * 1000000) :
    classifyLocalPeriod zone schedule t = period := by
  obtain ⟨⟨hsame, -⟩, rfl⟩ := classifyIntervalPeriod_eq_ok.mp hok
  -- the instant lies in the hour of the first instant or in that of the last
  by_cases hfst : t / 3600000000 = startUtc / 3600000000
  · exact h.classify_eq hclock hfst
  · rw [hsame]
    exact h.classify_eq hclock (by omega)

open SmallTariff in
/-- Half past four is in the hour from four to five. -/
theorem hourly_windows_one_period_mixed :
    classifyLocalPeriod env.zone (mixedSchedule.listing [] mixedWindows) 1782948600000000
      = .peak := by
  have hok : classifyIntervalPeriod env.zone (mixedSchedule.listing [] mixedWindows)
      1782946800000000 3600 july = .ok .peak := by decide +kernel
  exact hourly_windows_one_period (by unfold HourlyWindows; decide)
    ⟨fun _ => rfl, fun _ _ _ => rfl⟩ le_rfl hok (by decide) (by decide)

/-! ### All energy is billed once -/

/-- The period lines of a time-of-use charge: its lines, the baseline credit apart. -/
def isPeriodLine (rule : IRTimeOfUseEnergyCharge) (line : ChargeLineItem) : Bool :=
  line.ruleId = rule.ruleId && [TimeOfUsePeriod.peak, .partialPeak, .offPeak].any fun period =>
    line.lineItemKey = rule.lineItemKey ++ "." ++ period.lower

/-- The energy on the lines that a charge has for its periods. -/
def periodLineEnergy (rule : IRTimeOfUseEnergyCharge) (lines : List ChargeLineItem) : ℤ :=
  ((lines.filter (isPeriodLine rule)).map ChargeLineItem.quantityNumerator).sum

section Conservation

variable {ctx : ReplayContext} {r : IntervalReplayRequest} {rule : IRTimeOfUseEnergyCharge}

theorem periodLineEnergy_append (lines lines' : List ChargeLineItem) :
    periodLineEnergy rule (lines ++ lines') =
      periodLineEnergy rule lines + periodLineEnergy rule lines' := by
  rw [periodLineEnergy, filter_append, map_append, sum_append]
  rfl

theorem periodLineEnergy_eq_zero {lines : List ChargeLineItem}
    (h : ∀ line ∈ lines, ¬isPeriodLine rule line) : periodLineEnergy rule lines = 0 := by
  rw [periodLineEnergy, filter_eq_nil_iff.mpr h]
  rfl

/-- Every line of an operator names it. -/
theorem ruleId_of_mem_operatorLines {operator : CompiledRule} {line : ChargeLineItem}
    (h : line ∈ operatorLines ctx r operator) : line.ruleId = operator.ruleId := by
  rw [operatorLines] at h
  split_ifs at h
  · cases operator with
    | tieredEnergyCharge tiered =>
      obtain ⟨part, -, rfl⟩ := mem_map.mp h
      rfl
    | timeOfUseEnergyCharge charge =>
      rw [ownLines, timeOfUseLines] at h
      split at h
      · rcases mem_append.mp h with hper | hcredit
        · obtain ⟨rate, -, hline⟩ := mem_filterMap.mp hper
          split_ifs at hline
          cases hline
          rfl
        · obtain ⟨credit, -, rfl⟩ := mem_map.mp hcredit
          rfl
      · cases h
    | fixedDailyCharge fixed =>
      rw [mem_singleton.mp h]
      rfl
    | fixedMonthlyCharge fixed =>
      rw [mem_singleton.mp h]
      rfl
    | _ => cases h
  · cases h

/-- The lines of the periods carry the quantities of the rated periods. -/
theorem periodLineEnergy_periodLines (quantity : TimeOfUsePeriod → ℤ)
    (rates : List TimeOfUsePeriodRate) :
    periodLineEnergy rule (periodLines ctx rule quantity rates) =
      (rates.map fun rate => quantity rate.period).sum := by
  induction rates with
  | nil => rfl
  | cons rate rates ih =>
    rw [map_cons, sum_cons, ← ih]
    by_cases hzero : quantity rate.period = 0
    · rw [periodLines, filterMap_cons_none (by rw [if_pos hzero]), hzero, zero_add]
      rfl
    · rw [periodLines, filterMap_cons_some (by rw [if_neg hzero]), periodLineEnergy,
        filter_cons_of_pos, map_cons, sum_cons]
      · rfl
      · simp only [isPeriodLine, ReplayContext.line, chargeLine, energyLine, decide_true,
          Bool.true_and]
        cases rate.period <;> simp

/-- The line of a baseline credit is none of them. -/
theorem periodLineEnergy_credit (credits : List BaselineCredit) :
    periodLineEnergy rule (credits.map (creditLine ctx rule)) = 0 := by
  apply periodLineEnergy_eq_zero
  intro line hline hper
  obtain ⟨credit, -, rfl⟩ := mem_map.mp hline
  rw [isPeriodLine, Bool.and_eq_true, any_eq_true] at hper
  obtain ⟨-, period, -, hkey⟩ := hper
  exact not_isCreditKey_period rule.lineItemKey period
    ⟨rule.lineItemKey, (of_decide_eq_true hkey).symm⟩

/-- Among distinct values a choice picks one. -/
theorem sum_map_ite_eq {α : Type*} [DecidableEq α] {xs : List α} (hnodup : xs.Nodup) {a : α}
    (ha : a ∈ xs) (n : ℤ) : (xs.map fun x => if x = a then n else 0).sum = n := by
  rw [List.sum_map_ite_eq xs (fun _ => n) (fun _ => 0), count_eq_one_of_mem hnodup ha]
  simp

/-- A schedule classifies to one of its periods. -/
theorem classifyLocalPeriod_mem (zone : Zone) (schedule : IRTimeOfUseSchedule) (t : ℤ) :
    classifyLocalPeriod zone schedule t ∈
      TimeOfUsePeriod.offPeak :: schedule.windows.map TimeOfUseWindow.period := by
  rw [classifyLocalPeriod]
  split
  · rename_i window hfind
    exact mem_cons_of_mem _ (mem_map_of_mem (mem_of_find?_eq_some hfind))
  · exact mem_cons_self

/-- Distinct periods among which every interval is classified share out all energy. -/
theorem sum_periodQuantity {zone : Zone} {schedule : IRTimeOfUseSchedule}
    {periods : List TimeOfUsePeriod} (hnodup : periods.Nodup)
    (hall : ∀ t, classifyLocalPeriod zone schedule t ∈ periods) (intervals : List ReplayInterval) :
    (periods.map (periodQuantity zone schedule intervals)).sum =
      (intervals.map ReplayInterval.energyWh).sum := by
  induction intervals with
  | nil =>
    have hnone : periodQuantity zone schedule [] = fun _ => 0 := rfl
    rw [hnone]
    simp
  | cons i intervals ih =>
    have hsplit : periodQuantity zone schedule (i :: intervals) = fun period =>
        (if period = classifyLocalPeriod zone schedule i.startUtc then (i.energyWh : ℤ) else 0) +
          periodQuantity zone schedule intervals period := by
      funext period
      rw [periodQuantity, map_cons, sum_cons]
      rfl
    rw [hsplit, sum_map_add, sum_map_ite_eq hnodup (hall i.startUtc), ih, map_cons,
      sum_cons, Nat.cast_add]

end Conservation

section Replay

variable {env : Env} {root : Root} {tariff : TariffVersion} {bundle : CompilationBundle}
  {r : IntervalReplayRequest}

/-- The rates of a compiled charge name each period once. -/
theorem Compiles.periods_nodup (h : Compiles root tariff bundle) {rule : IRTimeOfUseEnergyCharge}
    (hrule : CompiledRule.timeOfUseEnergyCharge rule ∈ bundle.ir.operators) :
    (rule.periodRates.map TimeOfUsePeriodRate.period).Nodup := by
  obtain ⟨a, ha, hlower⟩ := h.exists_rule hrule
  obtain ⟨charge, rfl, -, hrates, -⟩ := lowerRule_timeOfUse hlower
  rw [hrates]
  have hsrt := charge.periods_sorted
  rw [pairwise_map] at hsrt
  rw [List.Nodup, pairwise_map]
  refine hsrt.imp fun hlt heq => ?_
  rw [heq] at hlt
  exact lt_irrefl _ hlt

/-- The charge that applies bills all energy on its own period lines. -/
theorem periodLineEnergy_operatorLines (h : Compiles root tariff bundle)
    {rule : IRTimeOfUseEnergyCharge}
    (hrule : CompiledRule.timeOfUseEnergyCharge rule ∈ bundle.ir.operators) {stop baselineWh : ℤ}
    (happ : ruleApplies rule.applicability r.accountFacts (Date.month stop) = true) :
    periodLineEnergy rule (operatorLines (intervalContext env bundle r stop baselineWh Dict.empty) r
      (.timeOfUseEnergyCharge rule)) = r.energyWh := by
  obtain ⟨schedule, -, hrsv, hperiods⟩ := resolveTimeSchedule_of_compiles h hrule
  have hall : ∀ t, classifyLocalPeriod env.zone schedule t ∈
      rule.periodRates.map TimeOfUsePeriodRate.period :=
    fun t => hperiods.2 _ (classifyLocalPeriod_mem env.zone schedule t)
  have hown : Applies (intervalContext env bundle r stop baselineWh Dict.empty)
      (.timeOfUseEnergyCharge rule) := happ
  rw [operatorLines, if_pos hown, ownLines, timeOfUseLines_eq hrsv, periodLineEnergy_append,
    periodLineEnergy_periodLines, periodLineEnergy_credit, add_zero, ← r.energy_eq,
    ← sum_periodQuantity (h.periods_nodup hrule) hall, map_map]
  rfl

end Replay

/-- **No energy is dropped or billed twice**: when the replay of a compiled tariff returns, the
quantities on the period lines of each time-of-use charge that applies sum to the energy of the
request. -/
theorem period_lines_conserve_energy {env : Env} {root : Root} {tariff : TariffVersion}
    {bundle : CompilationBundle} (hcompile : compileTariff env root tariff = .ok bundle)
    (r : IntervalReplayRequest) (policy : ReconciliationPolicy) (result : ReplayResult)
    (hreplay : replayCompiledTariff env bundle (.interval r) policy = .ok result)
    (rule : IRTimeOfUseEnergyCharge)
    (hrule : CompiledRule.timeOfUseEnergyCharge rule ∈ bundle.ir.operators)
    (happlies : ∀ stop ∈ r.accountFacts.serviceWindow.stop,
      ruleApplies rule.applicability r.accountFacts (Date.month stop) = true) :
    periodLineEnergy rule result.lineItems = r.energyWh := by
  have hcompiles := compileTariff_compiles hcompile
  obtain ⟨eligibility, stop, baselineWh, hadmitted, hlines, -⟩ := replay_lines hreplay
  obtain ⟨before, after, hsplit⟩ := List.append_of_mem hrule
  have hids := hcompiles.ruleIds_nodup
  rw [hsplit, List.map_append, List.map_cons, List.nodup_append, List.nodup_cons] at hids
  obtain ⟨-, ⟨hafter, -⟩, hbefore⟩ := hids
  -- the other operators have other identifiers, so their lines do not count
  have hzero : ∀ operators : List CompiledRule,
      (∀ operator ∈ operators, operator.ruleId ≠ rule.ruleId) → periodLineEnergy rule
        (operators.flatMap (operatorLines (intervalContext env bundle r stop baselineWh Dict.empty)
          r)) = 0 := by
    intro operators hne
    apply periodLineEnergy_eq_zero
    intro line hline
    obtain ⟨operator, hoperator, hmem⟩ := List.mem_flatMap.mp hline
    simp [isPeriodLine, ruleId_of_mem_operatorLines hmem, hne operator hoperator]
  rw [hlines, hsplit, List.flatMap_append, List.flatMap_cons, periodLineEnergy_append,
    periodLineEnergy_append, hzero before, hzero after, zero_add, add_zero]
  · exact periodLineEnergy_operatorLines hcompiles hrule (happlies stop hadmitted.stop_eq)
  · intro operator hoperator heq
    exact hafter (List.mem_map.mpr ⟨operator, hoperator, heq⟩)
  · intro operator hoperator heq
    exact hbefore _ (List.mem_map_of_mem hoperator) _ List.mem_cons_self heq

open SmallTariff in
/-- The small tariff bills the three kilowatt-hours of the request. -/
theorem small_tariff_conserves_energy :
    ∃ result, replayCompiledTariff env (bundle false) (.interval request) {} = .ok result ∧
      periodLineEnergy ⟨energy.toRuleBase, "energy", "schedule", energy.periodRates,
        energy.baselineCredit⟩ result.lineItems = 3000 := by
  obtain ⟨result, hresult⟩ := SmallTariff.replays
  refine ⟨result, hresult, period_lines_conserve_energy (compileTariff_eq false) request {} result
    hresult _ ?_ ?_⟩
  · simp [bundle, compilationBundle, operators]
  · intro stop hstop
    cases hstop
    decide +kernel

end RateReplay
