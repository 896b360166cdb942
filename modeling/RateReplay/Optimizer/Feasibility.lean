import RateReplay.Optimizer.Verification

/-!
# Which schedules the verifier accepts

A plan gives each occurrence its energies.  The verifier accepts exactly the feasible plans:
those that execute every occurrence inside its window with the required energy and respect
the caps.  Everything it computes afterwards is a function of the plan.

## Main definitions

* `Feasible` — the plan executes every occurrence and respects the caps.
* `Complete`, `Submits` — the candidate has every schedule, with the energies of the plan.
* `Checks` — what the structural checks return for a plan.
* `planChanged`, `planCompletion`, `planStable` — the score of a plan, without its cost.

## Main results

* `verifyStructure_eq_ok` — what the structural checks accept, and what they return.
* `verifyStructure_checks`, `verifyStructure_of_feasible` — **the verifier accepts exactly the
  feasible plans.**
* `objective_of_checks` — the score of an accepted candidate.
* `reference_passes_structure` — **the reference of an admitted scenario is accepted.**
-/

namespace RateReplay

open List

/-! ### What the checks establish -/

section Inversion

variable {scenario : ScenarioInput} {row : List ℕ} {candidate : CandidateSchedule}
  {submitted : Dict UUID OccurrenceSchedule} {checked : CheckedCandidate} {s : OccurrenceSchedule}
  {x : UUID → List ℕ} {p : FlexibleLoad × LoadOccurrence}

theorem windowIndices_eq_ok {occurrence : LoadOccurrence} {window : ℕ × ℕ} :
    windowIndices scenario.boundaries occurrence = .ok window ↔
      Window scenario occurrence window.1 window.2 := by
  obtain ⟨start, stop⟩ := window
  rw [windowIndices]
  constructor
  · intro h
    split at h
    next start' stop' hstart hstop =>
      split_ifs at h with hlt
      cases h
      exact ⟨hstart, hstop, by omega⟩
    · cases h
  · rintro ⟨hstart, hstop, hlt⟩
    simp only at hstart hstop hlt
    simp only [hstart, hstop]
    rw [if_neg (by omega)]

theorem verifyExecution_eq_ok {load : FlexibleLoad} {occurrence : LoadOccurrence}
    {start stop : ℕ} {u : Unit} (hrow : row.length = scenario.slotCount) :
    verifyExecution scenario load occurrence row start stop = .ok u ↔
      Executes scenario load.executionSpec occurrence.requiredEnergyWh start stop row := by
  rw [verifyExecution, failIf_bind_eq_ok, not_not, Executes.eq_def]
  refine and_congr_right fun hsum => ?_
  cases load.executionSpec with
  | interruptible spec =>
    rw [verifySpec]
    exact checkInterruptible_eq_ok hrow
  | fixedShape spec =>
    rw [verifySpec, failIf_bind_eq_ok, failIf_eq_ok, not_not]
    simp only [not_forall, not_not, exists_prop]

/-- Every slot is at most an hour long and starts on a whole second. -/
def WholeSlots (scenario : ScenarioInput) : Prop :=
  ∀ slot ∈ scenario.profileSlots, slot.durationSeconds ≤ 3600 ∧ slot.slotStartUtc % 1000000 = 0

instance (scenario : ScenarioInput) : Decidable (WholeSlots scenario) :=
  inferInstanceAs (Decidable (∀ slot ∈ scenario.profileSlots, _))

/-- The profile of an admitted scenario with such slots is accepted. -/
theorem profileBoundaries_of_valid (hv : Valid scenario) (hwhole : WholeSlots scenario) :
    profileBoundaries scenario = .ok scenario.boundaries := by
  have hchks : checkAll (verifyProfileSlot scenario) (slotsWithPrevious scenario).zipIdx
      = .ok () := by
    rw [checkAll_eq_ok, slotsWithPrevious]
    rintro ⟨⟨previous, slot⟩, i⟩ he
    have hmem : (previous, slot) ∈ (none :: scenario.profileSlots.map some).zip
        scenario.profileSlots := (mem_zipIdx' he).2 ▸ getElem_mem _
    have hslot : slot ∈ scenario.profileSlots := (of_mem_zip hmem).2
    obtain ⟨hhour, hsnd⟩ := hwhole slot hslot
    have hresolution := hv.resolution slot hslot
    rw [verifyProfileSlot, failIf_bind_eq_ok, failIf_bind_eq_ok, failIf_eq_ok]
    refine ⟨by simp only; omega, by simp only; omega, ?_⟩
    -- neighbours in the list with the previous slots are neighbours in the profile
    have hneighbours : ∀ previous' ∈ previous,
        (previous', slot) ∈ scenario.profileSlots.zip scenario.profileSlots.tail := by
      intro previous' hprevious
      obtain rfl : previous = some previous' := hprevious
      clear he hslot hsnd hhour hresolution
      cases hslots : scenario.profileSlots with
      | nil => rw [hslots] at hmem; simp at hmem
      | cons first rest =>
        rw [hslots, map_cons, zip_cons_cons, mem_cons] at hmem
        rcases hmem with hmem | hmem
        · cases hmem
        · rw [← map_cons, zip_map_left] at hmem
          obtain ⟨_, hzip, heq⟩ := mem_map.mp hmem
          cases heq
          exact hzip
    rintro ⟨previous', hprevious, hne⟩
    exact hne (hv.contiguous _ (hneighbours previous' hprevious))
  rw [profileBoundaries, hchks]
  rfl

/-! ### Identities and windows -/

/-- Windows that follow one another without overlap are sorted by their starts alone. -/
theorem sortedBy_earliest_eq {ordered occurrences : List LoadOccurrence}
    (hperm : ordered.Perm occurrences)
    (h : ∀ e ∈ ordered.zip ordered.tail, ¬ e.2.earliestStartUtc < e.1.deadlineUtc) :
    sortedBy LoadOccurrence.earliestStartUtc occurrences = ordered := by
  -- a window starts after every earlier one has ended, so in particular after it started
  have hch : ordered.IsChain fun l r => l.deadlineUtc ≤ r.earliestStartUtc := by
    clear hperm
    induction ordered with
    | nil => exact isChain_nil
    | cons o ordered ih =>
      cases ordered with
      | nil => exact isChain_singleton o
      | cons o' ordered =>
        rw [isChain_cons_cons]
        refine ⟨not_lt.mp (h (o, o') (by simp)), ih ?_⟩
        intro e he
        exact h e (by simpa using Or.inr he)
  have hlt : (ordered.map LoadOccurrence.earliestStartUtc).Pairwise (· < ·) := by
    refine isChain_iff_pairwise.mp ((isChain_map _).mpr (hch.imp ?_))
    intro l r hle
    have := l.window_nonempty
    omega
  rw [← sortedBy_of_pairwise (pairwise_map.mp (hlt.imp le_of_lt))]
  refine (sortedBy_eq_of_perm hperm ?_).symm
  intro a ha b hb hab
  exact inj_on_of_nodup_map (hlt.imp ne_of_lt) ha hb hab

theorem verifyLoadWindows_of_valid (hv : Valid scenario) {load : FlexibleLoad}
    (hload : load ∈ scenario.loads) : verifyLoadWindows load = .ok () := by
  have hdisjoint := hv.disjoint load hload
  simp only [validateDisjointOccurrences, checkAll_eq_ok, failIf_eq_ok] at hdisjoint
  simp only [verifyLoadWindows, checkAll_eq_ok, failIf_eq_ok]
  rwa [sortedBy_earliest_eq (sortedBy_perm _ _) hdisjoint]

theorem nodup_append_singleton {α : Type*} {l : List α} {a : α} :
    (l ++ [a]).Nodup ↔ l.Nodup ∧ a ∉ l := by
  simp [nodup_append, forall_mem_ne']

theorem foldlM_seeOccurrence {occurrences : List LoadOccurrence} {seen seen' : List UUID}
    (hseen : seen.Nodup) :
    occurrences.foldlM seeOccurrence seen = .ok seen' ↔
      (seen ++ occurrences.map LoadOccurrence.occurrenceId).Nodup ∧
        seen' = seen ++ occurrences.map LoadOccurrence.occurrenceId := by
  induction occurrences generalizing seen with
  | nil => simp [hseen, eq_comm]
  | cons o occurrences ih =>
    rw [foldlM_cons, seeOccurrence]
    by_cases hnew : o.occurrenceId ∈ seen
    · rw [failIf_of _ hnew]
      simp only [error_bind, reduceCtorEq, map_cons, nodup_append, false_iff]
      rintro ⟨⟨-, -, hne⟩, -⟩
      exact hne _ hnew _ mem_cons_self rfl
    · rw [failIf_of_not _ hnew, ok_bind, ok_bind,
        ih (nodup_append_singleton.mpr ⟨hseen, hnew⟩)]
      simp

/-- **Distinct identities and disjoint windows** are what passes the loop over the loads. -/
theorem foldlM_seeLoad {loads : List FlexibleLoad} (seen : SeenIdentities)
    (hids : seen.loadIds.Nodup) (hkeys : seen.assetKeys.Nodup)
    (hseen : seen.occurrenceIds.Nodup) :
    (∃ seen', loads.foldlM seeLoad seen = .ok seen') ↔
      (seen.loadIds ++ loads.map FlexibleLoad.loadId).Nodup ∧
        (seen.assetKeys ++ loads.map FlexibleLoad.physicalAssetKey).Nodup ∧
        (seen.occurrenceIds ++ loads.flatMap fun load =>
          load.occurrences.map LoadOccurrence.occurrenceId).Nodup ∧
        ∀ load ∈ loads, verifyLoadWindows load = .ok () := by
  induction loads generalizing seen with
  | nil => simp [hids, hkeys, hseen]
  | cons load loads ih =>
    simp only [foldlM_cons, bind_eq_ok, seeLoad, failIf_eq_ok, not_or, Except.ok.injEq,
      foldlM_seeOccurrence hseen]
    constructor
    · rintro ⟨seen', _, ⟨_, ⟨hid, hkey⟩, _, ⟨hocc, rfl⟩, _, hwindows, rfl⟩, hrest⟩
      obtain ⟨hids', hkeys', hoccs, hwindows'⟩ := (ih _
        (nodup_append_singleton.mpr ⟨hids, hid⟩) (nodup_append_singleton.mpr ⟨hkeys, hkey⟩)
        hocc).mp ⟨seen', hrest⟩
      exact ⟨by simpa using hids', by simpa using hkeys', by simpa using hoccs,
        forall_mem_cons.mpr ⟨hwindows, hwindows'⟩⟩
    · rintro ⟨hids', hkeys', hoccs, hwindows⟩
      rw [map_cons, append_cons] at hids' hkeys'
      rw [flatMap_cons, ← append_assoc] at hoccs
      have hid := (nodup_append.mp hids').1
      have hkey := (nodup_append.mp hkeys').1
      have hocc := (nodup_append.mp hoccs).1
      obtain ⟨hwindow, hwindows'⟩ := forall_mem_cons.mp hwindows
      obtain ⟨seen', hrest⟩ := (ih ⟨_, _, _⟩ hid hkey hocc).mpr ⟨hids', hkeys', hoccs, hwindows'⟩
      exact ⟨seen', _, ⟨(), ⟨(nodup_append_singleton.mp hid).2,
        (nodup_append_singleton.mp hkey).2⟩, _, ⟨hocc, rfl⟩, (), hwindow, rfl⟩, hrest⟩

theorem verifyDisjointWindows_eq_ok :
    verifyDisjointWindows scenario = .ok () ↔
      (scenario.loads.map FlexibleLoad.loadId).Nodup ∧
        (scenario.loads.map FlexibleLoad.physicalAssetKey).Nodup ∧
        (scenario.occurrences.map fun p => p.2.occurrenceId).Nodup ∧
        ∀ load ∈ scenario.loads, verifyLoadWindows load = .ok () := by
  have hloop : (∃ seen, scenario.loads.foldlM seeLoad ⟨[], [], []⟩ = .ok seen) ↔ _ :=
    foldlM_seeLoad ⟨[], [], []⟩ .nil .nil .nil
  rw [verifyDisjointWindows, bind_eq_ok]
  simpa [ScenarioInput.occurrences, map_flatMap, Function.comp_def] using hloop

theorem verifyDisjointWindows_of_valid (hv : Valid scenario) :
    verifyDisjointWindows scenario = .ok () :=
  verifyDisjointWindows_eq_ok.mpr ⟨hv.loadIds, hv.assetKeys, hv.occurrenceIds,
    fun _ hload => verifyLoadWindows_of_valid hv hload⟩

/-! ### Plans

A plan gives the energies of each occurrence, by its identifier. -/

/-- The energy of all occurrences under a plan, slot by slot. -/
def flexibleOf (scenario : ScenarioInput) (x : UUID → List ℕ) : List ℕ :=
  sumRows scenario.slotCount
    ((canonicalOccurrences scenario).map fun p => x p.2.occurrenceId)

/-- The whole profile under a plan. -/
def profileOf (scenario : ScenarioInput) (x : UUID → List ℕ) : List ℕ :=
  addRows (fixedBackground scenario) (flexibleOf scenario x)

/-- The plan executes every occurrence and respects the caps. -/
structure Feasible (scenario : ScenarioInput) (x : UUID → List ℕ) : Prop where
  admissible : ∀ p ∈ scenario.occurrences, Admissible scenario p (x p.2.occurrenceId)
  caps : CapsHold scenario (profileOf scenario x) (flexibleOf scenario x)

/-- The schedules of a plan, in canonical order, without the proofs that they are nonempty. -/
def planSlots (scenario : ScenarioInput) (x : UUID → List ℕ) : List (UUID × List EnergySlot) :=
  (canonicalOccurrences scenario).map fun p =>
    (p.2.occurrenceId, scenario.energySlots (x p.2.occurrenceId))

/-- The identifiers and slots of a list of schedules. -/
def scheduleSlots (schedules : List OccurrenceSchedule) : List (UUID × List EnergySlot) :=
  schedules.map fun s => (s.occurrenceId, s.slots)

/-- What the structural checks return for a plan. -/
structure Checks (scenario : ScenarioInput) (x : UUID → List ℕ) (checked : CheckedCandidate) :
    Prop where
  feasible : Feasible scenario x
  background : checked.background = fixedBackground scenario
  references : ∀ p ∈ scenario.occurrences,
    checked.references.get? p.2.occurrenceId = some p.2.referenceEnergy
  candidateById : ∀ p ∈ scenario.occurrences,
    checked.candidateById.get? p.2.occurrenceId = some (x p.2.occurrenceId)
  flexible : checked.flexible = flexibleOf scenario x
  profile : checked.profile = profileOf scenario x
  schedules : scheduleSlots checked.canonicalSchedules = planSlots scenario x

theorem canonicalIds_nodup (hv : Valid scenario) :
    ((canonicalOccurrences scenario).map fun p => p.2.occurrenceId).Nodup :=
  ((canonicalOccurrences_perm scenario).map _).nodup_iff.mpr hv.occurrenceIds

/-- A property of all occurrences may be read off in canonical order. -/
theorem forall_canonicalOccurrences {P : FlexibleLoad × LoadOccurrence → Prop} :
    (∀ p ∈ canonicalOccurrences scenario, P p) ↔ ∀ p ∈ scenario.occurrences, P p := by
  simp only [mem_canonicalOccurrences]

/-! ### The loop over the references -/

theorem referenceVector_eq_ok {occurrence : LoadOccurrence} :
    referenceVector scenario occurrence = .ok row ↔
      scenario.Places occurrence.referenceSchedule ∧ row = occurrence.referenceEnergy :=
  slotRow_eq_ok

/-- What the loop over the references has collected after some of them. -/
def readReferences (s : ReferenceState) (l : List (FlexibleLoad × LoadOccurrence)) :
    ReferenceState :=
  ⟨((l.filter fun p => p.1.mode = .shiftExisting).map fun p => p.2.referenceEnergy).foldl
      addRows s.shift,
    l.foldl (fun d p => d.set p.2.occurrenceId p.2.referenceEnergy) s.references⟩

theorem foldlM_readReference {l : List (FlexibleLoad × LoadOccurrence)} {s : ReferenceState}
    (h : ∀ p ∈ l, scenario.Places p.2.referenceSchedule) :
    l.foldlM (readReference scenario) s = .ok (readReferences s l) := by
  induction l generalizing s with
  | nil => rfl
  | cons p l ih =>
    have hrow := referenceVector_eq_ok.mpr ⟨h p mem_cons_self, rfl⟩
    rw [foldlM_cons, readReference, hrow, ok_bind, ok_bind,
      ih fun q hq => h q (mem_cons_of_mem p hq)]
    by_cases hmode : p.1.mode = .shiftExisting
    · simp [readReferences, hmode]
    · simp [readReferences, hmode]

/-- The shifted reference energy does not depend on the order of the occurrences. -/
theorem shift_canonical (hv : Valid scenario) :
    (((canonicalOccurrences scenario).filter fun p => p.1.mode = .shiftExisting).map
      fun p => p.2.referenceEnergy).foldl addRows (replicate scenario.slotCount 0)
      = modeReference scenario .shiftExisting := by
  refine sumRows_perm (((canonicalOccurrences_perm scenario).filter _).map _) ?_
  intro row hrow
  obtain ⟨p, hp, rfl⟩ := mem_map.mp hrow
  exact length_referenceEnergy hv.places
    (mem_canonicalOccurrences.mp (mem_of_mem_filter hp))

/-- **The verifier finds the background of the decomposition.** -/
theorem backgroundAndReference_of_valid (hv : Valid scenario) :
    ∃ references, backgroundAndReference scenario = .ok (fixedBackground scenario, references) ∧
      ∀ p ∈ scenario.occurrences,
        references.get? p.2.occurrenceId = some p.2.referenceEnergy := by
  refine ⟨(canonicalOccurrences scenario).foldl
    (fun d p => d.set p.2.occurrenceId p.2.referenceEnergy) Dict.empty, ?_, ?_⟩
  · have hmeasured : scenario.measured.length = scenario.slotCount := length_measured
    have hshift := length_modeReference hv.places .shiftExisting
    have hbg := length_fixedBackground hv.places
    have hle := hv.background
    have hnonneg : ¬ ∃ amount ∈ backgroundRow scenario (modeReference scenario .shiftExisting),
        amount < 0 := by
      rintro ⟨amount, hmem, hneg⟩
      exact (backgroundRow_nonneg hshift).mpr hle amount hmem hneg
    have hreconstructed : addRows (fixedBackground scenario)
        (modeReference scenario .shiftExisting) = scenario.measured := by
      refine eq_of_getD_eq ?_ ?_
      · rw [length_addRows (by rw [hshift, hbg]), hbg, hmeasured]
      · intro i hi
        rw [length_addRows (by rw [hshift, hbg]), hbg] at hi
        have := hle i hi
        rw [getD_addRows (by rw [hshift, hbg]), fixedBackground]
        rw [getD_eq_getElem _ _ (by simpa [hmeasured, hshift] using hi)]
        rw [getD_eq_getElem _ _ (hshift ▸ hi), getD_eq_getElem _ _ (hmeasured ▸ hi)]
          at this
        rw [getD_eq_getElem _ _ (hshift ▸ hi), getD_eq_getElem _ _ (hmeasured ▸ hi),
          getElem_zipWith]
        omega
    rw [backgroundAndReference,
      foldlM_readReference (forall_canonicalOccurrences.mpr hv.places), ok_bind]
    simp only [readReferences, shift_canonical hv, toNat_backgroundRow]
    rw [fixedBackground] at hreconstructed
    rw [failIf_of_not _ hnonneg, ok_bind, failIf_of_not _ (not_not.mpr hreconstructed), ok_bind]
    rfl
  · intro p hp
    exact Dict.get?_foldl_set (canonicalIds_nodup hv) (mem_canonicalOccurrences.mpr hp)

/-! ### The loop over the occurrences -/

/-- The submitted schedules, where no identifier is repeated. -/
theorem scheduleMap_eq_ok {expectedIds : List UUID} {values : Dict UUID OccurrenceSchedule} :
    scheduleMap candidate expectedIds = .ok values ↔
      (candidate.occurrences.map OccurrenceSchedule.occurrenceId).Nodup ∧
        values.entries = (candidate.occurrences.map fun s => (s.occurrenceId, s)) ∧
        SameElements values.keys expectedIds := by
  have hloop : ∀ (l : List OccurrenceSchedule) (d d' : Dict UUID OccurrenceSchedule),
      l.foldlM addSubmitted d = .ok d' ↔
        (d.keys ++ l.map OccurrenceSchedule.occurrenceId).Nodup ∧
          d'.entries = d.entries ++ l.map fun s => (s.occurrenceId, s) := by
    intro l
    induction l with
    | nil =>
      intro d d'
      have hd : d.keys.Nodup := d.nodup
      simp only [foldlM_nil, pure_eq_ok, Except.ok.injEq, map_nil, append_nil, hd,
        true_and]
      constructor
      · rintro rfl
        rfl
      · intro h
        exact (Dict.ext h).symm
    | cons s l ih =>
      intro d d'
      rw [foldlM_cons, addSubmitted]
      by_cases hnew : s.occurrenceId ∈ d.keys
      · rw [failIf_of _ hnew]
        simp only [error_bind, reduceCtorEq, map_cons, nodup_append, false_iff]
        rintro ⟨⟨-, -, hne⟩, -⟩
        exact hne _ hnew _ mem_cons_self rfl
      · rw [failIf_of_not _ hnew, ok_bind, ok_bind, ih, Dict.keys_set_of_not_mem _ hnew,
          Dict.entries_set_of_not_mem _ hnew]
        simp
  rw [scheduleMap, bind_eq_ok]
  simp only [hloop, bind_eq_ok, failIf_eq_ok, not_not, Except.ok.injEq]
  constructor
  · rintro ⟨_, ⟨hnodup, hent⟩, _, hsame, rfl⟩
    exact ⟨hnodup, hent, hsame⟩
  · rintro ⟨hnodup, hent, hsame⟩
    exact ⟨values, ⟨hnodup, hent⟩, (), hsame, rfl⟩

/-- The energies submitted for an occurrence. -/
def submittedRow (submitted : Dict UUID OccurrenceSchedule) (id : UUID) : List ℕ :=
  (submitted.get? id).elim [] fun s => energies s.slots

/-- The step of the loop over the occurrences: it accepts a schedule that is complete and
executes the occurrence, and collects its energies. -/
theorem verifyOccurrence_eq_ok {s s' : CandidateState} :
    verifyOccurrence scenario scenario.boundaries submitted s p = .ok s' ↔
      ((∃ schedule, submitted.get? p.2.occurrenceId = some schedule ∧
          scenario.Places schedule.slots) ∧
        Admissible scenario p (submittedRow submitted p.2.occurrenceId)) ∧
      s' = ⟨s.candidateById.set p.2.occurrenceId (submittedRow submitted p.2.occurrenceId),
        addRows s.flexible (submittedRow submitted p.2.occurrenceId),
        s.canonicalSchedules ++ (submitted.get? p.2.occurrenceId).toList⟩ := by
  rw [verifyOccurrence, submittedRow]
  cases hg : submitted.get? p.2.occurrenceId with
  | none => simp
  | some schedule =>
    simp only [Option.elim_some, ok_bind, energyVector, bind_eq_ok, slotRow_eq_ok,
      windowIndices_eq_ok, Except.ok.injEq, Option.some.injEq, exists_eq_left', Option.toList_some]
    constructor
    · rintro ⟨_, ⟨hpl, rfl⟩, window, hwin, _, hexec, rfl⟩
      have hlen := hpl.length_energies
      exact ⟨⟨hpl, hlen, window.1, window.2, hwin, (verifyExecution_eq_ok hlen).mp hexec⟩,
        rfl⟩
    · rintro ⟨⟨hpl, hlen, start, stop, hwin, hexec⟩, rfl⟩
      exact ⟨_, ⟨hpl, rfl⟩, (start, stop), hwin, (),
        (verifyExecution_eq_ok hlen).mpr hexec, rfl⟩

/-- What the loop over the occurrences has collected after some of them. -/
theorem foldl_collect (submitted : Dict UUID OccurrenceSchedule)
    (l : List (FlexibleLoad × LoadOccurrence)) (s : CandidateState) :
    l.foldl (fun s p => ⟨s.candidateById.set p.2.occurrenceId
        (submittedRow submitted p.2.occurrenceId),
      addRows s.flexible (submittedRow submitted p.2.occurrenceId),
      s.canonicalSchedules ++ (submitted.get? p.2.occurrenceId).toList⟩) s =
    (⟨l.foldl (fun d p => d.set p.2.occurrenceId (submittedRow submitted p.2.occurrenceId))
        s.candidateById,
      (l.map fun p => submittedRow submitted p.2.occurrenceId).foldl addRows s.flexible,
      s.canonicalSchedules ++ l.flatMap fun p => (submitted.get? p.2.occurrenceId).toList⟩ :
      CandidateState) := by
  induction l generalizing s with
  | nil => simp
  | cons p l ih =>
    rw [foldl_cons, ih]
    simp

theorem length_flexibleOf
    (h : ∀ p ∈ scenario.occurrences, Admissible scenario p (x p.2.occurrenceId)) :
    (flexibleOf scenario x).length = scenario.slotCount := by
  refine length_sumRows ?_
  intro row hrow
  obtain ⟨p, hp, rfl⟩ := mem_map.mp hrow
  exact (h p (mem_canonicalOccurrences.mp hp)).length

theorem length_profileOf (hv : Valid scenario)
    (h : ∀ p ∈ scenario.occurrences, Admissible scenario p (x p.2.occurrenceId)) :
    (profileOf scenario x).length = scenario.slotCount := by
  have hbg := length_fixedBackground hv.places
  rw [profileOf, length_addRows, hbg]
  rw [length_flexibleOf h, hbg]

theorem flexibleOf_congr {x y : UUID → List ℕ}
    (h : ∀ p ∈ scenario.occurrences, x p.2.occurrenceId = y p.2.occurrenceId) :
    flexibleOf scenario x = flexibleOf scenario y := by
  rw [flexibleOf, flexibleOf]
  congr 1
  exact map_congr_left fun p hp => h p (mem_canonicalOccurrences.mp hp)

theorem Feasible.congr {x y : UUID → List ℕ}
    (h : ∀ p ∈ scenario.occurrences, x p.2.occurrenceId = y p.2.occurrenceId)
    (hx : Feasible scenario x) : Feasible scenario y := by
  refine ⟨fun p hp => h p hp ▸ hx.admissible p hp, ?_⟩
  rw [profileOf, ← flexibleOf_congr h]
  exact hx.caps

/-- Only the rows of the scenario's occurrences matter. -/
theorem Checks.congr {x y : UUID → List ℕ}
    (h : ∀ p ∈ scenario.occurrences, x p.2.occurrenceId = y p.2.occurrenceId)
    (hchks : Checks scenario x checked) : Checks scenario y checked := by
  have hflex := flexibleOf_congr h
  have hpf : profileOf scenario x = profileOf scenario y := by
    rw [profileOf, profileOf, hflex]
  have hslots : planSlots scenario x = planSlots scenario y := by
    refine map_congr_left fun p hp => ?_
    rw [h p (mem_canonicalOccurrences.mp hp)]
  refine ⟨hchks.feasible.congr h, hchks.background, hchks.references, ?_, ?_, ?_, ?_⟩
  · intro p hp
    rw [← h p hp]
    exact hchks.candidateById p hp
  · rw [← hflex]
    exact hchks.flexible
  · rw [← hpf]
    exact hchks.profile
  · rw [← hslots]
    exact hchks.schedules

/-- The slots of an admitted scenario that the verifier accepts are whole. -/
theorem wholeSlots_of_profileBoundaries {boundaries : Dict ℤ ℕ}
    (h : profileBoundaries scenario = .ok boundaries) :
    WholeSlots scenario ∧ boundaries = scenario.boundaries := by
  simp only [profileBoundaries, bind_eq_ok, checkAll_eq_ok, Except.ok.injEq] at h
  obtain ⟨_, hslots, rfl⟩ := h
  refine ⟨?_, rfl⟩
  intro slot hslot
  obtain ⟨i, hi, rfl⟩ := mem_iff_getElem.mp hslot
  have hi' : i < (slotsWithPrevious scenario).length := by
    rw [slotsWithPrevious, length_zip, length_cons, length_map]
    omega
  have hcheck := hslots (_, i) (mem_zipIdx_iff_getElem?.mpr (getElem?_eq_getElem hi'))
  rw [verifyProfileSlot, failIf_bind_eq_ok, failIf_bind_eq_ok] at hcheck
  simp only [slotsWithPrevious, getElem_zip] at hcheck
  omega

/-- The structural checks after the schedules were read: each occurrence is executed and
the caps hold. -/
theorem verifyStructure_eq_ok (hv : Valid scenario) :
    verifyStructure scenario candidate = .ok checked ↔
      WholeSlots scenario ∧ ∃ submitted, scheduleMap candidate
          ((canonicalOccurrences scenario).map fun p => p.2.occurrenceId) = .ok submitted ∧
        (∀ p ∈ scenario.occurrences, ∃ schedule,
          submitted.get? p.2.occurrenceId = some schedule ∧ scenario.Places schedule.slots) ∧
        Feasible scenario (submittedRow submitted) ∧
        ∃ references, backgroundAndReference scenario
            = .ok (fixedBackground scenario, references) ∧
          checked = ⟨fixedBackground scenario, references,
            (canonicalOccurrences scenario).foldl (fun d p => d.set p.2.occurrenceId
              (submittedRow submitted p.2.occurrenceId)) Dict.empty,
            flexibleOf scenario (submittedRow submitted),
            profileOf scenario (submittedRow submitted),
            (canonicalOccurrences scenario).flatMap fun p =>
              (submitted.get? p.2.occurrenceId).toList⟩ := by
  have hstep : ∀ submitted, ∀ s, ∀ p ∈ canonicalOccurrences scenario, ∀ s', _ ↔ _ :=
    fun submitted s p _ s' => @verifyOccurrence_eq_ok scenario submitted p s s'
  obtain ⟨references, hreferences, -⟩ := backgroundAndReference_of_valid hv
  rw [verifyStructure]
  constructor
  · intro h
    simp only [bind_eq_ok, Except.ok.injEq] at h
    obtain ⟨boundaries, hboundaries, _, -, submitted, hsubd, refs, hrefs, s, hs, _, hcaps,
      rfl⟩ := h
    obtain ⟨hwhole, rfl⟩ := wholeSlots_of_profileBoundaries hboundaries
    rw [foldlM_eq_ok_iff (hstep submitted), foldl_collect] at hs
    obtain ⟨hall, rfl⟩ := hs
    rw [hreferences, Except.ok.injEq] at hrefs
    subst hrefs
    rw [forall_canonicalOccurrences] at hall
    have hadmissible := fun p hp => (hall p hp).2
    refine ⟨hwhole, submitted, hsubd, fun p hp => (hall p hp).1, ⟨hadmissible, ?_⟩,
      references, hreferences, rfl⟩
    exact (checkCaps_eq_ok (length_profileOf hv hadmissible)
      (length_flexibleOf hadmissible)).mp hcaps
  · rintro ⟨hwhole, submitted, hsubd, hpl, hfeas, references, hreferences, rfl⟩
    have hloop := (foldlM_eq_ok_iff (hstep submitted)
      ⟨Dict.empty, replicate scenario.slotCount 0, []⟩ _).mpr
      ⟨forall_canonicalOccurrences.mpr fun p hp => ⟨hpl p hp, hfeas.admissible p hp⟩, rfl⟩
    rw [foldl_collect] at hloop
    rw [profileBoundaries_of_valid hv hwhole, ok_bind, verifyDisjointWindows_of_valid hv,
      ok_bind, hsubd, ok_bind, hreferences, ok_bind, hloop, ok_bind]
    simp only [nil_append]
    exact bind_eq_ok.mpr ⟨(), (checkCaps_eq_ok (length_profileOf hv hfeas.admissible)
      (length_flexibleOf hfeas.admissible)).mpr hfeas.caps, rfl⟩

/-- The schedules collected for a complete submission are those of the plan. -/
theorem scheduleSlots_collected (hkeys : ∀ id s, submitted.get? id = some s → s.occurrenceId = id)
    {l : List (FlexibleLoad × LoadOccurrence)}
    (h : ∀ p ∈ l, ∃ schedule, submitted.get? p.2.occurrenceId = some schedule ∧
      scenario.Places schedule.slots) :
    scheduleSlots (l.flatMap fun p => (submitted.get? p.2.occurrenceId).toList)
      = l.map fun p => (p.2.occurrenceId,
          scenario.energySlots (submittedRow submitted p.2.occurrenceId)) := by
  induction l with
  | nil => rfl
  | cons p l ih =>
    obtain ⟨schedule, hg, hpl⟩ := h p mem_cons_self
    have hrest := ih fun q hq => h q (mem_cons_of_mem p hq)
    rw [scheduleSlots] at hrest
    rw [flatMap_cons, hg, Option.toList_some, singleton_append, scheduleSlots,
      map_cons, map_cons, hrest, submittedRow, hg, Option.elim_some,
      ← hpl.eq_energySlots, hkeys _ _ hg]

/-- The schedules in a map carry the identifiers they are found under. -/
theorem occurrenceId_of_scheduleMap {ids : List UUID}
    (h : scheduleMap candidate ids = .ok submitted) {id : UUID} (hg : submitted.get? id = some s) :
    s ∈ candidate.occurrences ∧ s.occurrenceId = id := by
  rw [Dict.get?_eq_some, (scheduleMap_eq_ok.mp h).2.1, mem_map] at hg
  obtain ⟨s', hmem, heq⟩ := hg
  cases heq
  exact ⟨hmem, rfl⟩

/-- The candidate has one schedule for each occurrence, with every slot at its place. -/
structure Complete (scenario : ScenarioInput) (candidate : CandidateSchedule) : Prop where
  nodup : (candidate.occurrences.map OccurrenceSchedule.occurrenceId).Nodup
  ids : SameElements (candidate.occurrences.map OccurrenceSchedule.occurrenceId)
    ((canonicalOccurrences scenario).map fun p => p.2.occurrenceId)
  places : ∀ s ∈ candidate.occurrences, scenario.Places s.slots

/-- The schedules of the candidate have the energies of the plan. -/
def Submits (candidate : CandidateSchedule) (x : UUID → List ℕ) : Prop :=
  ∀ s ∈ candidate.occurrences, x s.occurrenceId = energies s.slots

theorem keys_of_scheduleMap
    (h : submitted.entries = candidate.occurrences.map fun s => (s.occurrenceId, s)) :
    submitted.keys = candidate.occurrences.map OccurrenceSchedule.occurrenceId := by
  rw [Dict.keys, h, map_map]
  rfl

theorem get?_of_scheduleMap
    (h : submitted.entries = candidate.occurrences.map fun s => (s.occurrenceId, s))
    (hs : s ∈ candidate.occurrences) :
    submitted.get? s.occurrenceId = some s := by
  rw [Dict.get?_eq_some, h]
  exact mem_map.mpr ⟨s, hs, rfl⟩

theorem Complete.schedule (h : Complete scenario candidate)
    (hp : p ∈ scenario.occurrences) :
    ∃ s ∈ candidate.occurrences, s.occurrenceId = p.2.occurrenceId :=
  mem_map.mp (h.ids.2 _ (mem_map.mpr ⟨p, mem_canonicalOccurrences.mpr hp, rfl⟩))

theorem Complete.occurrence (h : Complete scenario candidate) (hs : s ∈ candidate.occurrences) :
    ∃ p ∈ scenario.occurrences, p.2.occurrenceId = s.occurrenceId := by
  obtain ⟨p, hp, hid⟩ := mem_map.mp (h.ids.1 _ (mem_map.mpr ⟨s, hs, rfl⟩))
  exact ⟨p, mem_canonicalOccurrences.mp hp, hid⟩

/-- **What the structural checks return**, for a candidate they accept. -/
theorem verifyStructure_checks (hv : Valid scenario)
    (h : verifyStructure scenario candidate = .ok checked) :
    WholeSlots scenario ∧ Complete scenario candidate ∧
      ∃ x, Checks scenario x checked ∧ Submits candidate x := by
  obtain ⟨hwhole, submitted, hsubd, hpl, hfeas, references, hrefs, rfl⟩ :=
    (verifyStructure_eq_ok hv).mp h
  obtain ⟨hnodup, hent, hids⟩ := scheduleMap_eq_ok.mp hsubd
  rw [keys_of_scheduleMap hent] at hids
  obtain ⟨references', hrefs', hg⟩ := backgroundAndReference_of_valid hv
  rw [hrefs, Except.ok.injEq, Prod.mk.injEq] at hrefs'
  obtain ⟨-, rfl⟩ := hrefs'
  refine ⟨hwhole, ⟨hnodup, hids, ?_⟩, submittedRow submitted,
    ⟨hfeas, rfl, hg, ?_, rfl, rfl, ?_⟩, ?_⟩
  · intro s hs
    obtain ⟨p, hp, hid⟩ := mem_map.mp (hids.1 _ (mem_map.mpr ⟨s, hs, rfl⟩))
    obtain ⟨schedule, hfind, hplace⟩ := hpl p (mem_canonicalOccurrences.mp hp)
    rw [hid, get?_of_scheduleMap hent hs, Option.some.injEq] at hfind
    rwa [hfind]
  · intro p hp
    exact Dict.get?_foldl_set (canonicalIds_nodup hv) (mem_canonicalOccurrences.mpr hp)
  · exact scheduleSlots_collected
      (fun id s hs => (occurrenceId_of_scheduleMap hsubd hs).2)
      (forall_canonicalOccurrences.mpr hpl)
  · intro s hs
    rw [submittedRow, get?_of_scheduleMap hent hs, Option.elim_some]

/-- **A feasible plan is accepted**, in whatever order its schedules are submitted. -/
theorem verifyStructure_of_feasible (hv : Valid scenario) (hwhole : WholeSlots scenario)
    (hx : Feasible scenario x) (hcpl : Complete scenario candidate)
    (hsubmits : Submits candidate x) :
    ∃ checked, verifyStructure scenario candidate = .ok checked ∧ Checks scenario x checked := by
  obtain ⟨submitted, hent⟩ : ∃ d : Dict UUID OccurrenceSchedule,
      d.entries = candidate.occurrences.map fun s => (s.occurrenceId, s) :=
    ⟨⟨_, by simpa [Function.comp_def] using hcpl.nodup⟩, rfl⟩
  have hsubd : scheduleMap candidate
      ((canonicalOccurrences scenario).map fun p => p.2.occurrenceId) = .ok submitted := by
    refine scheduleMap_eq_ok.mpr ⟨hcpl.nodup, hent, ?_⟩
    rw [keys_of_scheduleMap hent]
    exact hcpl.ids
  have hg : ∀ p ∈ scenario.occurrences, ∃ s ∈ candidate.occurrences,
      submitted.get? p.2.occurrenceId = some s ∧ x p.2.occurrenceId = energies s.slots := by
    intro p hp
    obtain ⟨s, hs, hid⟩ := hcpl.schedule hp
    rw [← hid]
    exact ⟨s, hs, get?_of_scheduleMap hent hs, hsubmits s hs⟩
  have hrows : ∀ p ∈ scenario.occurrences,
      submittedRow submitted p.2.occurrenceId = x p.2.occurrenceId := by
    intro p hp
    obtain ⟨s, -, hfind, hrow⟩ := hg p hp
    rw [submittedRow, hfind, Option.elim_some, hrow]
  have hfeas : Feasible scenario (submittedRow submitted) :=
    hx.congr fun p hp => (hrows p hp).symm
  have hpl : ∀ p ∈ scenario.occurrences, ∃ schedule,
      submitted.get? p.2.occurrenceId = some schedule ∧ scenario.Places schedule.slots := by
    intro p hp
    obtain ⟨s, hs, hfind, -⟩ := hg p hp
    exact ⟨s, hfind, hcpl.places s hs⟩
  obtain ⟨references, hrefs, -⟩ := backgroundAndReference_of_valid hv
  have hok := (verifyStructure_eq_ok hv).mpr ⟨hwhole, submitted, hsubd, hpl, hfeas,
    references, hrefs, rfl⟩
  obtain ⟨-, -, y, hchks, hy⟩ := verifyStructure_checks hv hok
  refine ⟨_, hok, hchks.congr ?_⟩
  intro p hp
  obtain ⟨s, hs, hid⟩ := hcpl.schedule hp
  rw [← hid, hy s hs, hsubmits s hs]

/-! ### The score of a plan -/

/-- The entries of all occurrences that differ from their references. -/
def planChanged (scenario : ScenarioInput) (x : UUID → List ℕ) : ℕ :=
  ((canonicalOccurrences scenario).map fun p =>
    changedCount (x p.2.occurrenceId) p.2.referenceEnergy).sum

/-- The completion slot of a row, counted from 1; 0 where there is no energy. -/
def completionSlot (row : List ℕ) : ℕ := (positiveSlots row).getLast?.getD 0

/-- The completion slots of all occurrences, added up. -/
def planCompletion (scenario : ScenarioInput) (x : UUID → List ℕ) : ℕ :=
  ((canonicalOccurrences scenario).map fun p => completionSlot (x p.2.occurrenceId)).sum

/-- All energies in canonical order, each times its position. -/
def planStable (scenario : ScenarioInput) (x : UUID → List ℕ) : ℕ :=
  positionScore 0 ((canonicalOccurrences scenario).flatMap fun p => x p.2.occurrenceId)

theorem positionScore_append (position : ℕ) (l l' : List ℕ) :
    positionScore position (l ++ l')
      = positionScore position l + positionScore (position + l.length) l' := by
  rw [positionScore, zipIdx_append, map_append, sum_append, positionScore,
    positionScore, show position + 1 + l.length = position + l.length + 1 by omega]

theorem positiveSlots_ne_nil (h : 0 < row.sum) : positiveSlots row ≠ [] := by
  intro hnil
  rw [positiveSlots, map_eq_nil_iff, filter_eq_nil_iff] at hnil
  refine absurd h (not_lt.mpr (Nat.le_zero.mpr (sum_eq_zero ?_)))
  intro amount hmem
  have hzero := (forall_mem_zipIdx_fst (P := fun amount => ¬ decide (0 < amount) = true)).mp
    hnil amount hmem
  simpa using hzero

/-- The loop of `_objective` adds up the score of a plan. -/
theorem foldlM_scoreOccurrence {candidateById references : Dict UUID (List ℕ)}
    {l : List (FlexibleLoad × LoadOccurrence)} {s : ObjectiveState}
    (hrefs : ∀ p ∈ l, references.get? p.2.occurrenceId = some p.2.referenceEnergy)
    (hcandidates : ∀ p ∈ l, candidateById.get? p.2.occurrenceId = some (x p.2.occurrenceId))
    (hpos : ∀ p ∈ l, 0 < (x p.2.occurrenceId).sum) :
    l.foldlM (scoreOccurrence candidateById references) s = .ok
      ⟨s.changed + (l.map fun p => changedCount (x p.2.occurrenceId) p.2.referenceEnergy).sum,
        s.completion + (l.map fun p => completionSlot (x p.2.occurrenceId)).sum,
        s.stableScore + positionScore s.position (l.flatMap fun p => x p.2.occurrenceId),
        s.position + (l.flatMap fun p => x p.2.occurrenceId).length⟩ := by
  induction l generalizing s with
  | nil => simp [positionScore]
  | cons p l ih =>
    have hcompletion : (positiveSlots (x p.2.occurrenceId)).getLast?
        = some (completionSlot (x p.2.occurrenceId)) := by
      have hne := positiveSlots_ne_nil (hpos p mem_cons_self)
      rw [completionSlot, getLast?_eq_some_getLast hne, Option.getD_some]
    have hs : scoreOccurrence candidateById references s p = .ok
        ⟨s.changed + changedCount (x p.2.occurrenceId) p.2.referenceEnergy,
          s.completion + completionSlot (x p.2.occurrenceId),
          s.stableScore + positionScore s.position (x p.2.occurrenceId),
          s.position + (x p.2.occurrenceId).length⟩ := by
      rw [scoreOccurrence, hcandidates p mem_cons_self, hrefs p mem_cons_self]
      simp only [Option.elim_some, ok_bind, hcompletion]
    rw [foldlM_cons, hs, ok_bind,
      ih (fun q hq => hrefs q (mem_cons_of_mem p hq))
        (fun q hq => hcandidates q (mem_cons_of_mem p hq))
        (fun q hq => hpos q (mem_cons_of_mem p hq))]
    simp only [map_cons, sum_cons, flatMap_cons, length_append,
      positionScore_append]
    congr 2 <;> omega

/-- **The score of an accepted candidate** is that of its plan. -/
theorem objective_of_checks (h : Checks scenario x checked)
    (supportedCostCents : ℤ) :
    objective scenario checked.candidateById checked.references supportedCostCents
      = .ok ⟨supportedCostCents, planChanged scenario x, planCompletion scenario x,
          planStable scenario x⟩ := by
  have hpos : ∀ p ∈ scenario.occurrences, 0 < (x p.2.occurrenceId).sum := by
    intro p hp
    rw [(h.feasible.admissible p hp).sum]
    exact p.2.required_pos
  rw [objective, foldlM_scoreOccurrence (forall_canonicalOccurrences.mpr h.references)
    (forall_canonicalOccurrences.mpr h.candidateById) (forall_canonicalOccurrences.mpr hpos),
    ok_bind]
  simp only [Nat.zero_add]
  rfl

/-! ### The reference -/

/-- The plan that gives each occurrence the row of its own. -/
def planOf (scenario : ScenarioInput) (row : FlexibleLoad × LoadOccurrence → List ℕ)
    (id : UUID) : List ℕ :=
  (scenario.occurrences.find? fun p => p.2.occurrenceId = id).elim [] row

section Admitted

variable (hv : Valid scenario)

include hv

theorem find?_occurrence (hp : p ∈ scenario.occurrences) :
    (scenario.occurrences.find? fun q => q.2.occurrenceId = p.2.occurrenceId) = some p := by
  have hfnd : (scenario.occurrences.find?
      fun q => q.2.occurrenceId = p.2.occurrenceId).isSome := by
    rw [find?_isSome]
    exact ⟨p, hp, by simp⟩
  obtain ⟨q, hq⟩ := Option.isSome_iff_exists.mp hfnd
  have hid : q.2.occurrenceId = p.2.occurrenceId := by simpa using find?_some hq
  rw [hq, inj_on_of_nodup_map hv.occurrenceIds (mem_of_find?_eq_some hq) hp hid]

theorem planOf_occurrence (f : FlexibleLoad × LoadOccurrence → List ℕ)
    (hp : p ∈ scenario.occurrences) :
    planOf scenario f p.2.occurrenceId = f p := by
  rw [planOf, find?_occurrence hv hp, Option.elim_some]

/-- The plan of the references. -/
def referencePlan (scenario : ScenarioInput) : UUID → List ℕ :=
  planOf scenario fun p => p.2.referenceEnergy

/-- Both modes together are all occurrences. -/
theorem flexibleOf_referencePlan :
    flexibleOf scenario (referencePlan scenario) = flexibleReference scenario := by
  have hlen : ∀ p ∈ scenario.occurrences, p.2.referenceEnergy.length = scenario.slotCount :=
    fun p hp => length_referenceEnergy hv.places hp
  have hrows : ((canonicalOccurrences scenario).map
      fun p => referencePlan scenario p.2.occurrenceId)
        = (canonicalOccurrences scenario).map fun p => p.2.referenceEnergy :=
    map_congr_left fun p hp => planOf_occurrence hv _ (mem_canonicalOccurrences.mp hp)
  have hmode : (scenario.occurrences.filter fun p => p.1.mode = .historicalAddition)
      = scenario.occurrences.filter fun p => !decide (p.1.mode = .shiftExisting) := by
    refine filter_congr fun p _ => ?_
    cases p.1.mode <;> rfl
  have hcan : ∀ row ∈ (canonicalOccurrences scenario).map fun p => p.2.referenceEnergy,
      row.length = scenario.slotCount := by
    intro row hrow
    obtain ⟨p, hp, rfl⟩ := mem_map.mp hrow
    exact hlen p (mem_canonicalOccurrences.mp hp)
  rw [flexibleOf, hrows, sumRows_perm ((canonicalOccurrences_perm scenario).map _) hcan,
    flexibleReference, modeReference, modeReference, hmode, sumRows_filter _ hlen]

theorem profileOf_referencePlan :
    profileOf scenario (referencePlan scenario) = unchangedReference scenario := by
  rw [profileOf, flexibleOf_referencePlan hv, unchangedReference]

theorem feasible_referencePlan :
    Feasible scenario (referencePlan scenario) := by
  refine ⟨?_, ?_⟩
  · intro p hp
    rw [referencePlan, planOf_occurrence hv _ hp]
    exact hv.reference p hp
  · rw [profileOf_referencePlan hv, flexibleOf_referencePlan hv]
    exact hv.caps

/-- Schedules in canonical order are complete, and submit their plan. -/
theorem complete_of_planSlots
    (hlength : ∀ p ∈ scenario.occurrences, (x p.2.occurrenceId).length = scenario.slotCount)
    (hslots : scheduleSlots candidate.occurrences = planSlots scenario x) :
    Complete scenario candidate ∧ Submits candidate x := by
  have hids : candidate.occurrences.map OccurrenceSchedule.occurrenceId
      = (canonicalOccurrences scenario).map fun p => p.2.occurrenceId := by
    have hfst := congrArg (map Prod.fst) hslots
    rwa [scheduleSlots, planSlots, map_map, map_map] at hfst
  have hsch : ∀ s ∈ candidate.occurrences, ∃ p ∈ scenario.occurrences,
      s.occurrenceId = p.2.occurrenceId ∧
        s.slots = scenario.energySlots (x p.2.occurrenceId) := by
    intro s hs
    have hmem : (s.occurrenceId, s.slots) ∈ planSlots scenario x := by
      rw [← hslots]
      exact mem_map.mpr ⟨s, hs, rfl⟩
    obtain ⟨p, hp, heq⟩ := mem_map.mp hmem
    rw [Prod.mk.injEq] at heq
    exact ⟨p, mem_canonicalOccurrences.mp hp, heq.1.symm, heq.2.symm⟩
  refine ⟨⟨?_, ?_, ?_⟩, ?_⟩
  · rw [hids]
    exact canonicalIds_nodup hv
  · rw [hids]
    exact ⟨fun _ h => h, fun _ h => h⟩
  · intro s hs
    obtain ⟨p, hp, -, hslots⟩ := hsch s hs
    rw [hslots]
    exact places_energySlots (hlength p hp)
  · intro s hs
    obtain ⟨p, hp, hid, hslots⟩ := hsch s hs
    rw [hslots, hid, energies_energySlots (hlength p hp)]

theorem scheduleSlots_candidateFromReference :
    scheduleSlots (candidateFromReference scenario).occurrences
      = planSlots scenario (referencePlan scenario) := by
  rw [scheduleSlots, candidateFromReference, map_map]
  refine map_congr_left fun p hp => ?_
  have hp' := mem_canonicalOccurrences.mp hp
  rw [referencePlan, planOf_occurrence hv _ hp', LoadOccurrence.referenceEnergy,
    ← (hv.places p hp').eq_energySlots]
  rfl

end Admitted

theorem changedCount_self (row : List ℕ) : changedCount row row = 0 := by
  rw [changedCount, length_eq_zero_iff, filter_eq_nil_iff]
  intro e he
  obtain ⟨i, hi, rfl⟩ := mem_iff_getElem.mp he
  simp

theorem planChanged_referencePlan (hv : Valid scenario) :
    planChanged scenario (referencePlan scenario) = 0 := by
  refine sum_eq_zero ?_
  intro n hn
  obtain ⟨p, hp, rfl⟩ := mem_map.mp hn
  rw [referencePlan, planOf_occurrence hv _ (mem_canonicalOccurrences.mp hp)]
  exact changedCount_self _

theorem complete_candidateFromReference (hv : Valid scenario) :
    Complete scenario (candidateFromReference scenario) ∧
      Submits (candidateFromReference scenario) (referencePlan scenario) :=
  complete_of_planSlots hv (fun p hp => ((feasible_referencePlan hv).admissible p hp).length)
    (scheduleSlots_candidateFromReference hv)

/-- The structural checks accept the reference of an admitted scenario, as its own plan. -/
theorem verifyStructure_candidateFromReference (hv : Valid scenario)
    (hwhole : WholeSlots scenario) :
    ∃ checked, verifyStructure scenario (candidateFromReference scenario) = .ok checked ∧
      Checks scenario (referencePlan scenario) checked :=
  verifyStructure_of_feasible hv hwhole (feasible_referencePlan hv)
    (complete_candidateFromReference hv).1 (complete_candidateFromReference hv).2

end Inversion

/-- **The reference of an admitted scenario is accepted.**  The verifier finds the background
and the profile of the decomposition, and no changed slot. -/
theorem reference_passes_structure {scenario : ScenarioInput} {validated : ValidatedScenario}
    (hvalidated : validateAndDecomposeScenario scenario = .ok validated)
    (hwhole : WholeSlots scenario) :
    ∃ checked, verifyStructure scenario (candidateFromReference scenario) = .ok checked ∧
      scenario.energySlots checked.background = validated.decomposition.fixedBackground ∧
      scenario.energySlots checked.profile = validated.decomposition.unchangedReferenceProfile ∧
      ∀ supportedCostCents, ∃ score,
        objective scenario checked.candidateById checked.references supportedCostCents
          = .ok score ∧
        score.changedOccurrenceSlotCount = 0 := by
  obtain ⟨hvalid, -, hbackground, hprofile⟩ := validateAndDecomposeScenario_valid hvalidated
  obtain ⟨checked, hok, hchecks⟩ := verifyStructure_candidateFromReference hvalid hwhole
  refine ⟨checked, hok, ?_, ?_, ?_⟩
  · rw [hchecks.background, hbackground]
  · rw [hchecks.profile, profileOf_referencePlan hvalid, hprofile]
  · intro supportedCostCents
    exact ⟨_, objective_of_checks hchecks supportedCostCents, planChanged_referencePlan hvalid⟩

/-! ### A small scenario

Three hours from two in the afternoon, of which the last is peak.  A car is charged in the
peak hour; a dishwasher, not in the measured profile, runs in the first. -/

namespace SmallScenario

/-- 1 July 2026 at the given hour, seven hours behind UTC. -/
def hour (h : ℤ) : ℤ := (20635 * 86400 + (h + 7) * 3600) * 1000000

theorem hour_pos : 0 < 3600 := by decide

def slot (h : ℤ) (measuredEnergyWh : ℕ) : CanonicalProfileSlot :=
  ⟨hour h, 3600, measuredEnergyWh, hour_pos⟩

def row (e₀ e₁ e₂ : ℕ) : List EnergySlot :=
  [⟨hour 14, 3600, e₀, hour_pos⟩, ⟨hour 15, 3600, e₁, hour_pos⟩, ⟨hour 16, 3600, e₂, hour_pos⟩]

def car : FlexibleLoad where
  loadId := 1
  physicalAssetKey := "car"
  kind := .ev
  mode := .shiftExisting
  executionSpec := .interruptible ⟨1000, 100, by decide, by decide⟩
  occurrences :=
    [⟨1, 1000, hour 14, hour 17, row 0 0 1000, by decide, by decide +kernel, by decide⟩]
  occurrences_ne := by decide

def dishwasher : FlexibleLoad where
  loadId := 2
  physicalAssetKey := "dishwasher"
  kind := .dishwasher
  mode := .historicalAddition
  executionSpec := .fixedShape ⟨[300], by decide, by decide⟩
  occurrences := [⟨2, 300, hour 14, hour 16, row 300 0 0, by decide, by decide +kernel, by decide⟩]
  occurrences_ne := by decide

def scenario : ScenarioInput where
  profileContentSha256 := "profile"
  tariffVersionId := "small-v1"
  profileSlots := [slot 14 200, slot 15 200, slot 16 1200]
  loads := [car, dishwasher]
  electricalConstraints := ⟨some 5000, some 2000, by decide, by decide⟩
  profileSlots_ne := by decide
  loads_ne := by decide

/-- The first two hours as one slot, in which the dishwasher runs. -/
def twoHours : ScenarioInput where
  profileContentSha256 := "profile"
  tariffVersionId := "small-v1"
  profileSlots := [⟨hour 14, 7200, 400, by decide⟩]
  loads := [{ dishwasher with
    occurrences := [⟨2, 300, hour 14, hour 16, [⟨hour 14, 7200, 300, by decide⟩], by decide,
      by decide +kernel, by decide⟩]
    occurrences_ne := by decide }]
  electricalConstraints := ⟨none, none, nofun, nofun⟩
  profileSlots_ne := by decide
  loads_ne := by decide

theorem validated : ∃ v, validateAndDecomposeScenario scenario = .ok v := by decide +kernel

theorem wholeSlots : WholeSlots scenario := by decide +kernel

end SmallScenario

theorem reference_passes_structure_small : ∃ validated checked,
    validateAndDecomposeScenario SmallScenario.scenario = .ok validated ∧
      verifyStructure SmallScenario.scenario (candidateFromReference SmallScenario.scenario)
        = .ok checked ∧
      SmallScenario.scenario.energySlots checked.profile
        = validated.decomposition.unchangedReferenceProfile := by
  obtain ⟨validated, hvalidated⟩ := SmallScenario.validated
  obtain ⟨checked, hok, -, hprofile, -⟩ :=
    reference_passes_structure hvalidated SmallScenario.wholeSlots
  exact ⟨validated, checked, hvalidated, hok, hprofile⟩

end RateReplay
