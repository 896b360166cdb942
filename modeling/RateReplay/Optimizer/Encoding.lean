import RateReplay.Optimizer.LoweredModel

/-!
# The lowered model admits exactly the feasible plans

Each part of the model is compared with what it stands for: the variables of an occurrence
with its executions, the indicators with the changed and active slots, the caps with the
caps.  An assignment of the model carries a plan, the plan is feasible, and the objectives
are its score; every feasible plan is carried by an assignment.

## Main definitions

* `Carries` — the energies of an assignment are a row.
* `CarriesPlan` — the energies of an assignment are a plan.
* `extension` — the assignment that carries a plan.

## Main results

* `feasible_of_satisfies`, `satisfies_extension` — **soundness and completeness of the model.**
* `eval_changed`, `eval_completion`, `eval_stable` — the objectives are the score of the plan.
* `lowered_model_exact` — **the model admits exactly what the verifier accepts.**
-/

namespace RateReplay

open List

variable {scenario : ScenarioInput} {a : Var → ℤ} {row : List ℕ} {occurrenceId : UUID}
  {amount c : ℕ} {spec : ContiguousFixedShapeSpec} {occurrence : LoadOccurrence} {i : ℕ}
  {lowered : LoweredScenarioModel} {candidate : CandidateSchedule}

/-! ### Rows of an assignment -/

/-- The energies the assignment gives an occurrence are the row. -/
structure Carries (scenario : ScenarioInput) (a : Var → ℤ) (occurrenceId : UUID)
    (row : List ℕ) : Prop where
  length : row.length = scenario.slotCount
  energy : ∀ i < scenario.slotCount, a (.energy occurrenceId i) = row.getD i 0

/-- The energies an assignment gives an occurrence. -/
def rowOf (scenario : ScenarioInput) (a : Var → ℤ) (occurrenceId : UUID) : List ℕ :=
  (List.range scenario.slotCount).map fun i => (a (.energy occurrenceId i)).toNat

theorem carries_rowOf (h : ∀ i < scenario.slotCount, 0 ≤ a (.energy occurrenceId i)) :
    Carries scenario a occurrenceId (rowOf scenario a occurrenceId) := by
  refine ⟨by simp [rowOf], ?_⟩
  intro i hi
  have hnonneg := h i hi
  rw [rowOf, getD_eq_getElem _ _ (by simpa using hi)]
  simp only [getElem_map, getElem_range]
  omega

theorem Carries.map_energyVars (h : Carries scenario a occurrenceId row) :
    (energyVars scenario occurrenceId).map a = row.map fun (e : ℕ) => (e : ℤ) := by
  refine ext_getElem (by simp [energyVars, h.length]) ?_
  intro i hi _
  have hi' : i < scenario.slotCount := by simpa [energyVars] using hi
  have hen := h.energy i hi'
  rw [getD_eq_getElem _ _ (h.length ▸ hi')] at hen
  simpa [energyVars] using hen

/-! ### Interruptible loads -/

/-- The indicator of an amount of energy is determined. -/
theorem satisfies_activity {energy : Var} (active : Var) (h : a energy = amount) :
    (activity energy active).Satisfies a ↔ a active = if 0 < amount then 1 else 0 := by
  simp only [CpModel.Satisfies, CpModel.InDomains, activity, VarDomain.bool, mem_cons,
    not_mem_nil, or_false, forall_eq, forall_eq_or_imp, Constraint.holds_addIf,
    Constraint.holds_addIfNot, Relation.Holds, LinExpr.eval_singleton_var,
    LinExpr.eval_singleton_const, h]
  split_ifs with hpos
  · omega
  · omega

/-- Whether a row is within the limits of an interruptible load at one slot. -/
theorem satisfies_interruptibleSlot {spec : InterruptibleModulatingSpec} {window : ℕ × ℕ}
    {e : CanonicalProfileSlot × ℕ} (hamount : a (.energy occurrenceId e.2) = amount) :
    (interruptibleSlot spec occurrenceId window e).Satisfies a ↔
      a (.active occurrenceId e.2) = (if 0 < amount then 1 else 0) ∧
        (0 < amount → window.1 ≤ e.2 ∧ e.2 < window.2) ∧
        amount * 3600 ≤ spec.maximumPowerW * e.1.durationSeconds ∧
        (0 < amount → spec.minimumPowerWhenActiveW * e.1.durationSeconds ≤ amount * 3600) := by
  rw [interruptibleSlot, CpModel.satisfies_append, CpModel.satisfies_append,
    satisfies_activity (.active occurrenceId e.2) hamount]
  simp only [CpModel.Satisfies, CpModel.InDomains, mem_cons, not_mem_nil, or_false,
    forall_eq, Constraint.holds_add, Relation.Holds, LinExpr.eval_scale,
    LinExpr.eval_singleton_var, LinExpr.eval_singleton_const, hamount, IsEmpty.forall_iff,
    implies_true, true_and]
  have hminimum : (∀ c ∈ (if spec.minimumPowerWhenActiveW = 0 then [] else
      [Constraint.addIf (Var.active occurrenceId e.2)
        (LinExpr.scale 3600 (.var (.energy occurrenceId e.2))) .ge
        (.const (spec.minimumPowerWhenActiveW * e.1.durationSeconds : ℕ))]), c.Holds a) ↔
      (a (.active occurrenceId e.2) = 1 →
        spec.minimumPowerWhenActiveW * e.1.durationSeconds ≤ amount * 3600) := by
    by_cases hzero : spec.minimumPowerWhenActiveW = 0
    · simp [hzero]
    · simp only [hzero, if_false, mem_singleton, forall_eq, Constraint.holds_addIf,
        Relation.Holds, LinExpr.eval_scale, LinExpr.eval_singleton_var,
        LinExpr.eval_singleton_const, hamount]
      refine imp_congr_right fun _ => ?_
      rw [mul_comm]
      exact_mod_cast Iff.rfl
  have hmaximum : (3600 * (amount : ℤ)
      ≤ ((spec.maximumPowerW * e.1.durationSeconds : ℕ) : ℤ)) ↔
      amount * 3600 ≤ spec.maximumPowerW * e.1.durationSeconds := by
    rw [mul_comm]
    exact_mod_cast Iff.rfl
  have hdomain : ((amount : ℤ) ≤ (interruptibleMaximum spec window e : ℕ)) ↔
      amount ≤ interruptibleMaximum spec window e := Nat.cast_le
  rw [hminimum, hmaximum, hdomain, interruptibleMaximum]
  rcases Nat.eq_zero_or_pos amount with rfl | hpos
  · simp
    intro h
    omega
  -- inside the window the domain repeats the maximum, outside it leaves only zero
  by_cases hwin : window.1 ≤ e.2 ∧ e.2 < window.2
  · rw [if_pos hwin, Nat.le_div_iff_mul_le (by decide)]
    simp only [hpos, if_true]
    constructor
    · rintro ⟨⟨⟨-, hmax⟩, hact⟩, hmin⟩
      exact ⟨hact, fun _ => hwin, hmax, fun _ => hmin hact⟩
    · rintro ⟨hact, -, hmax, hmin⟩
      exact ⟨⟨⟨⟨by omega, hmax⟩, hmax⟩, hact⟩, fun _ => hmin trivial⟩
  · rw [if_neg hwin]
    constructor
    · rintro ⟨⟨⟨h, -⟩, -⟩, -⟩
      omega
    · rintro ⟨-, h, -⟩
      exact absurd (h hpos) hwin

/-- **The variables of an interruptible load** carry its executions. -/
theorem satisfies_interruptibleVariables {spec : InterruptibleModulatingSpec} {window : ℕ × ℕ}
    (hrow : Carries scenario a occurrenceId row) :
    (interruptibleVariables scenario spec occurrenceId window).model.Satisfies a ↔
      (∀ i < scenario.slotCount,
        a (.active occurrenceId i) = if 0 < row.getD i 0 then 1 else 0) ∧
      Modulates scenario spec window.1 window.2 row := by
  rw [interruptibleVariables, CpModel.satisfies_concat, forall_mem_map,
    forall_mem_zipIdx (P := fun slot i =>
      (interruptibleSlot spec occurrenceId window (slot, i)).Satisfies a), Modulates]
  constructor
  · intro h
    refine ⟨fun i hi => ?_, fun i hi => ?_⟩
    · exact ((satisfies_interruptibleSlot (hrow.energy i hi)).mp (h i hi)).1
    · rw [ScenarioInput.duration_eq hi]
      exact ((satisfies_interruptibleSlot (hrow.energy i hi)).mp (h i hi)).2
  · rintro ⟨hact, hlimits⟩ i hi
    have hslot := hlimits i hi
    rw [ScenarioInput.duration_eq hi] at hslot
    exact (satisfies_interruptibleSlot (hrow.energy i hi)).mpr ⟨hact i hi, hslot⟩

/-! ### Fixed shapes -/

/-- The energies of a shape placed at a start. -/
theorem getD_placeShape (n : ℕ) (shape : List ℕ) (c i : ℕ) :
    (placeShape n shape c).getD i 0
      = if c ≤ i ∧ i < c + shape.length then shape.getD (i - c) 0 else 0 := by
  rw [placeShape]
  rcases lt_or_ge i c with hpre | hpre
  · rw [getD_append _ _ _ _ (by simp; omega), getD_append _ _ _ _ (by simpa using hpre),
      getD_replicate _ hpre, if_neg (by omega)]
  · rcases lt_or_ge i (c + shape.length) with hinside | hafter
    · rw [getD_append _ _ _ _ (by simpa using hinside),
        getD_append_right _ _ _ _ (by simpa using hpre), length_replicate,
        if_pos ⟨hpre, hinside⟩]
    · rw [getD_append_right _ _ _ _ (by simpa using hafter), getD_eq_getElem?_getD,
        getElem?_getD_replicate_default_eq, if_neg (by omega)]

theorem length_placeShape {n : ℕ} {shape : List ℕ} (h : c + shape.length ≤ n) :
    (placeShape n shape c).length = n := by
  simp only [placeShape, length_append, length_replicate]
  omega

theorem sum_placeShape (n : ℕ) (shape : List ℕ) (c : ℕ) :
    (placeShape n shape c).sum = shape.sum := by
  simp [placeShape]

/-- The energies of a slot, for the start that is chosen. -/
theorem eval_contributions {starts : List ℕ} (hnodup : starts.Nodup) (hc : c ∈ starts)
    (hchosen : ∀ c' ∈ starts, a (.start occurrenceId c') = if c' = c then 1 else 0) (n i : ℕ) :
    LinExpr.eval a ((contributions spec starts i).map fun e => .var e.2 (.start occurrenceId e.1))
      = (placeShape n spec.fixedSlotShapeWh c).getD i 0 := by
  rw [LinExpr.eval, contributions, map_map, map_map, getD_placeShape]
  have hterms : ((starts.filter fun c => c ≤ i ∧ i < c + spec.fixedSlotShapeWh.length).map
      ((Term.eval a ∘ fun e : ℕ × ℕ => Term.var e.2 (Var.start occurrenceId e.1)) ∘
        fun c => (c, spec.fixedSlotShapeWh.getD (i - c) 0)))
      = (starts.filter fun c => c ≤ i ∧ i < c + spec.fixedSlotShapeWh.length).map
          fun c' => (spec.fixedSlotShapeWh.getD (i - c') 0 : ℤ) * if c' = c then 1 else 0 := by
    refine map_congr_left fun c' hc' => ?_
    simp only [Function.comp_apply, Term.eval_var, hchosen c' (mem_of_mem_filter hc')]
  rw [hterms, sum_map_mul_indicator (hnodup.filter _)]
  by_cases hin : c ≤ i ∧ i < c + spec.fixedSlotShapeWh.length
  · rw [if_pos (mem_filter.mpr ⟨hc, by simpa using hin⟩), if_pos hin]
  · rw [if_neg (fun h => hin (by simpa using (mem_filter.mp h).2)), if_neg hin]
    rfl

/-- A placement stays within the bound of each slot. -/
theorem getD_placeShape_le (spec : ContiguousFixedShapeSpec) {starts : List ℕ} (hc : c ∈ starts)
    (n i : ℕ) :
    (placeShape n spec.fixedSlotShapeWh c).getD i 0 ≤ fixedShapeMaximum spec starts i := by
  rw [getD_placeShape]
  split_ifs with hin
  · refine le_foldl_max ?_
    rw [contributions, map_map]
    exact mem_map.mpr ⟨c, mem_filter.mpr ⟨hc, by simpa using hin⟩, rfl⟩
  · exact Nat.zero_le _

theorem satisfies_fixedShapeSlot {starts : List ℕ} (hnodup : starts.Nodup) (hc : c ∈ starts)
    (hchosen : ∀ c' ∈ starts, a (.start occurrenceId c') = if c' = c then 1 else 0) (n i : ℕ) :
    (fixedShapeSlot spec occurrenceId starts i).Satisfies a ↔
      a (.energy occurrenceId i) = (placeShape n spec.fixedSlotShapeWh c).getD i 0 := by
  have hle := getD_placeShape_le spec hc n i
  simp only [CpModel.Satisfies, CpModel.InDomains, fixedShapeSlot, mem_cons,
    not_mem_nil, or_false, forall_eq, Constraint.holds_add, Relation.Holds,
    LinExpr.eval_singleton_var, eval_contributions hnodup hc hchosen n i]
  constructor
  · exact fun h => h.2
  · intro h
    rw [h]
    exact ⟨⟨by positivity, by exact_mod_cast hle⟩, rfl⟩

/-- **The variables of a fixed shape** carry its placements. -/
theorem satisfies_fixedShapeVariables {starts : List ℕ} (hnodup : starts.Nodup)
    (hfits : ∀ c ∈ starts, c + spec.fixedSlotShapeWh.length ≤ scenario.slotCount)
    (hrow : Carries scenario a occurrenceId row) :
    (fixedShapeVariables scenario spec occurrenceId starts).model.Satisfies a ↔
      ∃ c ∈ starts, (∀ c' ∈ starts, a (.start occurrenceId c') = if c' = c then 1 else 0) ∧
        placeShape scenario.slotCount spec.fixedSlotShapeWh c = row := by
  have hinj : Function.Injective (Var.start occurrenceId) := by
    intro c c' h
    cases h
    rfl
  have hchoice : (⟨starts.map fun c => .bool (.start occurrenceId c),
      [.exactlyOne (starts.map (Var.start occurrenceId))], []⟩ : CpModel Var).Satisfies a ↔
      ∃ c ∈ starts, ∀ c' ∈ starts, a (.start occurrenceId c') = if c' = c then 1 else 0 := by
    have hone := Constraint.exactlyOne_iff (a := a) (hnodup.map hinj)
    simp only [forall_mem_map] at hone
    simp only [mem_map, exists_exists_and_eq_and, hinj.eq_iff] at hone
    rw [← hone]
    simp only [CpModel.Satisfies, CpModel.InDomains, forall_mem_map, VarDomain.bool,
      mem_singleton, forall_eq]
  -- once the start is chosen, every slot has the energy of the shape placed there
  have hslots : ∀ c ∈ starts,
      (∀ c' ∈ starts, a (.start occurrenceId c') = if c' = c then 1 else 0) →
      ((∀ i ∈ range scenario.slotCount,
          (fixedShapeSlot spec occurrenceId starts i).Satisfies a) ↔
        placeShape scenario.slotCount spec.fixedSlotShapeWh c = row) := by
    intro c hc hchosen
    simp only [satisfies_fixedShapeSlot hnodup hc hchosen scenario.slotCount, mem_range]
    constructor
    · intro h
      refine eq_of_getD_eq (by rw [length_placeShape (hfits c hc), hrow.length]) ?_
      intro i hi
      rw [length_placeShape (hfits c hc)] at hi
      have hen := h i hi
      rw [hrow.energy i hi] at hen
      exact_mod_cast hen.symm
    · rintro h i hi
      rw [h, hrow.energy i hi]
  rw [fixedShapeVariables, CpModel.satisfies_append, CpModel.satisfies_concat, hchoice,
    forall_mem_map]
  constructor
  · rintro ⟨⟨c, hc, hchosen⟩, hall⟩
    exact ⟨c, hc, hchosen, (hslots c hc hchosen).mp hall⟩
  · rintro ⟨c, hc, hchosen, hplace⟩
    exact ⟨⟨c, hc, hchosen⟩, (hslots c hc hchosen).mpr hplace⟩

/-! ### Occurrences -/

theorem mem_allowedStarts {start stop length : ℕ} (h : c ∈ allowedStarts start stop length) :
    start ≤ c ∧ c + length ≤ stop := by
  rw [allowedStarts, mem_range'_1] at h
  omega

theorem nodup_allowedStarts (start stop length : ℕ) : (allowedStarts start stop length).Nodup :=
  nodup_range'

/-- The starts of a fixed shape in its window. -/
def startsOf (scenario : ScenarioInput) (occurrence : LoadOccurrence)
    (spec : ContiguousFixedShapeSpec) : List ℕ :=
  allowedStarts (windowOf scenario occurrence).1 (windowOf scenario occurrence).2
    spec.fixedSlotShapeWh.length

theorem satisfies_energyRequirement (hrow : Carries scenario a occurrence.occurrenceId row) :
    (energyRequirement scenario occurrence).Satisfies a ↔
      row.sum = occurrence.requiredEnergyWh := by
  simp only [CpModel.Satisfies, CpModel.InDomains, energyRequirement, not_mem_nil,
    IsEmpty.forall_iff, implies_true, mem_singleton, forall_eq, Constraint.holds_add,
    Relation.Holds, LinExpr.eval_sumVars, LinExpr.eval_singleton_const, hrow.map_energyVars,
    true_and]
  rw [← Nat.cast_list_sum]
  exact Nat.cast_inj

section Occurrence

variable (hvalid : Valid scenario) {p : FlexibleLoad × LoadOccurrence}
  (hp : p ∈ scenario.occurrences) (hrow : Carries scenario a p.2.occurrenceId row)
include hvalid hp

theorem startsOf_fit (hc : c ∈ startsOf scenario p.2 spec) :
    c + spec.fixedSlotShapeWh.length ≤ scenario.slotCount :=
  le_trans (mem_allowedStarts hc).2 (window_windowOf hvalid hp).le_slotCount

include hrow

/-- What the variables of an occurrence admit, is an execution of it. -/
theorem admissible_of_block (h : (occurrenceBlock scenario p).Satisfies a) :
    Admissible scenario p row := by
  rw [occurrenceBlock, CpModel.satisfies_append, satisfies_energyRequirement hrow,
    executionVariables] at h
  obtain ⟨hexe, hsum⟩ := h
  rw [admissible_iff hvalid hp, Executes.eq_def]
  refine ⟨hrow.length, hsum, ?_⟩
  cases hspec : p.1.executionSpec with
  | interruptible spec =>
    rw [hspec] at hexe
    exact ((satisfies_interruptibleVariables hrow).mp hexe).2
  | fixedShape spec =>
    rw [hspec] at hexe
    obtain ⟨c, hc, -, hplace⟩ := (satisfies_fixedShapeVariables (nodup_allowedStarts _ _ _)
      (fun c hc => startsOf_fit hvalid hp hc) hrow).mp hexe
    refine ⟨?_, c, hc, hplace⟩
    rw [← hsum, ← hplace, sum_placeShape]

/-- Every execution of an occurrence is admitted, with its indicators. -/
theorem block_of_admissible (hadmissible : Admissible scenario p row)
    (hact : ∀ i < scenario.slotCount,
      a (.active p.2.occurrenceId i) = if 0 < row.getD i 0 then 1 else 0)
    (hstart : ∀ spec, p.1.executionSpec = .fixedShape spec → ∃ c ∈ startsOf scenario p.2 spec,
      (∀ c' ∈ startsOf scenario p.2 spec,
        a (.start p.2.occurrenceId c') = if c' = c then 1 else 0) ∧
      placeShape scenario.slotCount spec.fixedSlotShapeWh c = row) :
    (occurrenceBlock scenario p).Satisfies a := by
  rw [occurrenceBlock, CpModel.satisfies_append, satisfies_energyRequirement hrow,
    executionVariables]
  refine ⟨?_, hadmissible.sum⟩
  have hexec := ((admissible_iff hvalid hp).mp hadmissible).2
  cases hspec : p.1.executionSpec with
  | interruptible spec =>
    rw [hspec, Executes] at hexec
    exact (satisfies_interruptibleVariables hrow).mpr ⟨hact, hexec.2⟩
  | fixedShape spec =>
    exact (satisfies_fixedShapeVariables (nodup_allowedStarts _ _ _)
      (fun c hc => startsOf_fit hvalid hp hc) hrow).mpr (hstart spec hspec)

end Occurrence

/-- The domains of an occurrence's energies. -/
theorem energy_of_inDomains {p : FlexibleLoad × LoadOccurrence}
    (h : (occurrenceBlock scenario p).InDomains a) (hi : i < scenario.slotCount) :
    0 ≤ a (.energy p.2.occurrenceId i) ∧
      a (.energy p.2.occurrenceId i) ≤ (maximaOf scenario p).getD i 0 := by
  rw [occurrenceBlock, CpModel.inDomains_append] at h
  have hexe := h.1
  rw [maximaOf]
  rw [executionVariables] at hexe ⊢
  cases hspec : p.1.executionSpec with
  | interruptible spec =>
    rw [hspec] at hexe
    simp only [interruptibleVariables, CpModel.inDomains_concat, forall_mem_map] at hexe
    have hslot := (forall_mem_zipIdx (P := fun slot i => (interruptibleSlot spec
      p.2.occurrenceId (windowOf scenario p.2) (slot, i)).InDomains a)).mp hexe i hi
    have hdomain := hslot ⟨.energy p.2.occurrenceId i, 0, interruptibleMaximum spec
      (windowOf scenario p.2) (scenario.profileSlots.get ⟨i, hi⟩, i)⟩
      (by simp [interruptibleSlot])
    have hlen : i < (scenario.profileSlots.zipIdx.map
        (interruptibleMaximum spec (windowOf scenario p.2))).length := by
      rw [length_map, length_zipIdx]
      exact hi
    simp only [interruptibleVariables]
    rw [getD_eq_getElem _ _ hlen]
    simpa using hdomain
  | fixedShape spec =>
    rw [hspec] at hexe
    simp only [fixedShapeVariables, CpModel.inDomains_append, CpModel.inDomains_concat,
      forall_mem_map, mem_range] at hexe
    have hdomain := hexe.2 i hi ⟨.energy p.2.occurrenceId i, 0,
      fixedShapeMaximum spec (startsOf scenario p.2 spec) i⟩ (by simp [fixedShapeSlot, startsOf])
    simp only [fixedShapeVariables]
    rw [getD_eq_getElem _ _ (by simpa using hi)]
    simpa [startsOf] using hdomain

/-! ### Indicators -/

/-- The completion slot is the last one with energy. -/
theorem completionSlot_spec (hpos : 0 < row.sum) :
    (∃ i < row.length, 0 < row.getD i 0 ∧ completionSlot row = i + 1) ∧
      ∀ i < row.length, 0 < row.getD i 0 → i + 1 ≤ completionSlot row := by
  have hmem : ∀ k, k ∈ positiveSlots row ↔ ∃ i < row.length, 0 < row.getD i 0 ∧ k = i + 1 := by
    intro k
    rw [positiveSlots, mem_map]
    constructor
    · rintro ⟨⟨amount, i⟩, he, rfl⟩
      obtain ⟨he, hamount⟩ := mem_filter.mp he
      obtain ⟨hi, hg⟩ := mem_zipIdx' he
      refine ⟨i, hi, ?_, rfl⟩
      rw [getD_eq_getElem _ _ hi, ← hg]
      simpa using hamount
    · rintro ⟨i, hi, hamount, rfl⟩
      rw [getD_eq_getElem _ _ hi] at hamount
      exact ⟨(row.get ⟨i, hi⟩, i), mem_filter.mpr
        ⟨mem_zipIdx_iff_getElem?.mpr (getElem?_eq_getElem hi), by simpa using hamount⟩, rfl⟩
  have hsrt : (positiveSlots row).Pairwise (· < ·) := by
    rw [positiveSlots, pairwise_map]
    refine List.Pairwise.filter _ ?_
    rw [pairwise_iff_getElem]
    intro i j _ _ hij
    simpa using hij
  have hne := positiveSlots_ne_nil hpos
  have hlast : completionSlot row = (positiveSlots row).getLast hne := by
    rw [completionSlot, getLast?_eq_some_getLast hne, Option.getD_some]
  refine ⟨?_, ?_⟩
  · obtain ⟨i, hi, hamount, heq⟩ := (hmem _).mp (getLast_mem hne)
    exact ⟨i, hi, hamount, hlast.trans heq⟩
  · intro i hi hamount
    have hk : i + 1 ∈ positiveSlots row := (hmem _).mpr ⟨i, hi, hamount, rfl⟩
    rw [hlast]
    exact (hsrt.imp le_of_lt).rel_getLast hk

theorem satisfies_trackSlot (hamount : a (.energy occurrence.occurrenceId i) = amount) :
    (trackSlot occurrence i).Satisfies a ↔
      a (.changed occurrence.occurrenceId i)
          = (if amount ≠ occurrence.referenceEnergy.getD i 0 then 1 else 0) ∧
        a (.completionActive occurrence.occurrenceId i) = if 0 < amount then 1 else 0 := by
  rw [trackSlot, CpModel.satisfies_append,
    satisfies_activity (.completionActive occurrence.occurrenceId i) hamount]
  refine and_congr_left fun _ => ?_
  simp only [CpModel.Satisfies, CpModel.InDomains, VarDomain.bool, mem_cons,
    not_mem_nil, or_false, forall_eq, forall_eq_or_imp, Constraint.holds_addIf,
    Constraint.holds_addIfNot, Relation.Holds, LinExpr.eval_singleton_var,
    LinExpr.eval_singleton_const, hamount]
  split_ifs with hne
  · omega
  · omega

/-- **The indicators of an occurrence** are those of its row. -/
theorem satisfies_trackOccurrence (hrow : Carries scenario a occurrence.occurrenceId row)
    (hpos : 0 < row.sum) :
    (trackOccurrence scenario occurrence).Satisfies a ↔
      (∀ i < scenario.slotCount, a (.changed occurrence.occurrenceId i)
        = (if row.getD i 0 ≠ occurrence.referenceEnergy.getD i 0 then 1 else 0) ∧
          a (.completionActive occurrence.occurrenceId i) = if 0 < row.getD i 0 then 1 else 0) ∧
      a (.completion occurrence.occurrenceId) = completionSlot row := by
  rw [trackOccurrence, CpModel.satisfies_append, CpModel.satisfies_concat, forall_mem_map]
  have hslots : (∀ i ∈ range scenario.slotCount, (trackSlot occurrence i).Satisfies a) ↔
      ∀ i < scenario.slotCount, a (.changed occurrence.occurrenceId i)
        = (if row.getD i 0 ≠ occurrence.referenceEnergy.getD i 0 then 1 else 0) ∧
          a (.completionActive occurrence.occurrenceId i) = if 0 < row.getD i 0 then 1 else 0 := by
    simp only [mem_range]
    exact forall₂_congr fun i hi => satisfies_trackSlot (hrow.energy i hi)
  rw [hslots]
  refine and_congr_right fun hindicators => ?_
  simp only [CpModel.Satisfies, CpModel.InDomains, mem_singleton, forall_eq,
    Constraint.holds_maxEquality]
  rw [forall_mem_map]
  simp only [mem_range, mem_map, exists_exists_and_eq_and, LinExpr.eval_cons,
    LinExpr.eval_nil, Term.eval_var, add_zero]
  obtain ⟨⟨last, hlast, hamount, hcompletion⟩, hmax⟩ := completionSlot_spec hpos
  rw [hrow.length] at hlast hmax
  have hact : a (.completionActive occurrence.occurrenceId last) = 1 := by
    rw [(hindicators last hlast).2, if_pos hamount]
  constructor
  · rintro ⟨-, hle, i, hi, heq⟩
    have hfst := hle last hlast
    rw [hact] at hfst
    rw [(hindicators i hi).2] at heq
    split_ifs at heq with hi'
    · have := hmax i hi hi'
      push_cast at heq hfst
      omega
    · push_cast at heq hfst
      omega
  · intro h
    rw [h]
    refine ⟨⟨by omega, by omega⟩, ?_, last, hlast, ?_⟩
    · intro i hi
      rw [(hindicators i hi).2]
      split_ifs with hi'
      · have := hmax i hi hi'
        push_cast
        omega
      · omega
    · rw [hact, hcompletion]
      push_cast
      ring

/-! ### Plans of an assignment -/

/-- The energies of an assignment are the plan. -/
def CarriesPlan (scenario : ScenarioInput) (a : Var → ℤ) (x : UUID → List ℕ) : Prop :=
  ∀ p ∈ scenario.occurrences, Carries scenario a p.2.occurrenceId (x p.2.occurrenceId)

section Plan

variable {x : UUID → List ℕ} {i : ℕ}

theorem CarriesPlan.length_rows (h : CarriesPlan scenario a x) :
    ∀ row ∈ (canonicalOccurrences scenario).map fun p => x p.2.occurrenceId,
      row.length = scenario.slotCount := by
  intro row hrow
  obtain ⟨p, hp, rfl⟩ := mem_map.mp hrow
  exact (h p (mem_canonicalOccurrences.mp hp)).length

theorem eval_flexibleExpr (h : CarriesPlan scenario a x) (hi : i < scenario.slotCount) :
    LinExpr.eval a (flexibleExpr scenario i) = (flexibleOf scenario x).getD i 0 := by
  rw [flexibleExpr, LinExpr.eval_sumVars, map_map, flexibleOf, getD_sumRows h.length_rows,
    Nat.cast_list_sum, map_map, map_map]
  refine congrArg sum (map_congr_left fun p hp => ?_)
  exact (h p (mem_canonicalOccurrences.mp hp)).energy i hi

theorem eval_profileExpr (hvalid : Valid scenario) (h : CarriesPlan scenario a x)
    (hi : i < scenario.slotCount) :
    LinExpr.eval a (profileExpr scenario i) = (profileOf scenario x).getD i 0 := by
  have hlen : (flexibleOf scenario x).length = (fixedBackground scenario).length := by
    rw [length_fixedBackground hvalid.places, flexibleOf, length_sumRows h.length_rows]
  rw [profileExpr, LinExpr.eval_append, eval_flexibleExpr h hi, LinExpr.eval_singleton_const,
    profileOf, getD_addRows hlen]
  push_cast
  ring

/-- **The caps of the model** are the caps. -/
theorem satisfies_slotsOf (hvalid : Valid scenario) (h : CarriesPlan scenario a x) :
    (∀ m ∈ (slotsOf scenario).map SlotExpressions.model, m.Satisfies a) ↔
      CapsHold scenario (profileOf scenario x) (flexibleOf scenario x) := by
  have hcap : ∀ (amount cap duration : ℕ),
      (3600 * (amount : ℤ) ≤ (cap * duration : ℕ)) ↔ amount * 3600 ≤ cap * duration := by
    intro amount cap duration
    rw [mul_comm]
    exact_mod_cast Iff.rfl
  rw [slotsOf, map_map, forall_mem_map, CapsHold]
  simp only [mem_range]
  refine forall₂_congr fun i hi => ?_
  simp only [Function.comp_apply, slotOf, capConstraints, CpModel.Satisfies, CpModel.InDomains,
    not_mem_nil, IsEmpty.forall_iff, implies_true, true_and, mem_append, or_imp,
    forall_and, forall_mem_map, Option.mem_toList, Constraint.holds_add, Relation.Holds,
    LinExpr.eval_scale, LinExpr.eval_singleton_const, eval_profileExpr hvalid h hi,
    eval_flexibleExpr h hi, hcap, Option.mem_def]

/-! ### Periods -/

/-- The indices of the slots in which a period is in force. -/
def periodIndices (scenario : ScenarioInput) (periodsByRule : Dict String (List TimeOfUsePeriod))
    (c : PeriodCharge) : List ℕ :=
  (((periodsByRule.getD c.rule.ruleId []).zip (List.range scenario.slotCount)).filter
    fun e => e.1 = c.periodRate.period).map Prod.snd

variable {periodsByRule : Dict String (List TimeOfUsePeriod)} {c : PeriodCharge}

theorem periodSlots_slotsOf : periodSlots periodsByRule (slotsOf scenario) c
    = (periodIndices scenario periodsByRule c).map (slotOf scenario) := by
  rw [periodSlots, slotsOf, periodIndices, zip_map_right, filter_map, map_map,
    map_map]
  rfl

theorem lt_of_mem_periodIndices (h : i ∈ periodIndices scenario periodsByRule c) :
    i < scenario.slotCount := by
  obtain ⟨⟨period, j⟩, he, rfl⟩ := mem_map.mp h
  exact mem_range.mp (of_mem_zip (mem_of_mem_filter he)).2

/-- The energy of a plan in a period. -/
def quantityOf (scenario : ScenarioInput) (periodsByRule : Dict String (List TimeOfUsePeriod))
    (x : UUID → List ℕ) (c : PeriodCharge) : ℕ :=
  ((periodIndices scenario periodsByRule c).map fun i => (profileOf scenario x).getD i 0).sum

/-- The cents of a plan for a period. -/
def centsFor (scenario : ScenarioInput) (periodsByRule : Dict String (List TimeOfUsePeriod))
    (x : UUID → List ℕ) (c : PeriodCharge) : ℕ :=
  (c.periodRate.rateMicrodollarsPerKwh * quantityOf scenario periodsByRule x c + 5000000) / 10000000

/-- The plan respects the bounds of the energy variables. -/
def WithinMaxima (scenario : ScenarioInput) (x : UUID → List ℕ) : Prop :=
  ∀ p ∈ scenario.occurrences, ∀ i < scenario.slotCount,
    (x p.2.occurrenceId).getD i 0 ≤ (maximaOf scenario p).getD i 0

section PlanCost

variable (hvalid : Valid scenario) (h : CarriesPlan scenario a x)

include hvalid h

theorem profileOf_le_maximum (hmax : WithinMaxima scenario x) (hi : i < scenario.slotCount) :
    (profileOf scenario x).getD i 0 ≤ profileMaximum scenario i := by
  have hlen : (flexibleOf scenario x).length = (fixedBackground scenario).length := by
    rw [length_fixedBackground hvalid.places, flexibleOf, length_sumRows h.length_rows]
  have hflex : (flexibleOf scenario x).getD i 0 ≤ flexibleMaximum scenario i := by
    rw [flexibleOf, getD_sumRows h.length_rows, flexibleMaximum, map_map]
    refine sum_le_sum fun p hp => ?_
    exact hmax p (mem_canonicalOccurrences.mp hp) i hi
  rw [profileOf, getD_addRows hlen, profileMaximum]
  omega

theorem quantityOf_le_maximum (hmax : WithinMaxima scenario x)
    (periodsByRule : Dict String (List TimeOfUsePeriod)) (c : PeriodCharge) :
    quantityOf scenario periodsByRule x c
      ≤ quantityMaximum (periodSlots periodsByRule (slotsOf scenario) c) := by
  rw [quantityOf, quantityMaximum, periodSlots_slotsOf, map_map]
  refine sum_le_sum fun i hi => ?_
  exact profileOf_le_maximum hvalid h hmax (lt_of_mem_periodIndices hi)

/-- The expression for the energy of a period. -/
theorem eval_periodSlots :
    LinExpr.eval a ((periodSlots periodsByRule (slotsOf scenario) c).flatMap
      SlotExpressions.profile) = quantityOf scenario periodsByRule x c := by
  rw [flatMap_def, LinExpr.eval_flatten, map_map, periodSlots_slotsOf, map_map,
    quantityOf, Nat.cast_list_sum, map_map]
  refine congrArg sum (map_congr_left fun i hi => ?_)
  exact eval_profileExpr hvalid h (lt_of_mem_periodIndices hi)

/-- **The variables of a period rate** are its energy and its cents. -/
theorem satisfies_centsOf (hmax : WithinMaxima scenario x) :
    (centsOf scenario periodsByRule c).model.Satisfies a ↔
      a (.quantity c.charge c.rate) = quantityOf scenario periodsByRule x c ∧
        a (.cents c.charge c.rate) = centsFor scenario periodsByRule x c := by
  have hqty := quantityOf_le_maximum hvalid h hmax periodsByRule c
  have hcents : centsFor scenario periodsByRule x c
      ≤ (quantityMaximum (periodSlots periodsByRule (slotsOf scenario) c)
          * (c.periodRate.rateMicrodollarsPerKwh : ℤ).natAbs + 5000000) / 10000000 := by
    rw [centsFor, Int.natAbs_natCast, mul_comm]
    exact Nat.div_le_div_right (by gcongr)
  have hdivision : ∀ quantity : ℤ, quantity = quantityOf scenario periodsByRule x c →
      (((c.periodRate.rateMicrodollarsPerKwh : ℤ).natAbs : ℤ) * quantity + 5000000).tdiv 10000000
        = centsFor scenario periodsByRule x c := by
    rintro _ rfl
    rw [Int.natAbs_natCast, centsFor, Int.tdiv_eq_ediv_of_nonneg (by positivity)]
    push_cast
    rfl
  rw [centsOf, CpModel.satisfies_append]
  simp only [quantityBlock, roundedCents, CpModel.Satisfies, CpModel.InDomains,
    mem_singleton, forall_eq, Constraint.holds_add, Relation.Holds,
    Constraint.holds_divisionEquality, LinExpr.eval_singleton_var, LinExpr.eval_append,
    LinExpr.eval_scale, LinExpr.eval_singleton_const, eval_periodSlots hvalid h]
  constructor
  · rintro ⟨⟨-, hq⟩, -, hc⟩
    exact ⟨hq, hc.trans (hdivision _ hq)⟩
  · rintro ⟨hq, hc⟩
    refine ⟨⟨⟨by omega, ?_⟩, hq⟩, ⟨by omega, ?_⟩, hc.trans (hdivision _ hq).symm⟩
    · rw [hq]
      exact_mod_cast hqty
    · rw [hc]
      exact_mod_cast hcents

end PlanCost

end Plan

/-! ### Soundness and completeness -/

section Model

variable {timeCharges : List IRTimeOfUseEnergyCharge}
  {periodsByRule : Dict String (List TimeOfUsePeriod)} {x : UUID → List ℕ}

/-- An assignment of the model is one of each of its parts. -/
theorem satisfies_loweredModel :
    (loweredModel scenario timeCharges periodsByRule).Satisfies a ↔
      (∀ p ∈ scenario.occurrences, (occurrenceBlock scenario p).Satisfies a) ∧
      (∀ p ∈ scenario.occurrences, (trackOccurrence scenario p.2).Satisfies a) ∧
      (∀ m ∈ (slotsOf scenario).map SlotExpressions.model, m.Satisfies a) ∧
      ∀ c ∈ periodCharges timeCharges, (centsOf scenario periodsByRule c).model.Satisfies a := by
  simp only [loweredModel, CpModel.satisfies_append, CpModel.satisfies_concat, chargesOf,
    map_map, forall_mem_map, mem_canonicalOccurrences, Function.comp_apply, and_assoc]

theorem carriesPlan_rowOf
    (h : ∀ p ∈ scenario.occurrences, (occurrenceBlock scenario p).InDomains a) :
    CarriesPlan scenario a (rowOf scenario a) :=
  fun p hp => carries_rowOf fun _ hi => (energy_of_inDomains (h p hp) hi).1

/-- Energies in their domains stay within the bounds. -/
theorem CarriesPlan.withinMaxima (hx : CarriesPlan scenario a x)
    (h : ∀ p ∈ scenario.occurrences, (occurrenceBlock scenario p).InDomains a) :
    WithinMaxima scenario x := by
  intro p hp i hi
  have hdomain := (energy_of_inDomains (h p hp) hi).2
  rw [(hx p hp).energy i hi] at hdomain
  exact_mod_cast hdomain

/-- **Soundness**: the energies of an assignment are a feasible plan. -/
theorem feasible_of_satisfies (hvalid : Valid scenario)
    (h : (loweredModel scenario timeCharges periodsByRule).Satisfies a) :
    CarriesPlan scenario a (rowOf scenario a) ∧ Feasible scenario (rowOf scenario a) := by
  obtain ⟨hblocks, -, hslots, -⟩ := satisfies_loweredModel.mp h
  have hcarries := carriesPlan_rowOf fun p hp => (hblocks p hp).1
  refine ⟨hcarries, ?_, (satisfies_slotsOf hvalid hcarries).mp hslots⟩
  intro p hp
  exact admissible_of_block hvalid hp (hcarries p hp) (hblocks p hp)

/-- The period rate with the given indices. -/
def chargeAt (timeCharges : List IRTimeOfUseEnergyCharge) (charge rate : ℕ) : Option PeriodCharge :=
  timeCharges[charge]?.bind fun rule =>
    rule.periodRates[rate]?.map fun periodRate => ⟨charge, rate, rule, periodRate⟩

theorem chargeAt_of_mem {c : PeriodCharge} (h : c ∈ periodCharges timeCharges) :
    chargeAt timeCharges c.charge c.rate = some c := by
  obtain ⟨⟨rule, k⟩, hrule, hc⟩ := mem_flatMap.mp h
  obtain ⟨⟨rate, j⟩, hrate, rfl⟩ := mem_map.mp hc
  rw [mem_zipIdx_iff_getElem?] at hrule hrate
  rw [chargeAt, hrule, Option.bind_some, hrate, Option.map_some]

/-- The assignment that carries a plan, where `chosen` gives the starts of fixed shapes. -/
def extension (scenario : ScenarioInput) (timeCharges : List IRTimeOfUseEnergyCharge)
    (periodsByRule : Dict String (List TimeOfUsePeriod)) (x : UUID → List ℕ)
    (chosen : UUID → ℕ) : Var → ℤ
  | .energy id i => (x id).getD i 0
  | .active id i | .completionActive id i => if 0 < (x id).getD i 0 then 1 else 0
  | .start id c => if c = chosen id then 1 else 0
  | .changed id i => if (x id).getD i 0 ≠ (referencePlan scenario id).getD i 0 then 1 else 0
  | .completion id => completionSlot (x id)
  | .quantity charge rate =>
    (chargeAt timeCharges charge rate).elim 0 fun c => quantityOf scenario periodsByRule x c
  | .cents charge rate =>
    (chargeAt timeCharges charge rate).elim 0 fun c => centsFor scenario periodsByRule x c

/-- Starts at which a feasible plan places the fixed shapes. -/
theorem exists_chosen (hvalid : Valid scenario) (hx : Feasible scenario x) :
    ∃ chosen : UUID → ℕ, ∀ p ∈ scenario.occurrences, ∀ spec,
      p.1.executionSpec = .fixedShape spec →
        chosen p.2.occurrenceId ∈ startsOf scenario p.2 spec ∧
          placeShape scenario.slotCount spec.fixedSlotShapeWh (chosen p.2.occurrenceId)
            = x p.2.occurrenceId := by
  have hone : ∀ id, ∃ c : ℕ, ∀ p ∈ scenario.occurrences, p.2.occurrenceId = id → ∀ spec,
      p.1.executionSpec = .fixedShape spec → c ∈ startsOf scenario p.2 spec ∧
        placeShape scenario.slotCount spec.fixedSlotShapeWh c = x id := by
    intro id
    by_cases hid : ∃ p ∈ scenario.occurrences, p.2.occurrenceId = id ∧
        ∃ spec, p.1.executionSpec = .fixedShape spec
    · obtain ⟨p, hp, rfl, spec, hspec⟩ := hid
      have hexec := ((admissible_iff hvalid hp).mp (hx.admissible p hp)).2
      rw [hspec, Executes] at hexec
      obtain ⟨-, -, c, hc, hplace⟩ := hexec
      refine ⟨c, ?_⟩
      intro q hq hqp spec' hspec'
      obtain rfl := inj_on_of_nodup_map hvalid.occurrenceIds hq hp hqp
      rw [hspec, ExecutionSpec.fixedShape.injEq] at hspec'
      subst hspec'
      exact ⟨hc, hplace⟩
    · exact ⟨0, fun p hp hpid spec hspec => absurd ⟨p, hp, hpid, spec, hspec⟩ hid⟩
  choose chosen hchosen using hone
  exact ⟨chosen, fun p hp => hchosen _ p hp rfl⟩

/-- **Completeness**: every feasible plan is carried by an assignment of the model. -/
theorem satisfies_extension (hvalid : Valid scenario) (hx : Feasible scenario x) :
    ∃ a, CarriesPlan scenario a x ∧
      (loweredModel scenario timeCharges periodsByRule).Satisfies a := by
  obtain ⟨chosen, hchosen⟩ := exists_chosen hvalid hx
  refine ⟨extension scenario timeCharges periodsByRule x chosen, ?_⟩
  have hcarries : CarriesPlan scenario
      (extension scenario timeCharges periodsByRule x chosen) x :=
    fun p hp => ⟨(hx.admissible p hp).length, fun _ _ => rfl⟩
  have hblocks : ∀ p ∈ scenario.occurrences, (occurrenceBlock scenario p).Satisfies
      (extension scenario timeCharges periodsByRule x chosen) := by
    intro p hp
    refine block_of_admissible hvalid hp (hcarries p hp) (hx.admissible p hp) (fun _ _ => rfl) ?_
    intro spec hspec
    obtain ⟨hstart, hplace⟩ := hchosen p hp spec hspec
    exact ⟨_, hstart, fun _ _ => rfl, hplace⟩
  refine ⟨hcarries, satisfies_loweredModel.mpr ⟨hblocks, ?_, ?_, ?_⟩⟩
  · intro p hp
    have hpos : 0 < (x p.2.occurrenceId).sum := by
      rw [(hx.admissible p hp).sum]
      exact p.2.required_pos
    refine (satisfies_trackOccurrence (hcarries p hp) hpos).mpr ⟨fun i _ => ⟨?_, rfl⟩, rfl⟩
    rw [extension, referencePlan, planOf_occurrence hvalid _ hp]
  · exact (satisfies_slotsOf hvalid hcarries).mpr hx.caps
  · intro c hc
    have hmax := hcarries.withinMaxima fun p hp => (hblocks p hp).1
    refine (satisfies_centsOf hvalid hcarries hmax).mpr ⟨?_, ?_⟩
    · rw [extension, chargeAt_of_mem hc]
      rfl
    · rw [extension, chargeAt_of_mem hc]
      rfl

/-! ### Objectives -/

theorem changedCount_eq_sum {n : ℕ} {row reference : List ℕ} (hrow : row.length = n)
    (hreference : reference.length = n) :
    (changedCount row reference : ℤ)
      = ((range n).map fun i =>
          if row.getD i 0 ≠ reference.getD i 0 then (1 : ℤ) else 0).sum := by
  have hzip : row.zip reference
      = (range n).map fun i => (row.getD i 0, reference.getD i 0) := by
    refine ext_getElem (by simp [hrow, hreference]) ?_
    intro i hi _
    have hi' : i < n := by simpa [hrow, hreference] using hi
    simp only [getElem_zip, getElem_map, getElem_range]
    rw [getD_eq_getElem _ _ (hrow ▸ hi'), getD_eq_getElem _ _ (hreference ▸ hi')]
  rw [changedCount, hzip, filter_map, length_map, ← countP_eq_length_filter]
  induction range n with
  | nil => rfl
  | cons i l ih =>
    rw [countP_cons, map_cons, sum_cons, ← ih]
    simp only [Function.comp_apply, decide_eq_true_eq]
    split_ifs with h
    · push_cast
      ring
    · push_cast
      ring

section Objectives

variable (hvalid : Valid scenario)
  (hsat : (loweredModel scenario timeCharges periodsByRule).Satisfies a)
  (hcarries : CarriesPlan scenario a x) (constant : ℤ) (charges : List CentsVariable)
  (ranks : List ℕ)
include hvalid hsat hcarries

theorem satisfies_track {p : FlexibleLoad × LoadOccurrence} (hp : p ∈ scenario.occurrences) :
    (∀ i < scenario.slotCount, a (.changed p.2.occurrenceId i)
        = (if (x p.2.occurrenceId).getD i 0 ≠ p.2.referenceEnergy.getD i 0 then 1 else 0) ∧
      a (.completionActive p.2.occurrenceId i)
        = if 0 < (x p.2.occurrenceId).getD i 0 then 1 else 0) ∧
      a (.completion p.2.occurrenceId) = completionSlot (x p.2.occurrenceId) := by
  obtain ⟨hblocks, htrack, -, -⟩ := satisfies_loweredModel.mp hsat
  have hpos : 0 < (x p.2.occurrenceId).sum := by
    rw [(admissible_of_block hvalid hp (hcarries p hp) (hblocks p hp)).sum]
    exact p.2.required_pos
  exact (satisfies_trackOccurrence (hcarries p hp) hpos).mp (htrack p hp)

theorem eval_changed : LinExpr.eval a (loweredObjectives scenario (canonicalOccurrences scenario)
    constant charges ranks).changedOccurrenceSlots = planChanged scenario x := by
  rw [loweredObjectives, LinExpr.eval_sumVars, map_flatMap, flatMap_def,
    sum_flatten, map_map, planChanged, Nat.cast_list_sum, map_map]
  refine congrArg sum (map_congr_left fun p hp => ?_)
  have hp' := mem_canonicalOccurrences.mp hp
  simp only [Function.comp_apply]
  rw [changedCount_eq_sum (hcarries p hp').length (length_referenceEnergy hvalid.places hp'),
    map_map]
  refine congrArg sum (map_congr_left fun i hi => ?_)
  exact ((satisfies_track hvalid hsat hcarries hp').1 i (mem_range.mp hi)).1

theorem eval_completion : LinExpr.eval a (loweredObjectives scenario
    (canonicalOccurrences scenario) constant charges ranks).completionSlotIndexSum
      = planCompletion scenario x := by
  rw [loweredObjectives, LinExpr.eval_sumVars, map_map, planCompletion, Nat.cast_list_sum,
    map_map]
  refine congrArg sum (map_congr_left fun p hp => ?_)
  exact (satisfies_track hvalid hsat hcarries (mem_canonicalOccurrences.mp hp)).2

omit hvalid hsat in
theorem map_allEnergyVars : ((canonicalOccurrences scenario).flatMap fun p =>
      energyVars scenario p.2.occurrenceId).map a
    = ((canonicalOccurrences scenario).flatMap fun p => x p.2.occurrenceId).map
        fun (e : ℕ) => (e : ℤ) := by
  rw [map_flatMap, map_flatMap]
  refine flatMap_congr fun p hp => ?_
  exact (hcarries p (mem_canonicalOccurrences.mp hp)).map_energyVars

omit hvalid hsat in
theorem eval_stable : LinExpr.eval a (loweredObjectives scenario (canonicalOccurrences scenario)
    constant charges ranks).stableSlotOrderScore = planStable scenario x := by
  have hvars := map_allEnergyVars hcarries
  rw [loweredObjectives, planStable, positionScore, LinExpr.eval]
  generalize (canonicalOccurrences scenario).flatMap (fun p =>
    energyVars scenario p.2.occurrenceId) = vars at hvars
  generalize (canonicalOccurrences scenario).flatMap (fun p => x p.2.occurrenceId) = amounts
    at hvars
  rw [Nat.zero_add, Nat.cast_list_sum, map_map, map_map]
  have hzip : ∀ k, (vars.zipIdx k).map (fun e => (e.2 : ℤ) * a e.1)
      = (amounts.zipIdx k).map fun e => ((e.1 * e.2 : ℕ) : ℤ) := by
    intro k
    have hleft : (vars.zipIdx k).map (fun e => (e.2 : ℤ) * a e.1)
        = ((vars.map a).zipIdx k).map fun e => (e.2 : ℤ) * e.1 := by
      rw [zipIdx_map, map_map]
      rfl
    rw [hleft, hvars, zipIdx_map, map_map]
    refine map_congr_left fun e _ => ?_
    simp [mul_comm]
  exact congrArg sum (hzip 1)

end Objectives

end Model

/-! ### The verifier's schedules -/

/-- The assignment gives the occurrences of the candidate its energies. -/
def Assigns (lowered : LoweredScenarioModel) (a : Var → ℤ) (candidate : CandidateSchedule) : Prop :=
  ∀ s ∈ candidate.occurrences, (lowered.energyByOccurrence.get? s.occurrenceId).map (List.map a)
    = some ((energies s.slots).map fun (e : ℕ) => (e : ℤ))

/-- Energies assigned to a complete candidate are a plan it submits. -/
theorem assigns_iff (hvalid : Valid scenario)
    (htable : lowered.energyByOccurrence = energyTable scenario (canonicalOccurrences scenario))
    (hcpl : Complete scenario candidate) {x : UUID → List ℕ} (hx : CarriesPlan scenario a x) :
    Assigns lowered a candidate ↔ Submits candidate x := by
  refine forall₂_congr fun s hs => ?_
  obtain ⟨p, hp, hid⟩ := hcpl.occurrence hs
  rw [htable, ← hid, get?_energyTable hvalid hp, Option.map_some, Option.some.injEq,
    (hx p hp).map_energyVars]
  exact (map_injective_iff.mpr Nat.cast_injective).eq_iff

/-! ### The candidate of an assignment -/

/-- The slot with the energy of its variable; the strict model rejects negative energies. -/
def extractSlot (values : Var → ℤ) (e : CanonicalProfileSlot × Var) :
    Except VerifierRaised ScheduleSlot :=
  if values e.2 < 0 then .error .validationError else .ok (e.1.withEnergy (values e.2).toNat)

/-- The schedule of an occurrence with its variables, which must not be empty. -/
def extractOccurrence (scenario : ScenarioInput) (values : Var → ℤ) (e : UUID × List Var) :
    Except VerifierRaised OccurrenceSchedule := do
  let slots ← collect (extractSlot values) (scenario.profileSlots.zip e.2)
  if h : slots ≠ [] then .ok ⟨e.1, slots, h⟩ else .error .validationError

/-- `_extract_candidate` of the solver. -/
def extractCandidate (lowered : LoweredScenarioModel) (scenario : ScenarioInput)
    (values : Var → ℤ) : Except VerifierRaised CandidateSchedule := do
  let schedules ← collect (extractOccurrence scenario values) lowered.energyByOccurrence.entries
  canonicalCandidate schedules

theorem collect_extractSlot (h : Carries scenario a occurrenceId row) :
    collect (extractSlot a) (scenario.profileSlots.zip (energyVars scenario occurrenceId))
      = .ok (scenario.energySlots row) := by
  have hslot : ∀ e ∈ scenario.profileSlots.zip (energyVars scenario occurrenceId),
      extractSlot a e = .ok (e.1.withEnergy (a e.2).toNat) := by
    rintro ⟨slot, v⟩ he
    obtain ⟨i, hi, rfl⟩ := mem_map.mp (of_mem_zip he).2
    have hen := h.energy i (mem_range.mp hi)
    rw [extractSlot, if_neg (by simp only [hen]; omega)]
  rw [collect_eq_ok_of_forall hslot, ScenarioInput.energySlots, Except.ok.injEq]
  refine ext_getElem (by simp [energyVars, h.length, ScenarioInput.slotCount]) ?_
  intro i hi _
  have hi' : i < scenario.slotCount := by simpa [energyVars, ScenarioInput.slotCount] using hi
  have hen := h.energy i hi'
  rw [getD_eq_getElem _ _ (h.length ▸ hi')] at hen
  simp [energyVars, hen]

/-- **The extracted candidate** submits the plan that the assignment carries. -/
theorem extractCandidate_of_carries (hvalid : Valid scenario)
    (htable : lowered.energyByOccurrence = energyTable scenario (canonicalOccurrences scenario))
    {x : UUID → List ℕ} (hx : CarriesPlan scenario a x) :
    ∃ candidate, extractCandidate lowered scenario a = .ok candidate ∧
      scheduleSlots candidate.occurrences = planSlots scenario x := by
  have hent : lowered.energyByOccurrence.entries = (canonicalOccurrences scenario).map
      fun p => (p.2.occurrenceId, energyVars scenario p.2.occurrenceId) := by
    rw [htable, energyTable, Dict.entries_foldl_set (d := Dict.empty) (canonicalIds_nodup hvalid)]
    rfl
  have hne : ∀ p ∈ scenario.occurrences, scenario.energySlots (x p.2.occurrenceId) ≠ [] := by
    intro p hp hnil
    have hlen := (places_energySlots (hx p hp).length).length_eq
    rw [hnil] at hlen
    exact scenario.profileSlots_ne (length_eq_zero_iff.mp hlen.symm)
  have hoccurrence : ∀ p ∈ scenario.occurrences, ∃ s, extractOccurrence scenario a
      (p.2.occurrenceId, energyVars scenario p.2.occurrenceId) = .ok s ∧
        (s.occurrenceId, s.slots)
          = (p.2.occurrenceId, scenario.energySlots (x p.2.occurrenceId)) := by
    intro p hp
    refine ⟨⟨p.2.occurrenceId, scenario.energySlots (x p.2.occurrenceId), hne p hp⟩, ?_, rfl⟩
    rw [extractOccurrence, collect_extractSlot (hx p hp), ok_bind, dif_pos (hne p hp)]
  obtain ⟨first, -⟩ := exists_mem_of_ne_nil _ (candidateFromReference scenario).occurrences_ne
  have : Nonempty OccurrenceSchedule := ⟨first⟩
  choose! schedule hschedule hslots using hoccurrence
  have hcollect : collect (extractOccurrence scenario a) lowered.energyByOccurrence.entries
      = .ok ((canonicalOccurrences scenario).map schedule) := by
    rw [hent, collect_eq_ok_iff, forall₂_map_left_iff, forall₂_map_right_iff, forall₂_same]
    exact forall_canonicalOccurrences.mpr hschedule
  have hschedules : (canonicalOccurrences scenario).map schedule ≠ [] :=
    fun hnil => canonicalOccurrences_ne scenario (map_eq_nil_iff.mp hnil)
  refine ⟨⟨_, hschedules⟩, ?_, ?_⟩
  · rw [extractCandidate, hcollect, ok_bind, canonicalCandidate, dif_pos hschedules]
  · rw [scheduleSlots, map_map]
    exact map_congr_left fun p hp => hslots p (mem_canonicalOccurrences.mp hp)

/-- **The model admits exactly what the verifier accepts.**  A complete candidate is accepted
exactly when its energies extend to an assignment of the model; every assignment gives such
a candidate; and the objectives of the model are the verifier's score. -/
theorem lowered_model_exact {env : Env} {validated : ValidatedScenario}
    {bundle : CompilationBundle} {facts : AccountFacts} {referenceBilling : ReplayResult}
    {lowered : LoweredScenarioModel}
    (hvalidated : validateAndDecomposeScenario scenario = .ok validated)
    (hwhole : WholeSlots scenario)
    (hlowered : compileScenarioModel env validated bundle facts referenceBilling = .ok lowered) :
    (∀ candidate, (∃ checked, verifyStructure scenario candidate = .ok checked) ↔
      Complete scenario candidate ∧
        ∃ a, lowered.model.Satisfies a ∧ Assigns lowered a candidate) ∧
    (∀ a, lowered.model.Satisfies a →
      ∃ candidate, extractCandidate lowered scenario a = .ok candidate ∧
        Complete scenario candidate ∧ Assigns lowered a candidate) ∧
    ∀ candidate checked a, verifyStructure scenario candidate = .ok checked →
      lowered.model.Satisfies a → Assigns lowered a candidate →
      ∀ supportedCostCents, ∃ score, objective scenario checked.candidateById checked.references
          supportedCostCents = .ok score ∧
        score.changedOccurrenceSlotCount = lowered.objectives.changedOccurrenceSlots.eval a ∧
        score.completionSlotIndexSum = lowered.objectives.completionSlotIndexSum.eval a ∧
        score.stableSlotOrderScore = lowered.objectives.stableSlotOrderScore.eval a := by
  obtain ⟨hvalid, -⟩ := validateAndDecomposeScenario_valid hvalidated
  obtain ⟨active, periods, hlowers⟩ := compileScenarioModel_lowers hvalidated hlowered
  have htable := hlowers.energyByOccurrence
  rw [hlowers.model, hlowers.objectives]
  refine ⟨fun candidate => ⟨?_, ?_⟩, ?_, ?_⟩
  · rintro ⟨checked, hok⟩
    obtain ⟨-, hcomplete, x, hchecks, hsubmits⟩ := verifyStructure_checks hvalid hok
    obtain ⟨a, hcarries, hsat⟩ := satisfies_extension hvalid hchecks.feasible
    exact ⟨hcomplete, a, hsat, (assigns_iff hvalid htable hcomplete hcarries).mpr hsubmits⟩
  · rintro ⟨hcomplete, a, hsat, hassigns⟩
    obtain ⟨hcarries, hfeasible⟩ := feasible_of_satisfies hvalid hsat
    obtain ⟨checked, hok, -⟩ := verifyStructure_of_feasible hvalid hwhole hfeasible hcomplete
      ((assigns_iff hvalid htable hcomplete hcarries).mp hassigns)
    exact ⟨checked, hok⟩
  · intro a hsat
    obtain ⟨hcarries, -⟩ := feasible_of_satisfies hvalid hsat
    obtain ⟨candidate, hextract, hslots⟩ := extractCandidate_of_carries hvalid htable hcarries
    obtain ⟨hcomplete, hsubmits⟩ :=
      complete_of_planSlots hvalid (fun p hp => (hcarries p hp).length) hslots
    exact ⟨candidate, hextract, hcomplete,
      (assigns_iff hvalid htable hcomplete hcarries).mpr hsubmits⟩
  · intro candidate checked a hok hsat hassigns supportedCostCents
    obtain ⟨-, hcomplete, x, hchecks, hsubmits⟩ := verifyStructure_checks hvalid hok
    obtain ⟨hrows, -⟩ := feasible_of_satisfies hvalid hsat
    have hsubmits' := (assigns_iff hvalid htable hcomplete hrows).mp hassigns
    -- the plan that was checked is the plan of the assignment
    have hcarries : CarriesPlan scenario a x := by
      intro p hp
      obtain ⟨s, hs, hid⟩ := hcomplete.schedule hp
      rw [← hid, hsubmits s hs, ← hsubmits' s hs, hid]
      exact hrows p hp
    refine ⟨_, objective_of_checks hchecks supportedCostCents, ?_, ?_, ?_⟩
    · exact (eval_changed hvalid hsat hcarries _ _ _).symm
    · exact (eval_completion hvalid hsat hcarries _ _ _).symm
    · exact (eval_stable hcarries _ _ _).symm

/-- A scenario lowers with the bill of the reference of the small scenario. -/
theorem SmallScenario.lowers {s : ScenarioInput}
    (h : ∃ v, validateAndDecomposeScenario s = .ok v ∧
      ∃ r, verifyCandidateSchedule SmallTariff.env SmallScenario.scenario
        (candidateFromReference SmallScenario.scenario) (SmallTariff.bundle false)
        SmallTariff.facts none none = .ok r ∧
          ∃ lowered, compileScenarioModel SmallTariff.env v (SmallTariff.bundle false)
            SmallTariff.facts r.billingResult = .ok lowered) :
    ∃ validated referenceBilling lowered, validateAndDecomposeScenario s = .ok validated ∧
      compileScenarioModel SmallTariff.env validated (SmallTariff.bundle false) SmallTariff.facts
        referenceBilling = .ok lowered := by
  obtain ⟨validated, hvd, reference, -, lowered, hlowered⟩ := h
  exact ⟨validated, _, lowered, hvd, hlowered⟩

theorem lowered_model_exact_small : ∃ validated referenceBilling lowered a,
    validateAndDecomposeScenario SmallScenario.scenario = .ok validated ∧
      compileScenarioModel SmallTariff.env validated (SmallTariff.bundle false) SmallTariff.facts
        referenceBilling = .ok lowered ∧
      lowered.model.Satisfies a ∧
      Assigns lowered a (candidateFromReference SmallScenario.scenario) := by
  obtain ⟨validated, referenceBilling, lowered, hvalidated, hlowered⟩ :=
    SmallScenario.lowers (s := SmallScenario.scenario) (by decide +kernel)
  obtain ⟨hvalid, -⟩ := validateAndDecomposeScenario_valid hvalidated
  obtain ⟨checked, hok, -⟩ :=
    verifyStructure_candidateFromReference hvalid SmallScenario.wholeSlots
  obtain ⟨hexact, -⟩ := lowered_model_exact hvalidated SmallScenario.wholeSlots hlowered
  obtain ⟨-, a, hsat, hassigns⟩ := (hexact _).mp ⟨checked, hok⟩
  exact ⟨validated, referenceBilling, lowered, a, hvalidated, hlowered, hsat, hassigns⟩

/-- **A slot of two hours is lowered, and refused by the verifier**: the model has an assignment
for the reference of the scenario, but the verifier takes slots of at most an hour. -/
theorem two_hour_slot_refused : ∃ validated referenceBilling lowered a,
    validateAndDecomposeScenario SmallScenario.twoHours = .ok validated ∧
      compileScenarioModel SmallTariff.env validated (SmallTariff.bundle false) SmallTariff.facts
        referenceBilling = .ok lowered ∧
      Complete SmallScenario.twoHours (candidateFromReference SmallScenario.twoHours) ∧
      lowered.model.Satisfies a ∧
      Assigns lowered a (candidateFromReference SmallScenario.twoHours) ∧
      verifyStructure SmallScenario.twoHours (candidateFromReference SmallScenario.twoHours)
        = .error (.verificationError (.profileDurationInvalid 0)) := by
  obtain ⟨validated, referenceBilling, lowered, hvalidated, hlowered⟩ :=
    SmallScenario.lowers (s := SmallScenario.twoHours) (by decide +kernel)
  obtain ⟨hvalid, -⟩ := validateAndDecomposeScenario_valid hvalidated
  obtain ⟨active, periods, hlowers⟩ := compileScenarioModel_lowers hvalidated hlowered
  obtain ⟨hcomplete, hsubmits⟩ := complete_candidateFromReference hvalid
  obtain ⟨a, hcarries, hsat⟩ := satisfies_extension hvalid (feasible_referencePlan hvalid)
  refine ⟨validated, referenceBilling, lowered, a, hvalidated, hlowered, hcomplete, ?_,
    (assigns_iff hvalid hlowers.energyByOccurrence hcomplete hcarries).mpr hsubmits, rfl⟩
  rw [hlowers.model]
  exact hsat

end RateReplay
