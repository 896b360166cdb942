import RateReplay.Lib.Table
import RateReplay.Tariff.Eligibility

/-!
# Apportioning integers

Two loops of the diagnostic cost allocation.  `_apportion_integer` splits a total over
weighted keys by largest remainders; `_energy_slice` cuts a stretch of energy out of a
sequence of days.  Both are exact: what they hand out adds up to what they were given.

## Main definitions

* `apportionInteger`, `energySlice`; `receivers` and `allocations` name two steps of the first,
  and `quota` is the exact proportional share.

## Main results

* `apportionInteger_isOk` — it returns unless a nonzero total has no positive weight.
* `apportionInteger_total` — **the shares add up to the total.**
* `apportionInteger_fair` — **each share is its quota rounded down or up**, more for a larger
  weight.
* `energySlice_spec` — **a slice inside the available energy is cut out exactly.**
-/

namespace RateReplay

open List

/-! ### Largest remainders -/

section Apportion

variable {κ : Type} [LinearOrder κ] {total : ℤ}

/-- The positive weights, by key. -/
def positiveWeights (weights : Dict κ ℤ) : Dict κ ℤ := (weights.filter fun e => e.2 > 0).sorted

/-- The floor of the quota of each key. -/
def floorShares (magnitude : ℤ) (positive : Dict κ ℤ) : Dict κ ℤ :=
  positive.mapValues fun _ weight => magnitude * weight / positive.total

/-- The keys in the order of decreasing remainders, equal ones by key. -/
def remainderOrder (magnitude : ℤ) (positive : Dict κ ℤ) : List κ :=
  (sortedBy (fun item : ℤ × κ => toLex (-item.1, item.2))
    (positive.entries.map fun e => (magnitude * e.2 % positive.total, e.1))).map Prod.snd

/-- `_apportion_integer`. -/
def apportionInteger (total : ℤ) (weights : Dict κ ℤ) : Except Raised (Dict κ ℤ) :=
  let positive := positiveWeights weights
  if total = 0 then .ok (positive.mapValues fun _ _ => 0)
  else do
    failIf (positive.total = 0) (Raised.replayError .diagnosticAllocationBasisMissing)
    let magnitude := |total|
    let floors := floorShares magnitude positive
    let receivers := (remainderOrder magnitude positive).take (magnitude - floors.total).toNat
    let allocations := (receivers.map fun key => (key, (1 : ℤ))).foldl
      (fun d e => d.add e.1 e.2) floors
    let sign := if total > 0 then 1 else -1
    .ok (allocations.mapValues fun _ value => sign * value)

/-- The keys that receive one of the units the floors leave over. -/
def receivers (magnitude : ℤ) (positive : Dict κ ℤ) : List κ :=
  (remainderOrder magnitude positive).take
    (magnitude - (floorShares magnitude positive).total).toNat

/-- The shares without their sign. -/
def allocations (magnitude : ℤ) (positive : Dict κ ℤ) : Dict κ ℤ :=
  ((receivers magnitude positive).map fun key => (key, (1 : ℤ))).foldl
    (fun d e => d.add e.1 e.2) (floorShares magnitude positive)

/-- What the floor of the quota of a key leaves. -/
def remainder (magnitude : ℤ) (positive : Dict κ ℤ) (key : κ) : ℤ :=
  magnitude * positive.getD key 0 % positive.total

variable {weights shares positive : Dict κ ℤ} {magnitude : ℤ} {key key' : κ}

theorem mem_positiveWeights {e : κ × ℤ} :
    e ∈ (positiveWeights weights).entries ↔ e ∈ weights.entries ∧ 0 < e.2 := by
  rw [positiveWeights, Dict.entries_sorted, mem_sortedBy, Dict.entries_filter, mem_filter]
  simp

theorem get?_positiveWeights :
    (positiveWeights weights).get? key = (weights.get? key).filter (0 < ·) := by
  apply Option.ext
  intro weight
  rw [Dict.get?_eq_some, mem_positiveWeights, Option.filter_eq_some_iff, Dict.get?_eq_some]
  simp

theorem mem_keys_positiveWeights :
    key ∈ (positiveWeights weights).keys ↔ 0 < weights.getD key 0 := by
  rw [← not_iff_not, ← Dict.get?_eq_none, get?_positiveWeights, Dict.getD]
  cases weights.get? key with
  | none => simp
  | some weight => simp [Option.filter]

/-- A weight that is dropped counts as zero. -/
theorem getD_positiveWeights :
    (positiveWeights weights).getD key 0 = max 0 (weights.getD key 0) := by
  rw [Dict.getD, Dict.getD, get?_positiveWeights]
  cases weights.get? key with
  | none => rfl
  | some weight =>
    by_cases hpos : 0 < weight
    · simp [Option.filter, hpos, hpos.le]
    · simp [Option.filter, hpos, not_lt.mp hpos]

theorem positiveWeights_total_nonneg (weights : Dict κ ℤ) :
    0 ≤ (positiveWeights weights).total :=
  Dict.total_nonneg fun _ he => (mem_positiveWeights.mp he).2.le

/-- Dropping weights that are zero does not change the sum. -/
theorem total_positiveWeights (h : ∀ e ∈ weights.entries, 0 ≤ e.2) :
    (positiveWeights weights).total = weights.total := by
  rw [positiveWeights, Dict.total_sorted, Dict.total, Dict.total, Dict.values, Dict.values,
    Dict.entries_filter]
  obtain ⟨entries, hnodup⟩ := weights
  dsimp only at h ⊢
  clear hnodup
  induction entries with
  | nil => rfl
  | cons e entries ih =>
    have htail := ih fun e he => h e (mem_cons_of_mem _ he)
    have hhead := h e mem_cons_self
    by_cases hpos : e.2 > 0
    · rw [filter_cons_of_pos (by simpa using hpos), map_cons, map_cons,
        sum_cons, sum_cons, htail]
    · rw [filter_cons_of_neg (by simpa using hpos), map_cons, sum_cons, htail]
      omega

theorem positiveWeights_total_pos (hk : key ∈ (positiveWeights weights).keys) :
    0 < (positiveWeights weights).total := by
  obtain ⟨e, he, -⟩ := mem_map.mp hk
  refine (mem_positiveWeights.mp he).2.trans_le
    (single_le_sum (fun v hv => ?_) _ (mem_map_of_mem he))
  obtain ⟨e', he', rfl⟩ := mem_map.mp hv
  exact (mem_positiveWeights.mp he').2.le

theorem allocations_zero : allocations 0 positive = positive.mapValues fun _ _ => 0 := by
  have hfloors : floorShares 0 positive = positive.mapValues fun _ _ => 0 := by
    simp only [floorShares, zero_mul, Int.zero_ediv]
  have hnone : receivers 0 positive = [] := by
    have htotal : (positive.mapValues fun _ _ => (0 : ℤ)).total = 0 := by
      simpa using Dict.total_mapValues_mul 0 positive
    rw [receivers, hfloors, htotal]
    rfl
  rw [allocations, hnone, map_nil, foldl_nil, hfloors]

/-- What a call returns, if a nonzero total has a positive weight to go to. -/
theorem apportionInteger_eq_ok : apportionInteger total weights = .ok shares ↔
    (total = 0 ∨ 0 < (positiveWeights weights).total) ∧
      shares = (allocations |total| (positiveWeights weights)).mapValues
        fun _ value => total.sign * value := by
  have hnonneg := positiveWeights_total_nonneg weights
  unfold apportionInteger
  rcases lt_trichotomy total 0 with hneg | rfl | hpos
  · simp only [if_neg hneg.ne, if_neg hneg.not_gt, failIf_bind_eq_ok, Except.ok.injEq,
      Int.sign_eq_neg_one_of_neg hneg]
    exact and_congr (by omega) eq_comm
  · rw [if_pos rfl, abs_zero, allocations_zero, Except.ok.injEq, eq_comm]
    simp [Dict.ext_iff, Function.comp_def]
  · simp only [if_neg hpos.ne', if_pos hpos, failIf_bind_eq_ok, Except.ok.injEq,
      Int.sign_eq_one_of_pos hpos]
    exact and_congr (by omega) eq_comm

/-- It returns unless a nonzero total has no positive weight to go to. -/
theorem apportionInteger_isOk : (∃ shares, apportionInteger total weights = .ok shares) ↔
    total = 0 ∨ 0 < (positiveWeights weights).total := by
  simp only [apportionInteger_eq_ok, exists_and_left, exists_eq, and_true]

/-! ### Who receives a unit -/

theorem remainderOrder_perm (magnitude : ℤ) (positive : Dict κ ℤ) :
    (remainderOrder magnitude positive).Perm positive.keys := by
  have hperm := (sortedBy_perm (fun item : ℤ × κ => toLex (-item.1, item.2))
    (positive.entries.map fun e => (magnitude * e.2 % positive.total, e.1))).map Prod.snd
  rw [map_map] at hperm
  exact hperm

theorem pairwise_remainderOrder (magnitude : ℤ) (positive : Dict κ ℤ) :
    (remainderOrder magnitude positive).Pairwise fun key key' =>
      remainder magnitude positive key' ≤ remainder magnitude positive key := by
  rw [remainderOrder, pairwise_map]
  refine (pairwise_sortedBy _ _).imp_of_mem fun {item item'} hitem hitem' hle => ?_
  obtain ⟨e, he, rfl⟩ := mem_map.mp ((mem_sortedBy _).mp hitem)
  obtain ⟨e', he', rfl⟩ := mem_map.mp ((mem_sortedBy _).mp hitem')
  rw [remainder, remainder, Dict.getD_of_mem he, Dict.getD_of_mem he']
  have hneg := (Prod.Lex.toLex_le_toLex.mp hle).imp le_of_lt fun h => h.1.le
  exact neg_le_neg_iff.mp (or_self_iff.mp hneg)

/-- Euclidean division, summed over the weights: the remainders are what the floors leave over. -/
theorem sum_remainders (magnitude : ℤ) (positive : Dict κ ℤ) :
    ((remainderOrder magnitude positive).map (remainder magnitude positive)).sum
      = positive.total * (magnitude - (floorShares magnitude positive).total) := by
  have hrem : positive.keys.map (remainder magnitude positive)
      = positive.entries.map fun e => magnitude * e.2 % positive.total := by
    rw [Dict.keys, map_map]
    exact map_congr_left fun e he => by simp [remainder, Dict.getD_of_mem he]
  have hsum : ∀ W : ℤ, ∀ l : List (κ × ℤ), (l.map fun e => magnitude * e.2 % W).sum
      = magnitude * (l.map Prod.snd).sum - W * (l.map fun e => magnitude * e.2 / W).sum := by
    intro W l
    induction l with
    | nil => simp
    | cons e l ih =>
      have hdiv := Int.mul_ediv_add_emod (magnitude * e.2) W
      simp only [map_cons, sum_cons, mul_add]
      linarith
  have hfloors : (floorShares magnitude positive).total
      = (positive.entries.map fun e => magnitude * e.2 / positive.total).sum := by
    rw [Dict.total, Dict.values, floorShares, Dict.entries_mapValues, map_map]
    rfl
  rw [((remainderOrder_perm _ _).map _).sum_eq, hrem, hsum, hfloors, mul_sub, mul_comm magnitude]
  rfl

/-- What the floors leave over is at most one for each key. -/
theorem length_receivers (magnitude : ℤ) (hW : 0 < positive.total) :
    ((receivers magnitude positive).length : ℤ)
      = magnitude - (floorShares magnitude positive).total := by
  have hsum := sum_remainders magnitude positive
  have hlo : 0 ≤ magnitude - (floorShares magnitude positive).total := by
    refine nonneg_of_mul_nonneg_right (hsum ▸ sum_nonneg fun v hv => ?_) hW
    obtain ⟨_, -, rfl⟩ := mem_map.mp hv
    exact Int.emod_nonneg _ hW.ne'
  have hhi : magnitude - (floorShares magnitude positive).total
      ≤ (remainderOrder magnitude positive).length := by
    refine le_of_mul_le_mul_left ?_ hW
    rw [← hsum, mul_comm, ← nsmul_eq_mul, ← length_map]
    refine sum_le_card_nsmul _ _ fun v hv => ?_
    obtain ⟨_, -, rfl⟩ := mem_map.mp hv
    exact (Int.emod_lt_of_pos _ hW).le
  rw [receivers, length_take]
  omega

omit [LinearOrder κ] in
/-- Remainders in decreasing order: as many of them are positive as the wholes they make. -/
theorem pos_of_mem_take {W : ℤ} (hW : 0 < W) {l : List κ} {r : κ → ℤ} {n : ℕ}
    (hsorted : l.Pairwise fun a b => r b ≤ r a) (hlt : ∀ a ∈ l, r a < W)
    (hsum : W * n ≤ (l.map r).sum) {a : κ} (ha : a ∈ l.take n) : 0 < r a := by
  induction l generalizing n with
  | nil => simp at ha
  | cons b l ih =>
    obtain _ | n := n
    · simp at ha
    · rw [pairwise_cons] at hsorted
      rw [map_cons, sum_cons] at hsum
      have hb := hlt b mem_cons_self
      push_cast at hsum
      rcases mem_cons.mp ha with rfl | ha
      · by_contra hneg
        have hrest : (l.map r).sum ≤ 0 := by
          refine (sum_le_card_nsmul _ 0 fun v hv => ?_).trans (by simp)
          obtain ⟨b, hb, rfl⟩ := mem_map.mp hv
          exact (hsorted.1 b hb).trans (not_lt.mp hneg)
        nlinarith
      · exact ih hsorted.2 (fun b hb => hlt b (mem_cons_of_mem _ hb)) (by linarith) ha

/-- Who receives a unit has a remainder. -/
theorem pos_of_mem_receivers (hW : 0 < positive.total) (hk : key ∈ receivers magnitude positive) :
    0 < remainder magnitude positive key := by
  refine pos_of_mem_take hW (pairwise_remainderOrder _ _)
    (fun _ _ => Int.emod_lt_of_pos _ hW) ?_ hk
  rw [sum_remainders, ← length_receivers magnitude hW, Int.toNat_natCast]

/-- Who receives none has no larger remainder than one who does. -/
theorem remainder_le_of_receivers (hk : key ∈ receivers magnitude positive)
    (hmem : key' ∈ positive.keys) (hnot : key' ∉ receivers magnitude positive) :
    remainder magnitude positive key' ≤ remainder magnitude positive key := by
  have hsorted := pairwise_remainderOrder magnitude positive
  have hord := (remainderOrder_perm magnitude positive).mem_iff.mpr hmem
  rw [← take_append_drop (magnitude - (floorShares magnitude positive).total).toNat
    (remainderOrder magnitude positive)] at hsorted hord
  exact (pairwise_append.mp hsorted).2.2 key hk key' ((mem_append.mp hord).resolve_left hnot)

/-! ### The shares -/

/-- A key keeps its floor, or gets one more. -/
theorem getD_allocations : (allocations magnitude positive).getD key 0
    = magnitude * positive.getD key 0 / positive.total +
      if key ∈ receivers magnitude positive then 1 else 0 := by
  have hfold : ∀ (keys : List κ) (d : Dict κ ℤ), keys.Nodup →
      ((keys.map fun key => (key, (1 : ℤ))).foldl (fun d e => d.add e.1 e.2) d).getD key 0
        = d.getD key 0 + if key ∈ keys then 1 else 0 := by
    intro keys
    induction keys with
    | nil => simp
    | cons k keys ih =>
      intro d hnodup
      rw [nodup_cons] at hnodup
      rw [map_cons, foldl_cons, ih _ hnodup.2, Dict.getD_add]
      by_cases hk : key = k
      · simp [hk, hnodup.1]
      · simp [hk]
  have hfloor : (floorShares magnitude positive).getD key 0
      = magnitude * positive.getD key 0 / positive.total := by
    rw [Dict.getD, Dict.getD, floorShares, Dict.get?_mapValues]
    cases positive.get? key with
    | none => simp
    | some weight => rfl
  have hnodup : (receivers magnitude positive).Nodup :=
    ((remainderOrder_perm _ _).nodup_iff.mpr positive.nodup).sublist (take_sublist _ _)
  rw [allocations, hfold _ _ hnodup, hfloor]

/-- **The shares add up to the total.** -/
theorem apportionInteger_total (h : apportionInteger total weights = .ok shares) :
    shares.total = total := by
  obtain ⟨hbasis, rfl⟩ := apportionInteger_eq_ok.mp h
  rw [Dict.total_mapValues_mul]
  rcases hbasis with rfl | hW
  · exact zero_mul _
  · -- one more for each of the leftover units
    have hones : ((receivers |total| (positiveWeights weights)).map
        (Prod.snd ∘ fun key => (key, (1 : ℤ)))).sum
          = (receivers |total| (positiveWeights weights)).length := by
      simp [Function.comp_def]
    rw [allocations, Dict.total_foldl_add, map_map, hones, length_receivers _ hW, add_sub_cancel,
      Int.sign_mul_abs]

theorem mem_keys_apportionInteger (h : apportionInteger total weights = .ok shares) :
    key ∈ shares.keys ↔ key ∈ (positiveWeights weights).keys := by
  have hmap : ∀ (f : κ → ℤ → ℤ) (d : Dict κ ℤ), (d.mapValues f).keys = d.keys := by
    intro f d
    rw [Dict.keys, Dict.entries_mapValues, map_map]
    rfl
  obtain ⟨-, rfl⟩ := apportionInteger_eq_ok.mp h
  rw [hmap, allocations, Dict.mem_keys_foldl_add, floorShares, hmap, or_iff_right_iff_imp, map_map]
  intro hmem
  obtain ⟨_, hk, rfl⟩ := mem_map.mp hmem
  exact (remainderOrder_perm _ _).subset (mem_of_mem_take hk)

/-- The weights of the keys that get a share add up to all of the weight. -/
theorem apportionInteger_weights (hnn : ∀ e ∈ weights.entries, 0 ≤ e.2)
    (h : apportionInteger total weights = .ok shares) :
    (shares.entries.map fun e => weights.getD e.1 0).sum = weights.total := by
  have hkeys : shares.keys.Perm (positiveWeights weights).keys :=
    (perm_ext_iff_of_nodup shares.nodup (positiveWeights weights).nodup).mpr
      fun _ => mem_keys_apportionInteger h
  have hsum := (hkeys.map fun key => weights.getD key 0).sum_eq
  rw [Dict.keys, Dict.keys, map_map, map_map] at hsum
  rw [← total_positiveWeights hnn, Dict.total, Dict.values]
  refine hsum.trans (congrArg sum (map_congr_left fun e he => ?_))
  exact Dict.getD_of_mem (mem_positiveWeights.mp he).1 0

theorem getD_apportionInteger (h : apportionInteger total weights = .ok shares) (key : κ) :
    shares.getD key 0
      = total.sign * (allocations |total| (positiveWeights weights)).getD key 0 := by
  obtain ⟨-, rfl⟩ := apportionInteger_eq_ok.mp h
  rw [Dict.getD, Dict.getD, Dict.get?_mapValues]
  cases (allocations |total| (positiveWeights weights)).get? key with
  | none => simp
  | some value => rfl

theorem allocations_nonneg :
    0 ≤ (allocations |total| (positiveWeights weights)).getD key 0 := by
  rw [getD_allocations, getD_positiveWeights]
  have hfloor := Int.ediv_nonneg (mul_nonneg (abs_nonneg total)
    (le_max_left 0 (weights.getD key 0))) (positiveWeights_total_nonneg weights)
  split_ifs <;> omega

theorem abs_apportionInteger (h : apportionInteger total weights = .ok shares) (key : κ) :
    |shares.getD key 0| = (allocations |total| (positiveWeights weights)).getD key 0 := by
  rw [getD_apportionInteger h, abs_mul, abs_of_nonneg allocations_nonneg]
  rcases eq_or_ne total 0 with rfl | htot
  · rw [abs_zero, allocations_zero, Dict.getD, Dict.get?_mapValues]
    cases (positiveWeights weights).get? key <;> rfl
  · rw [Int.abs_sign_of_ne_zero htot, one_mul]

/-- A larger weight is not allocated less. -/
theorem allocations_mono (hW : 0 < positive.total) (hmag : 0 ≤ magnitude)
    (hmem : key ∈ positive.keys) (hlt : positive.getD key' 0 < positive.getD key 0) :
    (allocations magnitude positive).getD key' 0 ≤ (allocations magnitude positive).getD key 0 := by
  have hfloor := Int.ediv_le_ediv hW (mul_le_mul_of_nonneg_left hlt.le hmag)
  rw [getD_allocations, getD_allocations]
  by_cases hk : key ∈ receivers magnitude positive
  · rw [if_pos hk]
    split_ifs <;> omega
  by_cases hk' : key' ∈ receivers magnitude positive
  · -- with equal floors the larger weight would have the larger remainder
    have hpos := pos_of_mem_receivers hW hk'
    have hrem := remainder_le_of_receivers hk' hmem hk
    have hmag' : magnitude ≠ 0 := by
      rintro rfl
      simp [remainder] at hpos
    have hmul := mul_lt_mul_of_pos_left hlt (hmag.lt_of_ne' hmag')
    have hdiv := Int.mul_ediv_add_emod (magnitude * positive.getD key 0) positive.total
    have hdiv' := Int.mul_ediv_add_emod (magnitude * positive.getD key' 0) positive.total
    rw [remainder, remainder] at hrem
    rw [if_pos hk', if_neg hk]
    rcases hfloor.lt_or_eq with hlt' | heq
    · omega
    · rw [heq] at hdiv'
      omega
  · rw [if_neg hk', if_neg hk]
    omega

/-- The exact proportional part of a weight, without the sign of the total. -/
def quota (total weight weightTotal : ℤ) : ℚ := |total| * weight / weightTotal

/-- The floor, and one more where there is a remainder, round the quota down or up. -/
theorem quota_rounded {weight W bonus : ℤ} (hW : 0 < W)
    (hbonus : bonus = 0 ∨ bonus = 1 ∧ 0 < |total| * weight % W) :
    |total| * weight / W + bonus = ⌊quota total weight W⌋ ∨
      |total| * weight / W + bonus = ⌈quota total weight W⌉ := by
  have hdiv := Int.mul_ediv_add_emod (|total| * weight) W
  have hlt := Int.emod_lt_of_pos (|total| * weight) hW
  have hnn := Int.emod_nonneg (|total| * weight) hW.ne'
  have hWq : (0 : ℚ) < W := by exact_mod_cast hW
  rw [eq_comm, Int.floor_eq_iff, eq_comm (a := _ + bonus), Int.ceil_eq_iff, quota,
    le_div_iff₀ hWq, div_lt_iff₀ hWq, lt_div_iff₀ hWq, div_le_iff₀ hWq]
  norm_cast
  rcases hbonus with rfl | ⟨rfl, hpos⟩
  · left
    constructor <;> nlinarith
  · right
    constructor <;> nlinarith

/-- **The shares are fair**: they add up to the total, each is its quota rounded down or up with
the sign of the total, exactly the positive weights have one, a larger weight does not get less,
and the order of the weights does not matter. -/
theorem apportionInteger_fair (hnn : ∀ e ∈ weights.entries, 0 ≤ e.2)
    (h : apportionInteger total weights = .ok shares) :
    shares.total = total ∧
      (∀ key share, shares.get? key = some share →
        (|share| = ⌊quota total (weights.getD key 0) weights.total⌋ ∨
          |share| = ⌈quota total (weights.getD key 0) weights.total⌉) ∧
        share = total.sign * |share|) ∧
      (∀ key, key ∈ shares.keys ↔ 0 < weights.getD key 0) ∧
      (∀ key key', weights.getD key' 0 < weights.getD key 0 →
        |shares.getD key' 0| ≤ |shares.getD key 0|) ∧
      ∀ weights' : Dict κ ℤ, weights'.entries.Perm weights.entries →
        apportionInteger total weights' = .ok shares := by
  -- no weight is negative, so the filter drops zeros only
  have hweight : ∀ key, (positiveWeights weights).getD key 0 = weights.getD key 0 := by
    intro key
    rw [getD_positiveWeights, max_eq_right]
    cases hg : weights.get? key with
    | none => simp [Dict.getD, hg]
    | some weight =>
      rw [Dict.getD, hg]
      exact hnn _ (Dict.get?_eq_some.mp hg)
  refine ⟨apportionInteger_total h, fun key share hg => ?_, fun key =>
    (mem_keys_apportionInteger h).trans mem_keys_positiveWeights, fun key key' hlt => ?_,
    fun weights' hperm => ?_⟩
  · have hshare : shares.getD key 0 = share := by rw [Dict.getD, hg, Option.getD_some]
    have habs := abs_apportionInteger h key
    rw [hshare] at habs
    refine ⟨?_, by rw [habs, ← hshare, getD_apportionInteger h]⟩
    have hW := positiveWeights_total_pos ((mem_keys_apportionInteger h).mp
      (mem_map.mpr ⟨_, Dict.get?_eq_some.mp hg, rfl⟩))
    rw [habs, getD_allocations, ← hweight, ← total_positiveWeights hnn]
    refine quota_rounded hW ?_
    split_ifs with hk
    · exact .inr ⟨rfl, pos_of_mem_receivers hW hk⟩
    · exact .inl rfl
  · rw [← hweight, ← hweight key] at hlt
    have hmem : key ∈ (positiveWeights weights).keys := by
      rw [getD_positiveWeights, getD_positiveWeights] at hlt
      exact mem_keys_positiveWeights.mpr (by omega)
    rw [abs_apportionInteger h, abs_apportionInteger h]
    exact allocations_mono (positiveWeights_total_pos hmem) (abs_nonneg _) hmem hlt
  · have hsame : positiveWeights weights' = positiveWeights weights := by
      refine Dict.ext (sortedBy_eq_of_perm (hperm.filter _) fun a ha b hb hab => ?_)
      exact inj_on_of_nodup_map weights'.nodup (mem_of_mem_filter ha) (mem_of_mem_filter hb) hab
    rw [apportionInteger, hsame]
    exact h

end Apportion

/-- Minus five over two equal weights: the earlier key gets the odd unit, and the zero weight has
no share. -/
theorem apportionInteger_equal_weights :
    let weights : Dict ℤ ℤ := ⟨[(2, 1), (3, 0), (1, 1)], by decide⟩
    let shares : Dict ℤ ℤ := ⟨[(1, -3), (2, -2)], by decide⟩
    (∀ e ∈ weights.entries, 0 ≤ e.2) ∧ apportionInteger (-5) weights = .ok shares ∧
      ∀ key, key ∈ shares.keys ↔ 0 < weights.getD key 0 :=
  have hok : apportionInteger (-5) (⟨[(2, 1), (3, 0), (1, 1)], by decide⟩ : Dict ℤ ℤ)
      = .ok ⟨[(1, -3), (2, -2)], by decide⟩ := by decide +kernel
  ⟨by decide, hok, (apportionInteger_fair (by decide) hok).2.2.1⟩

/-! ### Slices of energy -/

/-- The length of the overlap of two stretches. -/
def overlap (lower upper lower' upper' : ℤ) : ℤ := max 0 (min upper upper' - max lower lower')

/-- How much of the energy of one day lies between `lower` and `upper`, when the days
follow one another. -/
def dayPart : List (ℤ × ℤ) → ℤ → ℤ → ℤ → ℤ
  | [], _, _, _ => 0
  | (serviceDay, energy) :: rest, lower, upper, day =>
    (if serviceDay = day then overlap 0 energy lower upper else 0) +
      dayPart rest (lower - energy) (upper - energy) day

section DayPart

variable {days : List (ℤ × ℤ)} {lower upper : ℤ}

section NonnegDays

variable (hnn : ∀ e ∈ days, 0 ≤ e.2)

include hnn

/-- What lies below the first day does not matter. -/
theorem dayPart_of_nonpos {lower' : ℤ} (upper day : ℤ) (h : lower ≤ 0) (h' : lower' ≤ 0) :
    dayPart days lower upper day = dayPart days lower' upper day := by
  induction days generalizing lower lower' upper with
  | nil => rfl
  | cons e days ih =>
    have he := hnn e mem_cons_self
    rw [dayPart, dayPart, ih (fun x hx => hnn x (mem_cons_of_mem _ hx)) (upper - e.2)
      (show lower - e.2 ≤ 0 by omega) (show lower' - e.2 ≤ 0 by omega), overlap, overlap,
      max_eq_left h, max_eq_left h']

theorem dayPart_of_empty (day : ℤ) (h : upper ≤ lower ∨ upper ≤ 0) :
    dayPart days lower upper day = 0 := by
  induction days generalizing lower upper with
  | nil => rfl
  | cons e days ih =>
    have he := hnn e mem_cons_self
    have hov : overlap 0 e.2 lower upper = 0 := by
      unfold overlap
      omega
    rw [dayPart, ih (fun x hx => hnn x (mem_cons_of_mem _ hx)) (by omega), hov]
    simp

/-- Consecutive stretches take consecutive parts of a day. -/
theorem dayPart_add {mid : ℤ} (day : ℤ) (h : lower ≤ mid) (h' : mid ≤ upper) :
    dayPart days lower mid day + dayPart days mid upper day = dayPart days lower upper day := by
  induction days generalizing lower mid upper with
  | nil => rfl
  | cons e days ih =>
    have he := hnn e mem_cons_self
    have hov : overlap 0 e.2 lower mid + overlap 0 e.2 mid upper
        = overlap 0 e.2 lower upper := by
      unfold overlap
      omega
    have hrest := ih (fun x hx => hnn x (mem_cons_of_mem _ hx))
      (show lower - e.2 ≤ mid - e.2 by omega) (show mid - e.2 ≤ upper - e.2 by omega)
    rw [dayPart, dayPart, dayPart, ← hrest, ← hov]
    split_ifs
    · ring
    · ring

/-- The whole stretch takes all of a day. -/
theorem dayPart_whole (day : ℤ) (h : (days.map Prod.snd).sum ≤ upper) :
    dayPart days 0 upper day = (days.map fun e => if e.1 = day then e.2 else 0).sum := by
  induction days generalizing upper with
  | nil => rfl
  | cons e days ih =>
    have he := hnn e mem_cons_self
    have hnn' : ∀ x ∈ days, 0 ≤ x.2 := fun x hx => hnn x (mem_cons_of_mem _ hx)
    rw [map_cons, sum_cons] at h
    have hrest : 0 ≤ (days.map Prod.snd).sum := by
      apply sum_nonneg
      intro v hv
      obtain ⟨x, hx, rfl⟩ := mem_map.mp hv
      exact hnn' x hx
    have hov : overlap 0 e.2 0 upper = e.2 := by
      unfold overlap
      omega
    rw [dayPart, hov, dayPart_of_nonpos hnn' (upper - e.2) day (show 0 - e.2 ≤ 0 by omega)
      le_rfl, ih hnn' (by omega), map_cons, sum_cons]

end NonnegDays

end DayPart

theorem dayPart_total {d : Dict ℤ ℤ} (hnn : ∀ e ∈ d.entries, 0 ≤ e.2) (day : ℤ) :
    dayPart d.entries 0 d.total day = d.getD day 0 := by
  rw [dayPart_whole hnn day (show (d.entries.map Prod.snd).sum ≤ d.total from le_rfl), Dict.getD,
    Dict.get?]
  obtain ⟨entries, hnodup⟩ := d
  clear hnn
  dsimp only
  induction entries with
  | nil => rfl
  | cons e entries ih =>
    rw [map_cons, nodup_cons] at hnodup
    rw [map_cons, sum_cons]
    by_cases hday : e.1 = day
    · have hrest : (entries.map fun e => if e.1 = day then e.2 else 0).sum = 0 := by
        apply sum_eq_zero
        intro v hv
        obtain ⟨x, hx, rfl⟩ := mem_map.mp hv
        exact if_neg fun hkey => hnodup.1 (mem_map.mpr ⟨x, hx, hkey.trans hday.symm⟩)
      rw [hrest, if_pos hday, find?_cons_of_pos (by simpa using hday), add_zero]
      rfl
    · rw [if_neg hday, zero_add, ih hnodup.2, find?_cons_of_neg (by simpa using hday)]

/-- The loop of `_energy_slice`: what is left of offset and quantity, and the days taken. -/
def sliceDays : List (ℤ × ℤ) → ℤ → ℤ → Dict ℤ ℤ → ℤ × ℤ × Dict ℤ ℤ
  | [], offset, quantity, selected => (offset, quantity, selected)
  | (serviceDay, energy) :: rest, offset, quantity, selected =>
    if offset ≥ energy then sliceDays rest (offset - energy) quantity selected
    else
      let taken := min (energy - offset) quantity
      let selected := if taken = 0 then selected else selected.set serviceDay taken
      if quantity - taken = 0 then (0, 0, selected)
      else sliceDays rest 0 (quantity - taken) selected

/-- `_energy_slice`. -/
def energySlice (dailyEnergy : Dict ℤ ℤ) (offset quantity : ℤ) : Except Raised (Dict ℤ ℤ) := do
  failIf (offset < 0 ∨ quantity < 0) (Raised.replayError .diagnosticAllocationInvalid)
  let (remainingOffset, remainingQuantity, selected) :=
    sliceDays dailyEnergy.entries offset quantity Dict.empty
  failIf (remainingOffset ≠ 0 ∨ remainingQuantity ≠ 0)
    (Raised.replayError .diagnosticSliceBasisMissing)
  .ok selected

/-- Where enough energy follows, the loop uses up offset and quantity, and takes exactly
the quantity. -/
theorem sliceDays_spec : ∀ (days : List (ℤ × ℤ)) (offset quantity : ℤ) (selected : Dict ℤ ℤ),
    (∀ e ∈ days, 0 ≤ e.2) → (days.map Prod.fst).Nodup →
    (∀ k ∈ selected.keys, k ∉ days.map Prod.fst) → (∀ e ∈ selected.entries, 0 ≤ e.2) →
    0 ≤ offset → 0 ≤ quantity → offset + quantity ≤ (days.map Prod.snd).sum →
    ∃ selected', sliceDays days offset quantity selected = (0, 0, selected') ∧
      selected'.total = selected.total + quantity ∧ (∀ e ∈ selected'.entries, 0 ≤ e.2) ∧
      ∀ day, selected'.getD day 0
        = selected.getD day 0 + dayPart days offset (offset + quantity) day := by
  intro days
  induction days with
  | nil =>
    intro offset quantity selected _ _ _ hsel ho hq hsum
    rw [map_nil, sum_nil] at hsum
    refine ⟨selected, ?_, by omega, hsel, fun day => (add_zero _).symm⟩
    rw [sliceDays, show offset = 0 by omega, show quantity = 0 by omega]
  | cons day days ih =>
    obtain ⟨d, energy⟩ := day
    intro offset quantity selected hnn hnodup hfr hsel ho hq hsum
    have hnn' : ∀ e ∈ days, 0 ≤ e.2 := fun e he => hnn e (mem_cons_of_mem _ he)
    have hen : 0 ≤ energy := hnn (d, energy) mem_cons_self
    rw [map_cons, nodup_cons] at hnodup
    rw [map_cons, sum_cons] at hsum
    have hfr' : ∀ k ∈ selected.keys, k ∉ days.map Prod.fst := by
      intro k hk hmem
      exact hfr k hk (mem_cons_of_mem _ hmem)
    rw [sliceDays]
    by_cases hskip : offset ≥ energy
    · rw [if_pos hskip]
      obtain ⟨selected', heq, htotal, hnonneg, hdays⟩ := ih (offset - energy) quantity selected
        hnn' hnodup.2 hfr' hsel (by omega) hq (by dsimp only at hsum; omega)
      refine ⟨selected', heq, htotal, hnonneg, fun day => ?_⟩
      have hov : overlap 0 energy offset (offset + quantity) = 0 := by
        unfold overlap
        omega
      rw [hdays, dayPart, hov, ite_self, zero_add, sub_add_eq_add_sub]
    · rw [if_neg hskip]
      dsimp only at hsum ⊢
      have hov : overlap 0 energy offset (offset + quantity)
          = min (energy - offset) quantity := by
        unfold overlap
        omega
      have hd : d ∉ selected.keys := by
        intro hk
        exact hfr d hk mem_cons_self
      -- what is selected after this day, whether or not anything is taken from it
      obtain ⟨sel, hselEq, htotal, hkeys, hnonneg, hdays⟩ : ∃ sel : Dict ℤ ℤ,
          (if min (energy - offset) quantity = 0 then selected
            else selected.set d (min (energy - offset) quantity)) = sel ∧
          sel.total = selected.total + min (energy - offset) quantity ∧
          (∀ k ∈ sel.keys, k = d ∨ k ∈ selected.keys) ∧ (∀ e ∈ sel.entries, 0 ≤ e.2) ∧
          ∀ day, sel.getD day 0 = selected.getD day 0 +
            if d = day then min (energy - offset) quantity else 0 := by
        refine ⟨_, rfl, ?_⟩
        split_ifs with htaken
        · refine ⟨by rw [htaken, add_zero], fun k hk => .inr hk, hsel, fun day => ?_⟩
          rw [htaken, ite_self, add_zero]
        · refine ⟨Dict.total_set_of_not_mem _ hd, fun k hk => Dict.mem_keys_set.mp hk, ?_, ?_⟩
          · intro e he
            rcases Dict.mem_entries_set.mp he with rfl | ⟨hmem, -⟩
            · show 0 ≤ min (energy - offset) quantity
              omega
            · exact hsel e hmem
          · intro day
            rw [Dict.getD_set]
            by_cases hday : d = day
            · rw [if_pos hday, if_pos hday.symm, Dict.getD, ← hday, Dict.get?_eq_none.mpr hd,
                Option.getD_none, zero_add]
            · rw [if_neg hday, if_neg (Ne.symm hday), add_zero]
      rw [hselEq]
      by_cases hdone : quantity - min (energy - offset) quantity = 0
      · rw [if_pos hdone]
        refine ⟨sel, rfl, by omega, hnonneg, fun day => ?_⟩
        rw [hdays, dayPart, hov, dayPart_of_empty hnn' day (by omega), add_zero]
      · rw [if_neg hdone]
        have hfreshSel : ∀ k ∈ sel.keys, k ∉ days.map Prod.fst := by
          intro k hk
          rcases hkeys k hk with rfl | hold
          · exact hnodup.1
          · exact hfr' k hold
        obtain ⟨sel', heq, htot, hnn'', hdays'⟩ := ih 0 (quantity - min (energy - offset) quantity)
          sel hnn' hnodup.2 hfreshSel hnonneg le_rfl (by omega) (by omega)
        refine ⟨sel', heq, by omega, hnn'', fun day => ?_⟩
        rw [hdays', hdays, dayPart, hov, add_assoc, dayPart_of_nonpos hnn' _ day
          (show offset - energy ≤ 0 by omega) le_rfl,
          show 0 + (quantity - min (energy - offset) quantity) = offset + quantity - energy by
            omega]

/-- **A slice inside the available energy is cut out exactly.** -/
theorem energySlice_spec {dailyEnergy : Dict ℤ ℤ} (offset quantity : ℤ)
    (hnn : ∀ e ∈ dailyEnergy.entries, 0 ≤ e.2) (ho : 0 ≤ offset) (hq : 0 ≤ quantity)
    (hsum : offset + quantity ≤ dailyEnergy.total) :
    ∃ selected, energySlice dailyEnergy offset quantity = .ok selected ∧
      selected.total = quantity ∧ (∀ e ∈ selected.entries, 0 ≤ e.2) ∧
      ∀ day, selected.getD day 0 = dayPart dailyEnergy.entries offset (offset + quantity) day := by
  obtain ⟨selected, heq, htot, hnonneg, hdays⟩ := sliceDays_spec dailyEnergy.entries offset
    quantity Dict.empty hnn dailyEnergy.nodup (by intro k hk; cases hk) (by intro e he; cases he)
    ho hq hsum
  refine ⟨selected, ?_, by rw [htot, Dict.total_empty, zero_add], hnonneg, fun day => ?_⟩
  · rw [energySlice, failIf_of_not _ (by omega), heq]
    rfl
  · rw [hdays, Dict.getD, Dict.get?_empty, Option.getD_none, zero_add]

end RateReplay
