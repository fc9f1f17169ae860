import ModelMeld.Lib.Median
import ModelMeld.Proof.Registry

/-!
# The order of latency-adjusted costs

`_sort_latency_adjusted` sorts the positions of its list (`latencyOrder`), so a
candidate is ahead of another by its key, and by its position where the keys are
equal (`aheadOf_iff`).

* `latency_monotone`: a lower latency never costs a candidate its place, although it
  lowers the median that unmeasured candidates are given;
* `missing_never_ahead_iff`: exactly when missing data is no advantage.
-/

namespace ModelMeld

open Ranking

variable {result : List (ModelEntry × ℚ)} {w : ℚ} {refInputTokens refOutputTokens : ℤ}

/-! ## Positions -/

/-- `_effective` of a position. -/
def latencyKeyAt (result : List (ModelEntry × ℚ)) (w : ℚ) (refInputTokens refOutputTokens : ℤ)
    (k : ℕ) : ℚ :=
  result[k]?.elim 0 (latencyKey result w refInputTokens refOutputTokens)

/-- The positions of the list, as `sorted(enumerate(result))` orders them. -/
def latencyOrder (result : List (ModelEntry × ℚ)) (w : ℚ) (refInputTokens refOutputTokens : ℤ) :
    List ℕ :=
  sortedBy (latencyKeyAt result w refInputTokens refOutputTokens) (List.range result.length)

/-- The candidate at one position is placed ahead of the one at another. -/
def AheadOf (result : List (ModelEntry × ℚ)) (w : ℚ) (refInputTokens refOutputTokens : ℤ)
    (k j : ℕ) : Prop :=
  (latencyOrder result w refInputTokens refOutputTokens).idxOf k <
    (latencyOrder result w refInputTokens refOutputTokens).idxOf j

instance (k j : ℕ) : Decidable (AheadOf result w refInputTokens refOutputTokens k j) :=
  inferInstanceAs (Decidable (_ < _))

theorem aheadOf_iff {k j : ℕ} (hk : k < result.length) (hj : j < result.length) :
    AheadOf result w refInputTokens refOutputTokens k j ↔
      latencyKeyAt result w refInputTokens refOutputTokens k <
          latencyKeyAt result w refInputTokens refOutputTokens j ∨
        (latencyKeyAt result w refInputTokens refOutputTokens k =
            latencyKeyAt result w refInputTokens refOutputTokens j ∧ k < j) := by
  refine idxOf_lt_iff_of_pairwise (pairwise_sortedBy_stable _ List.pairwise_lt_range) ?_
    (mem_sortedBy.2 (List.mem_range.2 hk)) (mem_sortedBy.2 (List.mem_range.2 hj))
  rintro a b (hab | ⟨hab, hlt⟩) (hba | ⟨hba, hlt'⟩)
  · exact lt_asymm hab hba
  · exact hab.ne hba.symm
  · exact hba.ne hab.symm
  · omega

/-- The median that unmeasured candidates are given. -/
def imputed (result : List (ModelEntry × ℚ)) (refInputTokens refOutputTokens : ℤ) : ℚ :=
  median (measuredLatencies result refInputTokens refOutputTokens)

theorem latencyKeyAt_of_weight (hw : 0 < w) {k : ℕ} {p : ModelEntry × ℚ} (hk : result[k]? = some p)
    (hmeasured : measuredLatencies result refInputTokens refOutputTokens ≠ []) :
    latencyKeyAt result w refInputTokens refOutputTokens k =
      p.2 * (1 + w * (p.1.estimatedTurnLatencyS refInputTokens refOutputTokens).getD
        (imputed result refInputTokens refOutputTokens)) := by
  have hcond : ¬ (w ≤ 0 ∨ measuredLatencies result refInputTokens refOutputTokens = []) := by
    rintro (h | h)
    · exact absurd hw (not_lt.2 h)
    · exact hmeasured h
  unfold latencyKeyAt latencyKey
  rw [hk]
  simp only [Option.elim_some, if_neg hcond]
  rfl

theorem latencyKeyAt_of_no_weight (hw : w ≤ 0) {k : ℕ} {p : ModelEntry × ℚ}
    (hk : result[k]? = some p) :
    latencyKeyAt result w refInputTokens refOutputTokens k = p.2 := by
  unfold latencyKeyAt latencyKey
  rw [hk]
  simp [hw]

theorem measured_ne_nil {k : ℕ} {p : ModelEntry × ℚ} (hk : result[k]? = some p) {lat : ℚ}
    (hlat : p.1.estimatedTurnLatencyS refInputTokens refOutputTokens = some lat) :
    measuredLatencies result refInputTokens refOutputTokens ≠ [] :=
  List.ne_nil_of_mem (List.mem_filterMap.2 ⟨p, List.mem_of_getElem? hk, hlat⟩)

/-! ## Lowering a latency -/

/-- After one element is replaced, the values read of a list are still above the images of the old
ones, if they were and the new one is. -/
theorem forall₂_filterMap_set {A : Type} {f : A → Option ℚ} {g : ℚ → ℚ} {x : A} {new : ℚ}
    (hx : f x = some new) : ∀ {l : List A} {k : ℕ} {p : A} {old : ℚ},
    (∀ q ∈ l, ∀ v, f q = some v → g v ≤ v) → l[k]? = some p → f p = some old → g old ≤ new →
    List.Forall₂ (· ≤ ·) ((l.filterMap f).map g) ((l.set k x).filterMap f) := by
  have hrest : ∀ {l : List A}, (∀ q ∈ l, ∀ v, f q = some v → g v ≤ v) →
      List.Forall₂ (· ≤ ·) ((l.filterMap f).map g) (l.filterMap f) := by
    intro l hl
    rw [List.forall₂_map_left_iff, List.forall₂_same]
    intro v hv
    obtain ⟨q, hq, hqv⟩ := List.mem_filterMap.1 hv
    exact hl q hq v hqv
  intro l
  induction l with
  | nil =>
    intro k p old _ hk
    simp at hk
  | cons q l ih =>
    intro k p old hl hk hp hold
    have hl' : ∀ q ∈ l, ∀ v, f q = some v → g v ≤ v := fun q hq => hl q (List.mem_cons_of_mem _ hq)
    cases k with
    | zero =>
      obtain rfl : q = p := by simpa using hk
      rw [List.set_cons_zero, List.filterMap_cons_some hp, List.filterMap_cons_some hx, List.map_cons]
      exact List.Forall₂.cons hold (hrest hl')
    | succ k =>
      have htail := ih hl' (by simpa using hk) hp hold
      rw [List.set_cons_succ]
      cases hq : f q with
      | none => rwa [List.filterMap_cons_none hq, List.filterMap_cons_none hq]
      | some v =>
        rw [List.filterMap_cons_some hq, List.filterMap_cons_some hq, List.map_cons]
        exact List.Forall₂.cons (hl q List.mem_cons_self v hq) htail

/-- The affine map that scales latency factors by the ratio of two of them: it takes the one latency
to the other, and raises none that is not negative. -/
theorem exists_affine (hw : 0 < w) {lat lat' : ℚ} (hnonneg : 0 ≤ lat') (hlower : lat' ≤ lat) :
    ∃ ratio shift : ℚ, 0 < ratio ∧ ratio * (1 + w * lat) = 1 + w * lat' ∧
      ratio * lat + shift = lat' ∧ (∀ v, 0 ≤ v → ratio * v + shift ≤ v) ∧
        ∀ m, 1 + w * (ratio * m + shift) = ratio * (1 + w * m) := by
  have hpos : 0 < 1 + w * lat := by
    have := mul_nonneg hw.le (hnonneg.trans hlower)
    linarith
  refine ⟨(1 + w * lat') / (1 + w * lat), ((1 + w * lat') / (1 + w * lat) - 1) / w, ?_⟩
  generalize hratio : (1 + w * lat') / (1 + w * lat) = ratio
  generalize hshift : (ratio - 1) / w = shift
  have hratio_mul : ratio * (1 + w * lat) = 1 + w * lat' := by
    rw [← hratio]
    exact div_mul_cancel₀ _ hpos.ne'
  have hshift_mul : w * shift = ratio - 1 := by
    rw [← hshift]
    exact mul_div_cancel₀ _ hw.ne'
  have hratio_pos : 0 < ratio := by
    have := mul_nonneg hw.le hnonneg
    rw [← hratio]
    exact div_pos (by linarith) hpos
  have hratio_le : ratio ≤ 1 := by
    rw [← hratio, div_le_one hpos]
    have := mul_le_mul_of_nonneg_left hlower hw.le
    linarith
  have hshift_le : shift ≤ 0 := by
    rw [← hshift]
    exact div_nonpos_of_nonpos_of_nonneg (by linarith) hw.le
  refine ⟨hratio_pos, hratio_mul, ?_, ?_, ?_⟩
  · have hscaled : w * (ratio * lat + shift) = w * lat' := by
      rw [mul_add, hshift_mul]
      linarith
    exact mul_left_cancel₀ hw.ne' hscaled
  · intro v hv
    have := mul_le_mul_of_nonneg_right hratio_le hv
    linarith
  · intro m
    rw [mul_add, hshift_mul]
    ring

/-- **When one latency is lowered, the factor of the imputed median shrinks by no more than the
factor of that latency.** -/
theorem imputed_factor (hw : 0 < w) {k : ℕ} {e e' : ModelEntry} {cost lat lat' : ℚ}
    (hlatencies : ∀ p ∈ result, ∀ v,
      p.1.estimatedTurnLatencyS refInputTokens refOutputTokens = some v → 0 ≤ v)
    (hk : result[k]? = some (e, cost))
    (hlat : e.estimatedTurnLatencyS refInputTokens refOutputTokens = some lat)
    (hlat' : e'.estimatedTurnLatencyS refInputTokens refOutputTokens = some lat')
    (hnonneg : 0 ≤ lat') (hlower : lat' ≤ lat) :
    (1 + w * imputed result refInputTokens refOutputTokens) * (1 + w * lat') ≤
      (1 + w * imputed (result.set k (e', cost)) refInputTokens refOutputTokens) *
        (1 + w * lat) := by
  have hpos : 0 < 1 + w * lat := by
    have := mul_nonneg hw.le (hnonneg.trans hlower)
    linarith
  obtain ⟨ratio, shift, hratio_pos, hratio_mul, hmoved, hlowered, haffine⟩ :=
    exists_affine hw hnonneg hlower
  have hpointwise := forall₂_filterMap_set
    (f := fun p : ModelEntry × ℚ => p.1.estimatedTurnLatencyS refInputTokens refOutputTokens)
    (g := fun x => ratio * x + shift) (x := (e', cost)) hlat'
    (fun p hp v hv => hlowered v (hlatencies p hp v hv)) hk hlat hmoved.le
  have hmedian : ratio * imputed result refInputTokens refOutputTokens + shift ≤
      imputed (result.set k (e', cost)) refInputTokens refOutputTokens := by
    refine le_of_eq_of_le ?_ (median_mono hpointwise)
    exact (median_affine hratio_pos (measured_ne_nil hk hlat)).symm
  have hfactor : ratio * (1 + w * imputed result refInputTokens refOutputTokens) ≤
      1 + w * imputed (result.set k (e', cost)) refInputTokens refOutputTokens := by
    have := mul_le_mul_of_nonneg_left hmedian hw.le
    rw [← haffine]
    linarith
  calc (1 + w * imputed result refInputTokens refOutputTokens) * (1 + w * lat')
      = ratio * (1 + w * imputed result refInputTokens refOutputTokens) * (1 + w * lat) := by
        rw [← hratio_mul]
        ring
    _ ≤ _ := mul_le_mul_of_nonneg_right hfactor hpos.le

/-- Ahead by a key stays ahead when both keys change so that their ratio does not grow. -/
theorem ahead_of_scaled {x y x' y' a a' : ℚ} {k j : ℕ} (ha : 0 < a) (ha' : 0 < a')
    (hx : x' * a = x * a') (hy : y * a' ≤ y' * a) (h : x < y ∨ (x = y ∧ k < j)) :
    x' < y' ∨ (x' = y' ∧ k < j) := by
  rcases h with hlt | ⟨heq, hkj⟩
  · left
    have hscaled := mul_lt_mul_of_pos_right hlt ha'
    exact lt_of_mul_lt_mul_right (lt_of_eq_of_lt hx (lt_of_lt_of_le hscaled hy)) ha.le
  · have hle : x' ≤ y' := by
      refine le_of_mul_le_mul_right ?_ ha
      rw [hx, heq]
      exact hy
    rcases lt_or_eq_of_le hle with hlt | heq'
    · exact Or.inl hlt
    · exact Or.inr ⟨heq', hkj⟩

/-- **A lower latency never moves a candidate behind one it was ahead of.** -/
theorem latency_monotone (hw : 0 ≤ w) (hcosts : ∀ p ∈ result, 0 ≤ p.2)
    (hlatencies : ∀ p ∈ result, ∀ v,
      p.1.estimatedTurnLatencyS refInputTokens refOutputTokens = some v → 0 ≤ v)
    {k j : ℕ} {e e' : ModelEntry} {cost lat lat' : ℚ} (hk : result[k]? = some (e, cost))
    (hlat : e.estimatedTurnLatencyS refInputTokens refOutputTokens = some lat)
    (hlat' : e'.estimatedTurnLatencyS refInputTokens refOutputTokens = some lat')
    (hnonneg : 0 ≤ lat') (hlower : lat' ≤ lat) (hj : j < result.length)
    (hahead : AheadOf result w refInputTokens refOutputTokens k j) :
    AheadOf (result.set k (e', cost)) w refInputTokens refOutputTokens k j := by
  obtain ⟨hklt, -⟩ := List.getElem?_eq_some_iff.1 hk
  have hk' : (result.set k (e', cost))[k]? = some (e', cost) := by simp [hklt]
  rw [aheadOf_iff hklt hj] at hahead
  rw [aheadOf_iff (by simpa using hklt) (by simpa using hj)]
  have hkj : k ≠ j := by
    rintro rfl
    rcases hahead with h | ⟨-, h⟩ <;> exact lt_irrefl _ h
  obtain ⟨p, hp⟩ : ∃ p, result[j]? = some p := ⟨_, List.getElem?_eq_getElem hj⟩
  have hp' : (result.set k (e', cost))[j]? = some p := by rw [List.getElem?_set_ne hkj, hp]
  rcases hw.eq_or_lt with hzero | hpos
  · -- without a weight only the costs count
    rw [latencyKeyAt_of_no_weight hzero.ge hk, latencyKeyAt_of_no_weight hzero.ge hp] at hahead
    rw [latencyKeyAt_of_no_weight hzero.ge hk', latencyKeyAt_of_no_weight hzero.ge hp']
    exact hahead
  · have hmeasured := measured_ne_nil hk hlat
    have hmeasured' := measured_ne_nil hk' hlat'
    rw [latencyKeyAt_of_weight hpos hk hmeasured, latencyKeyAt_of_weight hpos hp hmeasured,
      hlat, Option.getD_some] at hahead
    rw [latencyKeyAt_of_weight hpos hk' hmeasured', latencyKeyAt_of_weight hpos hp' hmeasured',
      hlat', Option.getD_some]
    have hfactor : 0 < 1 + w * lat := by
      have := mul_nonneg hpos.le (hnonneg.trans hlower)
      linarith
    have hfactor' : 0 < 1 + w * lat' := by
      have := mul_nonneg hpos.le hnonneg
      linarith
    have hpcost := hcosts p (List.mem_of_getElem? hp)
    refine ahead_of_scaled hfactor hfactor' (by ring) ?_ hahead
    cases hplat : p.1.estimatedTurnLatencyS refInputTokens refOutputTokens with
    | some v =>
      -- a measured candidate keeps its key
      have hv := hlatencies p (List.mem_of_getElem? hp) v hplat
      have hpfactor : 0 ≤ p.2 * (1 + w * v) := by
        have := mul_nonneg hpos.le hv
        exact mul_nonneg hpcost (by linarith)
      have := mul_le_mul_of_nonneg_left hlower hpos.le
      simp only [Option.getD_some]
      exact mul_le_mul_of_nonneg_left (by linarith) hpfactor
    | none =>
      -- an unmeasured one is given the new median
      simp only [Option.getD_none]
      have hscaled := mul_le_mul_of_nonneg_left
        (imputed_factor hpos hlatencies hk hlat hlat' hnonneg hlower) hpcost
      rw [mul_assoc, mul_assoc]
      exact hscaled

/-- A measured row and one that costs as much. -/
def timedEntry (ttft tps : Option ℚ) : ModelEntry where
  modelId := "m"
  provider := "p"
  contextWindow := 8000
  costPerMInput := 1
  costPerMOutput := 1
  medianTtftS := ttft
  medianOutputTps := tps

/-- The latency of the first candidate falls from 2 to 1, and with it the median. -/
theorem latency_monotone_two :
    AheadOf ([(timedEntry (some 1) (some 100), 1), (timedEntry none none, 1)].set 0
      (timedEntry (some 0) (some 100), 1)) 1 0 100 0 1 := by
  have hlat : (timedEntry (some 1) (some 100)).estimatedTurnLatencyS 0 100 = some 2 := by
    decide +kernel
  have hlat' : (timedEntry (some 0) (some 100)).estimatedTurnLatencyS 0 100 = some 1 := by
    decide +kernel
  have hlatencies : ∀ p ∈ [(timedEntry (some 1) (some 100), (1 : ℚ)), (timedEntry none none, 1)],
      ∀ v, p.1.estimatedTurnLatencyS 0 100 = some v → 0 ≤ v := by
    intro p hp v hv
    simp only [List.mem_cons, List.not_mem_nil, or_false] at hp
    rcases hp with rfl | rfl
    · rw [hlat] at hv
      rw [← Option.some.inj hv]
      decide
    · cases hv
  exact latency_monotone (by decide) (by decide) hlatencies rfl hlat hlat'
    (by decide +kernel) (by decide +kernel) (by decide) (by decide +kernel)

/-! ## Missing data -/

/-- A candidate that has both latency fields. -/
def CompleteLatency (e : ModelEntry) : Bool := e.medianTtftS.isSome && e.medianOutputTps.isSome

/-- The median latency of the candidates with complete data. -/
def completeMedian (result : List (ModelEntry × ℚ)) (refInputTokens refOutputTokens : ℤ) : ℚ :=
  median (measuredLatencies (result.filter (fun p => CompleteLatency p.1)) refInputTokens
    refOutputTokens)

/-- A candidate that lacks data and one that has it, costs no more and is at most as slow as the
median. -/
structure Disadvantaged (result : List (ModelEntry × ℚ)) (refInputTokens refOutputTokens : ℤ)
    (k j : ℕ) (p c : ModelEntry × ℚ) (lat : ℚ) : Prop where
  lacking : result[k]? = some p
  complete : result[j]? = some c
  lacks : CompleteLatency p.1 = false
  completes : CompleteLatency c.1 = true
  cost : c.2 ≤ p.2
  estimate : c.1.estimatedTurnLatencyS refInputTokens refOutputTokens = some lat
  median : lat ≤ completeMedian result refInputTokens refOutputTokens

/-- Missing data is no advantage. -/
def MissingNeverAhead (result : List (ModelEntry × ℚ)) (w : ℚ)
    (refInputTokens refOutputTokens : ℤ) : Prop :=
  ∀ k j p c lat, Disadvantaged result refInputTokens refOutputTokens k j p c lat →
    ¬ AheadOf result w refInputTokens refOutputTokens k j

/-- Less, or the same and at an earlier position. -/
def Outranks (x y : ℚ) (j k : ℕ) : Prop := x < y ∨ (x = y ∧ j < k)

/-- What missing data has to be worth: the decode time alone, with a throughput and no time to the
first token; else the median over all candidates with a throughput. -/
structure MissingOutweighed (result : List (ModelEntry × ℚ)) (w : ℚ)
    (refInputTokens refOutputTokens : ℤ) : Prop where
  decodeOnly : ∀ k j p c lat, Disadvantaged result refInputTokens refOutputTokens k j p c lat →
    ∀ tps, p.1.medianTtftS = none → p.1.medianOutputTps = some tps → 0 < tps →
      Outranks (c.2 * (1 + w * lat)) (p.2 * (1 + w * (refOutputTokens / tps))) j k
  unmeasured : ∀ k j p c lat, Disadvantaged result refInputTokens refOutputTokens k j p c lat →
    (∀ tps, p.1.medianOutputTps = some tps → tps ≤ 0) →
      Outranks (c.2 * (1 + w * lat))
        (p.2 * (1 + w * imputed result refInputTokens refOutputTokens)) j k

theorem not_aheadOf_iff {k j : ℕ} (hk : k < result.length) (hj : j < result.length) (hne : k ≠ j) :
    ¬ AheadOf result w refInputTokens refOutputTokens k j ↔
      Outranks (latencyKeyAt result w refInputTokens refOutputTokens j)
        (latencyKeyAt result w refInputTokens refOutputTokens k) j k := by
  rw [aheadOf_iff hk hj, Outranks]
  constructor
  · intro h
    rcases lt_trichotomy (latencyKeyAt result w refInputTokens refOutputTokens j)
        (latencyKeyAt result w refInputTokens refOutputTokens k) with hlt | heq | hgt
    · exact Or.inl hlt
    · refine Or.inr ⟨heq, ?_⟩
      have : ¬ k < j := fun hlt => h (Or.inr ⟨heq.symm, hlt⟩)
      omega
    · exact absurd (Or.inl hgt) h
  · rintro (hlt | ⟨heq, hlt⟩) (hgt | ⟨heq', hgt⟩)
    · exact lt_asymm hlt hgt
    · exact hlt.ne heq'.symm
    · exact hgt.ne heq.symm
    · omega

/-- The latency a candidate with a throughput is taken to have. -/
theorem estimate_of_tps {e : ModelEntry} {tps : ℚ} (htps : e.medianOutputTps = some tps)
    (hpos : 0 < tps) :
    e.estimatedTurnLatencyS refInputTokens refOutputTokens =
      some (e.medianTtftS.getD 0 + refOutputTokens / tps) := by
  unfold ModelEntry.estimatedTurnLatencyS
  rw [htps]
  simp [not_le.2 hpos]

theorem estimate_none {e : ModelEntry} (h : ∀ tps, e.medianOutputTps = some tps → tps ≤ 0) :
    e.estimatedTurnLatencyS refInputTokens refOutputTokens = none := by
  unfold ModelEntry.estimatedTurnLatencyS
  cases htps : e.medianOutputTps with
  | none => rfl
  | some tps => simp [h tps htps]

/-- The order of a candidate that lacks data and one that has it, by what is assumed of the first. -/
theorem not_aheadOf_of_estimate (hw : 0 < w) {k j : ℕ} {p c : ModelEntry × ℚ} {lat : ℚ}
    (h : Disadvantaged result refInputTokens refOutputTokens k j p c lat) :
    ¬ AheadOf result w refInputTokens refOutputTokens k j ↔
      Outranks (c.2 * (1 + w * lat))
        (p.2 * (1 + w * (p.1.estimatedTurnLatencyS refInputTokens refOutputTokens).getD
          (imputed result refInputTokens refOutputTokens))) j k := by
  have hne : k ≠ j := by
    rintro rfl
    have hsame : p = c := Option.some.inj (h.lacking.symm.trans h.complete)
    have hlacks := h.lacks
    rw [hsame, h.completes] at hlacks
    cases hlacks
  have hmeasured := measured_ne_nil h.complete h.estimate
  rw [not_aheadOf_iff (List.getElem?_eq_some_iff.1 h.lacking).1
    (List.getElem?_eq_some_iff.1 h.complete).1 hne, latencyKeyAt_of_weight hw h.lacking hmeasured,
    latencyKeyAt_of_weight hw h.complete hmeasured, h.estimate, Option.getD_some]

/-- **Missing data is no advantage exactly when what is assumed in its place outweighs it.** -/
theorem missing_never_ahead_iff (result : List (ModelEntry × ℚ)) (refInputTokens refOutputTokens : ℤ)
    (hw : 0 < w) :
    MissingNeverAhead result w refInputTokens refOutputTokens ↔
      MissingOutweighed result w refInputTokens refOutputTokens := by
  constructor
  · intro hnever
    constructor
    · intro k j p c lat h tps httft htps hpos
      have hrank := (not_aheadOf_of_estimate hw h).1 (hnever k j p c lat h)
      rwa [estimate_of_tps htps hpos, httft, Option.getD_none, zero_add, Option.getD_some] at hrank
    · intro k j p c lat h htps
      have hrank := (not_aheadOf_of_estimate hw h).1 (hnever k j p c lat h)
      rwa [estimate_none htps, Option.getD_none] at hrank
  · intro hout k j p c lat h
    rw [not_aheadOf_of_estimate hw h]
    by_cases hunmeasured : ∀ tps, p.1.medianOutputTps = some tps → tps ≤ 0
    · rw [estimate_none hunmeasured, Option.getD_none]
      exact hout.unmeasured k j p c lat h hunmeasured
    · -- it has a throughput, so it is the time to the first token it lacks
      push Not at hunmeasured
      obtain ⟨tps, htps, hpos⟩ := hunmeasured
      have hlacks := h.lacks
      rw [CompleteLatency, htps, Option.isSome_some, Bool.and_true] at hlacks
      have httft : p.1.medianTtftS = none := by simpa using hlacks
      rw [estimate_of_tps htps hpos, httft, Option.getD_none, zero_add, Option.getD_some]
      exact hout.decodeOnly k j p c lat h tps httft htps hpos

/-- A candidate with a throughput alone, behind a complete one of the same cost and throughput. -/
def decodeOnlyList : List (ModelEntry × ℚ) :=
  [(timedEntry (some 1) (some 100), 1), (timedEntry none (some 100), 1)]

theorem missing_never_ahead_iff_decodeOnly :
    MissingNeverAhead decodeOnlyList 1 0 100 ↔ MissingOutweighed decodeOnlyList 1 0 100 :=
  missing_never_ahead_iff decodeOnlyList 0 100 one_pos

/-- Its missing time to the first token counts as none at all, and puts it ahead. -/
theorem missing_ahead :
    ¬ ∀ (result : List (ModelEntry × ℚ)) (w : ℚ) (refInputTokens refOutputTokens : ℤ), 0 < w →
      MissingNeverAhead result w refInputTokens refOutputTokens := by
  intro h
  have hdisadvantaged : Disadvantaged decodeOnlyList 0 100 1 0 (timedEntry none (some 100), 1)
      (timedEntry (some 1) (some 100), 1) 2 :=
    ⟨rfl, rfl, rfl, rfl, by decide +kernel, by decide +kernel, by decide +kernel⟩
  exact h decodeOnlyList 1 0 100 one_pos 1 0 _ _ 2 hdisadvantaged (by decide +kernel)

/-! ## By the design of the imputation -/

/-- **Where no candidate has a throughput without a time to the first token, missing data is at best
a tie.** -/
theorem missing_at_best_ties (hw : 0 < w) (hcosts : ∀ p ∈ result, 0 ≤ p.2)
    (hlatencies : ∀ p ∈ result, ∀ v,
      p.1.estimatedTurnLatencyS refInputTokens refOutputTokens = some v → 0 ≤ v)
    (hpaired : ∀ p ∈ result, p.1.medianOutputTps.isSome = true → p.1.medianTtftS.isSome = true)
    {k j : ℕ} {p c : ModelEntry × ℚ} {lat : ℚ}
    (h : Disadvantaged result refInputTokens refOutputTokens k j p c lat)
    (hahead : AheadOf result w refInputTokens refOutputTokens k j) :
    latencyKeyAt result w refInputTokens refOutputTokens k =
      latencyKeyAt result w refInputTokens refOutputTokens j ∧ k < j := by
  have hmeasured := measured_ne_nil h.complete h.estimate
  have hpmem := List.mem_of_getElem? h.lacking
  have hcmem := List.mem_of_getElem? h.complete
  -- all measured candidates have complete data, so the medians are one
  have hmedian : completeMedian result refInputTokens refOutputTokens =
      imputed result refInputTokens refOutputTokens := by
    unfold completeMedian imputed measuredLatencies
    rw [List.filterMap_filter]
    congr 1
    apply List.filterMap_congr
    intro q hq
    cases htps : q.1.medianOutputTps with
    | none => simp [CompleteLatency, ModelEntry.estimatedTurnLatencyS, htps]
    | some tps => simp [CompleteLatency, htps, hpaired q hq (by rw [htps]; rfl)]
  have hnone : ∀ tps, p.1.medianOutputTps = some tps → tps ≤ 0 := by
    intro tps htps
    have hlacks := h.lacks
    rw [CompleteLatency, hpaired p hpmem (by rw [htps]; rfl), htps] at hlacks
    cases hlacks
  have hkeys : latencyKeyAt result w refInputTokens refOutputTokens j ≤
      latencyKeyAt result w refInputTokens refOutputTokens k := by
    rw [latencyKeyAt_of_weight hw h.complete hmeasured, latencyKeyAt_of_weight hw h.lacking hmeasured,
      h.estimate, Option.getD_some, estimate_none hnone, Option.getD_none, ← hmedian]
    have hle := mul_le_mul_of_nonneg_left h.median hw.le
    have hlat := mul_nonneg hw.le (hlatencies c hcmem lat h.estimate)
    exact mul_le_mul h.cost (by linarith) (by linarith) (hcosts p hpmem)
  rw [aheadOf_iff (List.getElem?_eq_some_iff.1 h.lacking).1
    (List.getElem?_eq_some_iff.1 h.complete).1] at hahead
  rcases hahead with hlt | htie
  · exact absurd hlt (not_lt.2 hkeys)
  · exact htie

end ModelMeld
