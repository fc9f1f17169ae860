import ModelMeld.Lib.Ranking
import Mathlib.Algebra.Order.Field.Basic
import Mathlib.Algebra.Order.Field.Rat
import Mathlib.Data.List.Forall2
import Mathlib.Tactic.Linarith
import Mathlib.Tactic.Ring

/-!
# Medians

The median of a list of rationals: the middle of the sorted list, or the mean of
its two middle elements.

* `forall₂_sortedBy`: lists that are ordered pointwise are so after sorting;
* `median_mono`: a list that is pointwise larger has a larger median;
* `median_affine`: the median of an increasing affine image.
-/

namespace Ranking

variable {α : Type} [LinearOrder α]

theorem orderedInsert_of_forall_le {a : α} {l : List α} (h : ∀ b ∈ l, a ≤ b) :
    l.orderedInsert (· ≤ ·) a = a :: l := by
  cases l with
  | nil => rfl
  | cons b l => rw [List.orderedInsert_cons, if_pos (h b List.mem_cons_self)]

/-- Insertion into sorted lists keeps them ordered pointwise. -/
theorem forall₂_orderedInsert {s s' : List α} (h : List.Forall₂ (· ≤ ·) s s') :
    s.Pairwise (· ≤ ·) → s'.Pairwise (· ≤ ·) → ∀ {a a' : α}, a ≤ a' →
      List.Forall₂ (· ≤ ·) (s.orderedInsert (· ≤ ·) a) (s'.orderedInsert (· ≤ ·) a') := by
  induction h with
  | nil =>
    intro _ _ a a' ha
    exact List.Forall₂.cons ha List.Forall₂.nil
  | @cons b b' t t' hb ht ih =>
    intro hs hs' a a' ha
    obtain ⟨hbt, hst⟩ := List.pairwise_cons.1 hs
    obtain ⟨hbt', hst'⟩ := List.pairwise_cons.1 hs'
    -- the head goes in front of its own tail
    have hself : t.orderedInsert (· ≤ ·) b = b :: t := orderedInsert_of_forall_le hbt
    have hself' : t'.orderedInsert (· ≤ ·) b' = b' :: t' := orderedInsert_of_forall_le hbt'
    rw [List.orderedInsert_cons, List.orderedInsert_cons]
    by_cases hab : a ≤ b
    · rw [if_pos hab]
      by_cases hab' : a' ≤ b'
      · rw [if_pos hab']
        exact List.Forall₂.cons ha (List.Forall₂.cons hb ht)
      · rw [if_neg hab']
        have hba' : b ≤ a' := hb.trans (not_le.1 hab').le
        have hrest := ih hst hst' hba'
        rw [hself] at hrest
        exact List.Forall₂.cons (hab.trans hb) hrest
    · rw [if_neg hab]
      by_cases hab' : a' ≤ b'
      · rw [if_pos hab']
        have hrest := ih hst hst' (ha.trans hab')
        rw [hself'] at hrest
        exact List.Forall₂.cons ((not_le.1 hab).le.trans ha) hrest
      · rw [if_neg hab']
        exact List.Forall₂.cons hb (ih hst hst' ha)

/-- **Lists that are ordered pointwise are so after sorting.** -/
theorem forall₂_sortedBy {l l' : List α} (h : List.Forall₂ (· ≤ ·) l l') :
    List.Forall₂ (· ≤ ·) (sortedBy id l) (sortedBy id l') := by
  induction h with
  | nil => exact List.Forall₂.nil
  | cons ha _ ih =>
    exact forall₂_orderedInsert ih (pairwise_sortedBy id _) (pairwise_sortedBy id _) ha

/-- The element a list has in the middle, or the mean of the two. -/
def middle (s : List ℚ) : ℚ :=
  if s.length % 2 = 1 then s.getD (s.length / 2) 0
  else (s.getD (s.length / 2 - 1) 0 + s.getD (s.length / 2) 0) / 2

/-- `statistics.median`, of a non-empty list. -/
def medianOf (l : List ℚ) : ℚ := middle (sortedBy id l)

theorem forall₂_getD {s s' : List ℚ} (h : List.Forall₂ (· ≤ ·) s s') :
    ∀ n, s.getD n 0 ≤ s'.getD n 0 := by
  induction h with
  | nil => exact fun n => le_rfl
  | cons ha _ ih =>
    intro n
    cases n with
    | zero => exact ha
    | succ n => exact ih n

/-- **A list that is pointwise larger has a larger median.** -/
theorem median_mono {l l' : List ℚ} (h : List.Forall₂ (· ≤ ·) l l') : medianOf l ≤ medianOf l' := by
  have hsorted := forall₂_sortedBy h
  have hlength := hsorted.length_eq
  unfold medianOf middle
  rw [hlength]
  split
  · exact forall₂_getD hsorted _
  · have hlow := forall₂_getD hsorted ((sortedBy id l').length / 2 - 1)
    have hhigh := forall₂_getD hsorted ((sortedBy id l').length / 2)
    linarith

theorem sortedBy_id_map {f : ℚ → ℚ} (hf : StrictMono f) (l : List ℚ) :
    sortedBy id (l.map f) = (sortedBy id l).map f := by
  have hsame : sortedBy (fun x => id (f x)) l = sortedBy id l := by
    unfold sortedBy
    congr 1
    funext a b
    exact propext hf.le_iff_le
  rw [sortedBy_map, hsame]

theorem getD_map_of_lt {f : ℚ → ℚ} {s : List ℚ} {n : ℕ} (h : n < s.length) :
    (s.map f).getD n 0 = f (s.getD n 0) := by
  simp [List.getD_eq_getElem?_getD, List.getElem?_eq_getElem h]

/-- **The median of an increasing affine image is the image of the median.** -/
theorem median_affine {a b : ℚ} (ha : 0 < a) {l : List ℚ} (hl : l ≠ []) :
    medianOf (l.map fun x => a * x + b) = a * medianOf l + b := by
  have hmono : StrictMono fun x : ℚ => a * x + b := by
    intro x y hxy
    have := mul_lt_mul_of_pos_left hxy ha
    linarith
  have hpos : 0 < (sortedBy id l).length := by
    rw [List.length_pos_iff]
    exact mt sortedBy_eq_nil_iff.1 hl
  unfold medianOf middle
  rw [sortedBy_id_map hmono, List.length_map]
  split
  · rw [getD_map_of_lt (by omega)]
  · rw [getD_map_of_lt (by omega), getD_map_of_lt (by omega)]
    ring

end Ranking
