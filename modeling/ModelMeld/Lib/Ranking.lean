import Mathlib.Data.List.Sort
import Mathlib.Data.List.MinMax

/-!
# Stable sorting by a key, and who comes first

`sortedBy key l` sorts `l` by `key`, equal keys keeping their order. The first
element of a ranking is what a selection procedure returns, so the lemmas say
which element that is.

* `head?_sortedBy`: the head of the sorted list is the leftmost minimiser of the key;
* `filter_sortedBy`: filtering a sorted list is sorting the filtered list;
* `pairwise_sortedBy_stable`: a sorted list is ordered by the key, equal keys as they were;
* `sortedBy_concat`: what comes last and has the largest key is sorted last;
* `sortedBy_sortedBy`: sorting again by a finer key forgets the first sort;
* `argmin_all_iff`: the leftmost minimiser has a property exactly when every element
  without it is beaten by an element with it.
-/

namespace Ranking

variable {α β κ : Type} [LinearOrder κ]

/-- Stable sort by a key. -/
def sortedBy (key : α → κ) (l : List α) : List α :=
  l.insertionSort (fun a b => key a ≤ key b)

/-- `a` is preferred to `b` in `l`: a smaller key, or the same key and an earlier position. -/
def Preferred [DecidableEq α] (key : α → κ) (l : List α) (a b : α) : Prop :=
  key a < key b ∨ (key a = key b ∧ l.idxOf a < l.idxOf b)

instance [DecidableEq α] (key : α → κ) (l : List α) (a b : α) :
    Decidable (Preferred key l a b) :=
  inferInstanceAs (Decidable (_ ∨ _))

variable {key : α → κ} {l : List α}

theorem sortedBy_cons (key : α → κ) (a : α) (l : List α) :
    sortedBy key (a :: l) = (sortedBy key l).orderedInsert (fun a b => key a ≤ key b) a := rfl

@[simp] theorem mem_sortedBy {a : α} : a ∈ sortedBy key l ↔ a ∈ l :=
  List.mem_insertionSort _

theorem sortedBy_perm (key : α → κ) (l : List α) : (sortedBy key l).Perm l :=
  List.perm_insertionSort _ l

theorem sortedBy_eq_nil_iff : sortedBy key l = [] ↔ l = [] := by
  rw [← List.length_eq_zero_iff, ← List.length_eq_zero_iff, (sortedBy_perm key l).length_eq]

theorem sortedBy_map (f : β → α) (l : List β) :
    sortedBy key (l.map f) = (sortedBy (fun b => key (f b)) l).map f := by
  exact (List.map_insertionSort (fun a b => key (f a) ≤ key (f b)) (fun a b => key a ≤ key b) f l
    (fun a _ b _ => Iff.rfl)).symm

/-! ## The head of a ranking -/

theorem head?_orderedInsert (a : α) (l : List α) :
    (l.orderedInsert (fun a b => key a ≤ key b) a).head? =
      match l.head? with
      | none => some a
      | some c => if key c < key a then some c else some a := by
  cases l with
  | nil => rfl
  | cons c l =>
    rw [List.orderedInsert_cons]
    by_cases h : key a ≤ key c
    · rw [if_pos h]; simp [not_lt.2 h]
    · rw [if_neg h]; simp [not_le.1 h]

/-- **The head of a stable sort is the leftmost minimiser of the key.** -/
theorem head?_sortedBy (key : α → κ) (l : List α) : (sortedBy key l).head? = l.argmin key := by
  induction l with
  | nil => rfl
  | cons a l ih =>
    rw [sortedBy_cons, head?_orderedInsert, ih, List.argmin_cons]
    cases l.argmin key <;> rfl

/-- **The leftmost minimiser, if any, has a property exactly when every element without it is
beaten by an element with it.** -/
theorem argmin_all_iff [DecidableEq α] (key : α → κ) (l : List α) (Q : α → Prop) :
    (∀ m, l.argmin key = some m → Q m) ↔ ∀ b ∈ l, ¬ Q b → ∃ a ∈ l, Q a ∧ Preferred key l a b := by
  constructor
  · intro h b hb hQb
    cases hm : l.argmin key with
    | none => rw [List.argmin_eq_none.1 hm] at hb; cases hb
    | some m =>
      obtain ⟨hml, hmin, hidx⟩ := List.mem_argmin_iff.1 (Option.mem_def.2 hm)
      have hQ := h m hm
      refine ⟨m, hml, hQ, ?_⟩
      rcases lt_or_eq_of_le (hmin b hb) with hlt | heq
      · exact Or.inl hlt
      · have hne : l.idxOf m ≠ l.idxOf b := fun he => hQb ((List.idxOf_inj hml).1 he ▸ hQ)
        exact Or.inr ⟨heq, lt_of_le_of_ne (hidx b hb heq.ge) hne⟩
  · intro h m hm
    by_contra hQm
    obtain ⟨hml, hmin, hidx⟩ := List.mem_argmin_iff.1 (Option.mem_def.2 hm)
    obtain ⟨a, ha, -, hpref⟩ := h m hml hQm
    rcases hpref with hlt | ⟨heq, hi⟩
    · exact absurd (hmin a ha) (not_le.2 hlt)
    · exact absurd (hidx a ha heq.le) (not_le.2 hi)

/-! ## Filtering and sorting again -/

theorem filter_orderedInsert (p : α → Bool) (a : α) : ∀ l : List α,
    l.Pairwise (fun a b => key a ≤ key b) →
    (l.orderedInsert (fun a b => key a ≤ key b) a).filter p =
      if p a then (l.filter p).orderedInsert (fun a b => key a ≤ key b) a else l.filter p := by
  intro l
  induction l with
  | nil =>
    intro _
    by_cases hp : p a <;> simp [hp]
  | cons b l ih =>
    intro hs
    obtain ⟨hb, hl⟩ := List.pairwise_cons.1 hs
    rw [List.orderedInsert_cons]
    by_cases hab : key a ≤ key b
    · rw [if_pos hab]
      by_cases hp : p a
      · -- everything kept from `b :: l` has a key at least that of `a`
        have hall : ∀ c ∈ (b :: l).filter p, key a ≤ key c := by
          intro c hc
          rcases List.mem_cons.1 (List.mem_of_mem_filter hc) with rfl | hc'
          · exact hab
          · exact le_trans hab (hb c hc')
        rw [if_pos hp, List.filter_cons_of_pos hp]
        cases hf : (b :: l).filter p with
        | nil => rfl
        | cons c t =>
          rw [List.orderedInsert_cons, if_pos (hall c (by rw [hf]; exact List.mem_cons_self))]
      · rw [if_neg hp, List.filter_cons_of_neg hp]
    · rw [if_neg hab]
      -- `a` goes further down, behind `b` if that is kept
      by_cases hpb : p b
      · rw [List.filter_cons_of_pos hpb, List.filter_cons_of_pos hpb, ih hl]
        by_cases hp : p a
        · rw [if_pos hp, if_pos hp, List.orderedInsert_cons, if_neg hab]
        · rw [if_neg hp, if_neg hp]
      · rw [List.filter_cons_of_neg hpb, List.filter_cons_of_neg hpb, ih hl]

theorem pairwise_sortedBy (key : α → κ) (l : List α) :
    (sortedBy key l).Pairwise (fun a b => key a ≤ key b) := by
  have : Std.Total (fun a b : α => key a ≤ key b) := ⟨fun a b => le_total _ _⟩
  have : IsTrans α (fun a b => key a ≤ key b) := ⟨fun a b c => le_trans⟩
  exact List.pairwise_insertionSort _ l

theorem pairwise_orderedInsert_stable {r : α → α → Prop} {a : α} : ∀ {l : List α},
    (∀ b ∈ l, r a b) → l.Pairwise (fun b c => key b < key c ∨ (key b = key c ∧ r b c)) →
    (l.orderedInsert (fun b c => key b ≤ key c) a).Pairwise
      (fun b c => key b < key c ∨ (key b = key c ∧ r b c)) := by
  intro l
  induction l with
  | nil =>
    intro _ _
    exact List.pairwise_singleton _ a
  | cons b l ih =>
    intro hr hs
    obtain ⟨hb, hl⟩ := List.pairwise_cons.1 hs
    rw [List.orderedInsert_cons]
    by_cases hab : key a ≤ key b
    · rw [if_pos hab]
      refine List.pairwise_cons.2 ⟨fun c hc => ?_, hs⟩
      -- everything from `b` on has a key at least that of `a`, and comes after it
      have hbc : key b ≤ key c := by
        rcases List.mem_cons.1 hc with rfl | hc'
        · exact le_rfl
        · rcases hb c hc' with hlt | ⟨heq, -⟩
          · exact hlt.le
          · exact heq.le
      rcases lt_or_eq_of_le (hab.trans hbc) with hlt | heq
      · exact Or.inl hlt
      · exact Or.inr ⟨heq, hr c hc⟩
    · rw [if_neg hab]
      refine List.pairwise_cons.2 ⟨fun c hc => ?_, ih (fun c hc => hr c (List.mem_cons_of_mem _ hc)) hl⟩
      rcases (List.mem_orderedInsert _).1 hc with rfl | hc'
      · exact Or.inl (not_le.1 hab)
      · exact hb c hc'

/-- **A stable sort orders by the key, and equal keys as they were.** -/
theorem pairwise_sortedBy_stable (key : α → κ) {r : α → α → Prop} {l : List α} (h : l.Pairwise r) :
    (sortedBy key l).Pairwise (fun a b => key a < key b ∨ (key a = key b ∧ r a b)) := by
  induction l with
  | nil => exact List.Pairwise.nil
  | cons a l ih =>
    obtain ⟨ha, hl⟩ := List.pairwise_cons.1 h
    rw [sortedBy_cons]
    exact pairwise_orderedInsert_stable (fun b hb => ha b (mem_sortedBy.1 hb)) (ih hl)

theorem sortedBy_of_pairwise {l : List α} (h : l.Pairwise (fun a b => key a ≤ key b)) :
    sortedBy key l = l :=
  h.insertionSort_eq

/-- **In a list ordered by an asymmetric relation, one element comes before another exactly when
they are so related.** -/
theorem idxOf_lt_iff_of_pairwise [DecidableEq α] {r : α → α → Prop} {s : List α}
    (hs : s.Pairwise r) (hasymm : ∀ a b, r a b → ¬ r b a) {a b : α} (ha : a ∈ s) (hb : b ∈ s) :
    s.idxOf a < s.idxOf b ↔ r a b := by
  have hget : ∀ c d, c ∈ s → d ∈ s → s.idxOf c < s.idxOf d → r c d := by
    intro c d hc hd hlt
    have hrel := List.pairwise_iff_getElem.1 hs (s.idxOf c) (s.idxOf d)
      (List.idxOf_lt_length_of_mem hc) (List.idxOf_lt_length_of_mem hd) hlt
    rwa [List.getElem_idxOf, List.getElem_idxOf] at hrel
  constructor
  · exact hget a b ha hb
  · intro hrel
    by_contra hnot
    rcases lt_or_eq_of_le (not_lt.1 hnot) with hlt | heq
    · exact hasymm a b hrel (hget b a hb ha hlt)
    · obtain rfl : b = a := (List.idxOf_inj hb).1 heq
      exact hasymm b b hrel hrel

theorem orderedInsert_concat {a x : α} (h : key a ≤ key x) : ∀ m : List α,
    (m ++ [x]).orderedInsert (fun a b => key a ≤ key b) a =
      m.orderedInsert (fun a b => key a ≤ key b) a ++ [x] := by
  intro m
  induction m with
  | nil => simp [h]
  | cons b m ih =>
    rw [List.cons_append, List.orderedInsert_cons, List.orderedInsert_cons]
    by_cases hab : key a ≤ key b
    · rw [if_pos hab, if_pos hab, List.cons_append, List.cons_append]
    · rw [if_neg hab, if_neg hab, ih, List.cons_append]

/-- **What comes last and has the largest key is sorted last.** -/
theorem sortedBy_concat {x : α} (h : ∀ a ∈ l, key a ≤ key x) :
    sortedBy key (l ++ [x]) = sortedBy key l ++ [x] := by
  induction l with
  | nil => rfl
  | cons a l ih =>
    rw [List.cons_append, sortedBy_cons, ih (fun b hb => h b (List.mem_cons_of_mem _ hb)),
      orderedInsert_concat (h a List.mem_cons_self), sortedBy_cons]

section Ranks

variable {rank : α → ℕ} {l : List α} {n : ℕ}

/-- Elements whose keys are the numbers below `n` are sorted to the order of the numbers. -/
theorem map_sortedBy_range (h : (l.map rank).Perm (List.range n)) :
    (sortedBy rank l).map rank = List.range n := by
  refine List.Perm.eq_of_pairwise' (List.pairwise_map.2 (pairwise_sortedBy rank l))
    List.pairwise_le_range ?_
  exact ((sortedBy_perm rank l).map rank).trans h

/-- **An element whose key is `i` comes at place `i`.** -/
theorem getElem?_sortedBy_range (h : (l.map rank).Perm (List.range n)) (i : ℕ) (a : α) :
    (sortedBy rank l)[i]? = some a ↔ a ∈ l ∧ rank a = i := by
  have hmap := map_sortedBy_range h
  have hplace : ∀ j b, (sortedBy rank l)[j]? = some b → rank b = j := by
    intro j b hb
    have hj : (List.range n)[j]? = some (rank b) := by
      rw [← hmap, List.getElem?_map, hb]
      rfl
    obtain ⟨hlt, heq⟩ := List.getElem?_eq_some_iff.1 hj
    simpa using heq.symm
  constructor
  · intro ha
    exact ⟨mem_sortedBy.1 (List.mem_of_getElem? ha), hplace i a ha⟩
  · rintro ⟨ha, rfl⟩
    obtain ⟨j, hj⟩ := List.mem_iff_getElem?.1 (mem_sortedBy.2 ha : a ∈ sortedBy rank l)
    rw [hplace j a hj]
    exact hj

end Ranks

/-- **Filtering a sorted list is sorting the filtered list.** -/
theorem filter_sortedBy (key : α → κ) (p : α → Bool) (l : List α) :
    (sortedBy key l).filter p = sortedBy key (l.filter p) := by
  induction l with
  | nil => rfl
  | cons a l ih =>
    rw [sortedBy_cons, filter_orderedInsert p a _ (pairwise_sortedBy key l), ih]
    by_cases hp : p a
    · rw [if_pos hp, List.filter_cons_of_pos hp, sortedBy_cons]
    · rw [if_neg hp, List.filter_cons_of_neg hp]

/-- Insertions of two different keys commute. -/
theorem orderedInsert_comm {a b : α} (hab : key a ≠ key b) : ∀ l : List α,
    (l.orderedInsert (fun a b => key a ≤ key b) b).orderedInsert (fun a b => key a ≤ key b) a =
      (l.orderedInsert (fun a b => key a ≤ key b) a).orderedInsert
        (fun a b => key a ≤ key b) b := by
  intro l
  induction l with
  | nil =>
    rcases lt_or_gt_of_ne hab with h | h
    · simp [h.le, not_le.2 h]
    · simp [h.le, not_le.2 h]
  | cons c l ih =>
    by_cases ha : key a ≤ key c
    · by_cases hb : key b ≤ key c
      · rcases lt_or_gt_of_ne hab with h | h
        · simp [ha, hb, h.le, not_le.2 h]
        · simp [ha, hb, h.le, not_le.2 h]
      · have h : ¬ key b ≤ key a := not_le.2 (lt_of_le_of_lt ha (not_le.1 hb))
        simp [ha, hb, h]
    · by_cases hb : key b ≤ key c
      · have h : ¬ key a ≤ key b := not_le.2 (lt_of_le_of_lt hb (not_le.1 ha))
        simp [ha, hb, h]
      · simp [ha, hb, ih]

/-- **Sorting again by a finer key forgets the first sort.** -/
theorem sortedBy_sortedBy {κ' : Type} [LinearOrder κ'] {key' : α → κ'}
    (hfine : ∀ a b, key' a = key' b → key a = key b) (l : List α) :
    sortedBy key' (sortedBy key l) = sortedBy key' l := by
  have hins : ∀ (a : α) (m : List α),
      sortedBy key' (m.orderedInsert (fun a b => key a ≤ key b) a) =
        (sortedBy key' m).orderedInsert (fun a b => key' a ≤ key' b) a := by
    intro a m
    induction m with
    | nil => rfl
    | cons b m ih =>
      rw [List.orderedInsert_cons]
      by_cases h : key a ≤ key b
      · rw [if_pos h, sortedBy_cons]
      · have hne : key' b ≠ key' a := fun he => h (hfine b a he).ge
        rw [if_neg h, sortedBy_cons, ih, sortedBy_cons, orderedInsert_comm hne]
  induction l with
  | nil => rfl
  | cons a l ih => rw [sortedBy_cons, hins, ih, sortedBy_cons]

end Ranking
