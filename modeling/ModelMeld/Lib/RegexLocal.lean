import ModelMeld.Lib.Regex
import Mathlib.Data.List.Flatten

/-!
# Where a matcher looks

What the matcher finds at a position, when the text around the position changes.

* `lens_local`: the matches of bounded length depend on the text up to the bound
  and on the boundaries at its two ends;
* `lens_sublist`: where a text is followed by a mark that no class has, the
  matcher finds some of what it found, in the same order;
* `lens_congr_prev`: of what stands before, only whether it is a word character
  matters.
-/

namespace Regex

open Regex.Expr

variable {isWord : Char → Bool} {r : Expr} {prev prev' : Option Char} {a b b' : List Char}

/-! ## A bound on the length -/

theorem filter_map_add (n N : ℕ) (l : List ℕ) (hn : n ≤ N) :
    (l.map (n + ·)).filter (fun m => decide (m ≤ N)) =
      (l.filter (fun m => decide (m ≤ N - n))).map (n + ·) := by
  rw [List.filter_map]
  congr 1
  apply List.filter_congr
  intro m _
  simp only [Function.comp_apply, decide_eq_decide]
  omega

/-- Of what is put together, only parts within the bound are within the bound. -/
theorem filter_flatMap_add (N : ℕ) (l : List ℕ) (f : ℕ → List ℕ) :
    (l.flatMap (fun n => (f n).map (n + ·))).filter (fun m => decide (m ≤ N)) =
      (l.filter (fun n => decide (n ≤ N))).flatMap (fun n =>
        ((f n).filter (fun m => decide (m ≤ N - n))).map (n + ·)) := by
  induction l with
  | nil => rfl
  | cons n l ih =>
    rw [List.flatMap_cons, List.filter_append, ih, List.filter_cons]
    split
    · rename_i hn
      rw [List.flatMap_cons, filter_map_add n N (f n) (of_decide_eq_true hn)]
    · rename_i hn
      have hnone : ((f n).map (n + ·)).filter (fun m => decide (m ≤ N)) = [] := by
        rw [List.filter_eq_nil_iff]
        intro m hm
        obtain ⟨k, -, rfl⟩ := List.mem_map.1 hm
        simp only [decide_eq_true_eq] at hn ⊢
        omega
      rw [hnone, List.nil_append]

theorem runLens_local (p : Char → Bool) (min : ℕ) (a b b' : List Char) :
    (runLens p min (a ++ b)).filter (fun n => decide (n ≤ a.length)) =
      (runLens p min (a ++ b')).filter (fun n => decide (n ≤ a.length)) := by
  induction a generalizing min with
  | nil =>
    -- only the empty run is within the bound
    have hzero : ∀ b : List Char, (runLens p min b).filter (fun n => decide (n ≤ 0)) =
        if min = 0 then [0] else [] := by
      intro b
      cases b with
      | nil =>
        unfold runLens
        split <;> rfl
      | cons c cs =>
        unfold runLens
        rw [List.filter_append]
        have hnone : (if p c = true then (runLens p (min - 1) cs).map (· + 1) else []).filter
            (fun n => decide (n ≤ 0)) = [] := by
          rw [List.filter_eq_nil_iff]
          intro m hm
          split at hm
          · obtain ⟨k, -, rfl⟩ := List.mem_map.1 hm
            simp
          · exact absurd hm List.not_mem_nil
        rw [hnone, List.nil_append]
        split <;> rfl
    exact (hzero b).trans (hzero b').symm
  | cons c a ih =>
    have hmap : ∀ l : List ℕ, (l.map (· + 1)).filter (fun n => decide (n ≤ (c :: a).length)) =
        (l.filter (fun n => decide (n ≤ a.length))).map (· + 1) := by
      intro l
      rw [List.filter_map]
      congr 1
      apply List.filter_congr
      intro m _
      simp only [Function.comp_apply, List.length_cons, decide_eq_decide]
      omega
    rw [List.cons_append, List.cons_append]
    unfold runLens
    rw [List.filter_append, List.filter_append]
    congr 1
    split
    · rw [hmap, hmap, ih]
    · rfl

/-- **The matches within a part of the text depend on that part and on the boundaries at its
ends.** -/
theorem lens_local (hstart : Boundary isWord prev (after a b.head?) ↔
      Boundary isWord prev' (after a b'.head?))
    (hend : Boundary isWord (before prev a) b.head? ↔ Boundary isWord (before prev' a) b'.head?) :
    (lens isWord r prev (a ++ b)).filter (fun n => decide (n ≤ a.length)) =
      (lens isWord r prev' (a ++ b')).filter (fun n => decide (n ≤ a.length)) := by
  induction r generalizing prev prev' a with
  | eps => rfl
  | cls p =>
    cases a with
    | nil =>
      have hnone : ∀ (prev : Option Char) (b : List Char),
          (lens isWord (.cls p) prev b).filter (fun n => decide (n ≤ 0)) = [] := by
        intro prev b
        cases b with
        | nil => rfl
        | cons c cs =>
          simp only [lens]
          split <;> rfl
      exact (hnone prev b).trans (hnone prev' b').symm
    | cons c a =>
      simp only [lens, List.cons_append]
  | run p min => exact runLens_local p min a b b'
  | seq r s ihr ihs =>
    simp only [lens]
    rw [filter_flatMap_add, filter_flatMap_add, ihr hstart hend]
    -- the second expression begins somewhere in the part
    have hsame : ∀ n ∈ (lens isWord r prev' (a ++ b')).filter (fun n => decide (n ≤ a.length)),
        (lens isWord s (before prev ((a ++ b).take n)) ((a ++ b).drop n)).filter
            (fun m => decide (m ≤ a.length - n)) =
          (lens isWord s (before prev' ((a ++ b').take n)) ((a ++ b').drop n)).filter
            (fun m => decide (m ≤ a.length - n)) := by
      intro n hn
      have hle : n ≤ a.length := of_decide_eq_true (List.mem_filter.1 hn).2
      rw [List.take_append_of_le_length hle, List.take_append_of_le_length hle,
        List.drop_append_of_le_length hle, List.drop_append_of_le_length hle,
        ← List.length_drop]
      have hsplit : a = a.take n ++ a.drop n := (List.take_append_drop n a).symm
      apply ihs
      · by_cases hzero : a.take n = []
        · have hdrop : a.drop n = a := by rw [hzero, List.nil_append] at hsplit; exact hsplit.symm
          rw [hzero, hdrop]
          exact hstart
        · rw [before_of_ne_nil hzero prev prev']
          by_cases hall : a.drop n = []
          · have htake : a.take n = a := by rw [hall, List.append_nil] at hsplit; exact hsplit.symm
            rw [hall, htake, after_nil, after_nil]
            rw [htake] at hzero
            rw [before_of_ne_nil hzero prev prev'] at hend
            exact hend
          · rw [after_of_ne_nil hall b.head? b'.head?]
      · rw [← before_append, ← before_append, List.take_append_drop]
        exact hend
    exact List.flatMap_congr (fun n hn => by rw [hsame n hn])
  | alt r s ihr ihs =>
    simp only [lens]
    rw [List.filter_append, List.filter_append, ihr hstart hend, ihs hstart hend]
  | boundary =>
    have hhead : ∀ b : List Char, (a ++ b).head? = after a b.head? := by
      intro b
      rw [List.head?_append]
      rfl
    simp only [lens, hhead]
    simp only [hstart]

/-- No match is longer than the text. -/
theorem filter_lens (r : Expr) (prev : Option Char) (text : List Char) :
    (lens isWord r prev text).filter (fun n => decide (n ≤ text.length)) =
      lens isWord r prev text := by
  rw [List.filter_eq_self]
  intro n hn
  exact decide_eq_true (mem_lens_iff.1 hn).1

/-- Only whether a word character stands before matters. -/
theorem lens_congr_prev (hword : wordAt isWord prev = wordAt isWord prev') (text : List Char) :
    lens isWord r prev text = lens isWord r prev' text := by
  have hedge : ∀ w next, Boundary isWord (before prev w) next ↔
      Boundary isWord (before prev' w) next := by
    intro w next
    by_cases hw : w = []
    · rw [hw]
      unfold Boundary
      rw [before_nil, before_nil, hword]
    · rw [before_of_ne_nil hw prev prev']
  have hlocal : (lens isWord r prev (text ++ [])).filter (fun n => decide (n ≤ text.length)) =
      (lens isWord r prev' (text ++ [])).filter (fun n => decide (n ≤ text.length)) :=
    lens_local (hedge [] (after text none)) (hedge text none)
  rw [List.append_nil, filter_lens, filter_lens] at hlocal
  exact hlocal

/-! ## A text with marks -/

/-- A text that is another one up to a mark; where an edge of it is a word boundary, so is that of
the other. -/
inductive Mirrors (isWord : Char → Bool) (mark : Char) :
    Option Char → List Char → Option Char → List Char → Prop
  | stop {prev prev' : Option Char} {text text' : List Char}
    (hedge : Boundary isWord prev' text'.head? → Boundary isWord prev text.head?)
    (hmark : text' = [] ∨ text'.head? = some mark) : Mirrors isWord mark prev text prev' text'
  | step {prev prev' : Option Char} {c : Char} {text text' : List Char}
    (hedge : Boundary isWord prev' (some c) → Boundary isWord prev (some c))
    (h : Mirrors isWord mark (some c) text (some c) text') :
    Mirrors isWord mark prev (c :: text) prev' (c :: text')

variable {mark : Char} {text text' : List Char}

/-- An edge that is a boundary, or that nothing before it has changed. -/
theorem boundary_of_aligned {next : Option Char}
    (haligned : prev' = prev ∨ Boundary isWord prev next) (hb : Boundary isWord prev' next) :
    Boundary isWord prev next := by
  rcases haligned with rfl | hb0
  · exact hb
  · exact hb0

theorem Mirrors.edge (h : Mirrors isWord mark prev text prev' text') :
    Boundary isWord prev' text'.head? → Boundary isWord prev text.head? := by
  cases h with
  | stop hedge hmark => exact hedge
  | step hedge h => exact hedge

/-- A part without the mark is a part of the other text, and what follows mirrors what follows. -/
theorem Mirrors.drop (h : Mirrors isWord mark prev text prev' text') {n : ℕ}
    (hn : n ≤ text'.length) (hmark : mark ∉ text'.take n) :
    text.take n = text'.take n ∧
      Mirrors isWord mark (before prev (text.take n)) (text.drop n)
        (before prev' (text'.take n)) (text'.drop n) := by
  induction h generalizing n with
  | @stop prev prev' text text' hedge hstop =>
    cases n with
    | zero => exact ⟨rfl, Mirrors.stop hedge hstop⟩
    | succ n =>
      cases text' with
      | nil => exact absurd hn (by simp)
      | cons c cs =>
        rcases hstop with hnil | hhead
        · exact absurd hnil (by simp)
        · rw [List.take_succ_cons, ← Option.some.inj hhead] at hmark
          exact absurd List.mem_cons_self hmark
  | @step prev prev' c text text' hedge h ih =>
    cases n with
    | zero => exact ⟨rfl, Mirrors.step hedge h⟩
    | succ n =>
      rw [List.length_cons, Nat.add_le_add_iff_right] at hn
      rw [List.take_succ_cons] at hmark
      obtain ⟨htake, hdrop⟩ := ih hn (fun hmem => hmark (List.mem_cons_of_mem c hmem))
      refine ⟨by rw [List.take_succ_cons, List.take_succ_cons, htake], ?_⟩
      rw [List.take_succ_cons, List.take_succ_cons, before_cons, before_cons,
        List.drop_succ_cons, List.drop_succ_cons]
      exact hdrop

theorem Mirrors.runLens_sublist (h : Mirrors isWord mark prev text prev' text') {p : Char → Bool}
    (hp : p mark = false) (min : ℕ) : (runLens p min text').Sublist (runLens p min text) := by
  induction h generalizing min with
  | @stop prev prev' text text' hedge hstop =>
    have hshort : runLens p min text' = if min = 0 then [0] else [] := by
      rcases hstop with rfl | hhead
      · unfold runLens
        rfl
      · cases text' with
        | nil => exact absurd hhead (by simp)
        | cons c cs =>
          rw [List.head?_cons, Option.some.injEq] at hhead
          unfold runLens
          rw [hhead, hp]
          rfl
    rw [hshort]
    cases text with
    | nil =>
      unfold runLens
      exact List.Sublist.refl _
    | cons c cs =>
      unfold runLens
      exact List.sublist_append_right _ _
  | @step prev prev' c text text' hedge h ih =>
    unfold runLens
    refine List.Sublist.append ?_ (List.Sublist.refl _)
    split
    · exact (ih (min - 1)).map _
    · exact List.Sublist.refl _

/-- **In a marked text the matcher finds some of what it found**, in the same order. -/
theorem Mirrors.lens_sublist (h : Mirrors isWord mark prev text prev' text')
    (havoids : Avoids mark r) :
    (lens isWord r prev' text').Sublist (lens isWord r prev text) := by
  induction r generalizing prev prev' text text' with
  | eps => exact List.Sublist.refl _
  | cls p =>
    cases h with
    | stop hedge hstop =>
      have hnone : lens isWord (.cls p) prev' text' = [] := by
        rcases hstop with rfl | hhead
        · rfl
        · cases text' with
          | nil => rfl
          | cons c cs =>
            rw [List.head?_cons, Option.some.injEq] at hhead
            have hp : p mark = false := havoids
            simp only [lens]
            rw [hhead, hp]
            rfl
      rw [hnone]
      exact List.nil_sublist _
    | step hedge h => exact List.Sublist.refl _
  | run p min => exact h.runLens_sublist havoids min
  | seq r s ihr ihs =>
    simp only [lens]
    refine List.Sublist.trans (List.Sublist.flatMap_right _ (fun n hn => ?_))
      ((ihr h havoids.1).flatMap _)
    obtain ⟨hlen, hmatch⟩ := mem_lens_iff.1 hn
    obtain ⟨htake, hdrop⟩ := h.drop hlen (not_mem_of_avoids havoids.1 hmatch)
    exact (ihs hdrop havoids.2).map _
  | alt r s ihr ihs => exact (ihr h havoids.1).append (ihs h havoids.2)
  | boundary =>
    simp only [lens]
    split
    · rename_i hb
      rw [if_pos (h.edge hb)]
    · exact List.nil_sublist _

end Regex
