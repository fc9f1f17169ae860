import Mathlib.Data.List.Infix
import Mathlib.Algebra.BigOperators.Group.List.Basic
import Mathlib.Algebra.GroupWithZero.Nat

/-!
# Fragments in a text that is put together

A text is laid out of pieces: some are written by its author, some are given from
outside. A fragment that no given piece contains, and that crosses the edge of no
written piece, occurs in the text where the author wrote it and nowhere else.

* `occ_append`: occurrences add up where none crosses the edge;
* `Layout.occ_eq`: the occurrences in the text are those in its written pieces;
* `Layout.exists_written`: every occurrence lies in a written piece.
-/

namespace Fragments

variable {α : Type*}

/-! ## Occurrences -/

section Occurrences

variable [DecidableEq α]

/-- The number of positions at which a fragment stands. -/
def occ (F : List α) : List α → ℕ
  | [] => 0
  | c :: cs => (if F <+: c :: cs then 1 else 0) + occ F cs

end Occurrences

/-- The fragment does not cross the edge between two texts. -/
def Apart (F a b : List α) : Prop :=
  ∀ x y, F = x ++ y → x ≠ [] → y ≠ [] → x <:+ a → ¬ y <+: b

variable {F a b u v : List α}

theorem apart_of_last (hlast : ∀ c ∈ a.getLast?, c ∉ F.dropLast) : Apart F a b := by
  intro x y hF hx hy hsuffix _
  have hmem : x.getLast hx ∈ F.dropLast := by
    rw [hF, List.dropLast_append_of_ne_nil hy]
    exact List.mem_append_left _ (List.getLast_mem hx)
  obtain ⟨z, rfl⟩ := hsuffix
  refine hlast (x.getLast hx) ?_ hmem
  rw [List.getLast?_append, List.getLast?_eq_some_getLast hx]
  rfl

theorem apart_of_head (hhead : ∀ c ∈ b.head?, c ∉ F.tail) : Apart F a b := by
  intro x y hF hx hy _ hpre
  obtain ⟨z, rfl⟩ := hpre
  cases x with
  | nil => exact absurd rfl hx
  | cons d x =>
    cases y with
    | nil => exact absurd rfl hy
    | cons c y =>
      refine hhead c rfl ?_
      rw [hF]
      exact List.mem_append_right _ List.mem_cons_self

theorem Apart.tail {c : α} (h : Apart F (c :: a) b) : Apart F a b :=
  fun x y hF hx hy hsuffix => h x y hF hx hy (hsuffix.trans (List.suffix_cons c a))

theorem Apart.prefix_append_iff (h : Apart F a b) (ha : a ≠ []) : F <+: a ++ b ↔ F <+: a := by
  refine ⟨fun hF => ?_, fun hF => hF.trans (List.prefix_append a b)⟩
  rcases Nat.le_total F.length a.length with hle | hle
  · exact List.prefix_of_prefix_length_le hF (List.prefix_append a b) hle
  · obtain ⟨y, rfl⟩ := List.prefix_of_prefix_length_le (List.prefix_append a b) hF hle
    rw [List.prefix_append_right_inj] at hF
    by_cases hy : y = []
    · rw [hy, List.append_nil]
    · exact absurd hF (h a y rfl ha hy (List.suffix_refl a))

/-- An occurrence in two texts stands in one of them. -/
theorem Apart.split (h : Apart F a b) (htext : a ++ b = u ++ F ++ v) :
    (∃ y, a = u ++ F ++ y ∧ v = y ++ b) ∨ ∃ x, u = a ++ x ∧ b = x ++ F ++ v := by
  rw [List.append_assoc] at htext
  rcases List.append_eq_append_iff.1 htext with ⟨x, hu, hb⟩ | ⟨z, ha, hz⟩
  · exact Or.inr ⟨x, hu, by rw [hb, List.append_assoc]⟩
  · rcases List.append_eq_append_iff.1 hz with ⟨y, hin, hv⟩ | ⟨y, hF, hb⟩
    · exact Or.inl ⟨y, by rw [ha, hin, List.append_assoc], hv⟩
    · -- the fragment would have to cross the edge
      by_cases hznil : z = []
      · subst hznil
        rw [List.nil_append] at hF
        exact Or.inr ⟨[], by rw [ha, List.append_nil, List.append_nil],
          by rw [hb, hF, List.nil_append]⟩
      · by_cases hynil : y = []
        · subst hynil
          rw [List.append_nil] at hF
          exact Or.inl ⟨[], by rw [ha, hF, List.append_nil], hb.symm⟩
        · exact absurd ⟨v, hb.symm⟩ (h z y hF hznil hynil ⟨u, ha.symm⟩)

section Occurrences

variable [DecidableEq α]

/-- **Occurrences add up where none crosses the edge.** -/
theorem occ_append (h : Apart F a b) : occ F (a ++ b) = occ F a + occ F b := by
  induction a with
  | nil => simp [occ]
  | cons c a ih =>
    rw [List.cons_append, occ, occ, ih h.tail, ← List.cons_append]
    simp only [h.prefix_append_iff (List.cons_ne_nil c a), Nat.add_assoc]

theorem occ_eq_zero (hfree : ¬ F <:+: a) : occ F a = 0 := by
  induction a with
  | nil => rfl
  | cons c a ih =>
    rw [occ, if_neg (fun hF => hfree hF.isInfix), ih (fun hF => hfree (hF.trans ?_))]
    exact (List.suffix_cons c a).isInfix

end Occurrences

/-! ## Layouts -/

/-- A piece of a text, written by its author or given from outside. -/
inductive Segment (α : Type*) where
  | written (text : List α)
  | given (text : List α)

def Segment.text : Segment α → List α
  | .written text => text
  | .given text => text

/-- The text of the pieces. -/
def chars (ps : List (Segment α)) : List α := ps.flatMap Segment.text

theorem chars_cons (p : Segment α) (ps : List (Segment α)) : chars (p :: ps) = p.text ++ chars ps :=
  List.flatMap_cons

theorem chars_append (ps qs : List (Segment α)) : chars (ps ++ qs) = chars ps ++ chars qs :=
  List.flatMap_append

/-- A text whose edges the fragment does not cross. -/
structure Closed (F a : List α) : Prop where
  ne_nil : a ≠ []
  head : ∀ c ∈ a.head?, c ∉ F.tail
  last : ∀ c ∈ a.getLast?, c ∉ F.dropLast

/-- The written pieces are closed, and a given piece is free of the fragment and followed by a
written one. -/
inductive Layout (F : List α) : List (Segment α) → Prop
  | nil : Layout F []
  | written {text : List α} {ps : List (Segment α)} (hclosed : Closed F text) (h : Layout F ps) :
    Layout F (.written text :: ps)
  | given {text next : List α} {ps : List (Segment α)} (hfree : ¬ F <:+: text)
    (hclosed : Closed F next) (h : Layout F ps) :
    Layout F (.given text :: .written next :: ps)

variable {ps qs : List (Segment α)}

theorem Layout.append (hps : Layout F ps) (hqs : Layout F qs) : Layout F (ps ++ qs) := by
  induction hps with
  | nil => exact hqs
  | written hclosed _ ih => exact Layout.written hclosed ih
  | given hfree hclosed _ ih => exact Layout.given hfree hclosed ih

theorem Layout.flatMap {β : Type*} {f : β → List (Segment α)} {l : List β}
    (hf : ∀ x ∈ l, Layout F (f x)) : Layout F (l.flatMap f) := by
  induction l with
  | nil => exact Layout.nil
  | cons x l ih =>
    rw [List.forall_mem_cons] at hf
    rw [List.flatMap_cons]
    exact hf.1.append (ih hf.2)

theorem Closed.apart_right (h : Closed F a) : Apart F a b := apart_of_last h.last

theorem Closed.apart_left (h : Closed F b) (c : List α) : Apart F a (b ++ c) := by
  refine apart_of_head ?_
  rw [List.head?_append_of_ne_nil _ h.ne_nil]
  exact h.head

/-- **Every occurrence lies in a written piece.** -/
theorem Layout.exists_written (h : Layout F ps) (hne : F ≠ []) (htext : chars ps = u ++ F ++ v) :
    ∃ before text next x y, ps = before ++ Segment.written text :: next ∧ text = x ++ F ++ y ∧
      u = chars before ++ x ∧ v = y ++ chars next := by
  induction h generalizing u with
  | nil =>
    have hF := (List.append_eq_nil_iff.1 (List.append_eq_nil_iff.1 htext.symm).1).2
    exact absurd hF hne
  | @written text ps hclosed h ih =>
    rw [chars_cons] at htext
    rcases hclosed.apart_right.split htext with ⟨y, hin, hv⟩ | ⟨x, hu, hrest⟩
    · exact ⟨[], text, ps, u, y, rfl, hin, rfl, hv⟩
    · obtain ⟨before, t, next, x', y, rfl, ht, hx, hv⟩ := ih hrest
      refine ⟨.written text :: before, t, next, x', y, rfl, ht, ?_, hv⟩
      rw [hu, hx, chars_cons, List.append_assoc]
      rfl
  | @given text next ps hfree hclosed h ih =>
    rw [chars_cons, chars_cons] at htext
    rcases (hclosed.apart_left (chars ps)).split htext with ⟨y, hin, -⟩ | ⟨x, hu, hrest⟩
    · exact absurd ⟨u, y, hin.symm⟩ hfree
    · rcases hclosed.apart_right.split hrest with ⟨y, hin, hv⟩ | ⟨x', hx, hrest'⟩
      · refine ⟨[.given text], next, ps, x, y, rfl, hin, ?_, hv⟩
        rw [hu, chars_cons]
        simp [Segment.text, chars]
      · obtain ⟨before, t, rest, x'', y, rfl, ht, hx'', hv⟩ := ih hrest'
        refine ⟨.given text :: .written next :: before, t, rest, x'', y, rfl, ht, ?_, hv⟩
        rw [hu, hx, hx'', chars_cons, chars_cons]
        simp [Segment.text]

section Occurrences

variable [DecidableEq α]

/-- The occurrences in a written piece. -/
def Segment.occ (F : List α) : Segment α → ℕ
  | .written text => Fragments.occ F text
  | .given _ => 0

/-- **The occurrences in the text are those in its written pieces.** -/
theorem Layout.occ_eq (h : Layout F ps) : occ F (chars ps) = (ps.map (Segment.occ F)).sum := by
  induction h with
  | nil => rfl
  | @written text ps hclosed _ ih =>
    have hedge : Apart F text (chars ps) := hclosed.apart_right
    rw [chars_cons, List.map_cons, List.sum_cons, ← ih]
    exact occ_append hedge
  | @given text next ps hfree hclosed _ ih =>
    have hleft : Apart F text (next ++ chars ps) := hclosed.apart_left (chars ps)
    have hright : Apart F next (chars ps) := hclosed.apart_right
    have hsum : occ F (text ++ (next ++ chars ps)) = occ F next + occ F (chars ps) := by
      rw [occ_append hleft, occ_append hright, occ_eq_zero hfree, Nat.zero_add]
    rw [chars_cons, chars_cons, List.map_cons, List.map_cons, List.sum_cons, List.sum_cons, ← ih]
    exact hsum.trans (Nat.zero_add _).symm

end Occurrences

end Fragments
