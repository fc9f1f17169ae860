import Mathlib.Data.List.Basic

/-!
# Merging neighbours

A list of labelled lists, in which neighbours with one label become one where
the label allows it.

* `merge_append`: a list can be merged from the right, part by part;
* `absorb_absorb`: what is put in front piece by piece is put in front at once;
* `foldr_absorb_pieces`: the same for any number of pieces.
-/

namespace Neighbours

variable {K X : Type} [DecidableEq K] {merges : K → Bool}

/-- An element in front of a list, in one with the first when the label allows it. -/
def absorb (merges : K → Bool) (a : K × List X) : List (K × List X) → List (K × List X)
  | [] => [a]
  | b :: rest =>
    if a.1 = b.1 ∧ merges a.1 = true then (a.1, a.2 ++ b.2) :: rest else a :: b :: rest

/-- The list with its neighbours merged. -/
def merge (merges : K → Bool) (l : List (K × List X)) : List (K × List X) :=
  l.foldr (absorb merges) []

theorem merge_append (l m : List (K × List X)) :
    merge merges (l ++ m) = l.foldr (absorb merges) (merge merges m) :=
  List.foldr_append

theorem absorb_absorb {k : K} (hk : merges k = true) (xs ys : List X) (rest : List (K × List X)) :
    absorb merges (k, xs) (absorb merges (k, ys) rest) = absorb merges (k, xs ++ ys) rest := by
  cases rest with
  | nil => simp [absorb, hk]
  | cons b rest =>
    by_cases hb : k = b.1
    · simp [absorb, ← hb, hk]
    · simp [absorb, hb, hk]

/-- Pieces with one label, put in front one after the other. -/
theorem foldr_absorb_pieces {k : K} (hk : merges k = true) {pieces : List (List X)}
    (hne : pieces ≠ []) (rest : List (K × List X)) :
    (pieces.map (Prod.mk k)).foldr (absorb merges) rest = absorb merges (k, pieces.flatten) rest := by
  induction pieces with
  | nil => exact absurd rfl hne
  | cons p pieces ih =>
    cases pieces with
    | nil => simp
    | cons q pieces =>
      rw [List.map_cons, List.foldr_cons, ih (by simp), absorb_absorb hk]
      rfl

end Neighbours
