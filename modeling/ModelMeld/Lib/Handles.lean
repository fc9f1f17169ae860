import ModelMeld.Lib.Runs

/-!
# Cells that steps are given

Some steps of a machine are given a reference and change the cell it refers to,
and no other cell. What a run makes of a cell is then determined by the steps
that were given it.

* `run_cell`: the cell after a run.
-/

namespace Handles

open Runs

variable {S E R C : Type} [DecidableEq R]

/-- The events of a run that are given a reference. -/
def givenTo (step : S → E → S) (given : S → E → Option R) (r : R) : S → List E → List E
  | _, [] => []
  | s, e :: es =>
    if given s e = some r then e :: givenTo step given r (step s e) es
    else givenTo step given r (step s e) es

variable {step : S → E → S} {given : S → E → Option R} {r : R}

theorem givenTo_append (s : S) (es fs : List E) :
    givenTo step given r s (es ++ fs) =
      givenTo step given r s es ++ givenTo step given r (run step s es) fs := by
  induction es generalizing s with
  | nil => rfl
  | cons e es ih =>
    simp only [List.cons_append, givenTo, run_cons]
    split
    · rw [ih, List.cons_append]
    · exact ih _

theorem givenTo_concat (s : S) (es : List E) (e : E) :
    givenTo step given r s (es ++ [e]) =
      givenTo step given r s es ++ (if given (run step s es) e = some r then [e] else []) := by
  rw [givenTo_append]
  rfl

theorem givenTo_sublist (s : S) (es : List E) : (givenTo step given r s es).Sublist es := by
  induction es generalizing s with
  | nil => exact List.Sublist.refl _
  | cons e es ih =>
    rw [givenTo]
    split
    · exact (ih _).cons_cons e
    · exact (ih _).cons e

theorem exists_given {s : S} {es : List E} {e : E} (h : e ∈ givenTo step given r s es) :
    ∃ s', given s' e = some r := by
  induction es generalizing s with
  | nil => exact absurd h List.not_mem_nil
  | cons f es ih =>
    rw [givenTo] at h
    split at h
    next hgiven =>
      rcases List.mem_cons.1 h with rfl | hrest
      · exact ⟨s, hgiven⟩
      · exact ih hrest
    · exact ih h

/-- What holds at the end of every beginning of a run holds along it. -/
theorem along_of_prefix {P : S → E → Prop} {s : S} {es : List E}
    (h : ∀ fs e, fs ++ [e] <+: es → P (run step s fs) e) : Along step P s es := by
  induction es generalizing s with
  | nil => trivial
  | cons e es ih =>
    refine ⟨h [] e ⟨es, rfl⟩, ih ?_⟩
    intro fs f hpre
    exact h (e :: fs) f (List.cons_prefix_cons.2 ⟨rfl, hpre⟩)

/-- A step changes the cell it is given and leaves the others. -/
def Local (step : S → E → S) (given : S → E → Option R) (cell : S → R → C) (change : E → C → C)
    (s : S) (e : E) : Prop :=
  ∀ r, cell (step s e) r = if given s e = some r then change e (cell s r) else cell s r

/-- **A cell after a run is what the steps that were given it made of it.** -/
theorem run_cell {cell : S → R → C} {change : E → C → C} {s : S} {es : List E}
    (h : Along step (Local step given cell change) s es) (r : R) :
    cell (run step s es) r =
      (givenTo step given r s es).foldl (fun c e => change e c) (cell s r) := by
  induction es generalizing s with
  | nil => rfl
  | cons e es ih =>
    have hnext := ih h.2
    have hone := h.1 r
    rw [run_cons, hnext, givenTo, hone]
    split <;> rfl

end Handles
