import Mathlib.Data.List.Basic

/-!
# Streaks of a history

A history holds what has happened, the latest first. `Streak P k` says that the
`k` latest entries all meet `P`: what a counter that goes up with each `P` and is
reset by all else counts.

* `streak_succ_cons`, `Streak.keep`: a streak grows with an entry that meets `P`,
  and is none the shorter for one that is not counted;
* `Streak.mono`: the latest of the latest.
-/

namespace History

variable {α : Type} {P : α → Prop} {k n : ℕ} {a : α} {history : List α}

/-- The `k` latest entries all meet `P`. -/
def Streak (P : α → Prop) (k : ℕ) (history : List α) : Prop :=
  k ≤ history.length ∧ ∀ a ∈ history.take k, P a

instance [DecidablePred P] : Decidable (Streak P k history) :=
  inferInstanceAs (Decidable (_ ∧ _))

@[simp] theorem streak_zero : Streak P 0 history := by simp [Streak]

theorem streak_succ_cons : Streak P (k + 1) (a :: history) ↔ P a ∧ Streak P k history := by
  simp only [Streak, List.length_cons, List.take_succ_cons, List.mem_cons, forall_eq_or_imp]
  constructor
  · rintro ⟨hlength, ha, hall⟩
    exact ⟨ha, by omega, hall⟩
  · rintro ⟨ha, hlength, hall⟩
    exact ⟨by omega, ha, hall⟩

/-- A part of a streak is a streak. -/
theorem Streak.mono (h : Streak P n history) (hle : k ≤ n) : Streak P k history := by
  obtain ⟨hlength, hall⟩ := h
  refine ⟨Nat.le_trans hle hlength, ?_⟩
  intro a ha
  exact hall a (List.take_subset_take_left history hle ha)

/-- An entry that meets `P` leaves a streak that does not count it. -/
theorem Streak.keep (h : Streak P k history) (ha : P a) : Streak P k (a :: history) := by
  have hsucc : Streak P (k + 1) (a :: history) := streak_succ_cons.2 ⟨ha, h⟩
  exact hsucc.mono (Nat.le_succ k)

end History
