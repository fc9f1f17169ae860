import Mathlib.Data.List.Nodup
import Mathlib.Data.List.Induction
import Mathlib.Tactic.Cases

/-!
# Grouping a list by a key

The keys of a list in the order of their first appearance, and the elements of
one key in order, as they grow when an element is appended.
-/

namespace Grouping

variable {X K : Type} [DecidableEq K] (key : X → K)

/-- The keys of a list, in the order in which they first appear. -/
def keys (l : List X) : List K :=
  l.foldl (fun ks x => if key x ∈ ks then ks else ks ++ [key x]) []

/-- The elements with one key. -/
def group (k : K) (l : List X) : List X := l.filter (fun x => decide (key x = k))

@[simp] theorem keys_nil : keys key [] = [] := rfl

@[simp] theorem group_nil (k : K) : group key k [] = [] := rfl

variable {key}

theorem keys_snoc (l : List X) (x : X) :
    keys key (l ++ [x]) =
      if key x ∈ keys key l then keys key l else keys key l ++ [key x] := by
  unfold keys
  rw [List.foldl_append, List.foldl_cons, List.foldl_nil]

theorem keys_snoc_old {l : List X} {x : X} (h : key x ∈ keys key l) :
    keys key (l ++ [x]) = keys key l := by
  rw [keys_snoc, if_pos h]

theorem keys_snoc_new {l : List X} {x : X} (h : key x ∉ keys key l) :
    keys key (l ++ [x]) = keys key l ++ [key x] := by
  rw [keys_snoc, if_neg h]

theorem mem_keys {l : List X} {k : K} : k ∈ keys key l ↔ ∃ x ∈ l, key x = k := by
  induction l using List.reverseRecOn with
  | nil => simp
  | append_singleton l x ih =>
    have hlast : (∃ y ∈ l ++ [x], key y = k) ↔ (∃ y ∈ l, key y = k) ∨ key x = k := by
      simp [or_and_right, exists_or]
    rw [hlast, ← ih]
    by_cases h : key x ∈ keys key l
    · rw [keys_snoc_old h]
      constructor
      · exact Or.inl
      · rintro (hk | rfl)
        · exact hk
        · exact h
    · rw [keys_snoc_new h, List.mem_append, List.mem_singleton]
      exact or_congr_right eq_comm

theorem nodup_keys (l : List X) : (keys key l).Nodup := by
  induction l using List.reverseRecOn with
  | nil => exact List.nodup_nil
  | append_singleton l x ih =>
    by_cases h : key x ∈ keys key l
    · rw [keys_snoc_old h]
      exact ih
    · rw [keys_snoc_new h]
      refine List.Nodup.append ih (List.nodup_singleton _) ?_
      simpa using h

theorem group_append (k : K) (l m : List X) :
    group key k (l ++ m) = group key k l ++ group key k m :=
  List.filter_append l m

theorem group_snoc_self (l : List X) (x : X) :
    group key (key x) (l ++ [x]) = group key (key x) l ++ [x] := by
  rw [group_append]
  simp [group]

theorem group_snoc_other {k : K} {x : X} (h : k ≠ key x) (l : List X) :
    group key k (l ++ [x]) = group key k l := by
  rw [group_append]
  simp [group, Ne.symm h]

theorem group_eq_nil_iff {k : K} {l : List X} : group key k l = [] ↔ k ∉ keys key l := by
  rw [mem_keys]
  simp [group, List.filter_eq_nil_iff]

/-- The keys of a list behind another: those that are new. -/
theorem keys_append (l m : List X) :
    keys key (l ++ m) = keys key l ++ (keys key m).filter (fun k => decide (k ∉ keys key l)) := by
  induction m using List.reverseRecOn with
  | nil => simp
  | append_singleton m x ih =>
    rw [← List.append_assoc]
    have hmem : key x ∈ keys key (l ++ m) ↔ key x ∈ keys key l ∨ key x ∈ keys key m := by
      simp [mem_keys, or_and_right, exists_or]
    by_cases hm : key x ∈ keys key m
    · rw [keys_snoc_old (hmem.2 (.inr hm)), keys_snoc_old hm, ih]
    · by_cases hl : key x ∈ keys key l
      · rw [keys_snoc_old (hmem.2 (.inl hl)), keys_snoc_new hm, ih]
        simp [hl]
      · have hnew : key x ∉ keys key (l ++ m) := by
          rw [hmem]
          exact not_or.2 ⟨hl, hm⟩
        rw [keys_snoc_new hnew, keys_snoc_new hm, ih]
        simp [hl]

/-- Elements of one key, then others without it. -/
theorem keys_group_append {k : K} {l m : List X} (hne : l ≠ []) (hl : ∀ x ∈ l, key x = k)
    (hm : k ∉ keys key m) : keys key (l ++ m) = k :: keys key m := by
  have hone : keys key l = [k] := by
    induction l using List.reverseRecOn with
    | nil => exact absurd rfl hne
    | append_singleton l x ih =>
      have hx : key x = k := hl x (by simp)
      rcases List.eq_nil_or_concat l with rfl | ⟨l', y, rfl⟩
      · simp [keys, hx]
      · have hkeys := ih (by simp) (fun y hy => hl y (List.mem_append_left _ hy))
        rw [keys_snoc_old (by rw [hkeys, hx]; exact List.mem_singleton_self k), hkeys]
  rw [keys_append, hone, List.singleton_append, List.filter_eq_self.2]
  intro k' hk'
  have hdiffer : k' ≠ k := by
    rintro rfl
    exact hm hk'
  simpa using hdiffer

theorem group_eq_self {k : K} {l : List X} (h : ∀ x ∈ l, key x = k) : group key k l = l := by
  unfold group
  rw [List.filter_eq_self]
  intro x hx
  exact decide_eq_true (h x hx)

theorem group_eq_nil_of_ne {k : K} {l : List X} (h : ∀ x ∈ l, key x ≠ k) : group key k l = [] := by
  unfold group
  rw [List.filter_eq_nil_iff]
  intro x hx
  simpa using h x hx

end Grouping
