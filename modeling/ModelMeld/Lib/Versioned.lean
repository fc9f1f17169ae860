import Mathlib.Data.Int.Order.Basic
import Mathlib.Data.List.Basic
import Mathlib.Order.Lattice

/-!
# Versioned values

A shared value whose version goes up with every write, as a reader sees it who
kept an earlier reading. `Older` relates two readings: the version did not go
down, and where it is the same the value is.

* `Older.refl`, `older_of_lt`: how readings follow one another;
* `Older.eq_of_version_eq`: between two readings of one version nothing was written;
* `older_write`: every reading stays a reading when a higher version is written;
* `Successive.lt_of_not_cleared`: where every write counts one up from what it replaced, a later
  write has a higher version unless the value was cleared in between;
* `versions_nodup_iff`: the next write has a version of its own exactly when nothing was cleared.
-/

namespace Versioned

variable {V N : Type} [LinearOrder N] {version : V → N} {a b c : V}

/-- `a` was read no later than `b`. -/
def Older (version : V → N) (a b : V) : Prop :=
  version a ≤ version b ∧ (version a = version b → a = b)

theorem Older.refl (a : V) : Older version a a := ⟨le_refl _, fun _ => rfl⟩

theorem older_of_lt (h : version a < version b) : Older version a b :=
  ⟨le_of_lt h, fun heq => absurd heq (ne_of_lt h)⟩

/-- Nothing was written between two readings of one version. -/
theorem Older.eq_of_version_eq (hab : Older version a b) (hbc : Older version b c)
    (hac : version a = version c) : a = b ∧ b = c := by
  have hba : version a = version b := le_antisymm hab.1 (hac ▸ hbc.1)
  exact ⟨hab.2 hba, hbc.2 (hba ▸ hac)⟩

/-- A write of a higher version leaves every reading behind. -/
theorem older_write (hab : Older version a b) (hlt : version b < version c) :
    Older version a c :=
  older_of_lt (lt_of_le_of_lt hab.1 hlt)

/-! ## Histories of writes -/

/-- What was done to a versioned value. -/
inductive Change (ι : Type) where
  | stored (writer : ι) (version : ℤ)
  | cleared
deriving DecidableEq

variable {ι : Type} {newer mid older : List (Change ι)} {i j : ι} {m n : ℤ}

/-- The version after a history, the latest change first; 0 where nothing is stored. -/
def currentVersion : List (Change ι) → ℤ
  | .stored _ n :: _ => n
  | _ => 0

/-- Every write counts one up from what it replaced. -/
def Successive : List (Change ι) → Prop
  | [] => True
  | .stored _ n :: older => n = currentVersion older + 1 ∧ Successive older
  | .cleared :: older => Successive older

theorem Successive.of_append (h : Successive (newer ++ older)) : Successive older := by
  induction newer with
  | nil => exact h
  | cons change newer ih =>
    cases change with
    | stored _ _ => exact ih h.2
    | cleared => exact ih h

theorem Successive.le_currentVersion (h : Successive (mid ++ .stored j n :: older))
    (hmid : .cleared ∉ mid) : n ≤ currentVersion (mid ++ .stored j n :: older) := by
  induction mid with
  | nil => exact le_refl n
  | cons change mid ih =>
    rw [List.mem_cons, not_or] at hmid
    cases change with
    | stored k p =>
      have hn := ih h.2 hmid.2
      have hp : p = currentVersion (mid ++ .stored j n :: older) + 1 := h.1
      change n ≤ p
      omega
    | cleared => exact absurd rfl hmid.1

/-- **Without a clear in between, a later write has a higher version.** -/
theorem Successive.lt_of_not_cleared
    (h : Successive (newer ++ .stored i m :: (mid ++ .stored j n :: older)))
    (hmid : .cleared ∉ mid) : n < m := by
  have hm := h.of_append
  have hn := Successive.le_currentVersion hm.2 hmid
  have hnext : m = currentVersion (mid ++ .stored j n :: older) + 1 := hm.1
  omega

/-- The versions written, the latest first. -/
def versions : List (Change ι) → List ℤ
  | [] => []
  | .stored _ n :: older => n :: versions older
  | .cleared :: older => versions older

/-- A clear removes a value that is there. -/
def Effective : List (Change ι) → Prop
  | [] => True
  | .stored _ _ :: older => Effective older
  | .cleared :: older => currentVersion older ≠ 0 ∧ Effective older

theorem versions_append : versions (newer ++ older) = versions newer ++ versions older := by
  induction newer with
  | nil => rfl
  | cons change newer ih => cases change <;> simp [versions, ih]

theorem Effective.of_append (h : Effective (newer ++ older)) : Effective older := by
  induction newer with
  | nil => exact h
  | cons change newer ih =>
    cases change with
    | stored _ _ => exact ih h
    | cleared => exact ih h.2

/-- Without a clear every write counts the version up. -/
theorem Successive.lt_currentVersion (h : Successive (newer ++ older)) (hnewer : .cleared ∉ newer)
    (hne : newer ≠ []) : currentVersion older < currentVersion (newer ++ older) := by
  induction newer with
  | nil => exact absurd rfl hne
  | cons change newer ih =>
    rw [List.mem_cons, not_or] at hnewer
    cases change with
    | cleared => exact absurd rfl hnewer.1
    | stored i n =>
      have hn : n = currentVersion (newer ++ older) + 1 := h.1
      have hle : currentVersion older ≤ currentVersion (newer ++ older) := by
        by_cases hnil : newer = []
        · rw [hnil, List.nil_append]
        · exact le_of_lt (ih h.2 hnewer.2 hnil)
      change currentVersion older < n
      omega

/-- The versions written without a clear in between are above all before. -/
theorem Successive.le_of_mem_versions (h : Successive older) (hclear : .cleared ∉ older)
    (hn : n ∈ versions older) : n ≤ currentVersion older := by
  induction older with
  | nil => cases hn
  | cons change older ih =>
    rw [List.mem_cons, not_or] at hclear
    cases change with
    | cleared => exact absurd rfl hclear.1
    | stored i m =>
      have hm : m = currentVersion older + 1 := h.1
      change n ≤ m
      rcases List.mem_cons.mp hn with rfl | hold
      · exact le_refl n
      · have := ih h.2 hclear.2 hold
        omega

/-- Counting starts at 1 where nothing was stored. -/
theorem Successive.one_mem_versions (h : Successive (newer ++ older))
    (hzero : currentVersion older = 0) (hne : versions newer ≠ []) : 1 ∈ versions newer := by
  induction newer with
  | nil => exact absurd rfl hne
  | cons change newer ih =>
    cases change with
    | cleared => exact ih h hne
    | stored i n =>
      by_cases hnil : versions newer = []
      · have hbefore : currentVersion (newer ++ older) = 0 := by
          cases newer with
          | nil => exact hzero
          | cons next newer =>
            cases next with
            | cleared => rfl
            | stored j m => cases hnil
        have hn : n = currentVersion (newer ++ older) + 1 := h.1
        rw [hbefore] at hn
        rw [versions, hn]
        exact List.mem_cons_self
      · exact List.mem_cons_of_mem _ (ih h.2 hnil)

/-- **The next write has a version of its own exactly when nothing was ever cleared.** -/
theorem versions_nodup_iff (h : Successive (.stored i m :: older)) (heffective : Effective older) :
    (versions (.stored i m :: older)).Nodup ↔ (versions older).Nodup ∧ .cleared ∉ older := by
  constructor
  · intro hnodup
    refine ⟨(List.nodup_cons.mp hnodup).2, fun hmem => ?_⟩
    -- the first clear had a value before it, counted from 1, as is every value after it
    obtain ⟨before, first, hsplit⟩ := List.append_of_mem hmem
    have hcleared : Effective (.cleared :: first) := (hsplit ▸ heffective).of_append
    have hsucc : Successive ((.stored i m :: before) ++ .cleared :: first) := by
      rw [List.cons_append, ← hsplit]
      exact h
    have hnew : 1 ∈ versions (.stored i m :: before) :=
      hsucc.one_mem_versions rfl (List.cons_ne_nil _ _)
    have hfirst : Successive (first ++ []) := by
      have := hsucc.of_append
      rw [List.append_nil]
      exact this
    have hstored : versions first ≠ [] := by
      cases first with
      | nil => exact absurd rfl hcleared.1
      | cons change first =>
        cases change with
        | cleared => exact absurd rfl hcleared.1
        | stored j n => exact List.cons_ne_nil _ _
    have hold : 1 ∈ versions first := hfirst.one_mem_versions rfl hstored
    rw [hsplit, ← List.cons_append, versions_append, List.nodup_append] at hnodup
    exact hnodup.2.2 1 hnew 1 hold rfl
  · rintro ⟨hnodup, hclear⟩
    refine List.nodup_cons.mpr ⟨fun hmem => ?_, hnodup⟩
    have hle := h.2.le_of_mem_versions hclear hmem
    have hm : m = currentVersion older + 1 := h.1
    omega

end Versioned
