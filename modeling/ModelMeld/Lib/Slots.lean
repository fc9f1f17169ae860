import Mathlib.Data.List.Nodup

/-!
# Logs written by index

A log whose writers name the index they write at: an index below the length
replaces what is there, the length itself appends. A writer that read the
length earlier keeps the log exactly when nobody has appended since.

* `mem_writeAt_length`: at the length, everything stays;
* `not_mem_writeAt_of_lt`: below it, what was there is lost;
* `nodup_writeAt`: a new value keeps the values distinct.
-/

namespace Slots

variable {V : Type} {log : List V} {i : ℕ} {x v : V}

/-- The log after a write at an index. -/
def writeAt (log : List V) (i : ℕ) (v : V) : List V :=
  if i < log.length then log.set i v else log ++ [v]

theorem writeAt_length (log : List V) (v : V) : writeAt log log.length v = log ++ [v] :=
  if_neg (Nat.lt_irrefl _)

/-- Below the length, the log around the index stays. -/
theorem writeAt_of_lt (h : i < log.length) :
    writeAt log i v = log.take i ++ v :: log.drop (i + 1) := by
  unfold writeAt
  rw [if_pos h, List.set_eq_take_append_cons_drop, if_pos h]

theorem log_split (h : i < log.length) : log = log.take i ++ log[i] :: log.drop (i + 1) := by
  rw [List.getElem_cons_drop, List.take_append_drop]

theorem length_le_writeAt (log : List V) (i : ℕ) (v : V) :
    log.length ≤ (writeAt log i v).length := by
  unfold writeAt
  split_ifs <;> simp

theorem mem_writeAt_self (log : List V) (i : ℕ) (v : V) : v ∈ writeAt log i v := by
  by_cases h : i < log.length
  · rw [writeAt_of_lt h]
    simp
  · unfold writeAt
    rw [if_neg h]
    simp

theorem mem_of_mem_writeAt (h : x ∈ writeAt log i v) : x = v ∨ x ∈ log := by
  unfold writeAt at h
  split_ifs at h
  · exact (List.mem_or_eq_of_mem_set h).symm
  · simpa [or_comm] using h

/-- **At the length, everything stays.** -/
theorem mem_writeAt_length (h : x ∈ log) : x ∈ writeAt log log.length v := by
  rw [writeAt_length]
  exact List.mem_append_left _ h

theorem nodup_writeAt (hlog : log.Nodup) (hv : v ∉ log) : (writeAt log i v).Nodup := by
  by_cases h : i < log.length
  · rw [writeAt_of_lt h]
    rw [log_split h] at hlog hv
    simp only [List.nodup_append, List.nodup_cons, List.mem_append, List.mem_cons, not_or]
      at hlog hv ⊢
    obtain ⟨htake, ⟨-, hdrop⟩, hapart⟩ := hlog
    refine ⟨htake, ⟨hv.2.2, hdrop⟩, ?_⟩
    rintro a ha b (rfl | hb)
    · rintro rfl
      exact hv.1 ha
    · exact hapart a ha b (.inr hb)
  · unfold writeAt
    rw [if_neg h]
    exact List.nodup_append_comm.mp (List.nodup_cons.mpr ⟨hv, hlog⟩)

/-- **Below the length, what was there is lost.** -/
theorem not_mem_writeAt_of_lt (hlog : log.Nodup) (hv : v ∉ log) (h : i < log.length) :
    log[i] ∉ writeAt log i v := by
  have hne : log[i] ≠ v := fun heq => hv (heq ▸ List.getElem_mem h)
  rw [writeAt_of_lt h]
  rw [log_split h] at hlog
  simp only [List.nodup_append, List.nodup_cons, List.mem_cons] at hlog
  obtain ⟨-, ⟨hdrop, -⟩, hapart⟩ := hlog
  simp only [List.mem_append, List.mem_cons, not_or]
  exact ⟨fun hmem => hapart _ hmem _ (.inl rfl) rfl, hne, hdrop⟩

end Slots
