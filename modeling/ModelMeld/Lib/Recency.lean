import Mathlib.Data.Finset.Card
import Mathlib.Data.List.Nodup
import Mathlib.Tactic.Linarith

/-!
# Recency

Keys in the order in which they were touched last. A list of touches has the
last one first; a list of keys has the key first that was touched the longest
time ago, as a bounded store keeps them that drops its first keys.

* `Ordered.touch`: a key that is touched goes to the end;
* `Ordered.mem_drop`: a key is among the last `n` when fewer than `n` others were touched since.
-/

namespace Recency

variable {K : Type} [DecidableEq K]

/-- What was touched since a key was, last touch first. -/
def since (touched : List K) (k : K) : List K := touched.takeWhile (fun k' => k' ≠ k)

/-- Each key is followed by keys that were touched since it was. -/
structure Ordered (touched keys : List K) : Prop where
  nodup : keys.Nodup
  order : keys.Pairwise (fun k k' => k' ∈ since touched k)

variable {touched keys : List K} {k k' : K}

@[simp] theorem since_cons_self : since (k :: touched) k = [] := by
  simp [since]

theorem since_cons_of_ne (h : k' ≠ k) : since (k' :: touched) k = k' :: since touched k := by
  simp [since, h]

theorem Ordered.sublist {keys' : List K} (h : Ordered touched keys) (hsub : keys'.Sublist keys) :
    Ordered touched keys' :=
  ⟨hsub.nodup h.nodup, h.order.sublist hsub⟩

theorem ordered_nil : Ordered touched ([] : List K) := ⟨List.nodup_nil, List.Pairwise.nil⟩

/-- **A key that is touched goes to the end.** -/
theorem Ordered.touch (h : Ordered touched keys) (k : K) :
    Ordered (k :: touched) (keys.filter (fun k' => k' ≠ k) ++ [k]) := by
  have hrest := h.sublist (List.filter_sublist (p := fun k' => decide (k' ≠ k)))
  have hne : ∀ a ∈ keys.filter (fun k' => k' ≠ k), a ≠ k := by
    intro a ha
    simpa using (List.mem_filter.1 ha).2
  constructor
  · refine List.nodup_append.2 ⟨hrest.nodup, List.nodup_singleton k, ?_⟩
    rintro a ha b hb rfl
    exact hne a ha (List.mem_singleton.1 hb)
  · refine List.pairwise_append.2 ⟨?_, List.pairwise_singleton _ _, ?_⟩
    · apply hrest.order.imp_of_mem
      intro a b ha _ hab
      rw [since_cons_of_ne (hne a ha).symm]
      exact List.mem_cons_of_mem _ hab
    · intro a ha b hb
      obtain rfl := List.mem_singleton.1 hb
      rw [since_cons_of_ne (hne a ha).symm]
      exact List.mem_cons_self

/-- **A key is among the last `n` when fewer than `n` others were touched since.** -/
theorem Ordered.mem_drop (h : Ordered touched keys) {n : ℕ} (hk : k ∈ keys)
    (hfew : (since touched k).toFinset.card < n) : k ∈ keys.drop (keys.length - n) := by
  obtain ⟨before, after, rfl⟩ := List.append_of_mem hk
  -- the keys after it were all touched since
  have hafter : after.toFinset ⊆ (since touched k).toFinset := by
    intro a ha
    have horder := (List.pairwise_cons.1 (List.pairwise_append.1 h.order).2.1).1
    exact List.mem_toFinset.2 (horder a (List.mem_toFinset.1 ha))
  have hnodup : after.Nodup :=
    (List.nodup_cons.1 (List.nodup_append.1 h.nodup).2.1).2
  have hcard := Finset.card_le_card hafter
  rw [List.toFinset_card_of_nodup hnodup] at hcard
  have hshort : (before ++ k :: after).length - n ≤ before.length := by
    rw [List.length_append, List.length_cons]
    omega
  rw [List.drop_append_of_le_length hshort]
  exact List.mem_append_right _ List.mem_cons_self

end Recency
