import Mathlib.Data.List.Basic

/-!
# Texts made of lines

Lists of lines, each ended by a separator. What was written down can be read
back where no line has the separator in it, and where the lengths of the lines
are known.

* `before_sep_inj`: what stands before the first separator;
* `terminated_inj`: lines without the separator;
* `terminated_append_inj`: lines of known lengths, whatever they hold.
-/

namespace Lines

variable {C : Type} {sep : C}

/-- The lines, each ended by the separator. -/
def terminated (sep : C) (lines : List (List C)) : List C := lines.flatMap (fun l => l ++ [sep])

theorem terminated_cons (l : List C) (ls : List (List C)) :
    terminated sep (l :: ls) = l ++ sep :: terminated sep ls := by
  simp [terminated]

theorem terminated_eq_nil {ls : List (List C)} (h : terminated sep ls = []) : ls = [] := by
  cases ls with
  | nil => rfl
  | cons l ls =>
    rw [terminated_cons] at h
    simp at h

/-- What stands before the first separator, and what stands after it. -/
theorem before_sep_inj : ∀ {l m r s : List C}, sep ∉ l → sep ∉ m →
    l ++ sep :: r = m ++ sep :: s → l = m ∧ r = s := by
  intro l
  induction l with
  | nil =>
    intro m r s _ hm h
    cases m with
    | nil => exact ⟨rfl, (List.cons.inj h).2⟩
    | cons c m =>
      have hc : sep = c := (List.cons.inj h).1
      exact absurd (hc ▸ List.mem_cons_self) hm
  | cons c l ih =>
    intro m r s hl hm h
    cases m with
    | nil =>
      have hc : c = sep := (List.cons.inj h).1
      exact absurd (hc ▸ List.mem_cons_self) hl
    | cons d m =>
      obtain ⟨hcd, hrest⟩ := List.cons.inj h
      obtain ⟨hlm, hrs⟩ := ih (fun hmem => hl (List.mem_cons_of_mem _ hmem))
        (fun hmem => hm (List.mem_cons_of_mem _ hmem)) hrest
      exact ⟨by rw [hcd, hlm], hrs⟩

/-- **Lines without the separator are read back.** -/
theorem terminated_inj : ∀ {ls ms : List (List C)}, (∀ l ∈ ls, sep ∉ l) → (∀ m ∈ ms, sep ∉ m) →
    terminated sep ls = terminated sep ms → ls = ms := by
  intro ls
  induction ls with
  | nil =>
    intro ms _ _ h
    exact (terminated_eq_nil h.symm).symm
  | cons l ls ih =>
    intro ms hls hms h
    cases ms with
    | nil => exact terminated_eq_nil h
    | cons m ms =>
      rw [terminated_cons, terminated_cons] at h
      obtain ⟨hlm, hrest⟩ := before_sep_inj (hls l List.mem_cons_self) (hms m List.mem_cons_self) h
      rw [hlm, ih (fun l hl => hls l (List.mem_cons_of_mem _ hl))
        (fun m hm => hms m (List.mem_cons_of_mem _ hm)) hrest]

/-- **Lines of known lengths are read back, whatever stands in them.** -/
theorem terminated_append_inj {ls ms rest rest' : List (List C)}
    (hlen : ls.map List.length = ms.map List.length)
    (h : terminated sep (ls ++ rest) = terminated sep (ms ++ rest')) :
    ls = ms ∧ terminated sep rest = terminated sep rest' := by
  induction ls generalizing ms with
  | nil =>
    cases ms with
    | nil => exact ⟨rfl, h⟩
    | cons m ms => cases hlen
  | cons l ls ih =>
    cases ms with
    | nil => cases hlen
    | cons m ms =>
      obtain ⟨hhead, htail⟩ := List.cons.inj hlen
      rw [List.cons_append, List.cons_append, terminated_cons, terminated_cons] at h
      obtain ⟨hlm, hrest⟩ := List.append_inj h hhead
      obtain ⟨hls, hafter⟩ := ih htail (List.cons.inj hrest).2
      exact ⟨by rw [hlm, hls], hafter⟩

end Lines
