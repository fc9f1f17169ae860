import ModelMeld.Lib.OrderedDict
import Mathlib.Logic.Function.Basic
import Mathlib.Order.Nat

/-!
# The history of a dictionary

What a list of assignments and deletions leaves in an insertion-ordered
dictionary: which value each key has, and which key stands before which.

* `get?_after`: a key has the value it was assigned last;
* `keys_enteredBefore`: a key stands before those that came when it was there;
* `pairwise_iff_of_ordered`: pairs of an ordered list, taken by the order.
-/

/-- Pairs of a list that an asymmetric relation orders. -/
theorem List.pairwise_iff_of_ordered {A : Type} {R P : A → A → Prop} {l : List A}
    (hordered : l.Pairwise R) (hasymm : ∀ a b, R a b → ¬ R b a) :
    l.Pairwise P ↔ ∀ a ∈ l, ∀ b ∈ l, R a b → P a b := by
  constructor
  · intro hpairs a ha b hb hab
    obtain ⟨i, hi, rfl⟩ := List.mem_iff_getElem.1 ha
    obtain ⟨j, hj, rfl⟩ := List.mem_iff_getElem.1 hb
    rcases lt_trichotomy i j with hij | hij | hij
    · exact List.pairwise_iff_getElem.1 hpairs i j hi hj hij
    · subst hij
      exact absurd hab (hasymm _ _ hab)
    · exact absurd (List.pairwise_iff_getElem.1 hordered j i hj hi hij) (hasymm _ _ hab)
  · intro h
    exact hordered.imp_of_mem (fun ha hb hab => h _ ha _ hb hab)

namespace OrderedDict

/-- A change of a dictionary. -/
inductive Edit (K V : Type) where
  | set (k : K) (v : V)
  | delete (k : K)

variable {K V : Type} [DecidableEq K]

def Edit.apply (d : OrderedDict K V) : Edit K V → OrderedDict K V
  | .set k v => d.insert k v
  | .delete k => d.erase k

/-- The dictionary after a history. -/
def after (edits : List (Edit K V)) : OrderedDict K V := edits.foldl Edit.apply .empty

/-- What a key was assigned last, unless it was deleted since. -/
def Edit.update (m : K → Option V) : Edit K V → K → Option V
  | .set k v => Function.update m k (some v)
  | .delete k => Function.update m k none

def valueAfter (edits : List (Edit K V)) : K → Option V := edits.foldl Edit.update (fun _ => none)

/-- The first key was there when the second was not, and has not been deleted since. -/
def EnteredBefore (edits : List (Edit K V)) (k k' : K) : Prop :=
  ∃ pre post, edits = pre ++ post ∧ (valueAfter pre k).isSome = true ∧ valueAfter pre k' = none ∧
    Edit.delete k ∉ post

theorem after_append (edits : List (Edit K V)) (e : Edit K V) :
    after (edits ++ [e]) = e.apply (after edits) := by
  unfold after
  rw [List.foldl_append]
  rfl

theorem valueAfter_append (edits : List (Edit K V)) (e : Edit K V) :
    valueAfter (edits ++ [e]) = e.update (valueAfter edits) := by
  unfold valueAfter
  rw [List.foldl_append]
  rfl

theorem get?_apply (d : OrderedDict K V) (e : Edit K V) : (e.apply d).get? = e.update d.get? := by
  funext k
  cases e with
  | set k' v =>
    change (d.insert k' v).get? k = Function.update d.get? k' (some v) k
    rw [get?_insert, Function.update_apply]
  | delete k' =>
    change (d.erase k').get? k = Function.update d.get? k' none k
    rw [get?_erase, Function.update_apply]

/-- **A key has the value it was assigned last.** -/
theorem get?_after (edits : List (Edit K V)) : (after edits).get? = valueAfter edits := by
  induction edits using List.reverseRecOn with
  | nil => rfl
  | append_singleton edits e ih => rw [after_append, valueAfter_append, get?_apply, ih]

theorem EnteredBefore.append {edits : List (Edit K V)} {k k' : K} (h : EnteredBefore edits k k')
    {e : Edit K V} (he : e ≠ .delete k) : EnteredBefore (edits ++ [e]) k k' := by
  obtain ⟨pre, post, hsplit, hk, hk', hpost⟩ := h
  refine ⟨pre, post ++ [e], by rw [hsplit, List.append_assoc], hk, hk', ?_⟩
  rw [List.mem_append, List.mem_singleton, not_or]
  exact ⟨hpost, fun heq => he heq.symm⟩

/-- **A key stands before those that came when it was there.** -/
theorem keys_enteredBefore (edits : List (Edit K V)) :
    (after edits).keys.Pairwise (EnteredBefore edits) := by
  induction edits using List.reverseRecOn with
  | nil => exact List.Pairwise.nil
  | append_singleton edits e ih =>
    rw [after_append]
    cases e with
    | set k v =>
      change (setEntry k v (after edits).entries).map Prod.fst |>.Pairwise _
      have hkeep : (after edits).keys.Pairwise (EnteredBefore (edits ++ [.set k v])) :=
        ih.imp (fun h => h.append (fun heq => nomatch heq))
      rw [setEntry_keys]
      split
      · exact hkeep
      · rename_i hnew
        refine List.pairwise_append.2 ⟨hkeep, List.pairwise_singleton _ _, ?_⟩
        intro a ha b hb
        obtain rfl := List.mem_singleton.1 hb
        -- the new key came when the others were there
        refine ⟨edits, [.set b v], rfl, ?_, ?_, fun hmem => nomatch (List.mem_singleton.1 hmem)⟩
        · rw [← get?_after]
          exact (mem_keys_iff _ a).1 ha
        · rw [← get?_after]
          exact Option.not_isSome_iff_eq_none.1 (fun hsome => hnew ((mem_keys_iff _ b).2 hsome))
    | delete k =>
      change (((after edits).entries.filter (fun e => e.1 ≠ k)).map Prod.fst).Pairwise _
      have hsub : (((after edits).entries.filter (fun e => e.1 ≠ k)).map Prod.fst).Sublist
          (after edits).keys := List.filter_sublist.map _
      apply (ih.sublist hsub).imp_of_mem
      intro a b ha _ hab
      apply hab.append
      intro heq
      cases heq
      obtain ⟨entry, hentry, rfl⟩ := List.mem_map.1 ha
      have hne := (List.mem_filter.1 hentry).2
      simp at hne

/-- A key stays while it is not deleted. -/
theorem valueAfter_stays {pre : List (Edit K V)} {k : K} (mid : List (Edit K V))
    (h : (valueAfter pre k).isSome = true) (hmid : Edit.delete k ∉ mid) :
    (valueAfter (pre ++ mid) k).isSome = true := by
  induction mid using List.reverseRecOn with
  | nil => rwa [List.append_nil]
  | append_singleton mid e ih =>
    rw [List.mem_append, List.mem_singleton, not_or] at hmid
    have hbefore := ih hmid.1
    rw [← List.append_assoc, valueAfter_append]
    cases e with
    | set k' v =>
      change (Function.update (valueAfter (pre ++ mid)) k' (some v) k).isSome = true
      by_cases hk : k = k'
      · rw [hk, Function.update_self]
        rfl
      · rw [Function.update_of_ne hk]
        exact hbefore
    | delete k' =>
      change (Function.update (valueAfter (pre ++ mid)) k' none k).isSome = true
      have hk : k ≠ k' := by
        rintro rfl
        exact hmid.2 rfl
      rw [Function.update_of_ne hk]
      exact hbefore

theorem EnteredBefore.asymm {edits : List (Edit K V)} {k k' : K} (h : EnteredBefore edits k k') :
    ¬ EnteredBefore edits k' k := by
  rintro ⟨pre', post', hsplit', hsome', hnone', hpost'⟩
  obtain ⟨pre, post, hsplit, hsome, hnone, hpost⟩ := h
  rw [hsplit] at hsplit'
  rcases List.append_eq_append_iff.1 hsplit' with ⟨mid, rfl, rfl⟩ | ⟨mid, rfl, rfl⟩
  · -- the first key was still there
    have hstays := valueAfter_stays mid hsome
      (fun hmem => hpost (List.mem_append_left _ hmem))
    rw [hnone'] at hstays
    cases hstays
  · have hstays := valueAfter_stays mid hsome'
      (fun hmem => hpost' (List.mem_append_left _ hmem))
    rw [hnone] at hstays
    cases hstays

end OrderedDict
