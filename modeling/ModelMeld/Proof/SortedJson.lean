import ModelMeld.Lib.OrderedDict
import ModelMeld.Spec.Decoded

/-!
# JSON values with sorted keys

What sorting the keys of an object, and of the objects inside it, keeps: the
fields up to their order (`sortFields_perm`), and so every lookup
(`lookup_sortFields`). Two values without repeated keys are equal as
dictionaries exactly when they are the same value once sorted
(`same_iff_sortKeys`).
-/

namespace ModelMeld

namespace Json

/-- The fields of an object with the keys inside their values sorted. -/
def sortedInside (p : String × Json) : String × Json := (p.1, p.2.sortKeys)

theorem sortFields_perm : ∀ fields : List (String × Json),
    (sortFields fields).Perm (fields.map sortedInside) := by
  intro fields
  induction fields with
  | nil => exact List.Perm.refl _
  | cons p fields ih =>
    obtain ⟨key, value⟩ := p
    rw [sortFields, List.map_cons]
    exact (List.perm_orderedInsert _ _ _).trans (ih.cons _)

theorem keys_sortFields_perm (fields : List (String × Json)) :
    ((sortFields fields).map Prod.fst).Perm (fields.map Prod.fst) := by
  have h := (sortFields_perm fields).map Prod.fst
  rwa [List.map_map] at h

theorem lookup_map_sortedInside (key : String) (fields : List (String × Json)) :
    (fields.map sortedInside).lookup key = (fields.lookup key).map sortKeys := by
  induction fields with
  | nil => rfl
  | cons p fields ih =>
    obtain ⟨k, v⟩ := p
    rw [List.map_cons, sortedInside, List.lookup_cons, List.lookup_cons, ih]
    cases key == k <;> rfl

/-- **A lookup does not see the order of the keys.** -/
theorem lookup_sortFields {fields : List (String × Json)} (hnd : (fields.map Prod.fst).Nodup)
    (key : String) : (sortFields fields).lookup key = (fields.lookup key).map sortKeys := by
  rw [← lookup_map_sortedInside]
  have hperm := sortFields_perm fields
  have hsorted : ((sortFields fields).map Prod.fst).Nodup :=
    (keys_sortFields_perm fields).nodup_iff.mpr hnd
  have hinside : ((fields.map sortedInside).map Prod.fst).Nodup :=
    (hperm.map Prod.fst).nodup_iff.mp hsorted
  apply Option.ext
  intro value
  constructor
  · intro h
    exact OrderedDict.lookup_of_mem hinside (hperm.mem_iff.mp (OrderedDict.mem_of_lookup h))
  · intro h
    exact OrderedDict.lookup_of_mem hsorted (hperm.mem_iff.mpr (OrderedDict.mem_of_lookup h))

instance : Std.Total KeyLe := ⟨fun a b => String.le_total a.1 b.1⟩

instance : IsTrans (String × Json) KeyLe := ⟨fun _ _ _ h h' => String.le_trans h h'⟩

theorem pairwise_sortFields (fields : List (String × Json)) :
    (sortFields fields).Pairwise KeyLe := by
  induction fields with
  | nil => exact List.Pairwise.nil
  | cons p fields ih =>
    obtain ⟨key, value⟩ := p
    rw [sortFields]
    exact ih.orderedInsert (key, sortKeys value) _

/-- Sorted fields are the same where they are the same up to their order. -/
theorem sortFields_eq_iff {a b : List (String × Json)} (hb : (b.map Prod.fst).Nodup) :
    sortFields a = sortFields b ↔ (a.map sortedInside).Perm (b.map sortedInside) := by
  constructor
  · intro h
    have hperm := sortFields_perm b
    rw [← h] at hperm
    exact (sortFields_perm a).symm.trans hperm
  · intro h
    have hperm := ((sortFields_perm a).trans h).trans (sortFields_perm b).symm
    refine List.Perm.eq_of_pairwise ?_ (pairwise_sortFields a) (pairwise_sortFields b) hperm
    intro p q hp hq hpq hqp
    have hkey : p.1 = q.1 := String.le_antisymm hpq hqp
    have hnodup := (keys_sortFields_perm b).nodup_iff.mpr hb
    exact List.inj_on_of_nodup_map hnodup (hperm.mem_iff.mp hp) hq hkey

/-! ## Equal dictionaries -/

theorem sameFields_iff {a b : List (String × Json)} :
    SameFields a b ↔ ∀ p ∈ a, ∃ v, b.lookup p.1 = some v ∧ Same p.2 v := by
  induction a with
  | nil => simp [SameFields]
  | cons p a ih =>
    obtain ⟨key, value⟩ := p
    rw [SameFields, ih, List.forall_mem_cons]

theorem uniqueFields_iff {a : List (String × Json)} :
    UniqueFields a ↔ ∀ p ∈ a, p.2.UniqueKeys := by
  induction a with
  | nil => simp [UniqueFields]
  | cons p a ih =>
    obtain ⟨key, value⟩ := p
    rw [UniqueFields, ih, List.forall_mem_cons]

theorem keys_map_sortedInside (a : List (String × Json)) :
    (a.map sortedInside).map Prod.fst = a.map Prod.fst := by
  rw [List.map_map]
  rfl

/-- Where the values agree with what they are sorted to, so do the fields. -/
theorem perm_iff_sameFields {a b : List (String × Json)} (ha : (a.map Prod.fst).Nodup)
    (hb : (b.map Prod.fst).Nodup)
    (hvalues : ∀ p ∈ a, ∀ q ∈ b, Same p.2 q.2 ↔ p.2.sortKeys = q.2.sortKeys) :
    (a.length = b.length ∧ SameFields a b) ↔
      (a.map sortedInside).Perm (b.map sortedInside) := by
  rw [sameFields_iff]
  constructor
  · rintro ⟨hlen, hfields⟩
    have hnodup : (a.map sortedInside).Nodup := by
      apply List.Nodup.of_map Prod.fst
      rwa [keys_map_sortedInside]
    have hsubset : a.map sortedInside ⊆ b.map sortedInside := by
      intro q hq
      obtain ⟨p, hp, rfl⟩ := List.mem_map.mp hq
      obtain ⟨v, hv, hsame⟩ := hfields p hp
      have hmem : (p.1, v) ∈ b := OrderedDict.mem_of_lookup hv
      have hsorted := (hvalues p hp _ hmem).mp hsame
      rw [sortedInside, hsorted]
      exact List.mem_map_of_mem (f := sortedInside) hmem
    apply (List.subperm_of_subset hnodup hsubset).perm_of_length_le
    rw [List.length_map, List.length_map, hlen]
  · intro hperm
    have hlen := hperm.length_eq
    rw [List.length_map, List.length_map] at hlen
    refine ⟨hlen, fun p hp => ?_⟩
    have hmem := hperm.mem_iff.mp (List.mem_map_of_mem (f := sortedInside) hp)
    obtain ⟨q, hq, heq⟩ := List.mem_map.mp hmem
    obtain ⟨hkey, hvalue⟩ := Prod.mk.inj heq
    have hkey : q.1 = p.1 := hkey
    refine ⟨q.2, ?_, (hvalues p hp q hq).mpr hvalue.symm⟩
    rw [← hkey]
    exact OrderedDict.lookup_of_mem hb hq

mutual

/-- **Two values without repeated keys are equal exactly when they are the same once sorted.** -/
theorem same_iff_sortKeys : ∀ a b : Json, a.UniqueKeys → b.UniqueKeys →
    (Same a b ↔ a.sortKeys = b.sortKeys)
  | .arr a, b, ha, hb => by
    cases b with
    | arr b =>
      rw [Same, sortKeys, sortKeys, sameItems_iff_sortItems a b ha hb, Json.arr.injEq]
    | _ => simp [Same, sortKeys]
  | .obj a, b, ha, hb => by
    cases b with
    | obj b =>
      rw [UniqueKeys] at ha hb
      rw [Same, sortKeys, sortKeys, Json.obj.injEq, sortFields_eq_iff hb.1]
      exact perm_iff_sameFields ha.1 hb.1 (same_iff_of_fields a b ha.2 hb.2)
    | _ => simp [Same, sortKeys]
  | .null, b, _, _ => by cases b <;> simp [Same, sortKeys]
  | .bool _, b, _, _ => by cases b <;> simp [Same, sortKeys]
  | .int _, b, _, _ => by cases b <;> simp [Same, sortKeys]
  | .float _, b, _, _ => by cases b <;> simp [Same, sortKeys]
  | .str _, b, _, _ => by cases b <;> simp [Same, sortKeys]

theorem sameItems_iff_sortItems : ∀ a b : List Json, UniqueItems a → UniqueItems b →
    (SameItems a b ↔ sortItems a = sortItems b)
  | [], b, _, _ => by cases b <;> simp [SameItems, sortItems]
  | x :: a, b, ha, hb => by
    cases b with
    | nil => simp [SameItems, sortItems]
    | cons y b =>
      rw [UniqueItems] at ha hb
      rw [SameItems, sortItems, sortItems, List.cons.injEq, same_iff_sortKeys x y ha.1 hb.1,
        sameItems_iff_sortItems a b ha.2 hb.2]

theorem same_iff_of_fields : ∀ a b : List (String × Json), UniqueFields a → UniqueFields b →
    ∀ p ∈ a, ∀ q ∈ b, (Same p.2 q.2 ↔ p.2.sortKeys = q.2.sortKeys)
  | [], _, _, _ => by
    intro p hp
    cases hp
  | (key, value) :: a, b, ha, hb => by
    rw [UniqueFields] at ha
    intro p hp q hq
    rcases List.mem_cons.mp hp with rfl | hp
    · exact same_iff_sortKeys value q.2 ha.1 (uniqueFields_iff.mp hb q hq)
    · exact same_iff_of_fields a b ha.2 hb p hp q hq

end

end Json

end ModelMeld
