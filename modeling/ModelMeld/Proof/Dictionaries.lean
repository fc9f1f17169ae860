import ModelMeld.Proof.SortedJson

/-!
# Dictionaries of declared and added fields

A model is dumped to its declared fields that are not `None`, then the fields a
client added. Two such dictionaries of the same declared names are equal exactly
when each declared field is, and the added fields are (`same_dict_iff`).
-/

namespace ModelMeld

/-! ## Dictionaries of named fields -/

/-- A declared field, unless it is `None`. -/
def namedField (p : String × Option Json) : Option (String × Json) := p.2.map (fun v => (p.1, v))

/-- Declared fields, then the added ones. -/
def dict (declared : List (String × Option Json)) (extra : JsonObj) : JsonObj :=
  declared.filterMap namedField ++ extra

/-- The declared fields have different names, and the added ones none of these. -/
structure NamedDict (declared : List (String × Option Json)) (extra : JsonObj) : Prop where
  nodup : (declared.map Prod.fst).Nodup
  added : ∀ p ∈ extra, p.1 ∉ declared.map Prod.fst
  values : ∀ p ∈ declared, ∀ v ∈ p.2, v.UniqueKeys
  unique : extra.UniqueKeys

theorem uniqueKeys_cons {key : String} {value : Json} {d : JsonObj} :
    JsonObj.UniqueKeys ((key, value) :: d) ↔
      key ∉ d.map Prod.fst ∧ value.UniqueKeys ∧ d.UniqueKeys := by
  unfold JsonObj.UniqueKeys
  rw [Json.UniqueKeys, Json.UniqueKeys, Json.UniqueFields, List.map_cons, List.nodup_cons]
  tauto

theorem uniqueKeys_sublist {d d' : JsonObj} (hsub : d'.Sublist d) (h : d.UniqueKeys) :
    d'.UniqueKeys := by
  unfold JsonObj.UniqueKeys at *
  rw [Json.UniqueKeys] at *
  refine ⟨(hsub.map Prod.fst).nodup h.1, ?_⟩
  rw [Json.uniqueFields_iff]
  intro p hp
  exact Json.uniqueFields_iff.mp h.2 p (hsub.subset hp)

theorem NamedDict.tail {p : String × Option Json} {declared : List (String × Option Json)}
    {extra : JsonObj} (h : NamedDict (p :: declared) extra) : NamedDict declared extra where
  nodup := (List.nodup_cons.mp h.nodup).2
  added := fun q hq hmem => h.added q hq (List.mem_cons_of_mem _ hmem)
  values := fun q hq => h.values q (List.mem_cons_of_mem _ hq)
  unique := h.unique

theorem NamedDict.head_not_mem {p : String × Option Json} {declared : List (String × Option Json)}
    {extra : JsonObj} (h : NamedDict (p :: declared) extra) :
    p.1 ∉ (dict declared extra).map Prod.fst := by
  intro hmem
  rw [dict, List.map_append, List.mem_append] at hmem
  rcases hmem with hdeclared | hextra
  · obtain ⟨q, hq, hkey⟩ := List.mem_map.mp hdeclared
    obtain ⟨r, hr, hfield⟩ := List.mem_filterMap.mp hq
    obtain ⟨v, -, rfl⟩ := Option.map_eq_some_iff.mp hfield
    have hname : p.1 ∈ declared.map Prod.fst := by
      rw [← hkey]
      exact List.mem_map_of_mem hr
    exact (List.nodup_cons.mp h.nodup).1 hname
  · obtain ⟨q, hq, hkey⟩ := List.mem_map.mp hextra
    apply h.added q hq
    rw [hkey]
    exact List.mem_cons_self

theorem dict_cons (p : String × Option Json) (declared : List (String × Option Json))
    (extra : JsonObj) : dict (p :: declared) extra = field p.1 p.2 ++ dict declared extra := by
  obtain ⟨key, value⟩ := p
  cases value <;> rfl

theorem NamedDict.uniqueKeys {declared : List (String × Option Json)} {extra : JsonObj}
    (h : NamedDict declared extra) : (dict declared extra).UniqueKeys := by
  induction declared with
  | nil => exact h.unique
  | cons p declared ih =>
    have htail := ih h.tail
    have hkey := h.head_not_mem
    obtain ⟨key, value⟩ := p
    cases value with
    | none => exact htail
    | some v => exact uniqueKeys_cons.mpr ⟨hkey, h.values _ List.mem_cons_self v rfl, htail⟩

/-- Dictionaries are equal where their fields are, up to order. -/
theorem same_iff_perm {d d' : JsonObj} (h : d.UniqueKeys) (h' : d'.UniqueKeys) :
    d.Same d' ↔ (d.map Json.sortedInside).Perm (d'.map Json.sortedInside) := by
  have hnodup : (d'.map Prod.fst).Nodup := by
    unfold JsonObj.UniqueKeys at h'
    rw [Json.UniqueKeys] at h'
    exact h'.1
  unfold JsonObj.Same
  rw [Json.same_iff_sortKeys _ _ h h', Json.sortKeys, Json.sortKeys, Json.obj.injEq,
    Json.sortFields_eq_iff hnodup]

theorem fst_mem_of_sortedInside_mem {p : String × Json} {d : JsonObj}
    (h : p ∈ d.map Json.sortedInside) : p.1 ∈ d.map Prod.fst := by
  rw [← Json.keys_map_sortedInside]
  exact List.mem_map_of_mem h

/-- A field that is in one dictionary only. -/
theorem not_same_cons {key : String} {value : Json} {d d' : JsonObj}
    (h : JsonObj.UniqueKeys ((key, value) :: d)) (h' : d'.UniqueKeys)
    (hkey : key ∉ d'.map Prod.fst) : ¬ JsonObj.Same ((key, value) :: d) d' := by
  rw [same_iff_perm h h']
  intro hperm
  have hmem := hperm.mem_iff.mp List.mem_cons_self
  exact hkey (fst_mem_of_sortedInside_mem hmem)

theorem not_same_cons' {key : String} {value : Json} {d d' : JsonObj}
    (h : JsonObj.UniqueKeys ((key, value) :: d)) (h' : d'.UniqueKeys)
    (hkey : key ∉ d'.map Prod.fst) : ¬ JsonObj.Same d' ((key, value) :: d) := by
  rw [same_iff_perm h' h]
  intro hperm
  have hmem := hperm.mem_iff.mpr List.mem_cons_self
  exact hkey (fst_mem_of_sortedInside_mem hmem)

/-- A field that is in both. -/
theorem same_cons_iff {key : String} {value value' : Json} {d d' : JsonObj}
    (h : JsonObj.UniqueKeys ((key, value) :: d)) (h' : JsonObj.UniqueKeys ((key, value') :: d')) :
    JsonObj.Same ((key, value) :: d) ((key, value') :: d') ↔
      Json.Same value value' ∧ d.Same d' := by
  obtain ⟨-, hvalue, hd⟩ := uniqueKeys_cons.mp h
  obtain ⟨hkey', hvalue', hd'⟩ := uniqueKeys_cons.mp h'
  rw [same_iff_perm h h', same_iff_perm hd hd', Json.same_iff_sortKeys _ _ hvalue hvalue',
    List.map_cons, List.map_cons]
  constructor
  · intro hperm
    have hmem := hperm.mem_iff.mp List.mem_cons_self
    rcases List.mem_cons.mp hmem with heq | hlater
    · rw [heq] at hperm
      exact ⟨(Prod.mk.inj heq).2, (List.perm_cons _).mp hperm⟩
    · exact absurd (fst_mem_of_sortedInside_mem hlater) hkey'
  · rintro ⟨hsorted, hperm⟩
    have hhead : Json.sortedInside (key, value) = Json.sortedInside (key, value') := by
      rw [Json.sortedInside, Json.sortedInside, hsorted]
    rw [hhead]
    exact hperm.cons _

/-- **Dictionaries of the same declared names are equal where each declared field is, and the added
fields are.** -/
theorem same_dict_iff : ∀ {ps qs : List (String × Option Json)} {xs ys : JsonObj},
    ps.map Prod.fst = qs.map Prod.fst → NamedDict ps xs → NamedDict qs ys →
    ((dict ps xs).Same (dict qs ys) ↔
      List.Forall₂ (Option.Rel Json.Same) (ps.map Prod.snd) (qs.map Prod.snd) ∧ xs.Same ys) := by
  intro ps
  induction ps with
  | nil =>
    intro qs xs ys hnames _ _
    cases qs with
    | nil => simp [dict]
    | cons q qs => cases hnames
  | cons p ps ih =>
    intro qs xs ys hnames hp hq
    cases qs with
    | nil => cases hnames
    | cons q qs =>
      obtain ⟨hname, hrest⟩ := List.cons.inj hnames
      have hih := ih hrest hp.tail hq.tail
      have hpkey := hp.head_not_mem
      have hqkey := hq.head_not_mem
      have hpdict := hp.uniqueKeys
      have hqdict := hq.uniqueKeys
      obtain ⟨key, value⟩ := p
      obtain ⟨key', value'⟩ := q
      have hname : key = key' := hname
      subst hname
      rw [List.map_cons, List.map_cons, List.forall₂_cons, and_assoc, ← hih]
      cases value with
      | none =>
        cases value' with
        | none => exact ⟨fun h => ⟨.none, h⟩, fun h => h.2⟩
        | some v' =>
          constructor
          · intro h
            exact absurd h (not_same_cons' hqdict hp.tail.uniqueKeys hpkey)
          · rintro ⟨h, -⟩
            cases h
      | some v =>
        cases value' with
        | none =>
          constructor
          · intro h
            exact absurd h (not_same_cons hpdict hq.tail.uniqueKeys hqkey)
          · rintro ⟨h, -⟩
            cases h
        | some v' =>
          rw [dict_cons, dict_cons]
          have hcons := same_cons_iff hpdict hqdict
          constructor
          · intro h
            obtain ⟨hv, hd⟩ := hcons.mp h
            exact ⟨.some hv, hd⟩
          · rintro ⟨hv, hd⟩
            cases hv with
            | some hv => exact hcons.mpr ⟨hv, hd⟩

/-! ## Values -/

theorem rel_map_iff {A B : Type} {R : A → A → Prop} {S : B → B → Prop} {f : A → B}
    {x y : Option A} (h : ∀ a ∈ x, ∀ b ∈ y, S (f a) (f b) ↔ R a b) :
    Option.Rel S (x.map f) (y.map f) ↔ Option.Rel R x y := by
  cases x with
  | none =>
    cases y with
    | none => exact ⟨fun _ => .none, fun _ => .none⟩
    | some b => exact ⟨fun hr => (by cases hr), fun hr => (by cases hr)⟩
  | some a =>
    cases y with
    | none => exact ⟨fun hr => (by cases hr), fun hr => (by cases hr)⟩
    | some b =>
      have hab := h a rfl b rfl
      constructor
      · intro hr
        cases hr with
        | some hs => exact .some (hab.mp hs)
      · intro hr
        cases hr with
        | some hs => exact .some (hab.mpr hs)

theorem rel_eq_iff {A : Type} {x y : Option A} : Option.Rel Eq x y ↔ x = y := by
  constructor
  · intro h
    cases h with
    | none => rfl
    | some h => rw [h]
  · rintro rfl
    cases x with
    | none => exact .none
    | some a => exact .some rfl

/-- An optional field whose values are told apart by what is written of them. -/
theorem rel_map_eq_iff {A : Type} {f : A → Json} {x y : Option A}
    (h : ∀ a b, Json.Same (f a) (f b) ↔ a = b) :
    Option.Rel Json.Same (x.map f) (y.map f) ↔ x = y := by
  rw [← rel_eq_iff]
  exact rel_map_iff (fun a _ b _ => h a b)

theorem same_str (a b : String) : Json.Same (.str a) (.str b) ↔ a = b := by simp [Json.Same]

theorem same_bool (a b : Bool) : Json.Same (.bool a) (.bool b) ↔ a = b := by simp [Json.Same]

theorem same_int (a b : ℤ) : Json.Same (.int a) (.int b) ↔ a = b := by simp [Json.Same]

theorem same_float (a b : ℚ) : Json.Same (.float a) (.float b) ↔ a = b := by simp [Json.Same]

theorem rel_some_iff {A : Type} {R : A → A → Prop} {a b : A} :
    Option.Rel R (some a) (some b) ↔ R a b := by
  constructor
  · intro h
    cases h with
    | some h => exact h
  · exact .some

theorem same_arr_map_iff {A : Type} {R : A → A → Prop} {f : A → Json} : ∀ {xs ys : List A},
    (∀ x ∈ xs, ∀ y ∈ ys, Json.Same (f x) (f y) ↔ R x y) →
    (Json.Same (.arr (xs.map f)) (.arr (ys.map f)) ↔ List.Forall₂ R xs ys) := by
  intro xs
  induction xs with
  | nil =>
    intro ys _
    cases ys with
    | nil => simp [Json.Same, Json.SameItems]
    | cons y ys => simp [Json.Same, Json.SameItems]
  | cons x xs ih =>
    intro ys h
    cases ys with
    | nil => simp [Json.Same, Json.SameItems]
    | cons y ys =>
      have hhead := h x List.mem_cons_self y List.mem_cons_self
      have htail := ih (fun a ha b hb => h a (List.mem_cons_of_mem _ ha) b (List.mem_cons_of_mem _ hb))
      rw [Json.Same] at htail
      rw [List.map_cons, List.map_cons, Json.Same, Json.SameItems, List.forall₂_cons, hhead, htail]

theorem forall₂_eq_iff {A : Type} {xs ys : List A} : List.Forall₂ Eq xs ys ↔ xs = ys :=
  List.forall₂_eq_eq_eq ▸ Iff.rfl

theorem uniqueKeys_arr_map {A : Type} {f : A → Json} {xs : List A}
    (h : ∀ x ∈ xs, (f x).UniqueKeys) : Json.UniqueKeys (.arr (xs.map f)) := by
  rw [Json.UniqueKeys]
  induction xs with
  | nil => simp [Json.UniqueItems]
  | cons x xs ih =>
    rw [List.map_cons, Json.UniqueItems]
    exact ⟨h x List.mem_cons_self, ih (fun y hy => h y (List.mem_cons_of_mem _ hy))⟩

theorem uniqueKeys_nil : JsonObj.UniqueKeys [] := by
  simp [JsonObj.UniqueKeys, Json.UniqueKeys, Json.UniqueFields]

theorem same_nil : JsonObj.Same [] [] := by simp [JsonObj.Same, Json.Same, Json.SameFields]

theorem uniqueKeys_str (s : String) : (Json.str s).UniqueKeys := by simp [Json.UniqueKeys]

theorem uniqueKeys_map {A : Type} {f : A → Json} {x : Option A} (h : ∀ a ∈ x, (f a).UniqueKeys) :
    ∀ v ∈ x.map f, v.UniqueKeys := by
  intro v hv
  obtain ⟨a, ha, rfl⟩ := Option.map_eq_some_iff.mp hv
  exact h a ha

theorem uniqueKeys_some {v : Json} (h : v.UniqueKeys) : ∀ w ∈ some v, w.UniqueKeys := by
  intro w hw
  rw [← Option.some.inj hw]
  exact h

/-- A dictionary of declared fields only. -/
theorem namedDict_of_values {declared : List (String × Option Json)}
    (hnodup : (declared.map Prod.fst).Nodup)
    (hvalues : ∀ p ∈ declared, ∀ v ∈ p.2, v.UniqueKeys) : NamedDict declared [] where
  nodup := hnodup
  added := by simp
  values := hvalues
  unique := uniqueKeys_nil

end ModelMeld
