import Mathlib.Algebra.BigOperators.Group.List.Basic
import Mathlib.Data.List.Induction
import Mathlib.Data.List.Nodup
import Mathlib.Tactic.Cases

/-!
# Insertion-ordered dictionaries

A dictionary that remembers the order in which its keys were first inserted.
Assigning to a key that is present replaces the value and keeps the position;
assigning to a new key appends. No key occurs twice, by the `nodup` field.

* `get?_insert`: lookup after an assignment;
* `filter_setEntry`: an assignment among the entries of some keys;
* `mem_entries_iff`: the entries are exactly the lookups;
* `sum_insert`: a sum over the values after an assignment;
* `get?_ofPairs`: a dictionary built from a list of pairs answers with the last pair of a key;
* `mem_values_indexBy`, `pairwise_values_indexBy`: which rows an index by a key keeps, and in
  which order.
-/

/-- An insertion-ordered dictionary: entries in first-insertion order, no key twice. -/
structure OrderedDict (K V : Type) where
  entries : List (K × V)
  nodup : (entries.map Prod.fst).Nodup

namespace OrderedDict

variable {K V W : Type}

@[ext] theorem ext {d e : OrderedDict K V} (h : d.entries = e.entries) : d = e := by
  cases d; cases e; cases h; rfl

instance [DecidableEq K] [DecidableEq V] : DecidableEq (OrderedDict K V) := fun d e =>
  decidable_of_iff (d.entries = e.entries) ⟨ext, fun h => h ▸ rfl⟩

instance [Repr K] [Repr V] : Repr (OrderedDict K V) := ⟨fun d n => reprPrec d.entries n⟩

def empty : OrderedDict K V := ⟨[], List.nodup_nil⟩

instance : Inhabited (OrderedDict K V) := ⟨empty⟩

def keys (d : OrderedDict K V) : List K := d.entries.map Prod.fst

def values (d : OrderedDict K V) : List V := d.entries.map Prod.snd

def size (d : OrderedDict K V) : ℕ := d.entries.length

variable [DecidableEq K]

/-- Assignment on the entry list: replace in place, append when the key is new. -/
def setEntry (k : K) (v : V) : List (K × V) → List (K × V)
  | [] => [(k, v)]
  | e :: es => if e.1 = k then (k, v) :: es else e :: setEntry k v es

theorem setEntry_keys (k : K) (v : V) : ∀ es : List (K × V),
    (setEntry k v es).map Prod.fst =
      if k ∈ es.map Prod.fst then es.map Prod.fst else es.map Prod.fst ++ [k] := by
  intro es
  induction es with
  | nil => rfl
  | cons e es ih =>
    unfold setEntry
    by_cases h : e.1 = k
    · simp [h]
    · have h' : k ≠ e.1 := fun hk => h hk.symm
      simp only [h, if_false, List.map_cons, ih, List.mem_cons, h', false_or]
      split <;> rfl

theorem setEntry_nodup (k : K) (v : V) {es : List (K × V)} (h : (es.map Prod.fst).Nodup) :
    ((setEntry k v es).map Prod.fst).Nodup := by
  rw [setEntry_keys]
  split
  · exact h
  · rename_i hk
    rw [List.nodup_append]
    refine ⟨h, by simp, ?_⟩
    rintro a ha b hb rfl
    exact hk (List.mem_singleton.1 hb ▸ ha)

/-- Entries of other keys are passed over. -/
theorem setEntry_append {k : K} (v : V) : ∀ {es : List (K × V)} (fs : List (K × V)),
    k ∉ es.map Prod.fst → setEntry k v (es ++ fs) = es ++ setEntry k v fs := by
  intro es
  induction es with
  | nil => intro fs _; rfl
  | cons e es ih =>
    intro fs hk
    simp only [List.map_cons, List.mem_cons, not_or] at hk
    rw [List.cons_append, setEntry, if_neg (fun h => hk.1 h.symm), ih fs hk.2, List.cons_append]

/-- An assignment among the entries whose keys have a property. -/
theorem filter_setEntry (p : K → Bool) (k : K) (v : V) : ∀ es : List (K × V),
    (setEntry k v es).filter (fun e => p e.1) =
      if p k then setEntry k v (es.filter (fun e => p e.1)) else es.filter (fun e => p e.1) := by
  intro es
  induction es with
  | nil => by_cases hp : p k <;> simp [setEntry, hp]
  | cons e es ih =>
    rw [setEntry]
    by_cases he : e.1 = k
    · by_cases hp : p k
      · simp [he, hp, setEntry]
      · simp [he, hp]
    · rw [if_neg he, List.filter_cons, ih, List.filter_cons]
      by_cases hpe : p e.1
      · by_cases hp : p k
        · simp [hpe, hp, setEntry, he]
        · simp [hpe, hp]
      · simp [hpe]

/-- `d[k] = v`. -/
def insert (d : OrderedDict K V) (k : K) (v : V) : OrderedDict K V :=
  ⟨setEntry k v d.entries, setEntry_nodup k v d.nodup⟩

/-- `d.get(k)`. -/
def get? (d : OrderedDict K V) (k : K) : Option V := d.entries.lookup k

/-- `d.get(k, default)`. -/
def getD (d : OrderedDict K V) (k : K) (v : V) : V := (d.get? k).getD v

/-- `k in d`. -/
def contains (d : OrderedDict K V) (k : K) : Bool := (d.get? k).isSome

/-- `del d[k]`; nothing happens when the key is absent. -/
def erase (d : OrderedDict K V) (k : K) : OrderedDict K V :=
  ⟨d.entries.filter (fun e => e.1 ≠ k), (List.filter_sublist.map _).nodup d.nodup⟩

/-- The comprehension `{k: v for k, v in pairs}`. -/
def ofPairs (ps : List (K × V)) : OrderedDict K V :=
  ps.foldl (fun d p => d.insert p.1 p.2) empty

theorem lookup_setEntry (k : K) (v : V) (k' : K) : ∀ es : List (K × V),
    (setEntry k v es).lookup k' = if k' = k then some v else es.lookup k' := by
  intro es
  induction es with
  | nil =>
    by_cases h : k' = k
    · subst h; simp [setEntry]
    · have hb : (k' == k) = false := by simpa using h
      simp [setEntry, List.lookup_cons, hb, h]
  | cons e es ih =>
    unfold setEntry
    by_cases he : e.1 = k
    · rw [if_pos he]
      by_cases h : k' = k
      · subst h; simp
      · have hb : (k' == k) = false := by simpa using h
        have hb' : (k' == e.1) = false := by rw [he]; exact hb
        obtain ⟨a, b⟩ := e
        simp only at hb'
        simp [List.lookup_cons, hb, hb', h]
    · rw [if_neg he]
      obtain ⟨a, b⟩ := e
      by_cases h : k' = a
      · -- the entry looked up is not the one that is set
        have hk : k' ≠ k := fun hk => he (h ▸ hk)
        subst h; simp [hk]
      · have hb : (k' == a) = false := by simpa using h
        simp [List.lookup_cons, hb, ih]

/-- **Lookup after an assignment.** -/
theorem get?_insert (d : OrderedDict K V) (k : K) (v : V) (k' : K) :
    (d.insert k v).get? k' = if k' = k then some v else d.get? k' :=
  lookup_setEntry k v k' d.entries

@[simp] theorem get?_insert_self (d : OrderedDict K V) (k : K) (v : V) :
    (d.insert k v).get? k = some v := by rw [get?_insert, if_pos rfl]

@[simp] theorem get?_empty (k : K) : (empty : OrderedDict K V).get? k = none := rfl

theorem lookup_of_mem {k : K} {v : V} {es : List (K × V)} (hnd : (es.map Prod.fst).Nodup)
    (hm : (k, v) ∈ es) : es.lookup k = some v := by
  obtain ⟨l, r, rfl⟩ := List.append_of_mem hm
  rw [List.lookup_eq_some_iff]
  refine ⟨l, r, rfl, ?_⟩
  intro p hp
  rw [List.map_append, List.map_cons, List.nodup_append] at hnd
  have hne := hnd.2.2 p.1 (List.mem_map_of_mem hp) k (by simp)
  simpa using fun h => hne h.symm

theorem mem_of_lookup {k : K} {v : V} {es : List (K × V)} (h : es.lookup k = some v) :
    (k, v) ∈ es := by
  obtain ⟨l, r, rfl, -⟩ := List.lookup_eq_some_iff.1 h
  simp

theorem not_mem_keys_of_lookup {k : K} {es : List (K × V)} (h : es.lookup k = none) :
    k ∉ es.map Prod.fst := by
  induction es with
  | nil => simp
  | cons e es ih =>
    obtain ⟨k', v⟩ := e
    rw [List.lookup_cons] at h
    split at h
    · simp at h
    next hk =>
      have hne : k ≠ k' := by simpa using hk
      simpa [hne] using ih h

/-- **The entries are exactly the lookups.** -/
theorem mem_entries_iff (d : OrderedDict K V) (k : K) (v : V) :
    (k, v) ∈ d.entries ↔ d.get? k = some v :=
  ⟨lookup_of_mem d.nodup, mem_of_lookup⟩

theorem mem_values_iff (d : OrderedDict K V) (v : V) : v ∈ d.values ↔ ∃ k, d.get? k = some v := by
  unfold values
  rw [List.mem_map]
  constructor
  · rintro ⟨⟨k, w⟩, hm, rfl⟩; exact ⟨k, (d.mem_entries_iff k w).1 hm⟩
  · rintro ⟨k, hk⟩; exact ⟨(k, v), (d.mem_entries_iff k v).2 hk, rfl⟩

theorem mem_keys_iff (d : OrderedDict K V) (k : K) : k ∈ d.keys ↔ (d.get? k).isSome = true := by
  unfold keys
  rw [List.mem_map, Option.isSome_iff_exists]
  constructor
  · rintro ⟨⟨k, v⟩, hm, rfl⟩; exact ⟨v, (d.mem_entries_iff k v).1 hm⟩
  · rintro ⟨v, hv⟩; exact ⟨(k, v), (d.mem_entries_iff k v).2 hv, rfl⟩

/-- The values are what is found under the keys. -/
theorem map_get?_keys (d : OrderedDict K V) : d.keys.map d.get? = d.values.map some := by
  unfold keys values
  rw [List.map_map, List.map_map]
  apply List.map_congr_left
  rintro ⟨k, v⟩ hm
  exact (d.mem_entries_iff k v).1 hm

theorem get?_foldl_insert (k : K) : ∀ (ps : List (K × V)) (d : OrderedDict K V),
    (ps.foldl (fun d p => d.insert p.1 p.2) d).get? k =
      ((ps.reverse.lookup k).or (d.get? k)) := by
  intro ps
  induction ps with
  | nil => intro d; simp
  | cons p ps ih =>
    intro d
    rw [List.foldl_cons, ih, get?_insert, List.reverse_cons, List.lookup_append]
    cases h : ps.reverse.lookup k with
    | some w => simp
    | none =>
      obtain ⟨a, b⟩ := p
      by_cases hk : k = a
      · subst hk; simp
      · have hb : (k == a) = false := by simpa using hk
        simp [List.lookup_cons, hb, hk]

/-- **A dictionary built from pairs answers with the last pair of the key.** -/
theorem get?_ofPairs (ps : List (K × V)) (k : K) : (ofPairs ps).get? k = ps.reverse.lookup k := by
  unfold ofPairs
  rw [get?_foldl_insert]
  simp

/-- A dictionary built from pairs has no entries but these. -/
theorem mem_of_mem_ofPairs {ps : List (K × V)} {p : K × V} (h : p ∈ (ofPairs ps).entries) :
    p ∈ ps := by
  have hlookup := ((ofPairs ps).mem_entries_iff p.1 p.2).1 h
  rw [get?_ofPairs] at hlookup
  exact List.mem_reverse.1 (mem_of_lookup hlookup)

theorem entries_foldl_insert : ∀ (ps : List (K × V)) (d : OrderedDict K V),
    ((d.entries ++ ps).map Prod.fst).Nodup →
      (ps.foldl (fun d p => d.insert p.1 p.2) d).entries = d.entries ++ ps := by
  intro ps
  induction ps with
  | nil => intro d _; simp
  | cons p ps ih =>
    intro d hnd
    have hnew : p.1 ∉ d.entries.map Prod.fst := by
      intro hmem
      rw [List.map_append, List.nodup_append] at hnd
      exact hnd.2.2 p.1 hmem p.1 (by simp) rfl
    have hinsert : (d.insert p.1 p.2).entries = d.entries ++ [p] := by
      have happend := setEntry_append (v := p.2) [] hnew
      rwa [List.append_nil] at happend
    rw [List.foldl_cons, ih _ (by rw [hinsert, List.append_assoc]; exact hnd), hinsert,
      List.append_assoc, List.singleton_append]

/-- A dictionary built from pairs of distinct keys has them as its entries. -/
theorem entries_ofPairs {ps : List (K × V)} (hnd : (ps.map Prod.fst).Nodup) :
    (ofPairs ps).entries = ps :=
  entries_foldl_insert ps empty hnd

theorem get?_erase (d : OrderedDict K V) (k k' : K) :
    (d.erase k).get? k' = if k' = k then none else d.get? k' := by
  apply Option.ext
  intro v
  rw [← mem_entries_iff]
  by_cases h : k' = k
  · subst h; simp [erase]
  · rw [if_neg h, ← mem_entries_iff]; simp [erase, h]

theorem size_erase {d : OrderedDict K V} {k : K} (h : k ∈ d.keys) :
    (d.erase k).size + 1 = d.size := by
  have hkeys : (d.erase k).entries.map Prod.fst = d.keys.erase k := by
    have hnodup : d.keys.Nodup := d.nodup
    change (d.entries.filter (fun e => e.1 ≠ k)).map Prod.fst = _
    rw [hnodup.erase_eq_filter]
    unfold keys
    rw [List.filter_map]
    congr 1
    refine List.filter_congr ?_
    intro e _
    by_cases he : e.1 = k <;> simp [he]
  have hlength := congrArg List.length hkeys
  rw [List.length_map, List.length_erase_of_mem h] at hlength
  have hpos := List.length_pos_of_mem h
  unfold size
  unfold keys at hlength hpos
  rw [List.length_map] at hlength hpos
  omega

/-- `del d[k]` for each of some keys. -/
def eraseAll (d : OrderedDict K V) (ks : List K) : OrderedDict K V := ks.foldl erase d

theorem entries_eraseAll : ∀ (ks : List K) (d : OrderedDict K V),
    (d.eraseAll ks).entries = d.entries.filter (fun e => decide (e.1 ∉ ks)) := by
  intro ks
  induction ks with
  | nil => intro d; simp [eraseAll]
  | cons k ks ih =>
    intro d
    change ((d.erase k).eraseAll ks).entries = _
    rw [ih]
    change (d.entries.filter (fun e => decide (e.1 ≠ k))).filter _ = _
    rw [List.filter_filter]
    refine List.filter_congr ?_
    intro e _
    simp [not_or, Bool.and_comm]

theorem erase_of_not_contains {d : OrderedDict K V} {k : K} (h : d.contains k = false) :
    d.erase k = d := by
  have hk : k ∉ d.entries.map Prod.fst :=
    not_mem_keys_of_lookup (by simpa [contains, get?] using h)
  apply ext
  unfold erase
  rw [List.filter_eq_self]
  intro e he
  simpa using fun heq : e.1 = k => hk (heq ▸ List.mem_map_of_mem he)

/-- A sum over the values after an assignment: the old value of the key is replaced. -/
theorem sum_setEntry {M : Type} [AddCommMonoid M] (f : V → M) (k : K) (v : V) :
    ∀ es : List (K × V),
      ((setEntry k v es).map (fun e => f e.2)).sum + ((es.lookup k).map f).getD 0 =
        (es.map (fun e => f e.2)).sum + f v := by
  intro es
  induction es with
  | nil => simp [setEntry]
  | cons e es ih =>
    obtain ⟨a, b⟩ := e
    rw [setEntry]
    by_cases h : a = k
    · subst h
      simp only [if_true, List.map_cons, List.sum_cons, List.lookup_cons, beq_self_eq_true,
        Option.map_some, Option.getD_some]
      rw [add_assoc, add_comm, add_comm (f b)]
    · have hb : (k == a) = false := by simpa using fun hk => h hk.symm
      rw [if_neg h, List.lookup_cons, hb]
      simp only [List.map_cons, List.sum_cons]
      rw [add_assoc, ih, add_assoc]

/-- **A sum over the values after an assignment.** -/
theorem sum_insert {M : Type} [AddCommMonoid M] (f : V → M) (d : OrderedDict K V) (k : K) (v : V) :
    ((d.insert k v).entries.map (fun e => f e.2)).sum + ((d.get? k).map f).getD 0 =
      (d.entries.map (fun e => f e.2)).sum + f v :=
  sum_setEntry f k v d.entries

/-! ## Indexing rows by a key -/

section Index

variable {R : Type} (key : R → K)

/-- `{key(row): row for row in rows}`. -/
def indexBy (rows : List R) : OrderedDict K R := ofPairs (rows.map fun row => (key row, row))

/-- The row is in the list, and no row after it has its key. -/
def LastOf (rows : List R) (row : R) : Prop :=
  ∃ before after, rows = before ++ row :: after ∧ ∀ later ∈ after, key later ≠ key row

theorem indexBy_append_singleton (rows : List R) (row : R) :
    indexBy key (rows ++ [row]) = (indexBy key rows).insert (key row) row := by
  simp [indexBy, ofPairs]

omit [DecidableEq K] in
variable {key} in
theorem lastOf_append_singleton {rows : List R} {row e : R} :
    LastOf key (rows ++ [row]) e ↔ e = row ∨ (LastOf key rows e ∧ key row ≠ key e) := by
  constructor
  · rintro ⟨before, after, heq, hlater⟩
    rcases List.eq_nil_or_concat after with rfl | ⟨init, last, rfl⟩
    · exact .inl (List.append_inj_right' heq rfl |> List.cons.inj |>.1).symm
    · rw [List.concat_eq_append, ← List.cons_append, ← List.append_assoc] at heq
      obtain ⟨hrows, hlast⟩ := List.append_inj' heq rfl
      obtain rfl : row = last := (List.cons.inj hlast).1
      simp only [List.concat_eq_append, List.forall_mem_append, List.forall_mem_singleton] at hlater
      exact .inr ⟨⟨before, init, hrows, hlater.1⟩, hlater.2⟩
  · rintro (rfl | ⟨⟨before, after, rfl, hlater⟩, hne⟩)
    · exact ⟨rows, [], rfl, fun _ h => absurd h List.not_mem_nil⟩
    · refine ⟨before, after ++ [row], by simp, ?_⟩
      intro later hm
      rcases List.mem_append.1 hm with h | h
      · exact hlater later h
      · rwa [List.mem_singleton.1 h]

omit [DecidableEq K] in
variable {key} in
theorem LastOf.mem {rows : List R} {e : R} (h : LastOf key rows e) : e ∈ rows := by
  obtain ⟨before, after, rfl, -⟩ := h
  exact List.mem_append_right _ List.mem_cons_self

omit [DecidableEq K] in
variable {key} in
theorem lastOf_cons {rows : List R} {row e : R} :
    LastOf key (row :: rows) e ↔
      (e = row ∧ ∀ later ∈ rows, key later ≠ key row) ∨ LastOf key rows e := by
  constructor
  · rintro ⟨before, after, heq, hlater⟩
    cases before with
    | nil =>
      obtain ⟨rfl, rfl⟩ := List.cons.inj heq
      exact .inl ⟨rfl, hlater⟩
    | cons b before => exact .inr ⟨before, after, (List.cons.inj heq).2, hlater⟩
  · rintro (⟨rfl, hlater⟩ | ⟨before, after, rfl, hlater⟩)
    · exact ⟨[], rows, rfl, hlater⟩
    · exact ⟨row :: before, after, rfl, hlater⟩

omit [DecidableEq K] in
variable {key} in
/-- **The rows with a property are all last of their keys when none is followed by another row of
its key.** -/
theorem forall_lastOf_iff {rows : List R} (hnd : rows.Nodup) (p : R → Prop) :
    (∀ e ∈ rows, p e → LastOf key rows e) ↔
      rows.Pairwise (fun e later => p e → key later ≠ key e) := by
  induction rows with
  | nil => exact iff_of_true (fun e he => absurd he List.not_mem_nil) List.Pairwise.nil
  | cons row rows ih =>
    obtain ⟨hnew, hrows⟩ := List.nodup_cons.1 hnd
    rw [List.pairwise_cons, ← ih hrows, List.forall_mem_cons]
    constructor
    · rintro ⟨hrow, hrest⟩
      constructor
      · intro later hlater hp
        rcases lastOf_cons.1 (hrow hp) with ⟨-, h⟩ | h
        · exact h later hlater
        · exact absurd h.mem hnew
      · intro e he hp
        rcases lastOf_cons.1 (hrest e he hp) with ⟨rfl, -⟩ | h
        · exact absurd he hnew
        · exact h
    · rintro ⟨hrow, hrest⟩
      constructor
      · exact fun hp => lastOf_cons.2 (.inl ⟨rfl, fun later hlater => hrow later hlater hp⟩)
      · exact fun e he hp => lastOf_cons.2 (.inr (hrest e he hp))

/-- **An index answers with the last row of the key.** -/
theorem get?_indexBy (rows : List R) (k : K) (e : R) :
    (indexBy key rows).get? k = some e ↔ key e = k ∧ LastOf key rows e := by
  induction rows using List.reverseRecOn with
  | nil =>
    refine iff_of_false (fun h => ?_) ?_
    · cases h
    · rintro ⟨-, before, after, h, -⟩
      simp at h
  | append_singleton rows row ih =>
    rw [indexBy_append_singleton, get?_insert, lastOf_append_singleton]
    by_cases hk : k = key row
    · rw [if_pos hk, Option.some.injEq]
      constructor
      · rintro rfl
        exact ⟨hk.symm, .inl rfl⟩
      · rintro ⟨he, rfl | ⟨-, hne⟩⟩
        · rfl
        · exact absurd (hk.symm.trans he.symm) hne
    · rw [if_neg hk, ih]
      refine and_congr_right fun he => ⟨fun h => .inr ⟨h, fun heq => hk (he.symm.trans heq.symm)⟩, ?_⟩
      rintro (rfl | ⟨h, -⟩)
      · exact absurd he.symm hk
      · exact h

/-- **The rows of an index are the last of their keys.** -/
theorem mem_values_indexBy {rows : List R} {e : R} :
    e ∈ (indexBy key rows).values ↔ LastOf key rows e := by
  rw [mem_values_iff]
  constructor
  · rintro ⟨k, hk⟩
    exact ((get?_indexBy key rows k e).1 hk).2
  · exact fun h => ⟨key e, (get?_indexBy key rows (key e) e).2 ⟨rfl, h⟩⟩

theorem values_map_key (rows : List R) :
    (indexBy key rows).values.map key = (indexBy key rows).keys := by
  unfold values keys
  rw [List.map_map]
  apply List.map_congr_left
  rintro ⟨k, e⟩ hm
  exact ((get?_indexBy key rows k e).1 ((mem_entries_iff _ k e).1 hm)).1

theorem pairwise_keys_indexBy (rows : List R) :
    (indexBy key rows).keys.Pairwise
      (fun a b => (rows.map key).idxOf a < (rows.map key).idxOf b) ∧
    ∀ k ∈ (indexBy key rows).keys, k ∈ rows.map key := by
  induction rows using List.reverseRecOn with
  | nil => exact ⟨List.Pairwise.nil, fun k hk => hk⟩
  | append_singleton rows row ih =>
    obtain ⟨hpair, hsub⟩ := ih
    have hkeys : (indexBy key (rows ++ [row])).keys =
        if key row ∈ (indexBy key rows).keys then (indexBy key rows).keys
        else (indexBy key rows).keys ++ [key row] := by
      rw [indexBy_append_singleton]
      exact setEntry_keys _ _ _
    have hold : (indexBy key rows).keys.Pairwise
        (fun a b => (rows.map key ++ [key row]).idxOf a < (rows.map key ++ [key row]).idxOf b) := by
      refine hpair.imp_of_mem fun {a b} ha hb hab => ?_
      rwa [List.idxOf_append_of_mem (hsub a ha), List.idxOf_append_of_mem (hsub b hb)]
    rw [hkeys, List.map_append, List.map_singleton]
    split
    · exact ⟨hold, fun k hk => List.mem_append_left _ (hsub k hk)⟩
    · next hnew =>
      -- a new key is inserted behind all the others
      have hfresh : key row ∉ rows.map key := by
        intro hm
        obtain ⟨e, he, hek⟩ := List.mem_map.1 hm
        apply hnew
        rw [mem_keys_iff, indexBy, get?_ofPairs, Option.isSome_iff_ne_none]
        intro hnone
        rw [List.lookup_eq_none_iff] at hnone
        have := hnone (key e, e) (List.mem_reverse.2 (List.mem_map_of_mem he))
        rw [hek] at this
        simp at this
      constructor
      · rw [List.pairwise_append]
        refine ⟨hold, List.pairwise_singleton _ _, fun a ha b hb => ?_⟩
        rw [List.mem_singleton.1 hb, List.idxOf_append_of_mem (hsub a ha),
          List.idxOf_append_of_notMem hfresh]
        have := List.idxOf_lt_length_of_mem (hsub a ha)
        omega
      · intro k hk
        rcases List.mem_append.1 hk with h | h
        · exact List.mem_append_left _ (hsub k h)
        · exact List.mem_append_right _ h

/-- **The rows of an index come in the order in which their keys came first.** -/
theorem pairwise_values_indexBy (rows : List R) :
    (indexBy key rows).values.Pairwise
      (fun a b => (rows.map key).idxOf (key a) < (rows.map key).idxOf (key b)) := by
  have h := (pairwise_keys_indexBy key rows).1
  rw [← values_map_key, List.pairwise_map] at h
  exact h

/-- Rows of distinct keys are the rows of their index. -/
theorem values_indexBy_of_nodup {rows : List R} (h : (rows.map key).Nodup) :
    (indexBy key rows).values = rows := by
  have hnd : ((rows.map fun row => (key row, row)).map Prod.fst).Nodup := by
    rwa [List.map_map]
  unfold indexBy values
  rw [entries_ofPairs hnd, List.map_map]
  exact List.map_id' rows

end Index

end OrderedDict
