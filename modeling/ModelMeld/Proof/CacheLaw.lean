import ModelMeld.Lib.Recency
import ModelMeld.Lib.Runs
import ModelMeld.Spec.Cache
import Mathlib.Algebra.Order.Field.Rat

/-!
# The in-memory cache as a map

`InMemoryCompletionCache` over a whole sequence of calls. What the store holds is
tied to the calls by two ghosts: the last effective `set` of each key, and the
keys in the order in which they were set or hit.

* `Remembers`: the invariant, `remembers_run`: every run keeps it;
* `cache_map_law`: hits, misses, size, and what a lookup leaves alone;
* `evicts_expired_iff`: when no live entry is evicted before an expired one.
-/

namespace ModelMeld

/-! ## Calls -/

inductive CacheOp (K V : Type) where
  | get (key : K)
  | set (key : K) (value : V) (ttlSeconds : ℤ)

/-- A call, at a reading of the clock. -/
structure CacheCall (K V : Type) where
  op : CacheOp K V
  now : ℚ

variable {K V : Type} [DecidableEq K]

/-- The cache after a call. -/
def InMemoryCompletionCache.act (c : InMemoryCompletionCache K V) (call : CacheCall K V) :
    InMemoryCompletionCache K V :=
  match call.op with
  | .get key => (c.get key call.now).2
  | .set key value ttlSeconds => c.set key value ttlSeconds call.now

/-- The key a call sets or hits. -/
def InMemoryCompletionCache.touches (c : InMemoryCompletionCache K V) (call : CacheCall K V) :
    List K :=
  match call.op with
  | .get key => if (c.get key call.now).1.isSome then [key] else []
  | .set key _ ttlSeconds => if ttlSeconds ≤ 0 then [] else [key]

/-- A cache, and the keys that were set or hit, the last one first. -/
structure CacheRun (K V : Type) where
  cache : InMemoryCompletionCache K V
  touched : List K := []

def CacheRun.act (r : CacheRun K V) (call : CacheCall K V) : CacheRun K V where
  cache := r.cache.act call
  touched := r.cache.touches call ++ r.touched

/-- A new cache. -/
def newCache (maxEntries : ℕ) : CacheRun K V := { cache := ⟨maxEntries, .empty⟩ }

/-- The value and the expiry a `set` leaves, unless its time to live is not positive. -/
def CacheCall.assign (m : K → Option (V × ℚ)) (call : CacheCall K V) : K → Option (V × ℚ) :=
  match call.op with
  | .get _ => m
  | .set key value ttlSeconds =>
    if ttlSeconds ≤ 0 then m else Function.update m key (some (value, call.now + ttlSeconds))

/-- The last `set` of each key whose time to live was positive. -/
def lastSet (calls : List (CacheCall K V)) : K → Option (V × ℚ) :=
  calls.foldl CacheCall.assign (fun _ => none)

/-- How many other keys were set or hit since a key was. -/
def CacheRun.othersSince (r : CacheRun K V) (key : K) : ℕ :=
  (Recency.since r.touched key).toFinset.card

theorem lastSet_append (calls : List (CacheCall K V)) (call : CacheCall K V) :
    lastSet (calls ++ [call]) = call.assign (lastSet calls) := by
  unfold lastSet
  rw [List.foldl_append]
  rfl

theorem cacheRun_append (r : CacheRun K V) (calls : List (CacheCall K V)) (call : CacheCall K V) :
    Runs.run CacheRun.act r (calls ++ [call]) = (Runs.run CacheRun.act r calls).act call := by
  rw [Runs.run_append]
  rfl

/-! ## Moving and evicting -/

namespace InMemoryCompletionCache

variable {d : OrderedDict K (V × ℚ)} {key : K} {entry : V × ℚ}

/-- An entry at the end of the store. -/
def moved (d : OrderedDict K (V × ℚ)) (key : K) (entry : V × ℚ) : OrderedDict K (V × ℚ) :=
  (d.erase key).insert key entry

theorem moved_keys (d : OrderedDict K (V × ℚ)) (key : K) (entry : V × ℚ) :
    (moved d key entry).keys = d.keys.filter (fun k => k ≠ key) ++ [key] := by
  have herase : (d.erase key).entries.map Prod.fst = d.keys.filter (fun k => k ≠ key) := by
    change (d.entries.filter (fun e => e.1 ≠ key)).map Prod.fst = _
    unfold OrderedDict.keys
    rw [List.filter_map]
    rfl
  change (OrderedDict.setEntry key entry (d.erase key).entries).map Prod.fst = _
  rw [OrderedDict.setEntry_keys, herase, if_neg]
  intro h
  simpa using (List.mem_filter.1 h).2

/-- A key that is there is moved, not added. -/
theorem moved_size_of_contains (h : d.contains key = true) :
    (moved d key entry).size ≤ d.size := by
  have hlen := congrArg List.length (moved_keys d key entry)
  have hmem : key ∈ d.keys := (OrderedDict.mem_keys_iff d key).2 h
  have hless := (List.length_filter_lt_length_iff_exists
    (p := fun k => decide (k ≠ key))).2 ⟨key, hmem, by simp⟩
  rw [List.length_append, List.length_singleton] at hlen
  unfold OrderedDict.size
  unfold OrderedDict.keys at hlen hless
  rw [List.length_map] at hlen hless
  omega

theorem get?_moved (k : K) :
    (moved d key entry).get? k = if k = key then some entry else d.get? k := by
  unfold moved
  rw [OrderedDict.get?_insert, OrderedDict.get?_erase]
  by_cases h : k = key
  · rw [if_pos h, if_pos h]
  · rw [if_neg h, if_neg h, if_neg h]

omit [DecidableEq K] in
theorem evict_keys (n : ℕ) : (evict n d).keys = d.keys.drop (d.keys.length - n) := by
  unfold OrderedDict.keys
  rw [List.length_map]
  change (d.entries.drop (d.size - n)).map Prod.fst = _
  rw [List.map_drop]
  rfl

omit [DecidableEq K] in
theorem evict_size (n : ℕ) : (evict n d).size ≤ n := by
  change (d.entries.drop (d.entries.length - n)).length ≤ n
  rw [List.length_drop]
  omega

/-- What is left was there. -/
theorem get?_of_evict {n : ℕ} {k : K} {e : V × ℚ} (h : (evict n d).get? k = some e) :
    d.get? k = some e := by
  rw [← OrderedDict.mem_entries_iff] at h ⊢
  exact List.mem_of_mem_drop h

/-- What was there is left, when its key is. -/
theorem get?_evict {n : ℕ} {k : K} {e : V × ℚ} (h : d.get? k = some e)
    (hk : k ∈ d.keys.drop (d.keys.length - n)) : (evict n d).get? k = some e := by
  rw [← evict_keys, OrderedDict.mem_keys_iff] at hk
  obtain ⟨e', he'⟩ := Option.isSome_iff_exists.1 hk
  have heq := get?_of_evict he'
  rw [h] at heq
  rw [he', heq]

end InMemoryCompletionCache

/-! ## The invariant -/

open InMemoryCompletionCache

/-- What a run has of its calls: each stored value is the last one set, keys stand in the order of
their last touch, and a live key is stored when fewer than `maxEntries` others were touched since. -/
structure Remembers (maxEntries : ℕ) (calls : List (CacheCall K V)) (r : CacheRun K V) : Prop where
  bound : r.cache.maxEntries = maxEntries
  size : r.cache.store.size ≤ maxEntries
  values : ∀ k e, r.cache.store.get? k = some e → lastSet calls k = some e
  order : Recency.Ordered r.touched r.cache.store.keys
  kept : ∀ k e now, lastSet calls k = some e → (∀ call ∈ calls, call.now ≤ now) → now < e.2 →
    r.othersSince k < maxEntries → r.cache.store.get? k = some e

theorem othersSince_le {r r' : CacheRun K V} {key k : K} (htouched : r'.touched = key :: r.touched)
    (hk : k ≠ key) : r.othersSince k ≤ r'.othersSince k := by
  unfold CacheRun.othersSince
  rw [htouched, Recency.since_cons_of_ne (fun h => hk h.symm)]
  apply Finset.card_le_card
  intro a ha
  exact List.mem_toFinset.2 (List.mem_cons_of_mem _ (List.mem_toFinset.1 ha))

variable {maxEntries : ℕ} {calls : List (CacheCall K V)} {r : CacheRun K V}

/-- A call that sets nothing and changes nothing. -/
theorem Remembers.idle (h : Remembers maxEntries calls r) {call : CacheCall K V}
    (hlast : lastSet (calls ++ [call]) = lastSet calls) (hact : r.act call = r) :
    Remembers maxEntries (calls ++ [call]) (r.act call) := by
  rw [hact]
  refine ⟨h.bound, h.size, ?_, h.order, ?_⟩
  · rw [hlast]
    exact h.values
  · rw [hlast]
    intro k e now hk hall
    rw [List.forall_mem_append] at hall
    exact h.kept k e now hk hall.1

/-- A lookup that finds an expired entry erases it. -/
theorem Remembers.expired (h : Remembers maxEntries calls r) {key : K} {t : ℚ} {entry : V × ℚ}
    (hg : r.cache.store.get? key = some entry) (hexpired : entry.2 ≤ t) :
    Remembers maxEntries (calls ++ [⟨.get key, t⟩]) (r.act ⟨.get key, t⟩) := by
  have hlast : lastSet (calls ++ [(⟨.get key, t⟩ : CacheCall K V)]) = lastSet calls :=
    lastSet_append calls _
  have hact : r.act ⟨.get key, t⟩ =
      { r with cache := { r.cache with store := r.cache.store.erase key } } := by
    simp [CacheRun.act, InMemoryCompletionCache.act, InMemoryCompletionCache.touches,
      InMemoryCompletionCache.get, hg, hexpired]
  have hkeys : (r.cache.store.erase key).keys.Sublist r.cache.store.keys :=
    List.filter_sublist.map _
  rw [hact]
  refine ⟨h.bound, ?_, ?_, h.order.sublist hkeys, ?_⟩
  · exact le_trans (List.length_filter_le _ _) h.size
  · rw [hlast]
    intro k e hk
    simp only [OrderedDict.get?_erase] at hk
    split at hk
    · cases hk
    · exact h.values k e hk
  · rw [hlast]
    intro k e now hk hall hlive hfew
    rw [List.forall_mem_append, List.forall_mem_singleton] at hall
    have hstored := h.kept k e now hk hall.1 hlive hfew
    simp only [OrderedDict.get?_erase]
    split
    · -- it has expired since
      rename_i heq
      rw [heq, hg, Option.some.injEq] at hstored
      rw [← hstored] at hlive
      exact absurd (lt_of_lt_of_le hlive (le_trans hexpired hall.2)) (lt_irrefl _)
    · exact hstored

/-- A lookup that finds a live entry moves it to the end. -/
theorem Remembers.hit (h : Remembers maxEntries calls r) {key : K} {t : ℚ} {entry : V × ℚ}
    (hg : r.cache.store.get? key = some entry) (hlive : ¬ entry.2 ≤ t) :
    Remembers maxEntries (calls ++ [⟨.get key, t⟩]) (r.act ⟨.get key, t⟩) := by
  have hlast : lastSet (calls ++ [(⟨.get key, t⟩ : CacheCall K V)]) = lastSet calls :=
    lastSet_append calls _
  have hact : r.act ⟨.get key, t⟩ =
      { cache := { r.cache with store := moved r.cache.store key entry }
        touched := key :: r.touched } := by
    simp [CacheRun.act, InMemoryCompletionCache.act, InMemoryCompletionCache.touches,
      InMemoryCompletionCache.get, hg, hlive, moved]
  have hthere : r.cache.store.contains key = true := by
    rw [OrderedDict.contains, hg]
    rfl
  have hsame : (moved r.cache.store key entry).get? = r.cache.store.get? := by
    funext k
    rw [get?_moved]
    split
    · rename_i heq
      rw [heq, hg]
    · rfl
  rw [hact]
  refine ⟨h.bound, ?_, ?_, ?_, ?_⟩
  · exact le_trans (moved_size_of_contains hthere) h.size
  · rw [hlast]
    intro k e hk
    simp only [hsame] at hk
    exact h.values k e hk
  · simp only [moved_keys]
    exact h.order.touch key
  · rw [hlast]
    intro k e now hk hall hlive hfew
    rw [List.forall_mem_append] at hall
    simp only [hsame]
    by_cases heq : k = key
    · rw [heq, hg]
      rw [heq] at hk
      rw [← hk, h.values key _ hg]
    · exact h.kept k e now hk hall.1 hlive (lt_of_le_of_lt (othersSince_le rfl heq) hfew)

theorem Remembers.get (h : Remembers maxEntries calls r) (key : K) (t : ℚ) :
    Remembers maxEntries (calls ++ [⟨.get key, t⟩]) (r.act ⟨.get key, t⟩) := by
  cases hg : r.cache.store.get? key with
  | none =>
    apply h.idle (lastSet_append calls _)
    simp [CacheRun.act, InMemoryCompletionCache.act, InMemoryCompletionCache.touches,
      InMemoryCompletionCache.get, hg]
  | some entry =>
    by_cases hexpired : entry.2 ≤ t
    · exact h.expired hg hexpired
    · exact h.hit hg hexpired

/-- A `set` puts the key at the end and drops what is too much at the front. -/
theorem Remembers.stored (h : Remembers maxEntries calls r) (key : K) (value : V)
    {ttlSeconds : ℤ} (httl : ¬ ttlSeconds ≤ 0) (t : ℚ) :
    Remembers maxEntries (calls ++ [⟨.set key value ttlSeconds, t⟩])
      (r.act ⟨.set key value ttlSeconds, t⟩) := by
  have hlast : lastSet (calls ++ [(⟨.set key value ttlSeconds, t⟩ : CacheCall K V)]) =
      Function.update (lastSet calls) key (some (value, t + ttlSeconds)) := by
    rw [lastSet_append]
    exact if_neg httl
  have hact : r.act ⟨.set key value ttlSeconds, t⟩ =
      { cache := ⟨r.cache.maxEntries,
          evict r.cache.maxEntries (moved r.cache.store key (value, t + ttlSeconds))⟩
        touched := key :: r.touched } := by
    simp [CacheRun.act, InMemoryCompletionCache.act, InMemoryCompletionCache.touches,
      InMemoryCompletionCache.set, httl, moved]
  rw [hact, h.bound]
  have horder : Recency.Ordered (key :: r.touched)
      (moved r.cache.store key (value, t + ttlSeconds)).keys := by
    rw [moved_keys]
    exact h.order.touch key
  refine ⟨rfl, evict_size _, ?_, ?_, ?_⟩
  · rw [hlast]
    intro k e hk
    have hstored := get?_of_evict hk
    rw [get?_moved] at hstored
    rw [Function.update_apply]
    split at hstored
    · rename_i heq
      rw [if_pos heq]
      exact hstored
    · rename_i hne
      rw [if_neg hne]
      exact h.values k e hstored
  · simp only [evict_keys]
    exact horder.sublist (List.drop_sublist _ _)
  · rw [hlast]
    intro k e now hk hall hlive hfew
    rw [List.forall_mem_append] at hall
    rw [Function.update_apply] at hk
    have hstored : (moved r.cache.store key (value, t + ttlSeconds)).get? k = some e := by
      rw [get?_moved]
      split at hk
      · rename_i heq
        rw [if_pos heq]
        exact hk
      · rename_i hne
        rw [if_neg hne]
        exact h.kept k e now hk hall.1 hlive (lt_of_le_of_lt (othersSince_le rfl hne) hfew)
    -- fewer than `maxEntries` keys stand after it
    apply get?_evict hstored
    apply horder.mem_drop _ hfew
    rw [OrderedDict.mem_keys_iff, hstored]
    rfl

theorem Remembers.set (h : Remembers maxEntries calls r) (key : K) (value : V)
    (ttlSeconds : ℤ) (t : ℚ) :
    Remembers maxEntries (calls ++ [⟨.set key value ttlSeconds, t⟩])
      (r.act ⟨.set key value ttlSeconds, t⟩) := by
  by_cases httl : ttlSeconds ≤ 0
  · apply h.idle
    · rw [lastSet_append]
      exact if_pos httl
    · simp [CacheRun.act, InMemoryCompletionCache.act, InMemoryCompletionCache.touches,
        InMemoryCompletionCache.set, httl]
  · exact h.stored key value httl t

/-- **Every run keeps the invariant**, whatever the clock does. -/
theorem remembers_run (maxEntries : ℕ) (calls : List (CacheCall K V)) :
    Remembers maxEntries calls (Runs.run CacheRun.act (newCache maxEntries) calls) := by
  induction calls using List.reverseRecOn with
  | nil =>
    refine ⟨rfl, Nat.zero_le _, ?_, Recency.ordered_nil, ?_⟩
    · intro k e hk
      cases hk
    · intro k e now hk
      cases hk
  | append_singleton calls call ih =>
    rw [cacheRun_append]
    obtain ⟨op, t⟩ := call
    cases op with
    | get key => exact ih.get key t
    | set key value ttlSeconds => exact ih.set key value ttlSeconds t

/-! ## The law -/

theorem get_eq_some_iff {c : InMemoryCompletionCache K V} {key : K} {now : ℚ} {value : V} :
    (c.get key now).1 = some value ↔
      ∃ expiresAt, c.store.get? key = some (value, expiresAt) ∧ now < expiresAt := by
  unfold InMemoryCompletionCache.get
  cases hg : c.store.get? key with
  | none => simp
  | some entry =>
    obtain ⟨v, expiresAt⟩ := entry
    simp only
    by_cases h : expiresAt ≤ now
    · rw [if_pos h]
      simp only [Option.some.injEq, Prod.mk.injEq, reduceCtorEq, false_iff, not_exists, not_and]
      rintro x ⟨-, rfl⟩ hlt
      exact absurd (lt_of_lt_of_le hlt h) (lt_irrefl _)
    · rw [if_neg h]
      simp only [Option.some.injEq, Prod.mk.injEq]
      constructor
      · rintro rfl
        exact ⟨expiresAt, ⟨rfl, rfl⟩, not_le.1 h⟩
      · rintro ⟨x, ⟨rfl, -⟩, -⟩
        rfl

/-- A lookup leaves the entries of other keys alone. -/
theorem get?_after_get {c : InMemoryCompletionCache K V} {key k : K} {now : ℚ} (hk : k ≠ key) :
    (c.get key now).2.store.get? k = c.store.get? k := by
  unfold InMemoryCompletionCache.get
  cases hg : c.store.get? key with
  | none => rfl
  | some entry =>
    obtain ⟨v, expiresAt⟩ := entry
    simp only
    split
    · simp only [OrderedDict.get?_erase, if_neg hk]
    · change (moved c.store key (v, expiresAt)).get? k = _
      rw [get?_moved, if_neg hk]

/-- What a lookup leaves of an entry depends on that entry alone. -/
theorem get?_after_get_congr {c c' : InMemoryCompletionCache K V} {k : K}
    (h : c.store.get? k = c'.store.get? k) (key : K) (now : ℚ) :
    (c.get key now).2.store.get? k = (c'.get key now).2.store.get? k := by
  by_cases hk : k = key
  · subst hk
    unfold InMemoryCompletionCache.get
    rw [← h]
    cases hg : c.store.get? k with
    | none => simp only [hg, ← h]
    | some entry =>
      obtain ⟨v, expiresAt⟩ := entry
      simp only
      split
      · simp only [OrderedDict.get?_erase, if_true]
      · change (moved c.store k (v, expiresAt)).get? k = (moved c'.store k (v, expiresAt)).get? k
        rw [get?_moved, get?_moved, if_pos rfl, if_pos rfl]
  · rw [get?_after_get hk, get?_after_get hk]
    exact h

/-- The cache after lookups. -/
def InMemoryCompletionCache.lookups (c : InMemoryCompletionCache K V) (gets : List (K × ℚ)) :
    InMemoryCompletionCache K V :=
  gets.foldl (fun c get => (c.get get.1 get.2).2) c

theorem get?_lookups_congr {k : K} (gets : List (K × ℚ)) :
    ∀ c c' : InMemoryCompletionCache K V, c.store.get? k = c'.store.get? k →
      (c.lookups gets).store.get? k = (c'.lookups gets).store.get? k := by
  induction gets with
  | nil => exact fun c c' h => h
  | cons get gets ih => exact fun c c' h => ih _ _ (get?_after_get_congr h get.1 get.2)

/-- The map law of a cache after a sequence of calls. -/
structure MapLaw (maxEntries : ℕ) (calls : List (CacheCall K V)) (r : CacheRun K V) : Prop where
  /-- A hit is the value of the last effective `set` of the key, which has not expired. -/
  hit : ∀ key now value, (r.cache.get key now).1 = some value →
    ∃ expiresAt, lastSet calls key = some (value, expiresAt) ∧ now < expiresAt
  /-- There is a hit when that has not expired and few others were set or hit since. -/
  live : ∀ key now value expiresAt, (∀ call ∈ calls, call.now ≤ now) →
    lastSet calls key = some (value, expiresAt) → now < expiresAt →
    r.othersSince key < maxEntries → (r.cache.get key now).1 = some value
  size : r.cache.store.size ≤ maxEntries
  /-- A lookup changes no later lookup of another key, unless something is set in between. -/
  lookup : ∀ key now gets key' now', key' ≠ key →
    (((r.cache.get key now).2.lookups gets).get key' now').1 =
      ((r.cache.lookups gets).get key' now').1

/-- **After any sequence of calls the cache obeys the map law.** -/
theorem cache_map_law (maxEntries : ℕ) (calls : List (CacheCall K V)) :
    MapLaw maxEntries calls (Runs.run CacheRun.act (newCache maxEntries) calls) := by
  have h := remembers_run maxEntries calls
  refine ⟨?_, ?_, h.size, ?_⟩
  · intro key now value hhit
    obtain ⟨expiresAt, hstored, hlive⟩ := get_eq_some_iff.1 hhit
    exact ⟨expiresAt, h.values key _ hstored, hlive⟩
  · intro key now value expiresAt hclock hlast hlive hfew
    exact get_eq_some_iff.2 ⟨expiresAt, h.kept key _ now hlast hclock hlive hfew, hlive⟩
  · intro key now gets key' now' hne
    have hsame := get?_lookups_congr gets ((Runs.run CacheRun.act (newCache maxEntries) calls).cache.get
      key now).2 _ (get?_after_get hne)
    apply Option.ext
    intro value
    rw [get_eq_some_iff, get_eq_some_iff, hsame]

/-! ## Eviction -/

/-- A `set` that drops a live entry leaves no expired one. -/
def EvictsExpiredFirst (c : InMemoryCompletionCache K V) (call : CacheCall K V) : Prop :=
  match call.op with
  | .get _ => True
  | .set key _ _ =>
    ∀ k e, c.store.get? k = some e → k ≠ key → (c.act call).store.get? k = none →
      call.now < e.2 → ∀ k' e', (c.act call).store.get? k' = some e' → call.now < e'.2

/-- The key is there, the store is not full, the entry at the front has expired, or none has. -/
def EvictionHarmless (c : InMemoryCompletionCache K V) (call : CacheCall K V) : Prop :=
  match call.op with
  | .get _ => True
  | .set key _ ttlSeconds =>
    ttlSeconds ≤ 0 ∨ c.store.contains key = true ∨ c.store.size < c.maxEntries ∨
      (∃ front, c.store.entries.head? = some front ∧ front.2.2 ≤ call.now) ∨
      ∀ e ∈ c.store.entries, call.now < e.2.2

/-- At most as many entries as the cache may have, which is one at least. -/
def WithinBound (c : InMemoryCompletionCache K V) : Prop :=
  1 ≤ c.maxEntries ∧ c.store.size ≤ c.maxEntries

namespace InMemoryCompletionCache

variable {d : OrderedDict K (V × ℚ)} {key : K} {entry : V × ℚ}

theorem moved_of_new (h : d.contains key = false) :
    (moved d key entry).entries = d.entries ++ [(key, entry)] := by
  unfold moved
  rw [OrderedDict.erase_of_not_contains h]
  change OrderedDict.setEntry key entry d.entries = _
  have hnew : key ∉ d.entries.map Prod.fst := by
    intro hmem
    rw [OrderedDict.contains, (OrderedDict.mem_keys_iff d key).1 hmem] at h
    cases h
  have happend := OrderedDict.setEntry_append entry [] hnew
  rw [List.append_nil] at happend
  exact happend

omit [DecidableEq K] in
theorem evict_of_le {n : ℕ} (h : d.size ≤ n) : evict n d = d := by
  apply OrderedDict.ext
  change d.entries.drop (d.size - n) = d.entries
  rw [Nat.sub_eq_zero_of_le h, List.drop_zero]

/-- Where everything stays, nothing is evicted. -/
theorem not_evicted {n : ℕ} (h : (moved d key entry).size ≤ n) {k : K} {e : V × ℚ}
    (hk : d.get? k = some e) (hne : k ≠ key) : (evict n (moved d key entry)).get? k ≠ none := by
  rw [evict_of_le h, get?_moved, if_neg hne, hk]
  exact Option.some_ne_none e

theorem act_set_of_le {c : InMemoryCompletionCache K V} {value : V} {ttlSeconds : ℤ} {now : ℚ}
    (httl : ttlSeconds ≤ 0) : c.act ⟨.set key value ttlSeconds, now⟩ = c := by
  simp [InMemoryCompletionCache.act, InMemoryCompletionCache.set, httl]

theorem act_set {c : InMemoryCompletionCache K V} {value : V} {ttlSeconds : ℤ} {now : ℚ}
    (httl : ¬ ttlSeconds ≤ 0) :
    (c.act ⟨.set key value ttlSeconds, now⟩).store =
      evict c.maxEntries (moved c.store key (value, now + ttlSeconds)) := by
  simp [InMemoryCompletionCache.act, InMemoryCompletionCache.set, httl, moved]

theorem within_act {c : InMemoryCompletionCache K V} (h : WithinBound c) (call : CacheCall K V) :
    WithinBound (c.act call) := by
  obtain ⟨op, now⟩ := call
  obtain ⟨hmax, hsize⟩ := h
  cases op with
  | get key =>
    unfold InMemoryCompletionCache.act InMemoryCompletionCache.get
    simp only
    cases hg : c.store.get? key with
    | none => exact ⟨hmax, hsize⟩
    | some e =>
      obtain ⟨value, expiresAt⟩ := e
      simp only
      split
      · exact ⟨hmax, le_trans (List.length_filter_le _ _) hsize⟩
      · have hthere : c.store.contains key = true := by
          rw [OrderedDict.contains, hg]
          rfl
        exact ⟨hmax, le_trans (moved_size_of_contains hthere) hsize⟩
  | set key value ttlSeconds =>
    by_cases httl : ttlSeconds ≤ 0
    · rw [act_set_of_le httl]
      exact ⟨hmax, hsize⟩
    · have hbound : (c.act ⟨.set key value ttlSeconds, now⟩).maxEntries = c.maxEntries := by
        simp [InMemoryCompletionCache.act, InMemoryCompletionCache.set, httl]
      unfold WithinBound
      rw [hbound, act_set httl]
      exact ⟨hmax, evict_size _⟩

/-- A full store that takes a new key loses its front entry, and only that. -/
theorem full_evicts (entry : V × ℚ) {c : InMemoryCompletionCache K V} {front : K × V × ℚ}
    {rest : List (K × V × ℚ)} (hentries : c.store.entries = front :: rest)
    (hnew : c.store.contains key = false) (hfull : c.store.size = c.maxEntries) :
    (evict c.maxEntries (moved c.store key entry)).entries = rest ++ [(key, entry)] := by
  have hmoved : (moved c.store key entry).entries = c.store.entries ++ [(key, entry)] :=
    moved_of_new hnew
  rw [hentries] at hmoved
  change (moved c.store key entry).entries.drop
    ((moved c.store key entry).entries.length - c.maxEntries) = _
  rw [hmoved, ← hfull]
  change (front :: rest ++ [(key, entry)]).drop
    ((front :: rest ++ [(key, entry)]).length - c.store.entries.length) = _
  rw [hentries]
  simp

theorem get?_front {c : InMemoryCompletionCache K V} {front : K × V × ℚ}
    {rest : List (K × V × ℚ)} (hentries : c.store.entries = front :: rest) :
    c.store.get? front.1 = some front.2 := by
  rw [← OrderedDict.mem_entries_iff, hentries]
  exact List.mem_cons_self

/-- **A full store that takes a new key loses no live entry for an expired one** exactly when its
front entry has expired or none has. -/
theorem full_evicts_iff {c : InMemoryCompletionCache K V} {front : K × V × ℚ}
    {rest : List (K × V × ℚ)} (hentries : c.store.entries = front :: rest)
    (hnew : c.store.contains key = false) (hfull : c.store.size = c.maxEntries) {now : ℚ}
    (hentry : now < entry.2) :
    (∀ k e, c.store.get? k = some e → k ≠ key →
        (evict c.maxEntries (moved c.store key entry)).get? k = none → now < e.2 →
        ∀ k' e', (evict c.maxEntries (moved c.store key entry)).get? k' = some e' → now < e'.2) ↔
      front.2.2 ≤ now ∨ ∀ e ∈ front :: rest, now < e.2.2 := by
  have hleft := full_evicts entry hentries hnew hfull
  have hfront := get?_front hentries
  have hnodup := c.store.nodup
  rw [hentries, List.map_cons, List.nodup_cons] at hnodup
  have hfrontkey : front.1 ≠ key := by
    intro heq
    rw [← heq, OrderedDict.contains, hfront] at hnew
    cases hnew
  constructor
  · intro hall
    -- the front entry is gone
    have hgone : (evict c.maxEntries (moved c.store key entry)).get? front.1 = none := by
      rw [Option.eq_none_iff_forall_ne_some]
      intro e he
      rw [← OrderedDict.mem_entries_iff, hleft, List.mem_append, List.mem_singleton] at he
      rcases he with he | he
      · exact hnodup.1 (List.mem_map.2 ⟨_, he, rfl⟩)
      · exact hfrontkey (Prod.mk.inj he).1
    by_cases hexpired : front.2.2 ≤ now
    · exact Or.inl hexpired
    · right
      intro e he
      rcases List.mem_cons.1 he with rfl | he
      · exact not_le.1 hexpired
      · apply hall front.1 front.2 hfront hfrontkey hgone (not_le.1 hexpired) e.1 e.2
        rw [← OrderedDict.mem_entries_iff, hleft]
        exact List.mem_append_left _ he
  · intro hharmless k e hk hne hgone hlive k' e' he'
    rw [← OrderedDict.mem_entries_iff, hleft, List.mem_append, List.mem_singleton] at he'
    rcases hharmless with hexpired | hall
    · -- only the front entry can be gone, and it had expired
      rw [← OrderedDict.mem_entries_iff, hentries] at hk
      rcases List.mem_cons.1 hk with heq | hmem
      · rw [← heq] at hexpired
        exact absurd hlive (not_lt.2 hexpired)
      · have hstays : (k, e) ∈ (evict c.maxEntries (moved c.store key entry)).entries := by
          rw [hleft]
          exact List.mem_append_left _ hmem
        rw [OrderedDict.mem_entries_iff, hgone] at hstays
        cases hstays
    · rcases he' with he' | he'
      · exact hall _ (List.mem_cons_of_mem _ he')
      · rw [(Prod.mk.inj he').2]
        exact hentry

/-- **A step evicts the expired first exactly when its eviction is harmless.** -/
theorem evicts_iff_harmless {c : InMemoryCompletionCache K V} (h : WithinBound c)
    (call : CacheCall K V) : EvictsExpiredFirst c call ↔ EvictionHarmless c call := by
  obtain ⟨op, now⟩ := call
  obtain ⟨hmax, hsize⟩ := h
  cases op with
  | get key => exact Iff.rfl
  | set key value ttlSeconds =>
    unfold EvictsExpiredFirst EvictionHarmless
    simp only
    by_cases httl : ttlSeconds ≤ 0
    · -- nothing is set
      rw [act_set_of_le httl]
      refine iff_of_true ?_ (Or.inl httl)
      intro k e hk _ hgone
      rw [hk] at hgone
      cases hgone
    · rw [act_set httl]
      by_cases hthere : c.store.contains key = true
      · refine iff_of_true ?_ (Or.inr (Or.inl hthere))
        intro k e hk hne hgone
        exact absurd hgone (not_evicted (le_trans (moved_size_of_contains hthere) hsize) hk hne)
      · have hnew : c.store.contains key = false := by simpa using hthere
        by_cases hroom : c.store.size < c.maxEntries
        · refine iff_of_true ?_ (Or.inr (Or.inr (Or.inl hroom)))
          intro k e hk hne hgone
          have hmoved : (moved c.store key (value, now + ttlSeconds)).size ≤ c.maxEntries := by
            unfold OrderedDict.size at hroom ⊢
            rw [moved_of_new hnew, List.length_append, List.length_singleton]
            omega
          exact absurd hgone (not_evicted hmoved hk hne)
        · have hfull : c.store.size = c.maxEntries := by omega
          have hpos : now < now + (ttlSeconds : ℚ) := by
            have : (0 : ℚ) < ttlSeconds := by exact_mod_cast not_le.1 httl
            linarith
          cases hentries : c.store.entries with
          | nil =>
            unfold OrderedDict.size at hfull
            rw [hentries, List.length_nil] at hfull
            omega
          | cons front rest =>
            simp only [httl, hthere, hroom, false_or, List.head?_cons, Option.some.injEq,
              exists_eq_left', Bool.false_eq_true]
            exact full_evicts_iff hentries hnew hfull hpos

end InMemoryCompletionCache

/-- **In a run no live entry is evicted while an expired one is stored exactly when every `set`
finds its key stored, room, an expired entry at the front, or no expired entry.** -/
theorem evicts_expired_iff {maxEntries : ℕ} (hmax : 1 ≤ maxEntries)
    (calls : List (CacheCall K V)) :
    Runs.Along InMemoryCompletionCache.act EvictsExpiredFirst ⟨maxEntries, .empty⟩ calls ↔
      Runs.Along InMemoryCompletionCache.act EvictionHarmless ⟨maxEntries, .empty⟩ calls :=
  Runs.along_congr WithinBound (fun _ call h => within_act h call)
    (fun _ call h => evicts_iff_harmless h call) calls _ ⟨hmax, Nat.zero_le _⟩

/-- The third `set` finds the cache full and an expired entry at the front, which is what goes. -/
theorem evicts_expired_iff_front :
    Runs.Along InMemoryCompletionCache.act EvictsExpiredFirst ⟨2, .empty⟩
      [(⟨.set "a" 1 1, 0⟩ : CacheCall String ℕ), ⟨.set "b" 2 60, 0⟩, ⟨.set "c" 3 60, 2⟩] := by
  have hfront : Runs.Along InMemoryCompletionCache.act EvictionHarmless ⟨2, .empty⟩
      [(⟨.set "a" 1 1, 0⟩ : CacheCall String ℕ), ⟨.set "b" 2 60, 0⟩, ⟨.set "c" 3 60, 2⟩] := by
    refine ⟨?_, ?_, ?_, trivial⟩
    · exact Or.inr (Or.inr (Or.inl (by decide)))
    · exact Or.inr (Or.inr (Or.inl (by decide)))
    · refine Or.inr (Or.inr (Or.inr (Or.inl ⟨("a", 1, 0 + (1 : ℤ)), by decide +kernel, ?_⟩)))
      norm_num
  exact (evicts_expired_iff (by decide) _).2 hfront

/-- At time 2 an entry that lives until 60 is evicted, and one that expired at 1 stays. -/
theorem live_entry_evicted :
    ¬ Runs.Along InMemoryCompletionCache.act EvictsExpiredFirst ⟨2, .empty⟩
      [(⟨.set "a" 1 60, 0⟩ : CacheCall String ℕ), ⟨.set "b" 2 1, 0⟩, ⟨.set "c" 3 60, 2⟩] := by
  rintro ⟨-, -, h, -⟩
  have hlive := h "a" (1, 0 + (60 : ℤ)) (by decide +kernel) (by decide) (by decide +kernel)
    (by norm_num) "b" (2, 0 + (1 : ℤ)) (by decide +kernel)
  norm_num at hlive

end ModelMeld
