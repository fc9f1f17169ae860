import ModelMeld.Lib.Runs
import ModelMeld.Spec.SessionState
import Mathlib.Tactic.Linarith

/-!
# The session store over whole runs

The store is called for sessions, and callers write to the objects they were
given, in any order. `lastCall` is the time at which each session was called
last.

* `Tracks`: the invariant, `tracks_run`: every run keeps it;
* `session_store_law`: what each call leaves, and when a session is not remembered.
-/

namespace ModelMeld

/-! ## Runs -/

inductive StallEvent where
  | call (key : String) (now : ℚ)
  /-- A caller writes to an object. -/
  | write (ref : ℕ) (turnsSeen : ℤ) (lastSignals : List String) (shadowFiredTurn : Option ℤ)

/-- What a caller's write does to an object. -/
def written (turnsSeen : ℤ) (lastSignals : List String) (shadowFiredTurn : Option ℤ)
    (state : SessionStallState) : SessionStallState :=
  { state with
    turnsSeen := turnsSeen
    lastSignals := lastSignals
    shadowFiredTurn := shadowFiredTurn }

def SessionStallStore.act (s : SessionStallStore) : StallEvent → SessionStallStore
  | .call key now => (s.getOrCreate key now).2
  | .write ref turnsSeen lastSignals shadowFiredTurn =>
    s.write ref (written turnsSeen lastSignals shadowFiredTurn)

/-- The times of the last calls after one more event. -/
def StallEvent.note (calls : String → Option ℚ) : StallEvent → String → Option ℚ
  | .call key now => Function.update calls key (some now)
  | .write _ _ _ _ => calls

/-- The time at which each session was called last. -/
def lastCall (events : List StallEvent) : String → Option ℚ :=
  events.foldl StallEvent.note (fun _ => none)

/-- The reading of the clock, at a call. -/
def StallEvent.time : StallEvent → Option ℚ
  | .call _ now => some now
  | .write _ _ _ _ => none

/-- The clock does not go back. -/
def ClockForward (events : List StallEvent) : Prop :=
  (events.filterMap StallEvent.time).Pairwise (· ≤ ·)

namespace SessionStallStore

variable {s : SessionStallStore} {key : String} {now : ℚ}

/-! ## The parts of a call -/

section Parts

theorem object_write (ref : ℕ) (f : SessionStallState → SessionStallState) (ref' : ℕ) :
    (s.write ref f).object ref' =
      if ref' = ref ∧ ref < s.objects.length then f (s.object ref) else s.object ref' := by
  change ((s.objects.modify ref f)[ref']?).getD {} = _
  rw [List.getElem?_modify]
  unfold object
  by_cases href : ref' = ref
  · subst href
    by_cases hlt : ref' < s.objects.length
    · simp [hlt]
    · simp [hlt]
  · have hne : ref ≠ ref' := fun h => href h.symm
    simp [href, hne]

/-- Only the entries that are not too old stay. -/
theorem entries_evictExpired :
    (s.evictExpired now).entries.entries =
      s.entries.entries.filter (fun e => decide (now - s.ttlSec ≤ s.lastSeenOf e)) := by
  unfold evictExpired
  simp only [OrderedDict.entries_eraseAll]
  refine List.filter_congr ?_
  intro e he
  have hexpired : e.1 ∈ (s.entries.entries.filter
      (fun entry => decide (s.lastSeenOf entry < now - s.ttlSec))).map Prod.fst ↔
        s.lastSeenOf e < now - s.ttlSec := by
    rw [List.mem_map]
    constructor
    · rintro ⟨e', he', hkey⟩
      obtain ⟨hmem, hold⟩ := List.mem_filter.1 he'
      obtain rfl := List.inj_on_of_nodup_map s.entries.nodup hmem he hkey
      simpa using hold
    · intro hold
      exact ⟨e, List.mem_filter.2 ⟨he, by simpa using hold⟩, rfl⟩
  simp only [hexpired, not_lt]

theorem get?_evictExpired {k : String} {ref : ℕ} :
    (s.evictExpired now).entries.get? k = some ref ↔
      s.entries.get? k = some ref ∧ now - s.ttlSec ≤ (s.object ref).lastSeen := by
  rw [← OrderedDict.mem_entries_iff, entries_evictExpired, List.mem_filter,
    OrderedDict.mem_entries_iff]
  simp [lastSeenOf]

/-- A new key comes last. -/
theorem entries_create (hnew : s.entries.get? key = none) :
    (s.create key now).entries.entries = s.entries.entries ++ [(key, s.objects.length)] := by
  have hkey := OrderedDict.not_mem_keys_of_lookup hnew
  have happend := OrderedDict.setEntry_append (v := s.objects.length) [] hkey
  rwa [List.append_nil] at happend

theorem object_create_old {ref : ℕ} (href : ref < s.objects.length) :
    (s.create key now).object ref = s.object ref := by
  unfold object create
  simp only [List.getElem?_append_left href]

theorem object_create_new : (s.create key now).object s.objects.length = { lastSeen := now } := by
  unfold object create
  simp

end Parts

/-! ## The invariant -/

/-- The entries are of sessions that were called, at the times their objects say. -/
structure Tracks (calls : String → Option ℚ) (now : ℚ) (s : SessionStallStore) : Prop where
  refs : ∀ e ∈ s.entries.entries, e.2 < s.objects.length
  /-- No object is under two keys. -/
  apart : (s.entries.entries.map Prod.snd).Nodup
  seen : ∀ e ∈ s.entries.entries, calls e.1 = some (s.lastSeenOf e)
  past : ∀ k t, calls k = some t → t ≤ now
  bounded : (s.entries.size : ℤ) ≤ s.maxEntries

section Invariant

variable {calls : String → Option ℚ} {t : ℚ}

theorem Tracks.le_now (h : Tracks calls t s) {e : String × ℕ} (he : e ∈ s.entries.entries) :
    s.lastSeenOf e ≤ t :=
  h.past e.1 _ (h.seen e he)

theorem Tracks.later (h : Tracks calls t s) (hle : t ≤ now) : Tracks calls now s :=
  { h with past := fun k t' ht' => (h.past k t' ht').trans hle }

/-- Fewer entries, of the same objects. -/
theorem Tracks.sublist (h : Tracks calls t s) {d : OrderedDict String ℕ}
    (hd : d.entries.Sublist s.entries.entries) : Tracks calls t { s with entries := d } where
  refs := fun e he => h.refs e (hd.subset he)
  apart := (hd.map _).nodup h.apart
  seen := fun e he => h.seen e (hd.subset he)
  past := h.past
  bounded := by
    have hlength : (d.size : ℤ) ≤ s.entries.size := by exact_mod_cast hd.length_le
    exact hlength.trans h.bounded

theorem Tracks.evictExpired (h : Tracks calls t s) : Tracks calls t (s.evictExpired now) := by
  have hsub : (s.evictExpired now).entries.entries.Sublist s.entries.entries := by
    rw [entries_evictExpired]
    exact List.filter_sublist
  exact h.sublist hsub

/-- A caller's write leaves the times. -/
theorem Tracks.write (h : Tracks calls t s) (ref : ℕ) (turnsSeen : ℤ) (lastSignals : List String)
    (shadowFiredTurn : Option ℤ) :
    Tracks calls t (s.write ref (written turnsSeen lastSignals shadowFiredTurn)) where
  refs := by
    intro e he
    change e.2 < (s.objects.modify ref _).length
    rw [List.length_modify]
    exact h.refs e he
  apart := h.apart
  seen := by
    intro e he
    rw [h.seen e he]
    unfold lastSeenOf
    rw [object_write]
    split
    next heq => rw [heq.1]; rfl
    · rfl
  past := h.past
  bounded := h.bounded

/-- The session of an object is called. -/
theorem Tracks.stamp (h : Tracks calls t s) (hle : t ≤ now) {ref : ℕ}
    (hget : s.entries.get? key = some ref) :
    Tracks (Function.update calls key (some now)) now
      (s.write ref (fun state => { state with lastSeen := now })) where
  refs := by
    intro e he
    change e.2 < (s.objects.modify ref _).length
    rw [List.length_modify]
    exact h.refs e he
  apart := h.apart
  seen := by
    intro e he
    have hmem := (s.entries.mem_entries_iff key ref).2 hget
    have hlt := h.refs _ hmem
    unfold lastSeenOf
    rw [object_write]
    by_cases hkey : e.1 = key
    · have hget' := (s.entries.mem_entries_iff e.1 e.2).1 he
      rw [hkey, hget] at hget'
      rw [hkey, Function.update_self, if_pos ⟨(Option.some.inj hget').symm, hlt⟩]
    · -- the object of another key is another object
      have hne : e.2 ≠ ref := by
        intro href
        have heq : e = (key, ref) := List.inj_on_of_nodup_map h.apart he hmem href
        exact hkey (congrArg Prod.fst heq)
      rw [Function.update_of_ne hkey, if_neg (fun hand => hne hand.1)]
      exact h.seen e he
  past := by
    intro k t' hk
    by_cases hkey : k = key
    · rw [hkey, Function.update_self] at hk
      exact (Option.some.inj hk).ge
    · rw [Function.update_of_ne hkey] at hk
      exact (h.past k t' hk).trans hle
  bounded := h.bounded

/-- The first entries of a store with a new session, without some that are dropped. -/
theorem Tracks.create (h : Tracks calls t s) (hle : t ≤ now)
    (hnew : s.entries.get? key = none) {d : OrderedDict String ℕ}
    (hd : d.entries.Sublist (s.create key now).entries.entries)
    (hsize : (d.size : ℤ) ≤ s.maxEntries) :
    Tracks (Function.update calls key (some now)) now
      { s.create key now with entries := d } where
  refs := by
    intro e he
    have hmem := hd.subset he
    rw [entries_create hnew] at hmem
    change e.2 < (s.objects ++ [_]).length
    rw [List.length_append, List.length_singleton]
    rcases List.mem_append.1 hmem with hold | hlast
    · have := h.refs e hold
      omega
    · rw [List.mem_singleton.1 hlast]
      exact Nat.lt_succ_self _
  apart := by
    have hnodup : ((s.create key now).entries.entries.map Prod.snd).Nodup := by
      rw [entries_create hnew, List.map_append]
      refine List.nodup_append.2 ⟨h.apart, List.nodup_singleton _, ?_⟩
      rintro a ha b hb rfl
      obtain ⟨e, he, rfl⟩ := List.mem_map.1 ha
      have hlt := h.refs e he
      have heq : e.2 = s.objects.length := by simpa using hb
      omega
    exact (hd.map _).nodup hnodup
  seen := by
    intro e he
    have hmem := hd.subset he
    rw [entries_create hnew] at hmem
    change Function.update calls key (some now) e.1 =
      some ((s.create key now).object e.2).lastSeen
    rcases List.mem_append.1 hmem with hold | hlast
    · have hkey : e.1 ≠ key := by
        rintro rfl
        exact OrderedDict.not_mem_keys_of_lookup hnew (List.mem_map_of_mem hold)
      rw [Function.update_of_ne hkey, object_create_old (h.refs e hold)]
      exact h.seen e hold
    · obtain rfl := List.mem_singleton.1 hlast
      rw [Function.update_self, object_create_new]
  past := by
    intro k t' hk
    by_cases hkey : k = key
    · rw [hkey, Function.update_self] at hk
      exact (Option.some.inj hk).ge
    · rw [Function.update_of_ne hkey] at hk
      exact (h.past k t' hk).trans hle
  bounded := hsize

/-! ## The cap -/

/-- The entry that the cap drops: one that was seen no later than any other. -/
structure Oldest (s : SessionStallStore) (oldest : String × ℕ) : Prop where
  mem : oldest ∈ s.entries.entries
  le : ∀ e ∈ s.entries.entries, s.lastSeenOf oldest ≤ s.lastSeenOf e

/-- The entries after a new session: the cap drops nothing, or the oldest of those before it. -/
inductive AfterCap (s : SessionStallStore) (key : String) (now : ℚ) : OrderedDict String ℕ → Prop
  | room (hroom : (s.entries.size : ℤ) < s.maxEntries) : AfterCap s key now (s.create key now).entries
  | full (oldest : String × ℕ) (hold : Oldest s oldest)
      (hfull : (s.entries.size : ℤ) = s.maxEntries) :
      AfterCap s key now ((s.create key now).entries.erase oldest.1)

theorem Tracks.enforceCap_create (h : Tracks calls t s) (hle : t ≤ now)
    (hnew : s.entries.get? key = none) (hmax : 1 ≤ s.maxEntries) :
    ∃ d, AfterCap s key now d ∧
      (s.create key now).enforceCap = { s.create key now with entries := d } := by
  have hentries : (s.create key now).entries.entries = _ := entries_create hnew
  have hsize : (s.create key now).entries.size = s.entries.size + 1 := by
    unfold OrderedDict.size
    rw [hentries, List.length_append, List.length_singleton]
  have hcap : (s.create key now).maxEntries = s.maxEntries := rfl
  have hbounded := h.bounded
  unfold enforceCap
  simp only [hsize, hcap]
  by_cases hfull : (s.entries.size : ℤ) = s.maxEntries
  · -- the new entry has the last time and comes last, so the sort leaves it there
    have hsorted : Ranking.sortedBy (s.create key now).lastSeenOf (s.create key now).entries.entries =
        Ranking.sortedBy (s.create key now).lastSeenOf s.entries.entries ++
          [(key, s.objects.length)] := by
      rw [hentries]
      refine Ranking.sortedBy_concat ?_
      intro e he
      unfold lastSeenOf
      rw [object_create_old (h.refs e he), object_create_new]
      exact (h.le_now he).trans hle
    have hne : Ranking.sortedBy (s.create key now).lastSeenOf s.entries.entries ≠ [] := by
      rw [ne_eq, Ranking.sortedBy_eq_nil_iff]
      intro hnil
      have : s.entries.size = 0 := by rw [OrderedDict.size, hnil]; rfl
      omega
    obtain ⟨oldest, rest, hcons⟩ := List.exists_cons_of_ne_nil hne
    have hpairwise := Ranking.pairwise_sortedBy (s.create key now).lastSeenOf s.entries.entries
    rw [hcons] at hpairwise
    have hmem : ∀ e, e ∈ s.entries.entries ↔ e ∈ oldest :: rest := by
      intro e
      rw [← hcons, Ranking.mem_sortedBy]
    have hsame : ∀ e ∈ s.entries.entries, (s.create key now).lastSeenOf e = s.lastSeenOf e := by
      intro e he
      unfold lastSeenOf
      rw [object_create_old (h.refs e he)]
    have hold : oldest ∈ s.entries.entries := (hmem oldest).2 List.mem_cons_self
    have holdest : Oldest s oldest := by
      refine ⟨hold, ?_⟩
      intro e he
      rw [← hsame oldest hold, ← hsame e he]
      rcases List.mem_cons.1 ((hmem e).1 he) with rfl | hrest
      · exact le_rfl
      · exact (List.pairwise_cons.1 hpairwise).1 e hrest
    refine ⟨_, .full oldest holdest hfull, ?_⟩
    · have hone : (((s.entries.size + 1 : ℕ) : ℤ) - s.maxEntries).toNat = 1 := by omega
      rw [if_neg (by omega), hone, hsorted, hcons]
      rfl
  · refine ⟨_, .room (by omega), ?_⟩
    rw [if_pos (by omega)]
    rfl

theorem AfterCap.get?_self (hnew : s.entries.get? key = none)
    {d : OrderedDict String ℕ} (hd : AfterCap s key now d) :
    d.get? key = some s.objects.length := by
  have hget : (s.create key now).entries.get? key = some s.objects.length :=
    OrderedDict.get?_insert_self _ _ _
  cases hd with
  | room hroom => exact hget
  | full oldest hold hfull =>
    have hne : key ≠ oldest.1 := by
      rintro rfl
      exact OrderedDict.not_mem_keys_of_lookup hnew (List.mem_map_of_mem hold.mem)
    rw [OrderedDict.get?_erase, if_neg hne, hget]

theorem AfterCap.sublist {d : OrderedDict String ℕ} (hd : AfterCap s key now d) :
    d.entries.Sublist (s.create key now).entries.entries := by
  cases hd with
  | room hroom => exact List.Sublist.refl _
  | full oldest hold hfull => exact List.filter_sublist

/-- The dropped entry makes room for the new one. -/
theorem AfterCap.size (hnew : s.entries.get? key = none) {d : OrderedDict String ℕ}
    (hd : AfterCap s key now d) : d.size ≤ s.entries.size + 1 ∧ (d.size : ℤ) ≤ s.maxEntries ∧
      ((s.entries.size : ℤ) = s.maxEntries → d.size = s.entries.size) := by
  have hsize : (s.create key now).entries.size = s.entries.size + 1 := by
    unfold OrderedDict.size
    rw [entries_create hnew, List.length_append, List.length_singleton]
  cases hd with
  | room hroom => omega
  | full oldest hold hfull =>
    have hmem : oldest.1 ∈ (s.create key now).entries.keys := by
      unfold OrderedDict.keys
      rw [entries_create hnew]
      exact List.mem_map_of_mem (List.mem_append_left _ hold.mem)
    have herase := OrderedDict.size_erase hmem
    omega

/-! ## One call -/

/-- What a call does: it finds the session, or creates it. -/
theorem Tracks.call_cases (h : Tracks calls t s) (hle : t ≤ now) (hmax : 1 ≤ s.maxEntries)
    (key : String) :
    (∃ ref, (s.evictExpired now).entries.get? key = some ref ∧
      s.getOrCreate key now =
        (ref, (s.evictExpired now).write ref (fun state => { state with lastSeen := now }))) ∨
    ((s.evictExpired now).entries.get? key = none ∧
      ∃ d, AfterCap (s.evictExpired now) key now d ∧ s.getOrCreate key now =
        (s.objects.length, { (s.evictExpired now).create key now with entries := d })) := by
  cases hget : (s.evictExpired now).entries.get? key with
  | some ref =>
    refine .inl ⟨ref, rfl, ?_⟩
    unfold getOrCreate
    simp only [hget]
  | none =>
    have htracks : Tracks calls t (s.evictExpired now) := h.evictExpired
    obtain ⟨d, hd, heq⟩ := htracks.enforceCap_create hle hget hmax
    refine .inr ⟨rfl, d, hd, ?_⟩
    rw [← heq]
    unfold getOrCreate
    simp only [hget]
    rfl

/-- A call keeps the invariant. -/
theorem Tracks.call (h : Tracks calls t s) (hle : t ≤ now) (hmax : 1 ≤ s.maxEntries)
    (key : String) :
    Tracks (Function.update calls key (some now)) now (s.getOrCreate key now).2 := by
  have htracks : Tracks calls t (s.evictExpired now) := h.evictExpired
  rcases h.call_cases hle hmax key with ⟨ref, hget, heq⟩ | ⟨hnew, d, hd, heq⟩
  · rw [heq]
    exact htracks.stamp hle hget
  · rw [heq]
    exact htracks.create hle hnew hd.sublist (hd.size hnew).2.1

/-- `n` other sessions were called no earlier than a time. -/
def Crowded (calls : String → Option ℚ) (n : ℤ) (key : String) (t : ℚ) : Prop :=
  ∃ others : List String, others.Nodup ∧ (others.length : ℤ) = n ∧ key ∉ others ∧
    ∀ k ∈ others, ∃ t', calls k = some t' ∧ t ≤ t'

/-- What a call for a session leaves behind; `calls` are the last calls, with this one. -/
structure CallLaw (s : SessionStallStore) (calls : String → Option ℚ) (key : String) (now : ℚ) :
    Prop where
  bounded : ((s.getOrCreate key now).2.entries.size : ℤ) ≤ s.maxEntries
  /-- No entry is older than the time to live. -/
  young : ∀ e ∈ (s.getOrCreate key now).2.entries.entries,
    now - s.ttlSec ≤ (s.getOrCreate key now).2.lastSeenOf e
  /-- The object returned is the one under the key. -/
  stored : (s.getOrCreate key now).2.entries.get? key = some (s.getOrCreate key now).1
  stamped : ((s.getOrCreate key now).2.object (s.getOrCreate key now).1).lastSeen = now
  /-- What is removed is too old, or others took its place. -/
  removed : ∀ k ref, s.entries.get? k = some ref →
    (s.getOrCreate key now).2.entries.get? k = none →
    (s.object ref).lastSeen < now - s.ttlSec ∨
      Crowded calls s.maxEntries k (s.object ref).lastSeen
  /-- The other sessions that stay keep their objects as they are. -/
  others : ∀ k ref, k ≠ key → (s.getOrCreate key now).2.entries.get? k = some ref →
    s.entries.get? k = some ref ∧ (s.getOrCreate key now).2.object ref = s.object ref
  /-- A session that is not too old is found, with what was written to it. -/
  found : ∀ ref, s.entries.get? key = some ref → now - s.ttlSec ≤ (s.object ref).lastSeen →
    (s.getOrCreate key now).1 = ref ∧
      (s.getOrCreate key now).2.object ref = { s.object ref with lastSeen := now }

/-- The law of a call that finds the session. -/
theorem Tracks.callLaw_found (h : Tracks calls t s) (hle : t ≤ now) (hmax : 1 ≤ s.maxEntries)
    (httl : 0 ≤ s.ttlSec) {ref : ℕ} (hget : (s.evictExpired now).entries.get? key = some ref)
    (heq : s.getOrCreate key now =
      (ref, (s.evictExpired now).write ref (fun state => { state with lastSeen := now }))) :
    CallLaw s (Function.update calls key (some now)) key now := by
  have hafter := h.call hle hmax key
  have htracks : Tracks calls t (s.evictExpired now) := h.evictExpired
  have hmem := ((s.evictExpired now).entries.mem_entries_iff key ref).2 hget
  have hlt : ref < s.objects.length := htracks.refs _ hmem
  have hobject : ∀ ref', ((s.evictExpired now).write ref
      (fun state => { state with lastSeen := now })).object ref' =
        if ref' = ref then { s.object ref with lastSeen := now } else s.object ref' := by
    intro ref'
    rw [object_write]
    by_cases href : ref' = ref
    · rw [if_pos href, if_pos ⟨href, hlt⟩]
      rfl
    · rw [if_neg href, if_neg (fun hand => href hand.1)]
      rfl
  rw [heq] at hafter
  constructor
  · rw [heq]
    exact hafter.bounded
  · rw [heq]
    intro e he
    have hold : now - s.ttlSec ≤ s.lastSeenOf e := by
      have hkept : e ∈ (s.evictExpired now).entries.entries := he
      rw [entries_evictExpired, List.mem_filter] at hkept
      simpa using hkept.2
    unfold lastSeenOf
    rw [hobject]
    split
    · linarith
    · exact hold
  · rw [heq]
    exact hget
  · rw [heq, hobject, if_pos rfl]
  · rw [heq]
    intro k ref' hk hnone
    left
    by_contra hyoung
    have hkept := get?_evictExpired.2 ⟨hk, not_lt.1 hyoung⟩
    exact absurd (hkept.symm.trans hnone) (by simp)
  · rw [heq]
    intro k ref' hne hk
    have hmem' := ((s.evictExpired now).entries.mem_entries_iff k ref').2 hk
    refine ⟨(get?_evictExpired.1 hk).1, ?_⟩
    rw [hobject, if_neg]
    intro href
    have hsame := List.inj_on_of_nodup_map htracks.apart hmem' hmem href
    exact hne (congrArg Prod.fst hsame)
  · rw [heq]
    intro ref' hk hyoung
    have hkept := get?_evictExpired.2 ⟨hk, hyoung⟩
    obtain rfl : ref = ref' := Option.some.inj (hget.symm.trans hkept)
    refine ⟨rfl, ?_⟩
    rw [hobject, if_pos rfl]

/-- The law of a call that creates the session. -/
theorem Tracks.callLaw_created (h : Tracks calls t s) (hle : t ≤ now) (hmax : 1 ≤ s.maxEntries)
    (httl : 0 ≤ s.ttlSec) (hnew : (s.evictExpired now).entries.get? key = none)
    {d : OrderedDict String ℕ} (hd : AfterCap (s.evictExpired now) key now d)
    (heq : s.getOrCreate key now =
      (s.objects.length, { (s.evictExpired now).create key now with entries := d })) :
    CallLaw s (Function.update calls key (some now)) key now := by
  have hafter := h.call hle hmax key
  have htracks : Tracks calls t (s.evictExpired now) := h.evictExpired
  have hentries : ((s.evictExpired now).create key now).entries.entries = _ := entries_create hnew
  rw [heq] at hafter
  constructor
  · rw [heq]
    exact hafter.bounded
  · rw [heq]
    intro e he
    have hmem := hd.sublist.subset he
    rw [hentries] at hmem
    change _ ≤ (((s.evictExpired now).create key now).object e.2).lastSeen
    rcases List.mem_append.1 hmem with hold | hlast
    · rw [object_create_old (htracks.refs e hold)]
      rw [entries_evictExpired, List.mem_filter] at hold
      exact of_decide_eq_true hold.2
    · rw [List.mem_singleton.1 hlast, object_create_new]
      change now - s.ttlSec ≤ now
      linarith
  · rw [heq]
    exact hd.get?_self hnew
  · rw [heq]
    change (((s.evictExpired now).create key now).object (s.evictExpired now).objects.length).lastSeen =
      now
    rw [object_create_new]
  · rw [heq]
    intro k ref hk hnone
    by_cases hyoung : now - s.ttlSec ≤ (s.object ref).lastSeen
    · right
      have hkept := get?_evictExpired.2 ⟨hk, hyoung⟩
      have hcreated : ((s.evictExpired now).create key now).entries.get? k = some ref := by
        have hne : k ≠ key := by
          rintro rfl
          exact absurd (hkept.symm.trans hnew) (by simp)
        change ((s.evictExpired now).entries.insert key _).get? k = some ref
        rw [OrderedDict.get?_insert, if_neg hne, hkept]
      have hsize := hd.size hnew
      cases hd with
      | room hroom => exact absurd (hcreated.symm.trans hnone) (by simp)
      | full oldest hold hfull =>
        change (((s.evictExpired now).create key now).entries.erase oldest.1).get? k = none at hnone
        rw [OrderedDict.get?_erase, hcreated] at hnone
        have hkey : k = oldest.1 := by
          by_contra hne
          rw [if_neg hne] at hnone
          cases hnone
        have href : ref = oldest.2 := by
          have hget := ((s.evictExpired now).entries.mem_entries_iff oldest.1 oldest.2).1 hold.mem
          rw [← hkey, hkept] at hget
          exact Option.some.inj hget
        -- the sessions that stay are the others
        refine ⟨(((s.evictExpired now).create key now).entries.erase oldest.1).keys,
          OrderedDict.nodup _, ?_, ?_, ?_⟩
        · have hcount := hsize.2.2 hfull
          have hlength : (((s.evictExpired now).create key now).entries.erase oldest.1).keys.length =
              (((s.evictExpired now).create key now).entries.erase oldest.1).size :=
            List.length_map _
          rw [hlength, hcount, hfull]
          rfl
        · intro hmem
          rw [OrderedDict.mem_keys_iff, OrderedDict.get?_erase, if_pos hkey] at hmem
          cases hmem
        · intro k' hk'
          obtain ⟨e, he, rfl⟩ := List.mem_map.1 hk'
          refine ⟨_, hafter.seen e he, ?_⟩
          change _ ≤ (((s.evictExpired now).create key now).object e.2).lastSeen
          have hmem : e ∈ ((s.evictExpired now).create key now).entries.entries :=
            (List.mem_filter.1 he).1
          rw [hentries] at hmem
          rw [href]
          rcases List.mem_append.1 hmem with hbefore | hlast
          · rw [object_create_old (htracks.refs e hbefore)]
            exact hold.le e hbefore
          · rw [List.mem_singleton.1 hlast, object_create_new]
            exact (htracks.le_now hold.mem).trans hle
    · exact .inl (not_le.1 hyoung)
  · rw [heq]
    intro k ref hne hk
    have hmem := hd.sublist.subset ((OrderedDict.mem_entries_iff d k ref).2 hk)
    rw [hentries] at hmem
    rcases List.mem_append.1 hmem with hold | hlast
    · have hget := ((s.evictExpired now).entries.mem_entries_iff k ref).1 hold
      refine ⟨(get?_evictExpired.1 hget).1, ?_⟩
      change ((s.evictExpired now).create key now).object ref = (s.evictExpired now).object ref
      exact object_create_old (htracks.refs _ hold)
    · exact absurd (congrArg Prod.fst (List.mem_singleton.1 hlast)) hne
  · intro ref hk hyoung
    have hkept := get?_evictExpired.2 ⟨hk, hyoung⟩
    exact absurd (hkept.symm.trans hnew) (by simp)

theorem Tracks.callLaw (h : Tracks calls t s) (hle : t ≤ now) (hmax : 1 ≤ s.maxEntries)
    (httl : 0 ≤ s.ttlSec) (key : String) : CallLaw s (Function.update calls key (some now)) key now := by
  rcases h.call_cases hle hmax key with ⟨ref, hget, heq⟩ | ⟨hnew, d, hd, heq⟩
  · exact h.callLaw_found hle hmax httl hget heq
  · exact h.callLaw_created hle hmax httl hnew hd heq

theorem getOrCreate_settings : (s.getOrCreate key now).2.ttlSec = s.ttlSec ∧
    (s.getOrCreate key now).2.maxEntries = s.maxEntries := by
  have hcap : ∀ s : SessionStallStore,
      s.enforceCap.ttlSec = s.ttlSec ∧ s.enforceCap.maxEntries = s.maxEntries := by
    intro s
    unfold enforceCap
    simp only
    split <;> exact ⟨rfl, rfl⟩
  unfold getOrCreate
  simp only
  split
  · exact hcap _
  · exact ⟨rfl, rfl⟩

theorem act_settings (e : StallEvent) :
    (s.act e).ttlSec = s.ttlSec ∧ (s.act e).maxEntries = s.maxEntries := by
  cases e with
  | call key now => exact getOrCreate_settings
  | write ref turnsSeen lastSignals shadowFiredTurn => exact ⟨rfl, rfl⟩

end Invariant

/-! ## Runs -/

section Run

variable {ttlSec : ℚ} {maxEntries : ℤ} {events : List StallEvent}

/-- A new store after some events. -/
def after (ttlSec : ℚ) (maxEntries : ℤ) (events : List StallEvent) : SessionStallStore :=
  Runs.run act { ttlSec := ttlSec, maxEntries := maxEntries } events

theorem after_snoc (e : StallEvent) :
    after ttlSec maxEntries (events ++ [e]) = (after ttlSec maxEntries events).act e := by
  unfold after
  rw [Runs.run_append]
  rfl

theorem lastCall_snoc (e : StallEvent) :
    lastCall (events ++ [e]) = e.note (lastCall events) := by
  unfold lastCall
  rw [List.foldl_append]
  rfl

theorem after_settings : ∀ events : List StallEvent,
    (after ttlSec maxEntries events).ttlSec = ttlSec ∧
      (after ttlSec maxEntries events).maxEntries = maxEntries := by
  intro events
  induction events using List.reverseRecOn with
  | nil => exact ⟨rfl, rfl⟩
  | append_singleton events e ih =>
    have hact := act_settings (s := after ttlSec maxEntries events) e
    rw [after_snoc, hact.1, hact.2]
    exact ih

/-- No event is later than a time. -/
def NoLater (events : List StallEvent) (now : ℚ) : Prop :=
  ∀ t ∈ events.filterMap StallEvent.time, t ≤ now

theorem clockForward_snoc {e : StallEvent} (h : ClockForward (events ++ [e])) :
    ClockForward events ∧ ∀ now, e.time = some now → NoLater events now := by
  unfold ClockForward at h
  rw [List.filterMap_append, List.pairwise_append] at h
  refine ⟨h.1, ?_⟩
  intro now hnow t ht
  exact h.2.2 t ht now (by simp [hnow])

theorem NoLater.of_append {events' : List StallEvent} (h : NoLater (events ++ events') now) :
    NoLater events now := by
  intro t ht
  refine h t ?_
  rw [List.filterMap_append]
  exact List.mem_append_left _ ht

/-- Every run keeps the invariant. -/
theorem tracks_run (hmax : 1 ≤ maxEntries) : ∀ {events : List StallEvent},
    ClockForward events → ∀ {now : ℚ}, NoLater events now →
      Tracks (lastCall events) now (after ttlSec maxEntries events) := by
  intro events
  induction events using List.reverseRecOn with
  | nil =>
    intro _ now _
    constructor
    · intro e he
      exact absurd he List.not_mem_nil
    · exact List.nodup_nil
    · intro e he
      exact absurd he List.not_mem_nil
    · intro k t hk
      cases hk
    · change ((0 : ℕ) : ℤ) ≤ maxEntries
      omega
  | append_singleton events e ih =>
    intro hclock now hlater
    obtain ⟨hbefore, htime⟩ := clockForward_snoc hclock
    rw [after_snoc, lastCall_snoc]
    cases e with
    | call key t =>
      have htracks := ih hbefore (htime t rfl)
      have hle : t ≤ now := hlater t (by simp [StallEvent.time])
      refine Tracks.later (htracks.call le_rfl ?_ key) hle
      rw [(after_settings events).2]
      exact hmax
    | write ref turnsSeen lastSignals shadowFiredTurn =>
      exact (ih hbefore hlater.of_append).write ref turnsSeen lastSignals shadowFiredTurn

theorem callLaw_run (httl : 0 ≤ ttlSec) (hmax : 1 ≤ maxEntries)
    (hclock : ClockForward (events ++ [.call key now])) :
    CallLaw (after ttlSec maxEntries events) (lastCall (events ++ [.call key now])) key now := by
  obtain ⟨hbefore, htime⟩ := clockForward_snoc hclock
  have htracks : Tracks (lastCall events) now (after ttlSec maxEntries events) :=
    tracks_run hmax hbefore (htime now rfl)
  have hsettings : (after ttlSec maxEntries events).ttlSec = ttlSec ∧
      (after ttlSec maxEntries events).maxEntries = maxEntries := after_settings events
  rw [lastCall_snoc]
  refine htracks.callLaw le_rfl ?_ ?_ key
  · rw [hsettings.2]
    exact hmax
  · rw [hsettings.1]
    exact httl

/-! ## Two calls of a session -/

/-- A call of a session. -/
def IsCall (key : String) : StallEvent → Prop
  | .call k _ => k = key
  | .write _ _ _ _ => False

/-- The session has its object still, or others took its place. -/
def Holds (s : SessionStallStore) (calls : String → Option ℚ) (key : String) (held : ℕ)
    (earlier : ℚ) : Prop :=
  (s.entries.get? key = some held ∧ (s.object held).lastSeen = earlier) ∨
    Crowded calls s.maxEntries key earlier

variable {calls : String → Option ℚ} {held : ℕ} {earlier : ℚ}

/-- Sessions that were called late enough stay so. -/
theorem Crowded.note {n : ℤ} (h : Crowded calls n key earlier)
    (hpast : ∀ k t, calls k = some t → t ≤ now) (k : String) :
    Crowded (Function.update calls k (some now)) n key earlier := by
  obtain ⟨others, hnodup, hlength, hnot, hlate⟩ := h
  refine ⟨others, hnodup, hlength, hnot, ?_⟩
  intro k' hk'
  obtain ⟨t, ht, hle⟩ := hlate k' hk'
  by_cases hkey : k' = k
  · exact ⟨now, by rw [hkey, Function.update_self], hle.trans (hpast k' t ht)⟩
  · exact ⟨t, by rw [Function.update_of_ne hkey, ht], hle⟩

theorem Holds.write (h : Holds s calls key held earlier) (ref : ℕ) (turnsSeen : ℤ)
    (lastSignals : List String) (shadowFiredTurn : Option ℤ) :
    Holds (s.write ref (written turnsSeen lastSignals shadowFiredTurn)) calls key held
      earlier := by
  rcases h with ⟨hget, hseen⟩ | hcrowded
  · refine .inl ⟨hget, ?_⟩
    rw [object_write]
    split
    next heq =>
      rw [← hseen, heq.1]
      rfl
    · exact hseen
  · exact .inr hcrowded

theorem Holds.call (h : Holds s calls key held earlier) (hpast : ∀ k t, calls k = some t → t ≤ now)
    {k : String} (hlaw : CallLaw s (Function.update calls k (some now)) k now) (hne : key ≠ k)
    (hyoung : now - s.ttlSec ≤ earlier) :
    Holds (s.getOrCreate k now).2 (Function.update calls k (some now)) key held earlier := by
  unfold Holds
  rw [getOrCreate_settings.2]
  rcases h with ⟨hget, hseen⟩ | hcrowded
  · cases hafter : (s.getOrCreate k now).2.entries.get? key with
    | none =>
      rcases hlaw.removed key held hget hafter with hold | hcrowded
      · rw [hseen] at hold
        linarith
      · rw [hseen] at hcrowded
        exact .inr hcrowded
    | some ref =>
      obtain ⟨hbefore, hobject⟩ := hlaw.others key ref hne hafter
      obtain rfl : held = ref := Option.some.inj (hget.symm.trans hbefore)
      exact .inl ⟨rfl, by rw [hobject, hseen]⟩
  · exact .inr (hcrowded.note hpast k)

/-- Between two calls of a session within the time to live, its object is held. -/
theorem holds_run (httl : 0 ≤ ttlSec) (hmax : 1 ≤ maxEntries) {first : List StallEvent} :
    ∀ {between : List StallEvent}, ClockForward (first ++ .call key earlier :: between) →
      (∀ e ∈ between, ¬IsCall key e) → NoLater (first ++ .call key earlier :: between) now →
      now - ttlSec ≤ earlier →
      Holds (after ttlSec maxEntries (first ++ .call key earlier :: between))
        (lastCall (first ++ .call key earlier :: between)) key
        ((after ttlSec maxEntries first).getOrCreate key earlier).1 earlier := by
  intro between
  induction between using List.reverseRecOn with
  | nil =>
    intro hclock _ _ _
    have hlaw := callLaw_run httl hmax hclock
    rw [after_snoc]
    exact .inl ⟨hlaw.stored, hlaw.stamped⟩
  | append_singleton between e ih =>
    intro hclock hnone hlater hyoung
    have hsplit : first ++ .call key earlier :: (between ++ [e]) =
        (first ++ .call key earlier :: between) ++ [e] := by simp
    rw [hsplit] at hclock hlater ⊢
    obtain ⟨hbefore, htime⟩ := clockForward_snoc hclock
    have hholds := ih hbefore (fun e' he' => hnone e' (List.mem_append_left _ he'))
      hlater.of_append hyoung
    rw [after_snoc, lastCall_snoc]
    cases e with
    | write ref turnsSeen lastSignals shadowFiredTurn =>
      exact hholds.write ref turnsSeen lastSignals shadowFiredTurn
    | call k t =>
      have hlaw := callLaw_run httl hmax hclock
      have htracks : Tracks (lastCall (first ++ .call key earlier :: between)) t
          (after ttlSec maxEntries (first ++ .call key earlier :: between)) :=
        tracks_run hmax hbefore (htime t rfl)
      have hle : t ≤ now := hlater t (by simp [StallEvent.time])
      have hne : key ≠ k := by
        rintro rfl
        exact hnone (.call key t) (by simp) rfl
      rw [lastCall_snoc] at hlaw
      refine hholds.call htracks.past hlaw hne ?_
      rw [(after_settings _).1]
      linarith

end Run

end SessionStallStore

open SessionStallStore in
/-- The object of an earlier call is returned again, with what was written to it since. -/
def SeenAgain (ttlSec : ℚ) (maxEntries : ℤ) (events first : List StallEvent) (key : String)
    (earlier now : ℚ) : Prop :=
  let held := ((after ttlSec maxEntries first).getOrCreate key earlier).1
  let called := (after ttlSec maxEntries events).getOrCreate key now
  called.1 = held ∧
    called.2.object held =
      { (after ttlSec maxEntries events).object held with lastSeen := now }

open SessionStallStore in
/-- **The session store law.** After each call the store is within its cap, holds nothing older
than the time to live, and returns the object it holds; an entry goes when it is too old or when
as many others as the cap were seen no earlier. The next call of a session within the time to live
sees what was written to its object, unless as many others were called since. -/
theorem session_store_law {ttlSec : ℚ} {maxEntries : ℤ} (httl : 0 ≤ ttlSec)
    (hmax : 1 ≤ maxEntries) {events : List StallEvent} {key : String} {now : ℚ}
    (hclock : ClockForward (events ++ [.call key now])) :
    CallLaw (after ttlSec maxEntries events) (lastCall (events ++ [.call key now])) key now ∧
    ∀ first earlier between, events = first ++ .call key earlier :: between →
      (∀ e ∈ between, ¬IsCall key e) → now - ttlSec ≤ earlier →
      SeenAgain ttlSec maxEntries events first key earlier now ∨
        Crowded (lastCall (events ++ [.call key now])) maxEntries key earlier := by
  have hlaw := callLaw_run httl hmax hclock
  refine ⟨hlaw, ?_⟩
  rintro first earlier between rfl hnone hyoung
  obtain ⟨hbefore, htime⟩ := clockForward_snoc hclock
  have htracks : Tracks (lastCall (first ++ .call key earlier :: between)) now
      (after ttlSec maxEntries (first ++ .call key earlier :: between)) :=
    tracks_run hmax hbefore (htime now rfl)
  rcases holds_run httl hmax hbefore hnone (htime now rfl) hyoung with ⟨hget, hseen⟩ | hcrowded
  · refine .inl (hlaw.found _ hget ?_)
    rw [hseen, (after_settings _).1]
    exact hyoung
  · refine .inr ?_
    rw [(after_settings _).2] at hcrowded
    rw [lastCall_snoc]
    exact hcrowded.note htracks.past key

/-- Two calls of one session with a write in between, and a call of another. -/
def twoSessions : List StallEvent :=
  [.call "a" 0, .write 0 1 [] none, .call "b" 1]

theorem twoSessions_forward : ClockForward (twoSessions ++ [.call "a" 2]) := by
  change List.Pairwise (· ≤ ·) [(0 : ℚ), 1, 2]
  decide

open SessionStallStore in
theorem session_store_law_two_sessions :
    CallLaw (after 10 2 twoSessions) (lastCall (twoSessions ++ [.call "a" 2])) "a" 2 ∧
    ∀ first earlier between, twoSessions = first ++ .call "a" earlier :: between →
      (∀ e ∈ between, ¬IsCall "a" e) → (2 : ℚ) - 10 ≤ earlier →
      SeenAgain 10 2 twoSessions first "a" earlier 2 ∨
        Crowded (lastCall (twoSessions ++ [.call "a" 2])) 2 "a" earlier :=
  session_store_law (by decide) (by decide) twoSessions_forward

open SessionStallStore in
/-- With room for one session, another takes the place of the first within the time to live, and
what was written to its object is not seen. -/
theorem session_forgotten :
    ¬ ∀ (ttlSec : ℚ) (maxEntries : ℤ) (events : List StallEvent) (key : String) (now : ℚ),
      0 ≤ ttlSec → 1 ≤ maxEntries → ClockForward (events ++ [.call key now]) →
      CallLaw (after ttlSec maxEntries events) (lastCall (events ++ [.call key now])) key now ∧
      ∀ first earlier between, events = first ++ .call key earlier :: between →
        (∀ e ∈ between, ¬IsCall key e) → now - ttlSec ≤ earlier →
        SeenAgain ttlSec maxEntries events first key earlier now := by
  intro h
  obtain ⟨-, hseen⟩ := h 10 1 twoSessions "a" 2 (by decide) (by decide) twoSessions_forward
  have hagain := hseen [] 0 [.write 0 1 [] none, .call "b" 1] rfl (by simp [IsCall])
    (by norm_num)
  have hother : ((after 10 1 twoSessions).getOrCreate "a" 2).1 ≠
      ((after 10 1 []).getOrCreate "a" 0).1 := by decide +kernel
  exact hother hagain.1

end ModelMeld
