import ModelMeld.Lib.Handles
import ModelMeld.Proof.SessionStore
import ModelMeld.Spec.StallShadow

/-!
# The stall shadow over whole runs

Both hooks share the store of sessions, and the sessions take turns in any
order. The store's part of a run is a run of the store (`store_run`), so what
holds of the store holds here.
-/

namespace ModelMeld

open Runs Handles

namespace SessionStallStore

variable {s : SessionStallStore} {ref : ℕ}

theorem write_write (f g : SessionStallState → SessionStallState) :
    (s.write ref f).write ref g = s.write ref (g ∘ f) := by
  unfold write
  rw [List.modify_modify_eq]

/-- A write is what it makes of the object. -/
theorem write_congr {f g : SessionStallState → SessionStallState}
    (h : f (s.object ref) = g (s.object ref)) : s.write ref f = s.write ref g := by
  unfold write
  congr 1
  apply List.ext_getElem?
  intro i
  rw [List.getElem?_modify, List.getElem?_modify]
  by_cases hi : ref = i
  · subst hi
    unfold object at h
    cases hobject : s.objects[ref]? with
    | none => rfl
    | some state =>
      rw [hobject, Option.getD_some] at h
      simp [h]
  · simp [hi]

/-- A change that leaves the time is a caller's write. -/
theorem write_eq_written {f : SessionStallState → SessionStallState}
    (hseen : ∀ state, (f state).lastSeen = state.lastSeen) :
    s.write ref f = s.write ref (written (f (s.object ref)).turnsSeen
      (f (s.object ref)).lastSignals (f (s.object ref)).shadowFiredTurn) := by
  apply write_congr
  have hkept := hseen (s.object ref)
  unfold written
  rw [← hkept]

theorem Tracks.lt_call {calls : String → Option ℚ} {t now : ℚ} (h : Tracks calls t s)
    (hle : t ≤ now) (hmax : 1 ≤ s.maxEntries) (key : String) :
    (s.getOrCreate key now).1 < (s.getOrCreate key now).2.objects.length := by
  rcases h.call_cases hle hmax key with ⟨held, hget, heq⟩ | ⟨-, d, -, heq⟩
  · have hlt : held < s.objects.length :=
      h.evictExpired.refs _ (((s.evictExpired now).entries.mem_entries_iff key held).2 hget)
    rw [heq]
    change held < (s.objects.modify held _).length
    rwa [List.length_modify]
  · rw [heq]
    change s.objects.length < (s.objects ++ [_]).length
    rw [List.length_append, List.length_singleton]
    exact Nat.lt_succ_self _

/-- A call stamps the object it returns and leaves the others. -/
theorem Tracks.object_call {calls : String → Option ℚ} {t now : ℚ} (h : Tracks calls t s)
    (hle : t ≤ now) (hmax : 1 ≤ s.maxEntries) (key : String) (r : ℕ) :
    (s.getOrCreate key now).2.object r =
      if r = (s.getOrCreate key now).1 then { s.object r with lastSeen := now } else s.object r := by
  rcases h.call_cases hle hmax key with ⟨held, hget, heq⟩ | ⟨-, d, -, heq⟩
  · have hlt : held < s.objects.length :=
      h.evictExpired.refs _ (((s.evictExpired now).entries.mem_entries_iff key held).2 hget)
    rw [heq]
    dsimp only
    rw [object_write]
    by_cases hr : r = held
    · subst hr
      rw [if_pos ⟨rfl, hlt⟩, if_pos rfl]
      rfl
    · rw [if_neg (fun hand => hr hand.1), if_neg hr]
      rfl
  · rw [heq]
    dsimp only
    change ((s.evictExpired now).create key now).object r = _
    rcases lt_trichotomy r s.objects.length with hlt | heq' | hgt
    · have hold : ((s.evictExpired now).create key now).object r = (s.evictExpired now).object r :=
        object_create_old hlt
      rw [hold, if_neg hlt.ne]
      rfl
    · subst heq'
      have hnew : ((s.evictExpired now).create key now).object s.objects.length =
        { lastSeen := now } := object_create_new
      have hnone : s.object s.objects.length = {} := by
        unfold object
        rw [List.getElem?_eq_none le_rfl, Option.getD_none]
      rw [hnew, hnone, if_pos rfl]
    · have hlength : ((s.evictExpired now).create key now).objects.length ≤ r := by
        change (s.objects ++ [_]).length ≤ r
        rw [List.length_append, List.length_singleton]
        omega
      unfold object
      rw [List.getElem?_eq_none hlength, List.getElem?_eq_none (by omega), if_neg hgt.ne']

/-- The object returned is the one under the key, or a new one. -/
theorem Tracks.given_call {calls : String → Option ℚ} {t now : ℚ} (h : Tracks calls t s)
    (hle : t ≤ now) (hmax : 1 ≤ s.maxEntries) (key : String) :
    (s.entries.get? key = some (s.getOrCreate key now).1 ∧
        now - s.ttlSec ≤ (s.object (s.getOrCreate key now).1).lastSeen) ∨
      (s.getOrCreate key now).1 = s.objects.length ∧
        ∀ r, s.entries.get? key = some r → (s.object r).lastSeen < now - s.ttlSec := by
  rcases h.call_cases hle hmax key with ⟨held, hget, heq⟩ | ⟨hnew, d, -, heq⟩
  · rw [heq]
    exact .inl (get?_evictExpired.1 hget)
  · rw [heq]
    refine .inr ⟨rfl, ?_⟩
    intro r hr
    by_contra hyoung
    have hkept := get?_evictExpired.2 ⟨hr, not_lt.1 hyoung⟩
    rw [hnew] at hkept
    cases hkept

/-- The entries after a call are its own and others of before. -/
theorem Tracks.entry_call {calls : String → Option ℚ} {t now : ℚ} (h : Tracks calls t s)
    (hle : t ≤ now) (hmax : 1 ≤ s.maxEntries) (key : String) {e : String × ℕ}
    (he : e ∈ (s.getOrCreate key now).2.entries.entries) :
    e = (key, (s.getOrCreate key now).1) ∨
      e ∈ s.entries.entries ∧ e.1 ≠ key ∧ e.2 ≠ (s.getOrCreate key now).1 := by
  have hsub : (s.evictExpired now).entries.entries.Sublist s.entries.entries := by
    rw [entries_evictExpired]
    exact List.filter_sublist
  rcases h.call_cases hle hmax key with ⟨held, hget, heq⟩ | ⟨hnew, d, hd, heq⟩
  · rw [heq] at he ⊢
    have hmem := hsub.subset he
    have hheld := hsub.subset (((s.evictExpired now).entries.mem_entries_iff key held).2 hget)
    by_cases hr : e.2 = held
    · exact .inl (List.inj_on_of_nodup_map h.apart hmem hheld hr)
    · refine .inr ⟨hmem, ?_, hr⟩
      intro hkey
      exact hr (congrArg Prod.snd (List.inj_on_of_nodup_map s.entries.nodup hmem hheld hkey))
  · rw [heq] at he ⊢
    have hmem := hd.sublist.subset he
    rw [entries_create hnew] at hmem
    rcases List.mem_append.1 hmem with hold | hlast
    · refine .inr ⟨hsub.subset hold, ?_, (h.refs e (hsub.subset hold)).ne⟩
      rintro rfl
      exact OrderedDict.not_mem_keys_of_lookup hnew (List.mem_map_of_mem hold)
    · exact .inl (List.mem_singleton.1 hlast)

/-- No object goes. -/
theorem Tracks.length_call {calls : String → Option ℚ} {t now : ℚ} (h : Tracks calls t s)
    (hle : t ≤ now) (hmax : 1 ≤ s.maxEntries) (key : String) :
    s.objects.length ≤ (s.getOrCreate key now).2.objects.length := by
  rcases h.call_cases hle hmax key with ⟨held, -, heq⟩ | ⟨-, d, -, heq⟩
  · rw [heq]
    change _ ≤ (s.objects.modify held _).length
    rw [List.length_modify]
  · rw [heq]
    change _ ≤ (s.objects ++ [_]).length
    rw [List.length_append]
    exact Nat.le_add_right _ _

end SessionStallStore

/-! ## One call -/

/-- What a turn makes of its session's object. -/
def shadowed (detected : Except IndexError StallDecision) (state : SessionStallState) :
    SessionStallState :=
  let turnsSeen := state.turnsSeen + 1
  match detected with
  | .error _ => { state with turnsSeen := turnsSeen }
  | .ok decision =>
    if decision.stalled then
      { state with
        turnsSeen := turnsSeen
        lastSignals := decision.signals
        shadowFiredTurn := some (state.shadowFiredTurn.getD turnsSeen) }
    else { state with turnsSeen := turnsSeen }

theorem lastSeen_shadowed (detected : Except IndexError StallDecision)
    (state : SessionStallState) : (shadowed detected state).lastSeen = state.lastSeen := by
  unfold shadowed
  cases detected with
  | error e => rfl
  | ok decision =>
    dsimp only
    split <;> rfl

theorem turnsSeen_shadowed (detected : Except IndexError StallDecision)
    (state : SessionStallState) : (shadowed detected state).turnsSeen = state.turnsSeen + 1 := by
  unfold shadowed
  cases detected with
  | error e => rfl
  | ok decision =>
    dsimp only
    split <;> rfl

/-- Whether the detector fires. -/
def Fires : Except IndexError StallDecision → Bool
  | .error _ => false
  | .ok decision => decision.stalled

/-- The header of a turn. -/
def shadowAnswer (turn : ℤ) :
    Except IndexError StallDecision → Except IndexError (Option String)
  | .error e => .error e
  | .ok decision =>
    .ok (if decision.stalled then some (stallShadowHeader turn decision.signals) else none)

/-- What is logged of a turn, where nothing was logged before. -/
def shadowLines (key : String) (turn : ℤ) : Except IndexError StallDecision → List StallLine
  | .error _ => []
  | .ok decision =>
    if decision.stalled then [{ session := key, turn := turn, signals := decision.signals }] else []

/-- **A turn reads and changes the object it is given only.** -/
theorem shadowTurn_eq (st : ShadowState) (key : String)
    (detected : Except IndexError StallDecision) {ref : ℕ}
    (href : ref < st.store.objects.length) :
    shadowTurn key detected ref st =
      (shadowAnswer ((st.store.object ref).turnsSeen + 1) detected,
        { store := st.store.write ref (shadowed detected)
          log := st.log ++ (if (st.store.object ref).shadowFiredTurn = none then
            shadowLines key ((st.store.object ref).turnsSeen + 1) detected else []) }) := by
  have hwritten : ∀ f : SessionStallState → SessionStallState,
      (st.store.write ref f).object ref = f (st.store.object ref) := by
    intro f
    rw [SessionStallStore.object_write, if_pos ⟨rfl, href⟩]
  cases detected with
  | error e =>
    simp only [shadowTurn, shadowAnswer, shadowLines, ite_self, List.append_nil]
    rfl
  | ok decision =>
    by_cases hstalled : decision.stalled = true
    · have hturn : ∀ state : SessionStallState, shadowed (.ok decision) state =
          { state with
            turnsSeen := state.turnsSeen + 1
            lastSignals := decision.signals
            shadowFiredTurn := some (state.shadowFiredTurn.getD (state.turnsSeen + 1)) } :=
        fun state => if_pos hstalled
      cases hfired : (st.store.object ref).shadowFiredTurn with
      | none =>
        simp only [shadowTurn, shadowAnswer, shadowLines, hstalled, hwritten, hfired,
          SessionStallStore.write_write, Function.comp_apply, Bool.not_true, Bool.false_eq_true,
          if_true, if_false]
        refine congrArg (fun store => (_, ShadowState.mk store _)) ?_
        apply SessionStallStore.write_congr
        rw [hturn, hfired]
        rfl
      | some turn =>
        simp only [shadowTurn, shadowAnswer, shadowLines, hstalled, hwritten, hfired,
          SessionStallStore.write_write, Function.comp_apply, Bool.not_true, Bool.false_eq_true,
          if_true, if_false,
          reduceCtorEq, List.append_nil]
        refine congrArg (fun store => (_, ShadowState.mk store _)) ?_
        apply SessionStallStore.write_congr
        rw [hturn, hfired, Option.getD_some, ← hfired]
        rfl
    · have hturn : shadowed (.ok decision) =
          fun state => { state with turnsSeen := state.turnsSeen + 1 } :=
        funext fun state => if_neg hstalled
      simp only [shadowTurn, shadowAnswer, shadowLines, hstalled, hturn, Bool.not_false,
        Bool.false_eq_true, if_true, if_false, ite_self, List.append_nil]

/-! ## Calls -/

namespace ShadowCall

/-- The state after a call. -/
def step (parts : KeyParts) (st : ShadowState) (call : ShadowCall) : ShadowState :=
  (call.hook parts st).2

theorem hook_eq (parts : KeyParts) (call : ShadowCall) : call.hook parts = call.shadow parts := by
  obtain ⟨request, headers, tenantId, env, now⟩ := call
  cases request with
  | messages body internalRequest => rfl
  | chat request => rfl

theorem step_eq (parts : KeyParts) (st : ShadowState) (call : ShadowCall) :
    step parts st call = (call.shadow parts st).2 := by
  unfold step
  rw [hook_eq]

/-- The object that a call is given. -/
def given (parts : KeyParts) (st : ShadowState) (call : ShadowCall) : Option ℕ :=
  if call.applies parts then some (st.store.getOrCreate (call.key parts) call.now).1 else none

/-- What a call makes of the object it is given. -/
def change (parts : KeyParts) (call : ShadowCall) (state : SessionStallState) :
    SessionStallState :=
  shadowed (call.detected parts) { state with lastSeen := call.now }

variable {parts : KeyParts} {st : ShadowState} {call : ShadowCall} {calls : String → Option ℚ}
  {t : ℚ}

theorem shadow_eq (h : SessionStallStore.Tracks calls t st.store) (hle : t ≤ call.now)
    (hmax : 1 ≤ st.store.maxEntries) (happlies : call.applies parts = true) {ref : ℕ}
    {store : SessionStallStore}
    (hcall : st.store.getOrCreate (call.key parts) call.now = (ref, store)) :
    call.shadow parts st =
      (shadowAnswer ((st.store.object ref).turnsSeen + 1) (call.detected parts),
        { store := store.write ref (shadowed (call.detected parts))
          log := st.log ++ (if (st.store.object ref).shadowFiredTurn = none then
            shadowLines (call.key parts) ((st.store.object ref).turnsSeen + 1)
              (call.detected parts) else []) }) := by
  have href := h.lt_call hle hmax (call.key parts)
  have hlaw := h.object_call hle hmax (call.key parts) ref
  rw [hcall] at href hlaw
  rw [if_pos rfl] at hlaw
  unfold shadow
  rw [if_pos happlies, hcall]
  dsimp only
  rw [shadowTurn_eq { st with store := store } _ _ href]
  dsimp only
  rw [hlaw]

theorem step_of_not_applies (hnot : call.applies parts = false) : step parts st call = st := by
  rw [step_eq]
  unfold shadow
  rw [hnot]
  rfl

theorem local_of_not_applies (hnot : call.applies parts = false) :
    Local (step parts) (given parts) (fun st r => st.store.object r) (change parts) st call := by
  intro r
  unfold given
  rw [step_of_not_applies hnot, hnot]
  rfl

/-- **A call changes the object it is given and no other.** -/
theorem local_step (h : SessionStallStore.Tracks calls t st.store) (hle : t ≤ call.now)
    (hmax : 1 ≤ st.store.maxEntries) :
    Local (step parts) (given parts) (fun st r => st.store.object r) (change parts) st call := by
  cases happlies : call.applies parts with
  | false => exact local_of_not_applies happlies
  | true =>
    intro r
    unfold given
    rcases hcall : st.store.getOrCreate (call.key parts) call.now with ⟨ref, store⟩
    have hlaw := h.object_call hle hmax (call.key parts) r
    have href := h.lt_call hle hmax (call.key parts)
    rw [hcall] at hlaw href
    rw [step_eq, shadow_eq h hle hmax happlies hcall]
    dsimp only at hlaw href ⊢
    rw [if_pos happlies, SessionStallStore.object_write]
    by_cases hr : r = ref
    · subst hr
      rw [if_pos ⟨rfl, href⟩, if_pos rfl, hlaw, if_pos rfl]
      rfl
    · have hother : some ref ≠ some r := fun heq => hr (Option.some.inj heq).symm
      rw [if_neg (fun hand => hr hand.1), if_neg hother, hlaw, if_neg hr]

/-- What a call is to the store: a call, and the caller's writes to the object. -/
def events (parts : KeyParts) (st : ShadowState) (call : ShadowCall) : List StallEvent :=
  if call.applies parts then
    let ref := (st.store.getOrCreate (call.key parts) call.now).1
    let state := change parts call (st.store.object ref)
    [.call (call.key parts) call.now,
      .write ref state.turnsSeen state.lastSignals state.shadowFiredTurn]
  else []

/-- **The store's part of a call is a run of the store.** -/
theorem store_step (h : SessionStallStore.Tracks calls t st.store) (hle : t ≤ call.now)
    (hmax : 1 ≤ st.store.maxEntries) :
    (step parts st call).store = run SessionStallStore.act st.store (events parts st call) := by
  unfold events
  cases happlies : call.applies parts with
  | false =>
    rw [step_of_not_applies happlies]
    rfl
  | true =>
    rcases hcall : st.store.getOrCreate (call.key parts) call.now with ⟨ref, store⟩
    have hlaw := h.object_call hle hmax (call.key parts) ref
    rw [hcall] at hlaw
    rw [if_pos rfl] at hlaw
    rw [step_eq, shadow_eq h hle hmax happlies hcall]
    dsimp only at hlaw ⊢
    rw [if_pos rfl, SessionStallStore.write_eq_written (lastSeen_shadowed _), hlaw]
    change _ = ((st.store.getOrCreate (call.key parts) call.now).2).write ref _
    rw [hcall]
    rfl

/-! ## Runs -/

/-- An empty store, and nothing logged. -/
def start (ttlSec : ℚ) (maxEntries : ℤ) : ShadowState :=
  { store := { ttlSec := ttlSec, maxEntries := maxEntries } }

/-- The state after some calls. -/
def after (parts : KeyParts) (ttlSec : ℚ) (maxEntries : ℤ) (cs : List ShadowCall) : ShadowState :=
  run (step parts) (start ttlSec maxEntries) cs

/-- What some calls are to the store. -/
def eventsOf (parts : KeyParts) : ShadowState → List ShadowCall → List StallEvent
  | _, [] => []
  | st, c :: cs => events parts st c ++ eventsOf parts (step parts st c) cs

/-- The store's clock does not go back. -/
def Forward (parts : KeyParts) (cs : List ShadowCall) : Prop :=
  ((cs.filter (applies parts)).map now).Pairwise (· ≤ ·)

section Run

variable {ttlSec : ℚ} {maxEntries : ℤ} {cs : List ShadowCall}

theorem eventsOf_append (st : ShadowState) (cs ds : List ShadowCall) :
    eventsOf parts st (cs ++ ds) =
      eventsOf parts st cs ++ eventsOf parts (run (step parts) st cs) ds := by
  induction cs generalizing st with
  | nil => rfl
  | cons c cs ih =>
    simp only [List.cons_append, eventsOf, run_cons, List.append_assoc]
    rw [ih]

theorem times_eventsOf (st : ShadowState) (cs : List ShadowCall) :
    (eventsOf parts st cs).filterMap StallEvent.time = (cs.filter (applies parts)).map now := by
  induction cs generalizing st with
  | nil => rfl
  | cons c cs ih =>
    rw [eventsOf, List.filterMap_append, ih]
    unfold events
    by_cases happlies : c.applies parts = true
    · rw [if_pos happlies, List.filter_cons_of_pos happlies]
      rfl
    · rw [if_neg happlies, List.filter_cons_of_neg happlies]
      rfl

/-- The store's clock is no later than the last call. -/
theorem Forward.concat (h : Forward parts (cs ++ [call])) : Forward parts cs ∧
    (call.applies parts = true → ∀ t ∈ (cs.filter (applies parts)).map now, t ≤ call.now) := by
  unfold Forward at h
  rw [List.filter_append, List.map_append, List.pairwise_append] at h
  refine ⟨h.1, ?_⟩
  intro happlies t ht
  refine h.2.2 t ht call.now ?_
  rw [List.filter_cons_of_pos happlies]
  exact List.mem_singleton_self _

/-- What a call after some others finds. -/
structure Finds (parts : KeyParts) (ttlSec : ℚ) (maxEntries : ℤ) (cs : List ShadowCall)
    (call : ShadowCall) (store : SessionStallStore) : Prop where
  tracks : store.Tracks (lastCall (eventsOf parts (start ttlSec maxEntries) cs)) call.now
  ttlSec : store.ttlSec = ttlSec
  maxEntries : store.maxEntries = maxEntries
  room : 1 ≤ store.maxEntries

theorem finds_of_eq (hmax : 1 ≤ maxEntries)
    (hstore : st.store =
      SessionStallStore.after ttlSec maxEntries (eventsOf parts (start ttlSec maxEntries) cs))
    (hforward : Forward parts (cs ++ [call])) (happlies : call.applies parts = true) :
    Finds parts ttlSec maxEntries cs call st.store := by
  obtain ⟨hbefore, hlater⟩ := hforward.concat
  have hsettings : st.store.ttlSec = ttlSec ∧ st.store.maxEntries = maxEntries := by
    rw [hstore]
    exact SessionStallStore.after_settings _
  refine ⟨?_, hsettings.1, hsettings.2, ?_⟩
  · rw [hstore]
    refine SessionStallStore.tracks_run hmax ?_ ?_
    · unfold ClockForward
      rw [times_eventsOf]
      exact hbefore
    · unfold SessionStallStore.NoLater
      rw [times_eventsOf]
      exact hlater happlies
  · rw [hsettings.2]
    exact hmax

theorem after_concat (cs : List ShadowCall) (call : ShadowCall) :
    after parts ttlSec maxEntries (cs ++ [call]) =
      step parts (after parts ttlSec maxEntries cs) call := by
  unfold after
  rw [run_append]
  rfl

/-- **The store's part of a run is a run of the store.** -/
theorem store_run (ttlSec : ℚ) (hmax : 1 ≤ maxEntries) (hforward : Forward parts cs) :
    (after parts ttlSec maxEntries cs).store =
      SessionStallStore.after ttlSec maxEntries (eventsOf parts (start ttlSec maxEntries) cs) := by
  induction cs using List.reverseRecOn with
  | nil => rfl
  | append_singleton cs c ih =>
    have hstore := ih hforward.concat.1
    rw [after_concat, eventsOf_append]
    by_cases happlies : c.applies parts = true
    · have hfinds := finds_of_eq hmax hstore hforward happlies
      rw [store_step hfinds.tracks le_rfl hfinds.room, eventsOf, eventsOf, List.append_nil]
      unfold SessionStallStore.after at hstore ⊢
      rw [run_append, ← hstore]
      rfl
    · rw [step_of_not_applies (by simpa using happlies), eventsOf, eventsOf, events,
        if_neg happlies, hstore, List.append_nil, List.append_nil]

theorem finds_after (ttlSec : ℚ) (hmax : 1 ≤ maxEntries) (hforward : Forward parts (cs ++ [call]))
    (happlies : call.applies parts = true) :
    Finds parts ttlSec maxEntries cs call (after parts ttlSec maxEntries cs).store :=
  finds_of_eq hmax (store_run ttlSec hmax hforward.concat.1) hforward happlies

/-- The calls of a run that were given an object. -/
def turnsOf (parts : KeyParts) (ttlSec : ℚ) (maxEntries : ℤ) (r : ℕ) (cs : List ShadowCall) :
    List ShadowCall :=
  givenTo (step parts) (given parts) r (start ttlSec maxEntries) cs

theorem turnsOf_concat (r : ℕ) (cs : List ShadowCall) (call : ShadowCall) :
    turnsOf parts ttlSec maxEntries r (cs ++ [call]) =
      turnsOf parts ttlSec maxEntries r cs ++
        (if given parts (after parts ttlSec maxEntries cs) call = some r then [call] else []) :=
  givenTo_concat _ _ _

theorem turnsOf_applies (happlies : call.applies parts = true) {ref : ℕ}
    {store : SessionStallStore}
    (hcall : (after parts ttlSec maxEntries cs).store.getOrCreate (call.key parts) call.now =
      (ref, store)) (r : ℕ) :
    turnsOf parts ttlSec maxEntries r (cs ++ [call]) =
      turnsOf parts ttlSec maxEntries r cs ++ (if ref = r then [call] else []) := by
  rw [turnsOf_concat]
  unfold given
  rw [if_pos happlies, hcall]
  simp only [Option.some.injEq]

theorem turnsOf_not_applies (hnot : call.applies parts = false) (r : ℕ) :
    turnsOf parts ttlSec maxEntries r (cs ++ [call]) = turnsOf parts ttlSec maxEntries r cs := by
  rw [turnsOf_concat]
  unfold given
  rw [hnot]
  exact List.append_nil _

/-- Each object is of one session: `turns` are the calls it was given to. -/
structure Owned (parts : KeyParts) (store : SessionStallStore) (turns : ℕ → List ShadowCall) :
    Prop where
  entry : ∀ e ∈ store.entries.entries, ∀ c ∈ turns e.2, c.key parts = e.1
  /-- What is not yet created was given to nobody. -/
  fresh : ∀ r, store.objects.length ≤ r → turns r = []
  alone : ∀ r, ∀ c ∈ turns r, ∀ d ∈ turns r, c.key parts = d.key parts

variable {store : SessionStallStore} {turns : ℕ → List ShadowCall}

/-- Before a call, its object was given to its session only. -/
theorem Owned.before (h : Owned parts store turns)
    (htracks : SessionStallStore.Tracks calls t store) (hle : t ≤ call.now)
    (hmax : 1 ≤ store.maxEntries) :
    ∀ c ∈ turns (store.getOrCreate (call.key parts) call.now).1,
      c.key parts = call.key parts := by
  rcases htracks.given_call hle hmax (call.key parts) with ⟨hget, -⟩ | ⟨hnew, -⟩
  · have hone := h.entry _ ((OrderedDict.mem_entries_iff _ _ _).2 hget)
    dsimp only at hone
    exact hone
  · rw [hnew, h.fresh _ le_rfl]
    intro c hc
    exact absurd hc List.not_mem_nil

theorem Owned.turn (h : Owned parts store turns)
    (htracks : SessionStallStore.Tracks calls t store) (hle : t ≤ call.now)
    (hmax : 1 ≤ store.maxEntries) {ref : ℕ} {store' : SessionStallStore}
    (hcall : store.getOrCreate (call.key parts) call.now = (ref, store'))
    (f : SessionStallState → SessionStallState) :
    Owned parts (store'.write ref f) (fun r => turns r ++ (if ref = r then [call] else [])) := by
  have hbefore := h.before htracks hle hmax
  have hlength := htracks.length_call hle hmax (call.key parts)
  have hlt := htracks.lt_call hle hmax (call.key parts)
  have hentry : ∀ e ∈ store'.entries.entries, e = (call.key parts, ref) ∨
      e ∈ store.entries.entries ∧ e.1 ≠ call.key parts ∧ e.2 ≠ ref := by
    intro e he
    have hcases := htracks.entry_call hle hmax (call.key parts) (e := e)
    rw [hcall] at hcases
    exact hcases he
  rw [hcall] at hbefore hlength hlt
  have hself : ∀ d ∈ turns ref ++ [call], d.key parts = call.key parts := by
    intro d hd
    rcases List.mem_append.1 hd with hold | hlast
    · exact hbefore d hold
    · rw [List.mem_singleton.1 hlast]
  constructor
  · intro e he d hd
    rcases hentry e he with rfl | ⟨hold, -, hother⟩
    · dsimp only at hd ⊢
      rw [if_pos rfl] at hd
      exact hself d hd
    · rw [if_neg (fun heq => hother heq.symm), List.append_nil] at hd
      exact h.entry e hold d hd
  · intro r hr
    change (store'.objects.modify ref f).length ≤ r at hr
    rw [List.length_modify] at hr
    have hne : ref ≠ r := (hlt.trans_le hr).ne
    rw [if_neg hne, List.append_nil]
    exact h.fresh r (hlength.trans hr)
  · intro r d hd d' hd'
    by_cases hr : ref = r
    · subst hr
      rw [if_pos rfl] at hd hd'
      rw [hself d hd, hself d' hd']
    · rw [if_neg hr, List.append_nil] at hd hd'
      exact h.alone r d hd d' hd'

theorem owned_run (ttlSec : ℚ) (hmax : 1 ≤ maxEntries) (hforward : Forward parts cs) :
    Owned parts (after parts ttlSec maxEntries cs).store
      (fun r => turnsOf parts ttlSec maxEntries r cs) := by
  induction cs using List.reverseRecOn with
  | nil => exact ⟨fun e he => absurd he List.not_mem_nil, fun r _ => rfl,
      fun r c hc => absurd hc List.not_mem_nil⟩
  | append_singleton cs c ih =>
    have howned := ih hforward.concat.1
    by_cases happlies : c.applies parts = true
    · have hfinds := finds_after ttlSec hmax hforward happlies
      rcases hcall : (after parts ttlSec maxEntries cs).store.getOrCreate (c.key parts) c.now with
        ⟨ref, store⟩
      have hstep := howned.turn hfinds.tracks le_rfl hfinds.room hcall (shadowed (c.detected parts))
      rw [after_concat]
      rw [step_eq, shadow_eq hfinds.tracks le_rfl hfinds.room happlies hcall]
      simp only [turnsOf_applies happlies hcall]
      exact hstep
    · have hnot : c.applies parts = false := by simpa using happlies
      rw [after_concat, step_of_not_applies hnot]
      simp only [turnsOf_not_applies hnot]
      exact howned

/-! ## An object -/

/-- What some calls make of a new object. -/
def lived (parts : KeyParts) (cs : List ShadowCall) : SessionStallState :=
  cs.foldl (fun state c => change parts c state) {}

theorem turnsSeen_lived : (lived parts cs).turnsSeen = cs.length := by
  induction cs using List.reverseRecOn with
  | nil => rfl
  | append_singleton cs c ih =>
    unfold lived at ih ⊢
    rw [List.foldl_append, List.foldl_cons, List.foldl_nil, List.length_append]
    conv_lhs => rw [change, turnsSeen_shadowed]
    push_cast
    rw [← ih]
    rfl

/-- The detector has not fired for an object before its first call that it fires on. -/
theorem fired_lived : (lived parts cs).shadowFiredTurn = none ↔
    ∀ c ∈ cs, Fires (c.detected parts) = false := by
  induction cs using List.reverseRecOn with
  | nil => exact ⟨fun _ c hc => absurd hc List.not_mem_nil, fun _ => rfl⟩
  | append_singleton cs c ih =>
    have hstep : (lived parts (cs ++ [c])).shadowFiredTurn = none ↔
        (lived parts cs).shadowFiredTurn = none ∧ Fires (c.detected parts) = false := by
      unfold lived
      rw [List.foldl_append, List.foldl_cons, List.foldl_nil]
      unfold change shadowed Fires
      cases c.detected parts with
      | error e => simp
      | ok decision => by_cases hstalled : decision.stalled = true <;> simp [hstalled]
    rw [hstep, ih, List.forall_mem_append, List.forall_mem_singleton]

theorem Forward.of_prefix {ds : List ShadowCall} (h : Forward parts cs) (hpre : ds <+: cs) :
    Forward parts ds :=
  List.Pairwise.sublist ((hpre.sublist.filter _).map _) h

/-- **An object is what the calls that were given it made of it.** -/
theorem object_run (ttlSec : ℚ) (hmax : 1 ≤ maxEntries) (hforward : Forward parts cs) (r : ℕ) :
    (after parts ttlSec maxEntries cs).store.object r =
      lived parts (turnsOf parts ttlSec maxEntries r cs) := by
  have hlocal : Along (step parts)
      (Local (step parts) (given parts) (fun st r => st.store.object r) (change parts))
      (start ttlSec maxEntries) cs := by
    apply along_of_prefix
    intro ds c hpre
    have hbefore := hforward.of_prefix hpre
    by_cases happlies : c.applies parts = true
    · have hfinds := finds_after ttlSec hmax hbefore happlies
      exact local_step hfinds.tracks le_rfl hfinds.room
    · exact local_of_not_applies (by simpa using happlies)
  exact run_cell hlocal r

/-! ## Two turns of a session -/

/-- A call of another session, or one that is not observed. -/
def Other (parts : KeyParts) (key : String) (c : ShadowCall) : Prop :=
  c.applies parts = true → c.key parts ≠ key

/-- As many other sessions as there is room for were called since a time. -/
def Outnumbered (parts : KeyParts) (maxEntries : ℤ) (cs : List ShadowCall) (key : String)
    (earlier : ℚ) : Prop :=
  ∃ others : List String, others.Nodup ∧ (others.length : ℤ) = maxEntries ∧ key ∉ others ∧
    ∀ k ∈ others, ∃ c ∈ cs, c.applies parts = true ∧ c.key parts = k ∧ earlier ≤ c.now

theorem not_isCall_events {key : String} (hother : Other parts key call) :
    ∀ e ∈ events parts st call, ¬SessionStallStore.IsCall key e := by
  intro e he
  unfold events at he
  by_cases happlies : call.applies parts = true
  · rw [if_pos happlies] at he
    simp only [List.mem_cons, List.not_mem_nil, or_false] at he
    rcases he with rfl | rfl
    · exact hother happlies
    · exact id
  · rw [if_neg happlies] at he
    exact absurd he List.not_mem_nil

theorem not_isCall_eventsOf {key : String} (hother : ∀ c ∈ cs, Other parts key c) :
    ∀ e ∈ eventsOf parts st cs, ¬SessionStallStore.IsCall key e := by
  induction cs generalizing st with
  | nil => exact fun e he => absurd he List.not_mem_nil
  | cons c cs ih =>
    intro e he
    rw [eventsOf] at he
    rcases List.mem_append.1 he with hone | hrest
    · exact not_isCall_events (hother c List.mem_cons_self) e hone
    · exact ih (fun c' hc' => hother c' (List.mem_cons_of_mem c hc')) e hrest

/-- A last call is a call. -/
theorem mem_of_lastCall {events : List StallEvent} {k : String} {t : ℚ}
    (h : lastCall events k = some t) : .call k t ∈ events := by
  induction events using List.reverseRecOn with
  | nil => cases h
  | append_singleton events e ih =>
    rw [SessionStallStore.lastCall_snoc] at h
    cases e with
    | write ref turnsSeen lastSignals shadowFiredTurn => exact List.mem_append_left _ (ih h)
    | call key now =>
      change Function.update (lastCall events) key (some now) k = some t at h
      by_cases hkey : k = key
      · rw [hkey, Function.update_self] at h
        rw [hkey, Option.some.inj h]
        exact List.mem_append_right _ (List.mem_singleton_self _)
      · rw [Function.update_of_ne hkey] at h
        exact List.mem_append_left _ (ih h)

theorem exists_of_mem_eventsOf {k : String} {t : ℚ} (h : .call k t ∈ eventsOf parts st cs) :
    ∃ c ∈ cs, c.applies parts = true ∧ c.key parts = k ∧ c.now = t := by
  induction cs generalizing st with
  | nil => exact absurd h List.not_mem_nil
  | cons c cs ih =>
    rw [eventsOf] at h
    rcases List.mem_append.1 h with hone | hrest
    · unfold events at hone
      by_cases happlies : c.applies parts = true
      · rw [if_pos happlies] at hone
        simp only [List.mem_cons, StallEvent.call.injEq, reduceCtorEq, List.not_mem_nil,
          or_false] at hone
        exact ⟨c, List.mem_cons_self, happlies, hone.1.symm, hone.2.symm⟩
      · rw [if_neg happlies] at hone
        exact absurd hone List.not_mem_nil
    · obtain ⟨d, hd, hfacts⟩ := ih hrest
      exact ⟨d, List.mem_cons_of_mem c hd, hfacts⟩

theorem outnumbered_of_crowded {key : String} {earlier : ℚ}
    (h : SessionStallStore.Crowded (lastCall (eventsOf parts st cs)) maxEntries key earlier) :
    Outnumbered parts maxEntries cs key earlier := by
  obtain ⟨others, hnodup, hlength, hnot, hlate⟩ := h
  refine ⟨others, hnodup, hlength, hnot, ?_⟩
  intro k hk
  obtain ⟨t, ht, hle⟩ := hlate k hk
  obtain ⟨c, hc, happlies, hkey, hnow⟩ := exists_of_mem_eventsOf (mem_of_lastCall ht)
  exact ⟨c, hc, happlies, hkey, hnow ▸ hle⟩

/-- The last call of a session is the last, when only others follow. -/
theorem lastCall_of_others {first between : List StallEvent} {key : String} {earlier : ℚ}
    (hother : ∀ e ∈ between, ¬SessionStallStore.IsCall key e) :
    lastCall (first ++ .call key earlier :: between) key = some earlier := by
  induction between using List.reverseRecOn with
  | nil =>
    rw [SessionStallStore.lastCall_snoc]
    exact Function.update_self _ _ _
  | append_singleton between e ih =>
    have hsplit : first ++ .call key earlier :: (between ++ [e]) =
        (first ++ .call key earlier :: between) ++ [e] := by simp
    rw [hsplit, SessionStallStore.lastCall_snoc]
    have hbefore := ih (fun e' he' => hother e' (List.mem_append_left _ he'))
    cases e with
    | write ref turnsSeen lastSignals shadowFiredTurn => exact hbefore
    | call k t =>
      have hne : key ≠ k := fun heq =>
        hother (.call k t) (List.mem_append_right _ (List.mem_singleton_self _)) heq.symm
      change Function.update (lastCall (first ++ .call key earlier :: between)) k (some t) key =
        some earlier
      rw [Function.update_of_ne hne, hbefore]

theorem entries_step (h : SessionStallStore.Tracks calls t st.store) (hle : t ≤ call.now)
    (hmax : 1 ≤ st.store.maxEntries) (happlies : call.applies parts = true) :
    (step parts st call).store.entries =
      (st.store.getOrCreate (call.key parts) call.now).2.entries := by
  rcases hcall : st.store.getOrCreate (call.key parts) call.now with ⟨ref, store⟩
  rw [step_eq, shadow_eq h hle hmax happlies hcall]
  rfl

/-- The object that a session's last call was given. -/
def heldBy (parts : KeyParts) (ttlSec : ℚ) (maxEntries : ℤ) (first : List ShadowCall)
    (last : ShadowCall) : ℕ :=
  ((after parts ttlSec maxEntries first).store.getOrCreate (last.key parts) last.now).1

variable {first between : List ShadowCall} {last : ShadowCall}

/-- Under a session's key there is no other object than its last call was given. -/
theorem entry_held (hmax : 1 ≤ maxEntries) (hforward : Forward parts (first ++ last :: between))
    (hlast : last.applies parts = true) (hother : ∀ c ∈ between, Other parts (last.key parts) c)
    {r : ℕ} (hr : (last.key parts, r) ∈
      (after parts ttlSec maxEntries (first ++ last :: between)).store.entries.entries) :
    r = heldBy parts ttlSec maxEntries first last := by
  induction between using List.reverseRecOn with
  | nil =>
    have hfinds := finds_after ttlSec hmax hforward hlast
    rw [after_concat, entries_step hfinds.tracks le_rfl hfinds.room hlast] at hr
    rcases hfinds.tracks.entry_call le_rfl hfinds.room _ hr with heq | ⟨-, hkey, -⟩
    · exact (Prod.mk.inj heq).2
    · dsimp only at hkey
      exact absurd rfl hkey
  | append_singleton between c ih =>
    have hsplit : first ++ last :: (between ++ [c]) = (first ++ last :: between) ++ [c] := by simp
    rw [hsplit] at hforward hr
    have hbefore := ih hforward.concat.1 (fun d hd => hother d (List.mem_append_left _ hd))
    rw [after_concat] at hr
    by_cases happlies : c.applies parts = true
    · have hfinds := finds_after ttlSec hmax hforward happlies
      rw [entries_step hfinds.tracks le_rfl hfinds.room happlies] at hr
      rcases hfinds.tracks.entry_call le_rfl hfinds.room _ hr with heq | ⟨hold, -, -⟩
      · exact absurd (Prod.mk.inj heq).1.symm
          (hother c (List.mem_append_right _ (List.mem_singleton_self _)) happlies)
      · exact hbefore hold
    · rw [step_of_not_applies (by simpa using happlies)] at hr
      exact hbefore hr

/-- While only others are called, nobody else is given the object. -/
theorem turnsOf_held (hmax : 1 ≤ maxEntries) (hforward : Forward parts (first ++ last :: between))
    (hlast : last.applies parts = true)
    (hother : ∀ c ∈ between, Other parts (last.key parts) c) :
    turnsOf parts ttlSec maxEntries (heldBy parts ttlSec maxEntries first last)
        (first ++ last :: between) =
      turnsOf parts ttlSec maxEntries (heldBy parts ttlSec maxEntries first last) first ++
        [last] := by
  have howned := owned_run ttlSec hmax hforward
  have hgiven : given parts (after parts ttlSec maxEntries first) last =
      some (heldBy parts ttlSec maxEntries first last) := by
    unfold given
    rw [if_pos hlast]
    rfl
  have hturns : turnsOf parts ttlSec maxEntries (heldBy parts ttlSec maxEntries first last)
      (first ++ last :: between) =
      turnsOf parts ttlSec maxEntries (heldBy parts ttlSec maxEntries first last) first ++
        last :: givenTo (step parts) (given parts) (heldBy parts ttlSec maxEntries first last)
          (step parts (after parts ttlSec maxEntries first) last) between := by
    unfold turnsOf
    rw [givenTo_append, givenTo]
    unfold after at hgiven
    rw [if_pos hgiven]
    rfl
  have hnone : givenTo (step parts) (given parts) (heldBy parts ttlSec maxEntries first last)
      (step parts (after parts ttlSec maxEntries first) last) between = [] := by
    rw [List.eq_nil_iff_forall_not_mem]
    intro c hc
    have hmem := (givenTo_sublist _ _).subset hc
    obtain ⟨st', hst'⟩ := exists_given hc
    have happlies : c.applies parts = true := by
      by_contra hnot
      unfold given at hst'
      rw [if_neg hnot] at hst'
      cases hst'
    have halone := howned.alone (heldBy parts ttlSec maxEntries first last)
    rw [hturns] at halone
    exact hother c hmem happlies (halone c (List.mem_append_right _ (List.mem_cons_of_mem _ hc))
      last (List.mem_append_right _ List.mem_cons_self))
  rw [hturns, hnone]

/-- How the turns of a session that calls again are counted: they go on from its last call's, or
start anew when that was too long ago or as many others as there is room for were called since. -/
def GoesOn (parts : KeyParts) (ttlSec : ℚ) (maxEntries : ℤ) (first between : List ShadowCall)
    (last call : ShadowCall) : Prop :=
  let cs := first ++ last :: between
  let turns := turnsOf parts ttlSec maxEntries (heldBy parts ttlSec maxEntries cs call) cs
  call.now - ttlSec ≤ last.now ∧
      turns = turnsOf parts ttlSec maxEntries (heldBy parts ttlSec maxEntries first last) first ++
        [last] ∨
    turns = [] ∧ (last.now < call.now - ttlSec ∨
      Outnumbered parts maxEntries cs (call.key parts) last.now)

theorem goes_on (httl : 0 ≤ ttlSec) (hmax : 1 ≤ maxEntries)
    (hforward : Forward parts ((first ++ last :: between) ++ [call]))
    (happlies : call.applies parts = true) (hlast : last.applies parts = true)
    (hkey : last.key parts = call.key parts)
    (hother : ∀ c ∈ between, Other parts (call.key parts) c) :
    GoesOn parts ttlSec maxEntries first between last call := by
  obtain ⟨hbefore, hlater⟩ := hforward.concat
  have howned := owned_run ttlSec hmax hbefore
  have hstore := store_run ttlSec hmax hbefore
  have hfinds := finds_after ttlSec hmax hforward happlies
  obtain ⟨events', hevents, hcalls⟩ : ∃ es,
      eventsOf parts (start ttlSec maxEntries) (first ++ last :: between) =
        eventsOf parts (start ttlSec maxEntries) first ++ .call (call.key parts) last.now :: es ∧
      ∀ e ∈ es, ¬SessionStallStore.IsCall (call.key parts) e := by
    rw [eventsOf_append, eventsOf]
    unfold events
    rw [if_pos hlast, hkey]
    refine ⟨_, rfl, ?_⟩
    intro e he
    rcases List.mem_cons.1 he with rfl | hrest
    · exact id
    · exact not_isCall_eventsOf hother e hrest
  rcases hfinds.tracks.given_call le_rfl hfinds.room (call.key parts) with
    ⟨hget, hyoung⟩ | ⟨hnew, hold⟩
  · have hmem := (OrderedDict.mem_entries_iff _ _ _).2 hget
    have hseen := hfinds.tracks.seen _ hmem
    dsimp only at hseen
    rw [hevents, lastCall_of_others hcalls] at hseen
    have hother' : ∀ c ∈ between, Other parts (last.key parts) c := by
      rw [hkey]
      exact hother
    rw [← hkey] at hmem
    have hheld := entry_held hmax hbefore hlast hother' hmem
    refine .inl ⟨?_, ?_⟩
    · rw [hfinds.ttlSec] at hyoung
      rw [Option.some.inj hseen]
      exact hyoung
    · have hsame : heldBy parts ttlSec maxEntries (first ++ last :: between) call =
          heldBy parts ttlSec maxEntries first last := by
        rw [← hheld, hkey]
        rfl
      rw [hsame]
      exact turnsOf_held hmax hbefore hlast hother'
  · refine .inr ⟨?_, ?_⟩
    · have hsame : heldBy parts ttlSec maxEntries (first ++ last :: between) call =
          (after parts ttlSec maxEntries (first ++ last :: between)).store.objects.length := hnew
      rw [hsame]
      exact howned.fresh _ le_rfl
    · by_cases hyoung : call.now - ttlSec ≤ last.now
      · refine .inr ?_
        have hclock : ClockForward (eventsOf parts (start ttlSec maxEntries) first ++
            .call (call.key parts) last.now :: events') := by
          unfold ClockForward
          rw [← hevents, times_eventsOf]
          exact hbefore
        have hnolater : SessionStallStore.NoLater (eventsOf parts (start ttlSec maxEntries) first ++
            .call (call.key parts) last.now :: events') call.now := by
          unfold SessionStallStore.NoLater
          rw [← hevents, times_eventsOf]
          exact hlater happlies
        have hholds := SessionStallStore.holds_run httl hmax hclock hcalls hnolater hyoung
        rw [← hevents, ← hstore] at hholds
        rcases hholds with ⟨hget, hseen⟩ | hcrowded
        · have htoo := hold _ hget
          rw [hseen, hfinds.ttlSec] at htoo
          exact absurd hyoung (not_le.2 htoo)
        · rw [hfinds.maxEntries] at hcrowded
          exact outnumbered_of_crowded hcrowded
      · exact .inl (not_le.1 hyoung)

end Run

end ShadowCall

open ShadowCall in
/-- **The stall shadow over whole runs.** The calls that were given one object are of one session.
A call's header counts them and shows what the detector says of this call; a line is logged at the
first of them that the detector fires on, and never again. The count goes on from the session's
last call, unless that was too long ago or as many others as there is room for were called since. -/
theorem stall_shadow_law {parts : KeyParts} {ttlSec : ℚ} {maxEntries : ℤ} (httl : 0 ≤ ttlSec)
    (hmax : 1 ≤ maxEntries) {cs : List ShadowCall} {call : ShadowCall}
    (hforward : Forward parts (cs ++ [call])) (happlies : call.applies parts = true) :
    let st := after parts ttlSec maxEntries cs
    let turns := turnsOf parts ttlSec maxEntries (heldBy parts ttlSec maxEntries cs call) cs
    (∀ c ∈ turns, c.key parts = call.key parts) ∧
    (call.hook parts st).1 = shadowAnswer (turns.length + 1) (call.detected parts) ∧
    (call.hook parts st).2.log =
      st.log ++ (if ∀ c ∈ turns, Fires (c.detected parts) = false then
        shadowLines (call.key parts) (turns.length + 1) (call.detected parts) else []) ∧
    ∀ first between last, cs = first ++ last :: between → last.applies parts = true →
      last.key parts = call.key parts → (∀ c ∈ between, Other parts (call.key parts) c) →
      GoesOn parts ttlSec maxEntries first between last call := by
  dsimp only
  have hbefore := hforward.concat.1
  have hfinds := finds_after ttlSec hmax hforward happlies
  have howned := (owned_run ttlSec hmax hbefore).before hfinds.tracks le_rfl hfinds.room
  have hobject := object_run ttlSec hmax hbefore
    (heldBy parts ttlSec maxEntries cs call)
  have hshadow := shadow_eq hfinds.tracks le_rfl hfinds.room happlies (Prod.mk.eta).symm
  have hheld : ((after parts ttlSec maxEntries cs).store.getOrCreate (call.key parts) call.now).1 =
      heldBy parts ttlSec maxEntries cs call := rfl
  rw [hheld, hobject, turnsSeen_lived] at hshadow
  rw [hook_eq, hshadow]
  refine ⟨howned, rfl, ?_, ?_⟩
  · simp only [fired_lived]
  · rintro first between last rfl hlast hkey hother
    exact goes_on httl hmax hforward happlies hlast hkey hother

/-! ## Two sessions -/

/-- The hook is enabled, with the thresholds by default. -/
def shadowOn : Environ where
  get name := if name = "MODELMELD_STALL_SHADOW" then some "on" else none
  intOfText _ := none

/-- A request on an auto alias, of a session. -/
def askedIn (session : String) (now : ℚ) : ShadowCall where
  request := .chat
    { model := "anthropic/modelmeld-auto", messages := [.user { content := .str "hi" }] }
  headers := [("x-modelmeld-session-id", session)]
  tenantId := "__anonymous__"
  env := shadowOn
  now := now

/-- The texts are in lower case, and the sessions have ids. -/
def namedSessions : KeyParts := { lower := id, sha256 := id }

theorem askedIn_applies (session : String) (now : ℚ) :
    (askedIn session now).applies namedSessions = true := by
  have hon : stallShadowEnabled id shadowOn = true := by decide
  have hauto : decide (resolvePolicy "anthropic/modelmeld-auto" = some .auto) = true := by
    decide
  unfold ShadowCall.applies
  rw [Bool.and_eq_true]
  exact ⟨hon, hauto⟩

theorem askedIn_forward : ShadowCall.Forward namedSessions
    ([askedIn "a" 0, askedIn "b" 1] ++ [askedIn "a" 2]) := by
  unfold ShadowCall.Forward
  simp only [List.cons_append, List.nil_append, List.filter_cons_of_pos (askedIn_applies _ _),
    List.filter_nil]
  change List.Pairwise (· ≤ ·) [(0 : ℚ), 1, 2]
  decide

open ShadowCall in
theorem stall_shadow_law_two_sessions :
    let cs := [askedIn "a" 0, askedIn "b" 1]
    let call := askedIn "a" 2
    let st := after namedSessions 1800 10000 cs
    let turns := turnsOf namedSessions 1800 10000 (heldBy namedSessions 1800 10000 cs call) cs
    (∀ c ∈ turns, c.key namedSessions = call.key namedSessions) ∧
    (call.hook namedSessions st).1 =
      shadowAnswer (turns.length + 1) (call.detected namedSessions) ∧
    (call.hook namedSessions st).2.log =
      st.log ++ (if ∀ c ∈ turns, Fires (c.detected namedSessions) = false then
        shadowLines (call.key namedSessions) (turns.length + 1) (call.detected namedSessions)
        else []) ∧
    ∀ first between last, cs = first ++ last :: between → last.applies namedSessions = true →
      last.key namedSessions = call.key namedSessions →
      (∀ c ∈ between, Other namedSessions (call.key namedSessions) c) →
      GoesOn namedSessions 1800 10000 first between last call :=
  stall_shadow_law (by decide) (by decide) askedIn_forward (askedIn_applies "a" 2)

end ModelMeld
