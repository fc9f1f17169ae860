import ModelMeld.Spec.Tiered
import ModelMeld.Lib.Runs
import ModelMeld.Lib.Streaks

/-!
# Tiers are skipped for cause

* `write_owned`, `stateOf_write_other`: each state object belongs to one tier,
  however the calls of the router are interleaved;
* `sound_step`: one step of one request keeps what the objects say in line with
  what has come back from the probes and the calls;
* `skipped_for_cause`: in a run of requests in which no call but a failing one
  ends while its tier has failures counted, no failure of a passthrough is
  counted, and no probe finds its object replaced by one that says unhealthy, a
  tier is skipped as unhealthy only when its latest probe said so or its latest
  calls all failed, as many as the threshold.
-/

namespace ModelMeld

open History

/-! ## State objects -/

namespace TierHealth

variable {h : TierHealth} {tier tier' : Tier} {held : Option ℕ} {f : HealthState → HealthState}

/-- The objects in the cache have been made, each for one tier. -/
structure Owned (h : TierHealth) : Prop where
  made : ∀ tier ref, h.cache tier = some ref → ref < h.made
  apart : ∀ tier tier' ref, h.cache tier = some ref → h.cache tier' = some ref → tier = tier'

/-- A reference that the cache had for a tier: no other tier has it now. -/
def Holds (h : TierHealth) (tier : Tier) (held : Option ℕ) : Prop :=
  ∀ ref, held = some ref → ref < h.made ∧ ∀ tier', h.cache tier' = some ref → tier' = tier

theorem Owned.holds_cache (howned : h.Owned) (tier : Tier) : h.Holds tier (h.cache tier) := by
  intro ref href
  exact ⟨howned.made tier ref href, fun tier' h' => howned.apart tier' tier ref h' href⟩

/-- A write keeps every object with its tier. -/
theorem write_owned (howned : h.Owned) : (h.write tier held f).Owned := by
  unfold write
  cases held with
  | some ref => exact ⟨howned.made, howned.apart⟩
  | none =>
    constructor
    · intro t ref href
      by_cases ht : t = tier
      · subst ht
        simp only [create, Function.update_self, Option.some.injEq] at href ⊢
        omega
      · simp only [create, Function.update_of_ne ht] at href ⊢
        have hmade := howned.made t ref href
        omega
    · intro t t' ref href href'
      by_cases ht : t = tier
      · by_cases ht' : t' = tier
        · rw [ht, ht']
        · -- an old reference is not the new one
          simp only [create, ht, Function.update_self, Function.update_of_ne ht',
            Option.some.injEq] at href href'
          have hmade := howned.made t' ref href'
          omega
      · by_cases ht' : t' = tier
        · simp only [create, ht', Function.update_self, Function.update_of_ne ht,
            Option.some.injEq] at href href'
          have hmade := howned.made t ref href
          omega
        · simp only [create, Function.update_of_ne ht, Function.update_of_ne ht'] at href href'
          exact howned.apart t t' ref href href'

/-- A reference stays with its tier. -/
theorem write_holds {held' : Option ℕ} (hholds : h.Holds tier' held') :
    (h.write tier held f).Holds tier' held' := by
  intro ref href
  obtain ⟨hmade, howner⟩ := hholds ref href
  unfold write
  cases held with
  | some _ => exact ⟨hmade, howner⟩
  | none =>
    refine ⟨Nat.lt_succ_of_lt hmade, ?_⟩
    intro t ht
    by_cases htier : t = tier
    · subst htier
      simp only [create, Function.update_self, Option.some.injEq] at ht
      omega
    · simp only [create, Function.update_of_ne htier] at ht
      exact howner t ht

/-- A write leaves the other tier as it was. -/
theorem stateOf_write_other (howned : h.Owned) (hholds : h.Holds tier held) (hne : tier' ≠ tier) :
    (h.write tier held f).stateOf tier' = h.stateOf tier' := by
  unfold write stateOf
  cases held with
  | none =>
    simp only [create, Function.update_of_ne hne]
    cases hcache : h.cache tier' with
    | none => rfl
    | some ref =>
      have hmade := howned.made tier' ref hcache
      -- the new object is of no other tier
      have hold : ref ≠ h.made := by omega
      simp [Function.update_of_ne hold]
  | some ref =>
    simp only [assign]
    cases hcache : h.cache tier' with
    | none => rfl
    | some ref' =>
      -- a reference held for a tier is of no other
      have hother : ref' ≠ ref := by
        rintro rfl
        exact hne ((hholds ref' rfl).2 tier' hcache)
      simp [Function.update_of_ne hother]

theorem stateOf_write_none : (h.write tier none f).stateOf tier = some (f {}) := by
  simp [write, stateOf, create]

theorem stateOf_write_some {ref : ℕ} :
    (h.write tier (some ref) f).stateOf tier =
      if h.cache tier = some ref then some (f (h.objects ref)) else h.stateOf tier := by
  unfold write stateOf
  simp only [assign]
  split
  · rename_i hcache
    simp [hcache]
  · rename_i hcache
    cases hnow : h.cache tier with
    | none => rfl
    | some ref' =>
      have hother : ref' ≠ ref := by
        rintro rfl
        exact hcache hnow
      simp [Function.update_of_ne hother]

/-- A write through the reference in the cache. -/
theorem stateOf_write_cache :
    (h.write tier (h.cache tier) f).stateOf tier = some (f ((h.stateOf tier).getD {})) := by
  cases hcache : h.cache tier with
  | none =>
    rw [stateOf_write_none]
    simp [stateOf, hcache]
  | some ref =>
    rw [stateOf_write_some, if_pos hcache]
    simp [stateOf, hcache]

/-- **`record_success` would reset the counter.** -/
theorem failures_recordSuccess (h : TierHealth) (tier : Tier) (now : ℚ) :
    (h.recordSuccess tier now).failures tier = 0 := by
  unfold recordSuccess failures stateOf
  cases hcache : h.cache tier with
  | none => simp [hcache]
  | some ref => simp [assign, hcache]

end TierHealth

/-! ## What is claimed of a run -/

/-- A call that failed with an error that is not permanent. -/
def TierCall.Failed (call : TierCall) : Prop := call.outcome.isCounted = true

instance : DecidablePred TierCall.Failed := fun call =>
  inferInstanceAs (Decidable (call.outcome.isCounted = true))

/-- A tier was skipped for cause: its latest probe answered that it is unhealthy, or its latest
calls all failed, as many as the threshold. -/
def TierSkip.ForCause (threshold : ℕ) (skip : TierSkip) : Prop :=
  skip.lastProbe = some false ∨ Streak TierCall.Failed threshold skip.calls

instance (threshold : ℕ) : DecidablePred (TierSkip.ForCause threshold) := fun skip =>
  inferInstanceAs (Decidable (skip.lastProbe = some false ∨ _))

/-- Every tier was skipped for cause, and every call that succeeded left its tier's counter at
zero. -/
structure TierState.Reasonable (threshold : ℕ) (st : TierState) : Prop where
  skips : ∀ skip ∈ st.skips, skip.ForCause threshold
  resets : ∀ tier, ∀ call ∈ st.calls tier, call.outcome = .ok () → call.failures = 0

/-- The object a probe will write to is no longer the tier's, and the one that is says that the
tier is unhealthy. -/
def TierHealth.replaced (h : TierHealth) (probe : TierProbe) : Bool :=
  probe.held.isSome && decide (h.cache probe.tier ≠ probe.held) &&
    !((h.stateOf probe.tier).map HealthState.healthy).getD true

namespace TieredRouter

/-- A step at which the counters stay in line with the calls: a call to a tier ends without a
failure to count only while none is counted, no failure of a passthrough is to be counted, and a
probe that answers that its tier is healthy finds no object that says otherwise in place of its
own. -/
def inLine (st : TierState) (e : ℕ × TierEvent) : Bool :=
  match st.tasks e.1, e.2 with
  | .dispatched _ _ .passthrough, .ended outcome _ _ => !outcome.isCounted
  | .dispatched _ decision _, .ended outcome _ _ =>
    outcome.isCounted || st.health.failures decision.tier == 0
  | .probing _ _ probe, .answer true _ => !st.health.replaced probe
  | _, _ => true

/-! ## The invariant -/

/-- What a state object says is in line with the probes and the calls of its tier. -/
structure InLine (threshold : ℕ) (lastProbe : Option Bool) (calls : List TierCall)
    (state : HealthState) : Prop where
  unhealthy : state.healthy = false → lastProbe = some false ∨ threshold ≤ state.consecutiveFailures
  failed : Streak TierCall.Failed state.consecutiveFailures calls

/-- **The invariant of a run.** -/
structure Sound (r : TieredRouter) (st : TierState) : Prop where
  owned : st.health.Owned
  held : ∀ q model walk probe, st.tasks q = .probing model walk probe →
    st.health.Holds probe.tier probe.held
  inLine : ∀ tier state, st.health.stateOf tier = some state →
    InLine r.unhealthyThreshold (st.lastProbe tier) (st.calls tier) state
  reasonable : st.Reasonable r.unhealthyThreshold

variable {r : TieredRouter} {st : TierState} {q : ℕ} {model : String}

theorem sound_start (r : TieredRouter) : r.Sound {} where
  owned := ⟨by rintro tier ref ⟨⟩, by rintro tier tier' ref ⟨⟩⟩
  held := by rintro q model walk probe ⟨⟩
  inLine := by rintro tier state ⟨⟩
  reasonable := ⟨by rintro skip ⟨⟩, by rintro tier call ⟨⟩⟩

/-! ### A stretch of a call of the router -/

/-- What a stretch leaves behind: each tier it skipped had a probe that said so, or its object
does, and the probe it awaits holds the object in the cache. -/
structure Fits (st : TierState) (s : TierStretch) : Prop where
  unhealthy : ∀ tier ∈ s.unhealthy, st.lastProbe tier = some false ∨
    ∃ state, st.health.stateOf tier = some state ∧ state.healthy = false
  waiting : ∀ walk probe, s.progress = .waiting walk probe →
    probe.held = st.health.cache probe.tier

/-- A known answer is that of the object in the cache. -/
theorem unhealthy_of_known {tier : Tier} {now : ℚ}
    (h : r.knownHealth st.health tier now = some false) :
    ∃ state, st.health.stateOf tier = some state ∧ state.healthy = false := by
  unfold knownHealth at h
  split at h
  · split at h
    · rename_i state hstate
      split at h
      · exact ⟨state, hstate, Option.some.inj h⟩
      · cases h
    · cases h
  · cases h

/-- A stretch that has skipped one more tier. -/
theorem Fits.after {s : TierStretch} (hfits : Fits st s) {tier : Tier}
    (htier : st.lastProbe tier = some false ∨
      ∃ state, st.health.stateOf tier = some state ∧ state.healthy = false) :
    Fits st (s.after tier) := by
  refine ⟨?_, hfits.waiting⟩
  intro t ht
  rcases List.mem_cons.1 ht with rfl | ht
  · exact htier
  · exact hfits.unhealthy t ht

/-- A stretch that ends a call of the router. -/
theorem fits_of_over {progress : TierProgress} (h : ∀ walk probe, progress ≠ .waiting walk probe) :
    Fits st { progress := progress } where
  unhealthy := fun _ ht => absurd ht List.not_mem_nil
  waiting := fun walk probe hw => absurd hw (h walk probe)

/-- A stretch up to a probe of the object in the cache. -/
theorem fits_of_waiting (walk : TierWalk) (tier : Tier) (adapter : ProviderAdapter) (started : ℚ) :
    Fits st { progress := .waiting walk ⟨tier, adapter, st.health.cache tier, started⟩ } where
  unhealthy := fun _ ht => absurd ht List.not_mem_nil
  waiting := by
    intro walk' probe hw
    cases hw
    rfl

theorem fits_walkOn (now : Tier → ℚ) (preferred : Tier) (scout : Option ScoutDecision) :
    ∀ (tiers : List Tier) (skipped : List String),
      Fits st (r.walkOn st.health now preferred scout tiers skipped) := by
  intro tiers
  induction tiers with
  | nil => intro skipped; exact fits_of_over (fun walk probe h => nomatch h)
  | cons tier rest ih =>
    intro skipped
    unfold walkOn
    cases r.adapters tier with
    | none => exact ih _
    | some adapter =>
      simp only
      cases hknown : r.knownHealth st.health tier (now tier) with
      | none =>
        -- the tier is probed: the walk stops here with the object in the cache
        exact fits_of_waiting _ _ _ _
      | some healthy =>
        cases healthy with
        | true => exact fits_of_over (fun walk probe h => nomatch h)
        | false => exact (ih _).after (Or.inr (unhealthy_of_known hknown))

theorem fits_beginFailover (failed : RoutingDecision) (now : Tier → ℚ) :
    Fits st (r.beginFailover st.health failed model now) := by
  unfold beginFailover
  simp only
  cases r.adapters failed.tier.other with
  | none => exact fits_of_over (fun walk probe h => nomatch h)
  | some adapter =>
    simp only
    cases hknown : r.knownHealth st.health failed.tier.other (now failed.tier.other) with
    | none => exact fits_of_waiting _ _ _ _
    | some healthy =>
      cases healthy with
      | true => exact fits_of_over (fun walk probe h => nomatch h)
      | false =>
        have hover : Fits st { progress := .failedOver none } :=
          fits_of_over (fun walk probe h => nomatch h)
        exact hover.after (Or.inr (unhealthy_of_known hknown))

/-- After a probe the walk goes on; a tier whose probe said that it is unhealthy is skipped. -/
theorem fits_proceed {probe : TierProbe} {healthy : Bool} (now : Tier → ℚ) (walk : TierWalk)
    (hprobed : st.lastProbe probe.tier = some healthy) :
    Fits st (r.proceed st.health model probe healthy now walk) := by
  cases healthy with
  | true =>
    cases walk with
    | route preferred scout rest skipped => exact fits_of_over (fun walk probe h => nomatch h)
    | failover failed => exact fits_of_over (fun walk probe h => nomatch h)
  | false =>
    cases walk with
    | route preferred scout rest skipped =>
      exact (fits_walkOn now preferred scout rest _).after (Or.inl hprobed)
    | failover failed =>
      have hover : Fits st { progress := .failedOver none } :=
        fits_of_over (fun walk probe h => nomatch h)
      exact hover.after (Or.inl hprobed)

theorem waiting_of_task {progress : TierProgress} {model' : String} {walk : TierWalk}
    {probe : TierProbe} (h : progress.task model = .probing model' walk probe) :
    progress = .waiting walk probe := by
  cases progress with
  | waiting walk' probe' => cases h; rfl
  | routed result => cases result <;> cases h
  | failedOver fallback => cases fallback <;> cases h

/-- **A stretch keeps the invariant.** -/
theorem sound_stretch (h : r.Sound st) {s : TierStretch} (hfits : Fits st s) :
    r.Sound (st.stretch q model s) where
  owned := h.owned
  held := by
    intro q' model' walk probe htask
    by_cases hq : q' = q
    · subst hq
      have hnow : s.progress.task model = .probing model' walk probe := by
        simpa [TierState.stretch] using htask
      rw [hfits.waiting walk probe (waiting_of_task hnow)]
      exact h.owned.holds_cache probe.tier
    · have hold : st.tasks q' = .probing model' walk probe := by
        simpa [TierState.stretch, Function.update_of_ne hq] using htask
      exact h.held q' model' walk probe hold
  inLine := h.inLine
  reasonable := by
    refine ⟨?_, h.reasonable.resets⟩
    intro skip hskip
    rcases List.mem_append.1 hskip with hold | hnew
    · exact h.reasonable.skips skip hold
    · obtain ⟨tier, htier, rfl⟩ := List.mem_map.1 hnew
      rcases hfits.unhealthy tier htier with hprobe | ⟨state, hstate, hunhealthy⟩
      · exact Or.inl hprobe
      · -- what the object says is in line with the probes and the calls
        have hline := h.inLine tier state hstate
        rcases hline.unhealthy hunhealthy with hprobe | hcount
        · exact Or.inl hprobe
        · exact Or.inr (hline.failed.mono hcount)

/-- A request that does not await a probe. -/
theorem sound_task (h : r.Sound st) {task : TierTask}
    (htask : ∀ model walk probe, task ≠ .probing model walk probe) :
    r.Sound { st with tasks := Function.update st.tasks q task } where
  owned := h.owned
  held := by
    intro q' model' walk probe hnow
    change Function.update st.tasks q task q' = _ at hnow
    by_cases hq : q' = q
    · subst hq
      rw [Function.update_self] at hnow
      exact absurd hnow (htask model' walk probe)
    · rw [Function.update_of_ne hq] at hnow
      exact h.held q' model' walk probe hnow
  inLine := h.inLine
  reasonable := ⟨h.reasonable.skips, h.reasonable.resets⟩

theorem sound_finish (h : r.Sound st) : r.Sound (st.finish q) :=
  sound_task h (by rintro model walk probe ⟨⟩)

/-! ### A probe -/

/-- The state after the answer of a probe, before the walk goes on. -/
def answered (st : TierState) (probe : TierProbe) (healthy : Bool) : TierState :=
  { st with
    health := st.health.probed probe.tier probe.held probe.askedAt healthy
    lastProbe := Function.update st.lastProbe probe.tier (some healthy) }

/-- What a probe writes is in line with it. -/
theorem inLine_probed {state : HealthState} {threshold : ℕ} {calls : List TierCall} {askedAt : ℚ}
    {healthy : Bool} (hfailed : Streak TierCall.Failed state.consecutiveFailures calls) :
    InLine threshold (some healthy) calls (state.afterProbe askedAt healthy) where
  unhealthy := fun hunhealthy => Or.inl (congrArg some hunhealthy)
  failed := by
    cases healthy with
    | true => exact streak_zero
    | false => exact hfailed

theorem sound_answered (h : r.Sound st) {walk : TierWalk} {probe : TierProbe} {healthy : Bool}
    (htask : st.tasks q = .probing model walk probe)
    (hline : healthy = true → st.health.replaced probe = false) :
    r.Sound (answered st probe healthy) := by
  have hholds := h.held q model walk probe htask
  refine ⟨?_, ?_, ?_, ⟨h.reasonable.skips, h.reasonable.resets⟩⟩
  · change (st.health.probed probe.tier probe.held probe.askedAt healthy).Owned
    exact TierHealth.write_owned h.owned
  · intro q' model' walk' probe' htask'
    change (st.health.probed probe.tier probe.held probe.askedAt healthy).Holds probe'.tier
      probe'.held
    exact TierHealth.write_holds (h.held q' model' walk' probe' htask')
  · intro tier state hstate
    by_cases htier : tier = probe.tier
    · subst htier
      have hprobe : (answered st probe healthy).lastProbe probe.tier = some healthy :=
        Function.update_self _ _ _
      rw [hprobe]
      change (st.health.probed probe.tier probe.held probe.askedAt healthy).stateOf probe.tier =
        some state at hstate
      unfold TierHealth.probed at hstate
      cases hheld : probe.held with
      | none =>
        rw [hheld, TierHealth.stateOf_write_none] at hstate
        -- a first object, with no failure counted
        cases hstate
        exact inLine_probed streak_zero
      | some ref =>
        rw [hheld, TierHealth.stateOf_write_some] at hstate
        split at hstate
        · rename_i hcache
          cases hstate
          have hold : st.health.stateOf probe.tier = some (st.health.objects ref) := by
            unfold TierHealth.stateOf
            rw [hcache]
            rfl
          exact inLine_probed (h.inLine probe.tier _ hold).failed
        · -- the object has been replaced: the probe is not written to the cached one
          rename_i hcache
          have hold := h.inLine probe.tier state hstate
          refine ⟨?_, hold.failed⟩
          intro hunhealthy
          cases healthy with
          | false => exact Or.inl rfl
          | true =>
            have hreplaced : st.health.replaced probe = true := by
              unfold TierHealth.replaced
              simp [hheld, hcache, hstate, hunhealthy]
            rw [hline rfl] at hreplaced
            cases hreplaced
    · have hprobe : (answered st probe healthy).lastProbe tier = st.lastProbe tier :=
        Function.update_of_ne htier _ _
      change (st.health.probed probe.tier probe.held probe.askedAt healthy).stateOf tier =
        some state at hstate
      unfold TierHealth.probed at hstate
      rw [TierHealth.stateOf_write_other h.owned hholds htier] at hstate
      rw [hprobe]
      exact h.inLine tier state hstate

/-! ### The end of a call -/

/-- What a counted failure writes is in line with it. -/
theorem inLine_counted {state : HealthState} {threshold : ℕ} {lastProbe : Option Bool}
    {calls : List TierCall} {now : ℚ} {call : TierCall} (hcall : call.Failed)
    (hline : InLine threshold lastProbe calls state) :
    InLine threshold lastProbe (call :: calls) (state.afterFailure threshold now) where
  unhealthy := by
    intro hunhealthy
    simp only [HealthState.afterFailure, Bool.and_eq_false_iff,
      decide_eq_false_iff_not] at hunhealthy ⊢
    -- the tier was unhealthy before, or this failure made it so
    rcases hunhealthy with hbefore | hnow
    · rcases hline.unhealthy hbefore with hprobe | hcount
      · exact Or.inl hprobe
      · exact Or.inr (by omega)
    · exact Or.inr (by omega)
  failed := streak_succ_cons.2 ⟨hcall, hline.failed⟩

/-- The state of a tier without an object is in line with anything. -/
theorem inLine_absent (threshold : ℕ) (lastProbe : Option Bool) (calls : List TierCall) :
    InLine threshold lastProbe calls {} where
  unhealthy := by
    intro h
    cases h
  failed := streak_zero

/-- The calls of a tier after one more call to some tier. -/
theorem called_calls (st : TierState) (tier tier' : Tier) (outcome : Upstream Unit) :
    (st.called tier outcome).calls tier' =
      if tier' = tier then ⟨outcome, st.health.failures tier⟩ :: st.calls tier
      else st.calls tier' := by
  unfold TierState.called
  by_cases htier : tier' = tier
  · rw [if_pos htier, htier]
    exact Function.update_self _ _ _
  · rw [if_neg htier]
    exact Function.update_of_ne htier _ _

/-- One more call keeps a run reasonable, when the counter is at zero if the call succeeds. -/
theorem reasonable_called {threshold : ℕ} {tier : Tier} {outcome : Upstream Unit}
    (h : st.Reasonable threshold)
    (hreset : outcome = .ok () → st.health.failures tier = 0) :
    (st.called tier outcome).Reasonable threshold := by
  refine ⟨h.skips, ?_⟩
  intro tier' call hcall hok
  rw [called_calls] at hcall
  split at hcall
  · rename_i htier
    rcases List.mem_cons.1 hcall with rfl | hcall
    · exact hreset hok
    · exact h.resets tier call hcall hok
  · exact h.resets tier' call hcall hok

/-- The state after a failure that is counted, before the router looks for a fallback. -/
def failed (r : TieredRouter) (st : TierState) (tier : Tier) (outcome : Upstream Unit)
    (failedAt : ℚ) : TierState :=
  { st with health := st.health.counted tier r.unhealthyThreshold failedAt }.called tier outcome

theorem sound_failed (h : r.Sound st) (tier : Tier) {outcome : Upstream Unit}
    (hcounted : outcome.isCounted = true) (failedAt : ℚ) :
    r.Sound (r.failed st tier outcome failedAt) := by
  have hholds := h.owned.holds_cache tier
  refine ⟨?_, ?_, ?_, ?_⟩
  · exact TierHealth.write_owned h.owned
  · intro q' model' walk' probe' htask'
    exact TierHealth.write_holds (h.held q' model' walk' probe' htask')
  · intro tier' state hstate
    change (st.health.counted tier r.unhealthyThreshold failedAt).stateOf tier' = some state
      at hstate
    unfold TierHealth.counted at hstate
    unfold failed
    rw [called_calls]
    by_cases htier : tier' = tier
    · subst htier
      rw [TierHealth.stateOf_write_cache] at hstate
      cases hstate
      rw [if_pos rfl]
      -- without an object the failure is the first to be counted
      have hbefore : InLine r.unhealthyThreshold (st.lastProbe tier') (st.calls tier')
          ((st.health.stateOf tier').getD {}) := by
        cases hold : st.health.stateOf tier' with
        | none => exact inLine_absent _ _ _
        | some state => exact h.inLine tier' state hold
      exact inLine_counted hcounted hbefore
    · rw [TierHealth.stateOf_write_other h.owned hholds htier] at hstate
      rw [if_neg htier]
      exact h.inLine tier' state hstate
  · refine reasonable_called ⟨h.reasonable.skips, h.reasonable.resets⟩ ?_
    intro hok
    rw [hok] at hcounted
    cases hcounted

/-- A call that is not counted: it failed too, or the tier has no failures. -/
theorem sound_called (h : r.Sound st) {tier : Tier} {outcome : Upstream Unit}
    (hline : outcome.isCounted = true ∨ st.health.failures tier = 0) :
    r.Sound (st.called tier outcome) := by
  refine ⟨h.owned, h.held, ?_, ?_⟩
  · intro tier' state hstate
    have hold := h.inLine tier' state hstate
    rw [called_calls]
    by_cases htier : tier' = tier
    · subst htier
      rw [if_pos rfl]
      refine ⟨hold.unhealthy, ?_⟩
      -- a failure keeps the streak; otherwise there is none to keep
      rcases hline with hcounted | hnone
      · exact hold.failed.keep hcounted
      · have hzero : state.consecutiveFailures = 0 := by
          change st.health.stateOf tier' = some state at hstate
          unfold TierHealth.failures at hnone
          rw [hstate] at hnone
          exact hnone
        rw [hzero]
        exact streak_zero
    · rw [if_neg htier]
      exact hold
  · refine reasonable_called h.reasonable ?_
    intro hok
    rcases hline with hcounted | hnone
    · rw [hok] at hcounted
      cases hcounted
    · exact hnone

/-! ### A run -/

theorem sound_endCall (h : r.Sound st) {decision : RoutingDecision} {stage : TierStage}
    {outcome : Upstream Unit} (failedAt : ℚ) (now : Tier → ℚ)
    (htask : st.tasks q = .dispatched model decision stage)
    (hline : inLine st (q, .ended outcome failedAt now) = true) :
    r.Sound (r.endCall st q model decision stage outcome failedAt now) := by
  unfold inLine at hline
  rw [htask] at hline
  unfold endCall
  cases stage with
  | passthrough =>
    -- a passthrough's call is none of the tier's, so it must not be counted
    have hcounted : outcome.isCounted = false := by simpa using hline
    simp only [hcounted, Bool.false_and, Bool.false_eq_true, if_false, if_true]
    exact sound_finish h
  | second =>
    have hkeep : outcome.isCounted = true ∨ st.health.failures decision.tier = 0 := by
      simpa using hline
    simp only [ne_eq, not_true_eq_false, decide_false, Bool.and_false, Bool.false_eq_true, if_false,
      reduceCtorEq]
    exact sound_finish (sound_called h hkeep)
  | first =>
    have hkeep : outcome.isCounted = true ∨ st.health.failures decision.tier = 0 := by
      simpa using hline
    cases hcounted : outcome.isCounted with
    | true =>
      simp only [ne_eq, reduceCtorEq, not_false_eq_true, decide_true, Bool.and_true, if_true,
        if_false]
      exact sound_stretch (sound_failed h decision.tier hcounted failedAt)
        (fits_beginFailover decision now)
    | false =>
      simp only [Bool.false_and, Bool.false_eq_true, if_false, reduceCtorEq]
      exact sound_finish (sound_called h hkeep)

/-- **One step of one request keeps the invariant.** -/
theorem sound_step (h : r.Sound st) {e : ℕ × TierEvent} (hline : inLine st e = true) :
    r.Sound (r.step st e) := by
  obtain ⟨q, event⟩ := e
  cases htask : st.tasks q with
  | idle =>
    cases event with
    | route model scout now =>
      simp only [step, htask]
      exact sound_stretch h (fits_walkOn now _ _ _ _)
    | passthrough model adapter =>
      simp only [step, htask]
      exact sound_task h (by rintro model walk probe ⟨⟩)
    | answer healthy now => simpa only [step, htask] using h
    | cached => simpa only [step, htask] using h
    | ended outcome failedAt now => simpa only [step, htask] using h
  | probing model walk probe =>
    cases event with
    | answer healthy now =>
      -- first the answer is written, then the walk goes on
      have hanswered : r.Sound (answered st probe healthy) := by
        refine sound_answered h htask ?_
        rintro rfl
        simpa [inLine, htask] using hline
      simp only [step, htask]
      exact sound_stretch hanswered (fits_proceed now walk (Function.update_self _ _ _))
    | route model scout now => simpa only [step, htask] using h
    | passthrough model adapter => simpa only [step, htask] using h
    | cached => simpa only [step, htask] using h
    | ended outcome failedAt now => simpa only [step, htask] using h
  | dispatched model decision stage =>
    cases event with
    | ended outcome failedAt now =>
      simp only [step, htask]
      exact sound_endCall h failedAt now htask hline
    | cached =>
      cases stage with
      | first =>
        simp only [step, htask]
        exact sound_finish h
      | passthrough =>
        simp only [step, htask]
        exact sound_finish h
      | second => simpa only [step, htask] using h
    | route model scout now => simpa only [step, htask] using h
    | passthrough model adapter => simpa only [step, htask] using h
    | answer healthy now => simpa only [step, htask] using h

/-- **Tiers are skipped for cause, and successes leave the counters at zero**, in every run of
requests whose steps keep the counters in line with the calls. -/
theorem skipped_for_cause (r : TieredRouter) (events : List (ℕ × TierEvent))
    (hline : Runs.Along r.step (fun st e => inLine st e = true) {} events) :
    (Runs.run r.step {} events).Reasonable r.unhealthyThreshold := by
  have hsound := Runs.run_invariant r.step r.Sound (fun st e h hl => sound_step h hl) events {}
    (sound_start r) hline
  exact hsound.reasonable

/-! ### Runs with one tier -/

/-- A router with one tier. -/
def oneTier (tier : Tier) : TieredRouter where
  adapters t := if t = tier then some { cls := .vllm } else none
  tiered := by decide
  threshold_pos := by decide

/-- The request `q` is routed at some time, to the tier if it is healthy. -/
def routed (tier : Tier) (q : ℕ) (now : ℚ) : ℕ × TierEvent :=
  (q, .route "m" { tier := tier, confidence := 1, rationale := "" } (fun _ => now))

/-- The probe of the request `q` answers. -/
def probeEnds (q : ℕ) (healthy : Bool) : ℕ × TierEvent := (q, .answer healthy (fun _ => 0))

/-- The call of the request `q` ends. -/
def callEnds (q : ℕ) (outcome : Upstream Unit) : ℕ × TierEvent :=
  (q, .ended outcome 0 (fun _ => 0))

def serverError : Upstream Unit := .failed ⟨.transient, "503"⟩

/-- Calls that end in these ways one after the other, and one more request. -/
def callsEnd (outcomes : List (Upstream Unit)) : List (ℕ × TierEvent) :=
  [routed .local 0 0, probeEnds 0 true] ++
    outcomes.flatMap (fun outcome => [callEnds 0 outcome, routed .local 0 0])

/-- Three calls fail, and the tier is skipped for cause. -/
theorem three_failures_for_cause :
    (Runs.run (oneTier .local).step {}
        (callsEnd [serverError, serverError, serverError])).skips ≠ [] ∧
      (Runs.run (oneTier .local).step {}
        (callsEnd [serverError, serverError, serverError])).Reasonable 3 := by
  refine ⟨by decide +kernel, skipped_for_cause (oneTier .local) _ ?_⟩
  refine ⟨?_, ?_, ?_, ?_, ?_, ?_, ?_, ?_, trivial⟩ <;> decide +kernel

/-- Three dispatches of passthrough routers fail. -/
def passthroughFailures : List (ℕ × TierEvent) :=
  [0, 1, 2].flatMap (fun q =>
    [(q, .passthrough "m" { cls := .codexPassthrough }), callEnds q serverError])

/-- A tier is probed for the first time by two requests at once, and again by a third when the
first answer has expired. The second answer is no, and replaces the object of the third; then the
third answer is yes. -/
def replacedObject : List (ℕ × TierEvent) :=
  [routed .local 0 0, routed .local 1 29, probeEnds 0 true, routed .local 2 31, probeEnds 1 false,
    probeEnds 2 true]

/-- **Tiers are skipped without cause**: after a success, and after a permanent failure, between
the failures; after the failures of passthroughs; and after a probe that found its object
replaced. -/
theorem skipped_without_cause :
    ¬ (Runs.run (oneTier .local).step {}
      (callsEnd [serverError, serverError, .ok (), serverError])).Reasonable 3 ∧
    ¬ (Runs.run (oneTier .local).step {}
      (callsEnd [serverError, serverError, .failed ⟨.permanent, "401"⟩, serverError])).Reasonable
        3 ∧
    ¬ (Runs.run (oneTier .cloud).step {}
      (passthroughFailures ++ [routed .cloud 3 0])).Reasonable 3 ∧
    ¬ (Runs.run (oneTier .local).step {}
      (replacedObject ++ [routed .local 3 32])).Reasonable 3 := by
  refine ⟨?_, ?_, ?_, ?_⟩
  all_goals
    intro h
    have hskips := h.skips
    exact absurd hskips (by decide +kernel)

end TieredRouter

end ModelMeld
