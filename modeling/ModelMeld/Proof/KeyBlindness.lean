import ModelMeld.Spec.Persistent

/-!
# What the keys of the adapters can change

An adapter is masked when what it was built with is taken out of it. Routers
whose adapters are alike under the mask route alike, where the health probes
answer alike.

* `resolveOrFail_alike`: `_resolve_or_fail` over alike adapters;
* `PersistentRouter.alike`: all three routers.
-/

namespace ModelMeld

/-! ## Masks -/

/-- An adapter without what it was built with. -/
def ProviderAdapter.masked (a : ProviderAdapter) : ProviderAdapter := { a with credential := "" }

def RoutingDecision.masked (d : RoutingDecision) : RoutingDecision :=
  { d with adapter := d.adapter.masked }

/-- A function that reads no key gives the same on decisions that are alike. -/
theorem congr_masked {β : Type} (f : RoutingDecision → β) (hf : ∀ d, f d = f d.masked)
    {d d' : RoutingDecision} (h : d.masked = d'.masked) : f d = f d' := by
  rw [hf d, hf d', h]

/-- Two adapters, when there are any, that are alike. -/
def SameUnderMask (o o' : Option ProviderAdapter) : Prop :=
  o.map ProviderAdapter.masked = o'.map ProviderAdapter.masked

theorem sameUnderMask_none {o : Option ProviderAdapter} (h : SameUnderMask none o) : o = none := by
  cases o with
  | none => rfl
  | some a => cases h

theorem sameUnderMask_some {a : ProviderAdapter} {o : Option ProviderAdapter}
    (h : SameUnderMask (some a) o) : ∃ a', o = some a' ∧ a.masked = a'.masked := by
  cases o with
  | none => cases h
  | some a' => exact ⟨a', rfl, Option.some.inj h⟩

/-- Maps with alike adapters for the same providers. -/
def AdapterMap.Alike (m m' : AdapterMap) : Prop := ∀ p, SameUnderMask (m.get? p) (m'.get? p)

theorem AdapterMap.mem_keys_iff {m : AdapterMap} {p : String} :
    p ∈ m.keys ↔ (m.get? p).isSome = true := by
  unfold AdapterMap.keys AdapterMap.get?
  rw [List.mem_toFinset, OrderedDict.mem_keys_iff]

theorem AdapterMap.Alike.keys {m m' : AdapterMap} (h : m.Alike m') : m.keys = m'.keys := by
  ext p
  rw [mem_keys_iff, mem_keys_iff]
  have hp := congrArg Option.isSome (h p)
  rw [Option.isSome_map, Option.isSome_map] at hp
  rw [hp]

/-- The request's own adapters are alike. -/
def OwnAlike (extra extra' : Option AdapterMap) : Prop := Option.Rel AdapterMap.Alike extra extra'

/-- Readings of worlds whose probes answer alike. -/
structure Readings.Alike (rd rd' : Readings) : Prop where
  failedAt : rd.failedAt = rd'.failedAt
  now : rd.now = rd'.now
  health : ∀ i a a', a.masked = a'.masked → rd.health i a = rd'.health i a'

/-- Results that are the same under a mask: both are alike values, or the same error. -/
theorem walked_cases {α β E S : Type} {f : α → β} {x y : Except E α × S}
    (h : Prod.map (Except.map f) id x = Prod.map (Except.map f) id y) :
    (∃ a b s, x = (.ok a, s) ∧ y = (.ok b, s) ∧ f a = f b) ∨
      ∃ e s, x = (.error e, s) ∧ y = (.error e, s) := by
  obtain ⟨o, s⟩ := x
  obtain ⟨o', s'⟩ := y
  obtain ⟨ho, rfl⟩ := Prod.mk.inj h
  cases o with
  | error e =>
    cases o' with
    | error e' => cases ho; exact Or.inr ⟨e, s, rfl, rfl⟩
    | ok b => cases ho
  | ok a =>
    cases o' with
    | error e' => cases ho
    | ok b => exact Or.inl ⟨a, b, s, rfl, rfl, Except.ok.inj ho⟩

/-! ## The capability router -/

/-- Routers that differ in the keys of their adapters. -/
def CapabilityRouter.Alike (r r' : CapabilityRouter) : Prop :=
  ∃ m', r.adaptersByProvider.Alike m' ∧ r' = { r with adaptersByProvider := m' }

namespace CapabilityRouter

def Stop.masked (stop : Stop) : Stop := { stop with adapter := stop.adapter.masked }

variable {r r' : CapabilityRouter} {extra extra' : Option AdapterMap} {rd rd' : Readings}

theorem getAdapter_alike (hr : r.Alike r') (hown : OwnAlike extra extra') (p : String) :
    SameUnderMask (r.getAdapter p extra) (r'.getAdapter p extra') := by
  obtain ⟨m', hm, rfl⟩ := hr
  unfold getAdapter
  cases hown with
  | none => exact hm p
  | some hown =>
    rename_i own own'
    have hp := hown p
    simp only [Option.bind_some]
    cases ha : own.get? p with
    | none =>
      rw [ha] at hp
      rw [sameUnderMask_none hp]
      exact hm p
    | some a =>
      rw [ha] at hp
      obtain ⟨a', ha', haa⟩ := sameUnderMask_some hp
      rw [ha']
      exact congrArg some haa

theorem walkFallbacks_alike (hr : r.Alike r') (hown : OwnAlike extra extra') (hrd : rd.Alike rd')
    (failoverFrom : Option String) : ∀ (ids : List String) (i : ℕ) (skipped : List String) (cache : HealthCache),
      Prod.map (Except.map Stop.masked) id
          (r.walkFallbacks failoverFrom extra rd i ids skipped cache) =
        Prod.map (Except.map Stop.masked) id
          (r'.walkFallbacks failoverFrom extra' rd' i ids skipped cache) := by
  have hscout : r'.scout = r.scout := by obtain ⟨m', -, rfl⟩ := hr; rfl
  have hhealthy : r'.isHealthy = r.isHealthy := by obtain ⟨m', -, rfl⟩ := hr; rfl
  intro ids
  induction ids with
  | nil => intro i skipped cache; rfl
  | cons id ids ih =>
    intro i skipped cache
    unfold walkFallbacks
    rw [hscout, hhealthy]
    cases r.scout.lookupFallback id with
    | none => exact ih _ _ _
    | some entry =>
      simp only
      by_cases hp : some entry.provider = failoverFrom
      · rw [if_pos hp, if_pos hp]
        exact ih _ _ _
      · rw [if_neg hp, if_neg hp]
        have hget := getAdapter_alike hr hown entry.provider
        cases ha : r.getAdapter entry.provider extra with
        | none =>
          rw [ha] at hget
          rw [sameUnderMask_none hget]
          exact ih _ _ _
        | some a =>
          rw [ha] at hget
          obtain ⟨a', ha', haa⟩ := sameUnderMask_some hget
          simp only [ha']
          rw [← hrd.now, ← hrd.health i a a' haa]
          cases (r.isHealthy cache entry.provider (rd.now i) (rd.health i a)).1 with
          | true => simp [Prod.map, Except.map, Stop.masked, haa]
          | false => exact ih _ _ _

theorem resolveFallbacks_alike (hr : r.Alike r') (hown : OwnAlike extra extra')
    (hrd : rd.Alike rd') (cap : CapabilityDecision) (failoverFrom : Option String)
    (skipped : List String) (cache : HealthCache) :
    Prod.map (Except.map RoutingDecision.masked) id
        (r.resolveFallbacks cap failoverFrom extra rd skipped cache) =
      Prod.map (Except.map RoutingDecision.masked) id
        (r'.resolveFallbacks cap failoverFrom extra' rd' skipped cache) := by
  have hwalk := walkFallbacks_alike hr hown hrd failoverFrom cap.fallbackModelIds 1 skipped cache
  unfold resolveFallbacks
  rcases walked_cases hwalk with ⟨stop, stop', cache', hx, hy, hstop⟩ | ⟨skipped', cache', hx, hy⟩
  · rw [hx, hy]
    obtain ⟨id, entry, a, sk⟩ := stop
    obtain ⟨id', entry', a', sk'⟩ := stop'
    obtain ⟨rfl, rfl, ha, rfl⟩ := Stop.mk.inj hstop
    exact congrArg (fun a => (Except.ok (buildDecision cap a id entry.provider sk
      (some (entry.taskScores.getD cap.taskCategory 0)) (some entry.providerModelId)), cache')) ha
  · rw [hx, hy]
    obtain ⟨m', -, rfl⟩ := hr
    rfl

theorem tryPrimary_alike (hr : r.Alike r') (hown : OwnAlike extra extra') (hrd : rd.Alike rd')
    (cap : CapabilityDecision) (failoverFrom : Option String) (cache : HealthCache) :
    Prod.map (Except.map ProviderAdapter.masked) id
        (r.tryPrimary cap failoverFrom extra rd cache) =
      Prod.map (Except.map ProviderAdapter.masked) id
        (r'.tryPrimary cap failoverFrom extra' rd' cache) := by
  have hhealthy : r'.isHealthy = r.isHealthy := by obtain ⟨m', -, rfl⟩ := hr; rfl
  unfold tryPrimary
  simp only [hhealthy]
  by_cases hp : failoverFrom = some cap.chosenProvider
  · rw [if_pos hp, if_pos hp]
  · rw [if_neg hp, if_neg hp]
    have hget := getAdapter_alike hr hown cap.chosenProvider
    cases ha : r.getAdapter cap.chosenProvider extra with
    | none =>
      rw [ha] at hget
      rw [sameUnderMask_none hget]
    | some a =>
      rw [ha] at hget
      obtain ⟨a', ha', haa⟩ := sameUnderMask_some hget
      simp only [ha']
      rw [← hrd.now, ← hrd.health 0 a a' haa]
      cases (r.isHealthy cache cap.chosenProvider (rd.now 0) (rd.health 0 a)).1 with
      | true => simp [Prod.map, Except.map, haa]
      | false => rfl

/-- **`_resolve_or_fail` over alike adapters.** -/
theorem resolveOrFail_alike (hr : r.Alike r') (hown : OwnAlike extra extra') (hrd : rd.Alike rd')
    (cap : CapabilityDecision) (failoverFrom : Option String) (cache : HealthCache) :
    Prod.map (Except.map RoutingDecision.masked) id
        (r.resolveOrFail cap failoverFrom extra rd cache) =
      Prod.map (Except.map RoutingDecision.masked) id
        (r'.resolveOrFail cap failoverFrom extra' rd' cache) := by
  have hfirst := tryPrimary_alike hr hown hrd cap failoverFrom cache
  unfold resolveOrFail
  rcases walked_cases hfirst with ⟨a, a', cache', hx, hy, haa⟩ | ⟨skip, cache', hx, hy⟩
  · rw [hx, hy]
    exact congrArg (fun a => (Except.ok
      (buildDecision cap a cap.chosenModelId cap.chosenProvider [] none none), cache')) haa
  · rw [hx, hy]
    exact resolveFallbacks_alike hr hown hrd cap failoverFrom [skip] cache'

theorem availableFrontier_alike (hr : r.Alike r') (hown : OwnAlike extra extra') :
    r.availableFrontier extra = r'.availableFrontier extra' := by
  obtain ⟨m', hm, rfl⟩ := hr
  unfold availableFrontier
  rw [hm.keys]
  cases hown with
  | none => rfl
  | some hown => simp only [hown.keys]

theorem route_alike (hr : r.Alike r') (hown : OwnAlike extra extra') (hrd : rd.Alike rd')
    (cache : HealthCache) (request : ChatCompletionRequest) (hints : Option RoutingHints) :
    Prod.map (Except.map RoutingDecision.masked) id (r.route cache rd request hints extra) =
      Prod.map (Except.map RoutingDecision.masked) id (r'.route cache rd' request hints extra') := by
  have hscout : r'.scout = r.scout := by obtain ⟨m', -, rfl⟩ := hr; rfl
  unfold route
  rw [availableFrontier_alike hr hown, hscout]
  cases r.scout.choose request hints (some (r'.availableFrontier extra')) with
  | error e => rfl
  | ok cap => exact resolveOrFail_alike hr hown hrd cap none cache

theorem routeAfterFailure_alike (hr : r.Alike r') (hown : OwnAlike extra extra')
    (hrd : rd.Alike rd') (cache : HealthCache) {failed failed' : RoutingDecision}
    (hfailed : failed.masked = failed'.masked) (request : ChatCompletionRequest)
    (error : Option AdapterError) :
    Prod.map (Option.map RoutingDecision.masked) id
        (r.routeAfterFailure cache rd failed request error extra) =
      Prod.map (Option.map RoutingDecision.masked) id
        (r'.routeAfterFailure cache rd' failed' request error extra') := by
  have hname : failed.adapter.name = failed'.adapter.name :=
    congr_masked (fun d => d.adapter.name) (fun _ => rfl) hfailed
  have hcap : failed.capabilityDecision = failed'.capabilityDecision :=
    congr_masked (fun d => d.capabilityDecision) (fun _ => rfl) hfailed
  unfold routeAfterFailure
  rw [hname, hcap, hrd.failedAt]
  by_cases hperm : error.map AdapterError.kind = some .permanent
  · rw [if_pos hperm, if_pos hperm]
  · rw [if_neg hperm, if_neg hperm]
    cases failed'.capabilityDecision with
    | none => rfl
    | some cap =>
      simp only
      have hresolve := resolveOrFail_alike hr hown hrd cap (some failed'.adapter.name)
        (Function.update cache failed'.adapter.name (some (false, rd'.failedAt)))
      rcases walked_cases hresolve with ⟨d, d', cache', hx, hy, hd⟩ | ⟨e, cache', hx, hy⟩
      · rw [hx, hy]
        exact congrArg (fun d => (some d, cache')) hd
      · rw [hx, hy]

end CapabilityRouter

/-! ## The tiered router -/

/-- Routers that differ in the keys of their adapters. -/
def TieredRouter.Alike (r r' : TieredRouter) : Prop :=
  ∃ adapters' serves', (∀ tier, SameUnderMask (r.adapters tier) (adapters' tier)) ∧
    (∀ a a' model, a.masked = a'.masked → r.servesModel a model = serves' a' model) ∧
    r' = { r with adapters := adapters', servesModel := serves' }

namespace TieredRouter

variable {r r' : TieredRouter} {rd : TierReadings}

theorem walkTiers_alike (hr : r.Alike r') (preferred : Tier) (scout : Option ScoutDecision) :
    ∀ (tiers : List Tier) (skipped : List String) (h : TierHealth),
      Prod.map (Except.map RoutingDecision.masked) id
          (r.walkTiers rd preferred scout tiers skipped h) =
        Prod.map (Except.map RoutingDecision.masked) id
          (r'.walkTiers rd preferred scout tiers skipped h) := by
  obtain ⟨adapters', serves', hadapters, -, rfl⟩ := hr
  intro tiers
  induction tiers with
  | nil => intro skipped h; rfl
  | cons tier rest ih =>
    intro skipped h
    have hget := hadapters tier
    unfold walkTiers
    cases ha : r.adapters tier with
    | none =>
      rw [ha] at hget
      simp only [sameUnderMask_none hget]
      exact ih _ _
    | some a =>
      rw [ha] at hget
      obtain ⟨a', ha', haa⟩ := sameUnderMask_some hget
      have hasked : isHealthy { r with adapters := adapters', servesModel := serves' } h tier
          (rd.now tier) (rd.health tier) = r.isHealthy h tier (rd.now tier) (rd.health tier) := rfl
      simp only [ha', hasked]
      cases (r.isHealthy h tier (rd.now tier) (rd.health tier)).1 with
      | true =>
        exact congrArg (fun a => (Except.ok (r.tierDecision preferred scout tier a skipped),
          (r.isHealthy h tier (rd.now tier) (rd.health tier)).2)) haa
      | false => exact ih _ _

theorem route_alike (hr : r.Alike r') (h : TierHealth) :
    Prod.map (Except.map RoutingDecision.masked) id (r.route h rd) =
      Prod.map (Except.map RoutingDecision.masked) id (r'.route h rd) := by
  have hpreferred : r'.preferredTier = r.preferredTier := by obtain ⟨_, _, -, -, rfl⟩ := hr; rfl
  unfold route
  rw [hpreferred]
  exact walkTiers_alike hr _ _ _ _ _

theorem fallbackTo_alike (hr : r.Alike r') {failed failed' : RoutingDecision}
    (hfailed : failed.masked = failed'.masked) {a a' : ProviderAdapter} (ha : a.masked = a'.masked)
    (model : String) :
    (r.fallbackTo failed a model).map RoutingDecision.masked =
      (r'.fallbackTo failed' a' model).map RoutingDecision.masked := by
  obtain ⟨adapters', serves', -, hserves, rfl⟩ := hr
  unfold fallbackTo
  simp only [hserves a a' model ha]
  by_cases hs : serves' a' model = true
  · rw [if_pos hs, if_pos hs]
    have hrest := congr_masked (fun d => (d.tier, d.scoutDecision, d.policyApplied, d.rationale))
      (fun _ => rfl) hfailed
    simp only [Prod.mk.injEq] at hrest
    obtain ⟨htier, hscout, hpolicy, hrationale⟩ := hrest
    simp [RoutingDecision.masked, htier, hscout, hpolicy, hrationale, ha]
  · rw [if_neg hs, if_neg hs]

theorem routeAfterFailure_alike (hr : r.Alike r') (h : TierHealth)
    {failed failed' : RoutingDecision} (hfailed : failed.masked = failed'.masked)
    (request : ChatCompletionRequest) (error : Option AdapterError) :
    Prod.map (Option.map RoutingDecision.masked) id
        (r.routeAfterFailure h rd failed request error) =
      Prod.map (Option.map RoutingDecision.masked) id
        (r'.routeAfterFailure h rd failed' request error) := by
  have htier : failed'.tier = failed.tier :=
    congr_masked (fun d => d.tier) (fun _ => rfl) hfailed.symm
  have hhealthy : r'.isHealthy = r.isHealthy := by obtain ⟨_, _, -, -, rfl⟩ := hr; rfl
  have hthreshold : r'.unhealthyThreshold = r.unhealthyThreshold := by
    obtain ⟨_, _, -, -, rfl⟩ := hr; rfl
  have hget : SameUnderMask (r.adapters failed.tier.other) (r'.adapters failed.tier.other) := by
    obtain ⟨_, _, hadapters, -, rfl⟩ := hr; exact hadapters _
  unfold routeAfterFailure
  simp only [htier, hhealthy, hthreshold]
  by_cases hperm : error.map AdapterError.kind = some .permanent
  · rw [if_pos hperm, if_pos hperm]
  · rw [if_neg hperm, if_neg hperm]
    cases ha : r.adapters failed.tier.other with
    | none =>
      rw [ha] at hget
      rw [sameUnderMask_none hget]
    | some a =>
      rw [ha] at hget
      obtain ⟨a', ha', haa⟩ := sameUnderMask_some hget
      simp only [ha']
      by_cases hasked : (r.isHealthy (h.counted failed.tier r.unhealthyThreshold rd.failedAt)
          failed.tier.other (rd.now failed.tier.other) (rd.health failed.tier.other)).1 = true
      · rw [if_pos hasked, if_pos hasked]
        exact congrArg (fun o => (o, _)) (fallbackTo_alike hr hfailed haa request.model)
      · rw [if_neg hasked, if_neg hasked]

end TieredRouter

/-! ## The three routers -/

/-- Routers whose callers get the same from alike adapters. -/
structure Router.Alike {σ ε : Type} (alike : ε → ε → Prop) (rt rt' : Router σ ε) : Prop where
  route : ∀ s e e' request hints extra extra', alike e e' → OwnAlike extra extra' →
    Prod.map (Except.map RoutingDecision.masked) id (rt.route s e request hints extra) =
      Prod.map (Except.map RoutingDecision.masked) id (rt'.route s e' request hints extra')
  fallback : ∀ s e e' d d' outgoing error, alike e e' → d.masked = d'.masked →
    Prod.map (Option.map RoutingDecision.masked) id (rt.fallback s e d outgoing error) =
      Prod.map (Option.map RoutingDecision.masked) id (rt'.fallback s e' d' outgoing error)

theorem singleAdapterRouter_alike {σ ε : Type} (alike : ε → ε → Prop) {a a' : ProviderAdapter}
    (h : a.masked = a'.masked) :
    Router.Alike alike (singleAdapterRouter σ ε a) (singleAdapterRouter σ ε a') where
  route s _ _ _ _ _ _ _ _ := by
    have hname := congrArg ProviderAdapter.name h
    have hname : a.name = a'.name := hname
    simp [singleAdapterRouter, Prod.map, Except.map, RoutingDecision.masked, h, hname]
  fallback _ _ _ _ _ _ _ _ _ := rfl

/-- Readings of worlds whose probes answer alike. -/
structure RouterReadings.Alike (e e' : RouterReadings) : Prop where
  tiers : e.tiers = e'.tiers
  providers : e.providers.Alike e'.providers

/-- Persistent routers that differ in the keys of their adapters. -/
inductive PersistentRouter.Alike : PersistentRouter → PersistentRouter → Prop
  | single {a a' : ProviderAdapter} (h : a.masked = a'.masked) : Alike (.single a) (.single a')
  | tiered {r r' : TieredRouter} (h : r.Alike r') : Alike (.tiered r) (.tiered r')
  | capability {r r' : CapabilityRouter} (h : r.Alike r') : Alike (.capability r) (.capability r')

/-- What a call leaves is a function of what it answers and of the state of its own router. -/
theorem map_snd_eq {α β S T : Type} {f : α → β} {x y : α × S} (k : S → T)
    (h : Prod.map f id x = Prod.map f id y) : Prod.map f id (x.1, k x.2) =
      Prod.map f id (y.1, k y.2) := by
  obtain ⟨h1, h2⟩ := Prod.mk.inj h
  exact Prod.ext h1 (congrArg k h2)

/-- **The persistent routers tell no keys apart.** -/
theorem PersistentRouter.alike {p p' : PersistentRouter} (h : p.Alike p') :
    Router.Alike RouterReadings.Alike p.toRouter p'.toRouter := by
  cases h with
  | single h => exact singleAdapterRouter_alike _ h
  | tiered h =>
    refine ⟨fun s e e' request hints extra extra' he _ => ?_,
      fun s e e' d d' outgoing error he hd => ?_⟩
    · obtain ⟨tiers, providers⟩ := e
      obtain rfl : tiers = e'.tiers := he.tiers
      exact map_snd_eq (fun tiers => { s with tiers := tiers }) (TieredRouter.route_alike h s.tiers)
    · obtain ⟨tiers, providers⟩ := e
      obtain rfl : tiers = e'.tiers := he.tiers
      exact map_snd_eq (fun tiers => { s with tiers := tiers })
        (TieredRouter.routeAfterFailure_alike h s.tiers hd outgoing (some error))
  | capability h =>
    refine ⟨fun s e e' request hints extra extra' he hown => ?_,
      fun s e e' d d' outgoing error he hd => ?_⟩
    · exact map_snd_eq (fun providers => { s with providers := providers })
        (CapabilityRouter.route_alike h hown he.providers s.providers request hints)
    · exact map_snd_eq (fun providers => { s with providers := providers })
        (CapabilityRouter.routeAfterFailure_alike h .none he.providers s.providers hd outgoing
          (some error))

end ModelMeld
