import ModelMeld.Spec.Router
import ModelMeld.Lib.Runs
import ModelMeld.Proof.Choose

/-!
# What the capability router dispatches

The rows behind the decisions of `route` and `route_after_failure`.

* `resolveOrFail_ok`: the two ways a decision is made;
* `decisions_consistent_iff`: when all parts of every decision of a run name one row.
-/

namespace ModelMeld

/-! ## Rows by id -/

namespace ModelRegistry

theorem lookup_reverse_map {K : Type} [DecidableEq K] (f : ModelEntry → K)
    (es : List ModelEntry) (k : K) :
    (es.map (fun e => (f e, e))).reverse.lookup k = es.reverse.find? (fun e => decide (f e = k)) := by
  rw [← List.map_reverse]
  induction es.reverse with
  | nil => rfl
  | cons e es ih =>
    rw [List.map_cons, List.lookup_cons, List.find?_cons, ih]
    by_cases h : f e = k
    · simp [h]
    · have hb : (k == f e) = false := by simpa using fun hk : k = f e => h hk.symm
      simp [h, hb]

/-- The row `get` answers with is one `rank` iterates over, also when rows are kept per
provider. -/
theorem mem_rows_of_get {r : ModelRegistry} {m : String} {e : ModelEntry}
    (h : r.get m = some e) : e ∈ r.rows := by
  have hg := h
  rw [get, byId, OrderedDict.get?_ofPairs, lookup_reverse_map] at hg
  unfold rows
  split
  · rw [OrderedDict.mem_values_iff]
    refine ⟨(e.modelId, e.provider), ?_⟩
    rw [byKey, OrderedDict.get?_ofPairs, lookup_reverse_map (fun e => (e.modelId, e.provider))]
    rw [List.find?_eq_some_iff_append] at hg ⊢
    obtain ⟨hm, l, l', hl, hbefore⟩ := hg
    refine ⟨by simp, l, l', hl, ?_⟩
    -- rows after `e` in the list have another id, so another key
    intro a ha
    have hne := hbefore a ha
    simp only [Bool.not_eq_true', decide_eq_false_iff_not] at hne ⊢
    intro hk
    rw [Prod.mk.injEq] at hk
    exact hne (hk.1.trans (of_decide_eq_true hm))
  · rw [OrderedDict.mem_values_iff]
    exact ⟨m, h⟩

end ModelRegistry

namespace CapabilityRouter

variable {r : CapabilityRouter} {cap : CapabilityDecision} {failoverFrom : Option String}
  {extra : Option AdapterMap} {rd : Readings} {cache : HealthCache}

theorem getAdapter_name {p : String} {a : ProviderAdapter} (h : r.getAdapter p extra = some a) :
    a.name = p := by
  unfold getAdapter at h
  cases hx : extra.bind (fun m => m.get? p) with
  | some b =>
    rw [hx] at h
    cases h
    obtain ⟨m, -, hm⟩ := Option.bind_eq_some_iff.1 hx
    exact AdapterMap.name_of_get? hm
  | none =>
    rw [hx] at h
    exact AdapterMap.name_of_get? h

/-! ## The walk -/

/-- Where the loop over the fallbacks stops: a fallback id, the row it resolves to, and the
adapter of that row's provider. -/
theorem walkFallbacks_ok {stop : Stop} : ∀ (ids : List String) (i : ℕ) (skipped : List String)
    (cache : HealthCache), (r.walkFallbacks failoverFrom extra rd i ids skipped cache).1 = .ok stop →
    stop.fallbackId ∈ ids ∧ r.scout.lookupFallback stop.fallbackId = some stop.entry ∧
      some stop.entry.provider ≠ failoverFrom ∧
      r.getAdapter stop.entry.provider extra = some stop.adapter := by
  intro ids
  induction ids with
  | nil => intro i skipped cache h; cases h
  | cons id ids ih =>
    intro i skipped cache h
    -- what holds of a stop further on
    have hrest : ∀ (skipped : List String) (cache : HealthCache),
        (r.walkFallbacks failoverFrom extra rd (i + 1) ids skipped cache).1 = .ok stop →
        stop.fallbackId ∈ id :: ids ∧ r.scout.lookupFallback stop.fallbackId = some stop.entry ∧
          some stop.entry.provider ≠ failoverFrom ∧
          r.getAdapter stop.entry.provider extra = some stop.adapter := by
      intro skipped cache h
      obtain ⟨h1, h2⟩ := ih _ _ _ h
      exact ⟨List.mem_cons_of_mem _ h1, h2⟩
    unfold walkFallbacks at h
    cases hl : r.scout.lookupFallback id with
    | none => rw [hl] at h; exact hrest _ _ h
    | some entry =>
      rw [hl] at h
      simp only at h
      split at h
      · exact hrest _ _ h
      · rename_i hne
        cases ha : r.getAdapter entry.provider extra with
        | none => rw [ha] at h; exact hrest _ _ h
        | some adapter =>
          rw [ha] at h
          simp only at h
          split at h
          · cases h
            exact ⟨List.mem_cons_self, hl, hne, ha⟩
          · exact hrest _ _ h

theorem tryPrimary_ok {adapter : ProviderAdapter}
    (h : (r.tryPrimary cap failoverFrom extra rd cache).1 = .ok adapter) :
    failoverFrom ≠ some cap.chosenProvider ∧
      r.getAdapter cap.chosenProvider extra = some adapter := by
  unfold tryPrimary at h
  simp only at h
  split at h
  · cases h
  · rename_i hne
    cases ha : r.getAdapter cap.chosenProvider extra with
    | none => rw [ha] at h; cases h
    | some a =>
      rw [ha] at h
      simp only at h
      split at h
      · cases h; exact ⟨hne, rfl⟩
      · cases h

/-- **The two ways a decision is made**: the chosen row through its provider's adapter, or a
fallback through the provider of the row its id resolves to. -/
theorem resolveOrFail_ok {d : RoutingDecision}
    (h : (r.resolveOrFail cap failoverFrom extra rd cache).1 = .ok d) :
    (∃ adapter, (r.tryPrimary cap failoverFrom extra rd cache).1 = .ok adapter ∧
        d = buildDecision cap adapter cap.chosenModelId cap.chosenProvider [] none none) ∨
      (∃ skip cache' stop, r.tryPrimary cap failoverFrom extra rd cache = (.error skip, cache') ∧
        (r.walkFallbacks failoverFrom extra rd 1 cap.fallbackModelIds [skip] cache').1 = .ok stop ∧
        d = buildDecision cap stop.adapter stop.fallbackId stop.entry.provider stop.skipped
          (some (stop.entry.taskScores.getD cap.taskCategory 0))
          (some stop.entry.providerModelId)) := by
  unfold resolveOrFail at h
  cases ht : r.tryPrimary cap failoverFrom extra rd cache with
  | mk res cache' =>
    rw [ht] at h
    cases res with
    | ok adapter => cases h; exact Or.inl ⟨adapter, rfl, rfl⟩
    | error skip =>
      right
      simp only at h
      unfold resolveFallbacks at h
      cases hw : r.walkFallbacks failoverFrom extra rd 1 cap.fallbackModelIds [skip] cache' with
      | mk wres cache'' =>
        rw [hw] at h
        cases wres with
        | ok stop => cases h; exact ⟨skip, cache', stop, rfl, by rw [hw], rfl⟩
        | error skipped => cases h

/-! ## Decisions and rows -/

section BuildDecision

variable {adapter : ProviderAdapter} {modelId provider : String} {skipped : List String}
  {score : Option ℚ} {pmid : Option String}

@[simp] theorem buildDecision_adapter :
    (buildDecision cap adapter modelId provider skipped score pmid).adapter = adapter := rfl

@[simp] theorem buildDecision_modelIdOverride :
    (buildDecision cap adapter modelId provider skipped score pmid).modelIdOverride =
      some modelId := rfl

@[simp] theorem buildDecision_providerModelId :
    (buildDecision cap adapter modelId provider skipped score pmid).providerModelId =
      if pmid.getD cap.providerModelId = "" then none
      else some (pmid.getD cap.providerModelId) := rfl

theorem buildDecision_cap_same (h : modelId = cap.chosenModelId) :
    (buildDecision cap adapter modelId provider skipped score pmid).capabilityDecision =
      some cap := by
  simp [buildDecision, h]

theorem buildDecision_cap_other (h : modelId ≠ cap.chosenModelId) :
    (buildDecision cap adapter modelId provider skipped score pmid).capabilityDecision =
      some (cap.withModel modelId provider (score.getD cap.taskScore)
        (pmid.getD cap.providerModelId)) := by
  simp [buildDecision, h]

end BuildDecision

/-- All parts of a decision name the row `e`: the adapter, the canonical id, the wire slug and the
capability decision. -/
structure DescribesRow (d : RoutingDecision) (e : ModelEntry) : Prop where
  adapter : d.adapter.name = e.provider
  model : d.modelIdOverride = some e.modelId
  slug : d.providerModelId = if e.providerModelId = "" then none else some e.providerModelId
  chosen : ∃ cap, d.capabilityDecision = some cap ∧ cap.chosenModelId = e.modelId ∧
    cap.chosenProvider = e.provider

/-- The override replaces the model and nothing else. -/
theorem applyModelOverride_eq {d : RoutingDecision} {modelId : String}
    (h : d.modelIdOverride = some modelId) (request : ChatCompletionRequest) :
    applyModelOverride request d = request.withModel
      (if d.providerModelId.getD "" = "" then modelId else d.providerModelId.getD "") := by
  unfold applyModelOverride
  rw [h]
  simp only
  generalize (if d.providerModelId.getD "" = "" then modelId else d.providerModelId.getD "") = wire
  by_cases hm : wire = request.model
  · rw [if_pos hm, hm]; rfl
  · rw [if_neg hm]

/-- The wire model of a consistent decision is the row's slug, or its id when it has none. -/
theorem wire_of_describesRow {d : RoutingDecision} {e : ModelEntry} (h : DescribesRow d e)
    (request : ChatCompletionRequest) :
    (applyModelOverride request d).model =
      if e.providerModelId = "" then e.modelId else e.providerModelId := by
  rw [applyModelOverride_eq h.model, h.slug]
  by_cases hp : e.providerModelId = ""
  · simp [hp, ChatCompletionRequest.withModel]
  · simp [hp, ChatCompletionRequest.withModel]

/-- Some row of the registry is named by all parts of the decision, and the request goes out under
that row's slug, or its id when it has none. -/
def Consistent (r : CapabilityRouter) (d : RoutingDecision) : Prop :=
  ∃ e ∈ r.scout.registry.rows, DescribesRow d e ∧
    ∀ request, (applyModelOverride request d).model =
      if e.providerModelId = "" then e.modelId else e.providerModelId

theorem consistent_of_describesRow {d : RoutingDecision} {e : ModelEntry}
    (he : e ∈ r.scout.registry.rows) (h : DescribesRow d e) : Consistent r d :=
  ⟨e, he, h, wire_of_describesRow h⟩

/-- A capability decision names a row of the registry. -/
def NamesRow (r : CapabilityRouter) (cap : CapabilityDecision) : Prop :=
  ∃ e ∈ r.scout.registry.rows, cap.chosenModelId = e.modelId ∧ cap.chosenProvider = e.provider ∧
    cap.providerModelId = e.providerModelId

/-- The scout's decision names a row, pinned or ranked. -/
theorem namesRow_of_choose {request : ChatCompletionRequest} {hints : Option RoutingHints}
    {avail : Option (Finset String)} (h : r.scout.choose request hints avail = .ok cap) :
    NamesRow r cap := by
  cases hp : CapabilityScout.pin hints with
  | some modelId =>
    unfold CapabilityScout.choose CapabilityScout.pinnedDecision at h
    rw [hp] at h
    simp only at h
    cases hg : r.scout.registry.get modelId with
    | none => rw [hg] at h; cases h
    | some e =>
      rw [hg] at h
      cases h
      exact ⟨e, ModelRegistry.mem_rows_of_get hg, rfl, rfl, rfl⟩
  | none =>
    obtain ⟨eligible, chosen, rest, -, hr, hid, hprov, hslug, -⟩ := CapabilityScout.choose_ok hp h
    have hm : chosen.1 ∈ r.scout.finalPool request hints
        (r.scout.finalEligible request hints avail eligible) := by
      have hc : chosen ∈ (r.scout.rankedCandidates request hints
          (r.scout.finalEligible request hints avail eligible)).rows := by rw [hr]; simp
      rw [CapabilityScout.rankedCandidates_rows, List.mem_map] at hc
      obtain ⟨e, he, rfl⟩ := hc
      exact Ranking.mem_sortedBy.1 he
    have hrow := (ModelRegistry.mem_candidates.1
      (CapabilityScout.mem_pool_of_mem_finalPool hm)).1
    exact ⟨chosen.1, hrow, hid, hprov, hslug⟩

/-- The walk stops at a fallback of the chosen model whose row belongs to another provider: the
branch in which `_build_decision` leaves the capability decision as it was. -/
def StopsAtSameModel (r : CapabilityRouter) (cap : CapabilityDecision)
    (failoverFrom : Option String) (extra : Option AdapterMap) (rd : Readings)
    (cache : HealthCache) : Prop :=
  ∃ skip cache' stop, r.tryPrimary cap failoverFrom extra rd cache = (.error skip, cache') ∧
    (r.walkFallbacks failoverFrom extra rd 1 cap.fallbackModelIds [skip] cache').1 = .ok stop ∧
    stop.fallbackId = cap.chosenModelId ∧ stop.entry.provider ≠ cap.chosenProvider

/-- The capability decision of whatever the router returns names a row. -/
theorem namesRow_of_resolve {d : RoutingDecision} (hcap : NamesRow r cap)
    (h : (r.resolveOrFail cap failoverFrom extra rd cache).1 = .ok d) :
    ∃ cap', d.capabilityDecision = some cap' ∧ NamesRow r cap' := by
  rcases resolveOrFail_ok h with ⟨adapter, -, rfl⟩ | ⟨skip, cache', stop, -, hw, rfl⟩
  · exact ⟨cap, buildDecision_cap_same rfl, hcap⟩
  · obtain ⟨-, hl, -, -⟩ := walkFallbacks_ok _ _ _ _ hw
    by_cases hid : stop.fallbackId = cap.chosenModelId
    · exact ⟨cap, buildDecision_cap_same hid, hcap⟩
    · have hmid := (ModelRegistry.modelId_of_get hl).1
      exact ⟨_, buildDecision_cap_other hid, stop.entry, ModelRegistry.mem_rows_of_get hl,
        hmid.symm, rfl, rfl⟩

/-- **One call: the decision names one row exactly when the walk did not stop at another
provider's row of the chosen model.** -/
theorem consistent_iff_of_resolve {d : RoutingDecision} (hcap : NamesRow r cap)
    (h : (r.resolveOrFail cap failoverFrom extra rd cache).1 = .ok d) :
    Consistent r d ↔ ¬ StopsAtSameModel r cap failoverFrom extra rd cache := by
  rcases resolveOrFail_ok h with ⟨adapter, hp, rfl⟩ | ⟨skip, cache', stop, hp, hw, rfl⟩
  · -- the chosen row itself
    constructor
    · rintro - ⟨skip, cache', stop, hp', -⟩
      rw [hp'] at hp
      cases hp
    · intro _
      obtain ⟨-, ha⟩ := tryPrimary_ok hp
      obtain ⟨e, he, hid, hprov, hslug⟩ := hcap
      refine consistent_of_describesRow he
        ⟨?_, ?_, ?_, cap, buildDecision_cap_same rfl, hid, hprov⟩
      · rw [buildDecision_adapter, getAdapter_name ha, hprov]
      · rw [buildDecision_modelIdOverride, hid]
      · simp [hslug]
  · obtain ⟨-, hl, -, ha⟩ := walkFallbacks_ok _ _ _ _ hw
    have hrow := ModelRegistry.mem_rows_of_get hl
    have hmid : stop.entry.modelId = stop.fallbackId := (ModelRegistry.modelId_of_get hl).1
    have hname : stop.adapter.name = stop.entry.provider := getAdapter_name ha
    -- the walk is a function, so it stops at `stop` only
    have hstops : StopsAtSameModel r cap failoverFrom extra rd cache ↔
        stop.fallbackId = cap.chosenModelId ∧ stop.entry.provider ≠ cap.chosenProvider := by
      constructor
      · rintro ⟨skip', cache'', stop', hp', hw', hs⟩
        rw [hp] at hp'
        cases hp'
        rw [hw] at hw'
        cases hw'
        exact hs
      · intro hs
        exact ⟨skip, cache', stop, hp, hw, hs⟩
    rw [hstops]
    by_cases hid : stop.fallbackId = cap.chosenModelId
    · -- the capability decision stays, so its provider has to be the adapter's
      constructor
      · rintro ⟨e, -, ⟨hadapter, -, -, cap', hcap', -, hprov⟩, -⟩ ⟨-, hne⟩
        rw [buildDecision_cap_same hid, Option.some.injEq] at hcap'
        rw [buildDecision_adapter, hname] at hadapter
        exact hne (by rw [hadapter, ← hprov, hcap'])
      · intro hno
        have hprov : stop.entry.provider = cap.chosenProvider := by
          by_contra hne
          exact hno ⟨hid, hne⟩
        refine consistent_of_describesRow hrow
          ⟨hname, ?_, by simp, cap, buildDecision_cap_same hid, ?_, hprov.symm⟩
        · rw [buildDecision_modelIdOverride, hmid]
        · rw [hmid, hid]
    · -- another model: the capability decision is updated with the row
      constructor
      · rintro - ⟨hs, -⟩
        exact hid hs
      · intro _
        refine consistent_of_describesRow hrow
          ⟨hname, ?_, by simp, _, buildDecision_cap_other hid, hmid.symm, rfl⟩
        rw [buildDecision_modelIdOverride, hmid]

/-! ## Runs of calls -/

/-- The call stops its walk at another provider's row of the chosen model. -/
def CallStopsAtSameModel (r : CapabilityRouter) (st : RouterState) : RouterCall → Prop
  | .route request hints extra rd => ∃ cap,
      r.scout.choose request hints (some (r.availableFrontier extra)) = .ok cap ∧
        StopsAtSameModel r cap none extra rd st.cache
  | .routeAfterFailure failed _ error extra rd => ∃ d cap, st.issued[failed]? = some d ∧
      error.map AdapterError.kind ≠ some .permanent ∧ d.capabilityDecision = some cap ∧
        StopsAtSameModel r cap (some d.adapter.name) extra rd
          (Function.update st.cache d.adapter.name (some (false, rd.failedAt)))

/-- What `route` returns, by the scout's decision. -/
theorem route_ok {request : ChatCompletionRequest} {hints : Option RoutingHints}
    {d : RoutingDecision} (h : (r.route cache rd request hints extra).1 = .ok d) :
    ∃ cap, r.scout.choose request hints (some (r.availableFrontier extra)) = .ok cap ∧
      (r.resolveOrFail cap none extra rd cache).1 = .ok d := by
  unfold route at h
  cases hc : r.scout.choose request hints (some (r.availableFrontier extra)) with
  | error e => rw [hc] at h; cases h
  | ok cap => rw [hc] at h; exact ⟨cap, rfl, h⟩

/-- What `route_after_failure` returns, by the failed decision. -/
theorem routeAfterFailure_some {failed d : RoutingDecision} {request : ChatCompletionRequest}
    {error : Option AdapterError}
    (h : (r.routeAfterFailure cache rd failed request error extra).1 = some d) :
    error.map AdapterError.kind ≠ some .permanent ∧ ∃ cap, failed.capabilityDecision = some cap ∧
      (r.resolveOrFail cap (some failed.adapter.name) extra rd
        (Function.update cache failed.adapter.name (some (false, rd.failedAt)))).1 = .ok d := by
  unfold routeAfterFailure at h
  by_cases hp : error.map AdapterError.kind = some .permanent
  · rw [if_pos hp] at h; cases h
  · rw [if_neg hp] at h
    refine ⟨hp, ?_⟩
    simp only at h
    cases hc : failed.capabilityDecision with
    | none => rw [hc] at h; cases h
    | some cap =>
      rw [hc] at h
      simp only at h
      refine ⟨cap, rfl, ?_⟩
      split at h
      · rename_i d' cache' hres
        rw [hres]
        cases h
        rfl
      · cases h

/-- Every issued decision carries a capability decision that names a row. -/
def IssuedNameRows (r : CapabilityRouter) (st : RouterState) : Prop :=
  ∀ d ∈ st.issued, ∃ cap, d.capabilityDecision = some cap ∧ NamesRow r cap

/-- Every decision a call returns comes from one walk, and the call stops at the same model
exactly when that walk does. -/
theorem call_some {st : RouterState} {c : RouterCall} {d : RoutingDecision}
    (hinv : IssuedNameRows r st) (h : (r.call st c).1 = some d) :
    ∃ cap failoverFrom extra rd cache, NamesRow r cap ∧
      (r.resolveOrFail cap failoverFrom extra rd cache).1 = .ok d ∧
      (CallStopsAtSameModel r st c ↔ StopsAtSameModel r cap failoverFrom extra rd cache) := by
  cases c with
  | route request hints extra rd =>
    have hok : (r.route st.cache rd request hints extra).1 = .ok d := by
      have h' : (r.route st.cache rd request hints extra).1.toOption = some d := h
      cases hr : (r.route st.cache rd request hints extra).1 with
      | error e => rw [hr] at h'; cases h'
      | ok d' => rw [hr] at h'; cases h'; rfl
    -- a routed decision comes from the scout
    obtain ⟨cap, hc, hres⟩ := route_ok hok
    refine ⟨cap, none, extra, rd, st.cache, namesRow_of_choose hc, hres, ?_⟩
    constructor
    · rintro ⟨cap', hc', hs⟩
      rw [hc] at hc'
      cases hc'
      exact hs
    · intro hs
      exact ⟨cap, hc, hs⟩
  | routeAfterFailure failed request error extra rd =>
    unfold call at h
    simp only at h
    cases hf : st.issued[failed]? with
    | none => rw [hf] at h; cases h
    | some d₀ =>
      rw [hf] at h
      -- a fallback comes from the decision that failed, which was issued before
      obtain ⟨hperm, cap, hcap, hres⟩ := routeAfterFailure_some h
      obtain ⟨cap', hcap', hrow⟩ := hinv d₀ (List.mem_of_getElem? hf)
      rw [hcap] at hcap'
      cases hcap'
      refine ⟨cap, some d₀.adapter.name, extra, rd, _, hrow, hres, ?_⟩
      constructor
      · rintro ⟨d₁, cap₁, hd₁, -, hcap₁, hs⟩
        rw [hf] at hd₁
        cases hd₁
        rw [hcap] at hcap₁
        cases hcap₁
        exact hs
      · intro hs
        exact ⟨d₀, cap, hf, hperm, hcap, hs⟩

/-- A walk that stops returns a decision. -/
theorem resolve_of_stops (h : StopsAtSameModel r cap failoverFrom extra rd cache) :
    ∃ d, (r.resolveOrFail cap failoverFrom extra rd cache).1 = .ok d := by
  obtain ⟨skip, cache', stop, hp, hw, -⟩ := h
  unfold resolveOrFail resolveFallbacks
  rw [hp]
  simp only
  cases hx : r.walkFallbacks failoverFrom extra rd 1 cap.fallbackModelIds [skip] cache' with
  | mk res cache'' =>
    rw [hx] at hw
    simp only at hw
    subst hw
    exact ⟨_, rfl⟩

theorem call_ne_none_of_stops {st : RouterState} {c : RouterCall}
    (h : CallStopsAtSameModel r st c) : (r.call st c).1 ≠ none := by
  cases c with
  | route request hints extra rd =>
    obtain ⟨cap, hc, hs⟩ := h
    obtain ⟨d, hd⟩ := resolve_of_stops hs
    unfold call route
    simp only [hc, hd]
    simp [Except.toOption]
  | routeAfterFailure failed request error extra rd =>
    obtain ⟨d₀, cap, hf, hperm, hcap, hs⟩ := h
    obtain ⟨d, hd⟩ := resolve_of_stops hs
    unfold call routeAfterFailure
    simp only [hf, if_neg hperm, hcap]
    cases hx : r.resolveOrFail cap (some d₀.adapter.name) extra rd
        (Function.update st.cache d₀.adapter.name (some (false, rd.failedAt))) with
    | mk res cache' =>
      rw [hx] at hd
      simp only at hd
      rw [hd]
      simp

/-- **Over every run of calls, all decisions issued name one row each exactly when no call stopped
its walk at another provider's row of the chosen model.** -/
theorem decisions_consistent_iff (r : CapabilityRouter) (cache : HealthCache)
    (calls : List RouterCall) :
    (∀ d ∈ (Runs.run r.callStep ⟨cache, []⟩ calls).issued, Consistent r d) ↔
      Runs.Along r.callStep (fun st c => ¬ CallStopsAtSameModel r st c) ⟨cache, []⟩ calls := by
  have hrun := Runs.run_good_iff r.callStep (P := fun st c => ¬ CallStopsAtSameModel r st c)
    (IssuedNameRows r) (fun st => ∀ d ∈ st.issued, Consistent r d) ?_ ?_ ?_ calls ⟨cache, []⟩ ?_
  · rw [hrun]
    simp
  · -- the issued decisions name rows
    intro st c hinv d hd
    rcases List.mem_append.1 hd with hd | hd
    · exact hinv d hd
    · obtain ⟨cap, f, extra, rd, cache', hrow, hres, -⟩ := call_some hinv (Option.mem_toList.1 hd)
      exact namesRow_of_resolve hrow hres
  · -- a decision that was issued stays issued
    intro st c _ hgood d hd
    exact hgood d (List.mem_append_left _ hd)
  · -- what one call issues is consistent unless it stops at the same model
    intro st c hinv hgood
    cases hc : (r.call st c).1 with
    | none =>
      constructor
      · intro _ hs
        exact call_ne_none_of_stops hs hc
      · intro _ d hd
        unfold callStep at hd
        simp only [hc, Option.toList_none, List.append_nil] at hd
        exact hgood d hd
    | some d =>
      obtain ⟨cap, f, extra, rd, cache', hrow, hres, hiff⟩ := call_some hinv hc
      rw [hiff, ← consistent_iff_of_resolve hrow hres]
      have hissued : (r.callStep st c).issued = st.issued ++ [d] := by
        unfold callStep; simp [hc]
      simp only [hissued]
      constructor
      · intro h
        exact h d (by simp)
      · intro h d' hd'
        rcases List.mem_append.1 hd' with hd' | hd'
        · exact hgood d' hd'
        · rw [List.mem_singleton.1 hd']; exact h
  · intro d hd
    cases hd

/-- Two providers of one model, each with its own slug. -/
def twoProviders : CapabilityRouter where
  scout := .plainScout
    [CapabilityScout.qaRow "qwen3-coder" "together" "Qwen/Qwen3-Coder-480B" 1 (8 / 10),
      CapabilityScout.qaRow "qwen3-coder" "fireworks" "accounts/fireworks/qwen3-coder" 2 (8 / 10)]
  adaptersByProvider := .ofList [{ cls := .together }, { cls := .fireworks }]

/-- A call during which the adapter asked first is down and every later one is up. -/
def firstDown : Readings where
  failedAt := 0
  now _ := 0
  health i _ := decide (i ≠ 0)

/-- The cheaper provider is down: the request goes to the other one, and the capability decision
still names the first. -/
theorem two_providers_inconsistent :
    ¬ ∀ d ∈ (Runs.run twoProviders.callStep ⟨fun _ => none, []⟩
      [.route (CapabilityScout.plainRequest "qwen3-coder") none none firstDown]).issued,
        Consistent twoProviders d := by
  intro h
  have hrun : (Runs.run twoProviders.callStep ⟨fun _ => none, []⟩
      [.route (CapabilityScout.plainRequest "qwen3-coder") none none firstDown]).issued.map
        (fun d => (d.adapter.name, d.capabilityDecision.map CapabilityDecision.chosenProvider)) =
      [("fireworks", some "together")] := by decide +kernel
  generalize (Runs.run twoProviders.callStep ⟨fun _ => none, []⟩
    [.route (CapabilityScout.plainRequest "qwen3-coder") none none firstDown]).issued = issued
    at h hrun
  obtain ⟨d, rest, rfl, hd, -⟩ := List.map_eq_cons_iff.1 hrun
  obtain ⟨e, -, hrow, -⟩ := h d List.mem_cons_self
  obtain ⟨cap, hcap, -, hprov⟩ := hrow.chosen
  rw [Prod.mk.injEq, hcap, Option.map_some, Option.some.injEq, hprov, hrow.adapter] at hd
  exact absurd (hd.1.symm.trans hd.2) (by decide)

end CapabilityRouter

end ModelMeld
