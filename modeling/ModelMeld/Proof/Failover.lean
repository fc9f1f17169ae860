import ModelMeld.Proof.Router

/-!
# Failover and the ranked list

The scout ranks rows by model and provider, while the router keeps its
fallbacks as model ids and looks each id up again.

* `dispatched_ranked`: what every dispatch of a request carries along;
* `dispatches_ranked_iff`: when every dispatch for a request is a ranked row.
-/

namespace ModelMeld

namespace CapabilityScout

/-- The final ranked list of a request; empty when the exclusions leave no provider. -/
def rankedRows (s : CapabilityScout) (request : ChatCompletionRequest)
    (hints : Option RoutingHints) (availableFrontier : Option (Finset String)) :
    List (ModelEntry × ℚ) :=
  match s.hintedEligible hints with
  | none => []
  | some eligible =>
    (s.rankedCandidates request hints
      (s.finalEligible request hints availableFrontier eligible)).rows

variable {s : CapabilityScout} {request : ChatCompletionRequest} {hints : Option RoutingHints}
  {availableFrontier : Option (Finset String)}

/-- What it means for a row to have been a candidate of this request: it is in the ranked list, it
is enabled, its provider passed the filters, and it has the tools and the room. -/
structure RankedRow (s : CapabilityScout) (request : ChatCompletionRequest)
    (hints : Option RoutingHints) (availableFrontier : Option (Finset String)) (e : ModelEntry) :
    Prop where
  ranked : e ∈ (s.rankedRows request hints availableFrontier).map Prod.fst
  enabled : e.enabled = true
  provider : ∃ eligible, s.hintedEligible hints = some eligible ∧
    providerEligible (s.finalEligible request hints availableFrontier eligible) e.provider = true
  tools : request.hasTools = true → e.supportsTools = true
  context : requiredContextWindow s.parts request ≤ e.contextWindow

theorem rankedRow_of_mem {e : ModelEntry}
    (h : e ∈ (s.rankedRows request hints availableFrontier).map Prod.fst) :
    RankedRow s request hints availableFrontier e := by
  have hmem := h
  unfold rankedRows at hmem
  cases he : s.hintedEligible hints with
  | none => rw [he] at hmem; cases hmem
  | some eligible =>
    rw [he] at hmem
    simp only [rankedCandidates_rows, List.map_map] at hmem
    obtain ⟨e', he', rfl⟩ := List.mem_map.1 hmem
    have hpool := mem_pool_of_mem_finalPool (Ranking.mem_sortedBy.1 he')
    have hpass := (ModelRegistry.mem_candidates.1 hpool).2
    unfold ModelEntry.passes at hpass
    simp only [Bool.and_eq_true, Bool.or_eq_true, Bool.not_eq_true', decide_eq_true_eq] at hpass
    obtain ⟨⟨⟨⟨hen, hprov⟩, hctx⟩, htools⟩, -⟩ := hpass
    refine ⟨h, hen, ⟨eligible, he, hprov⟩, ?_, hctx⟩
    intro ht
    rcases htools with hno | hyes
    · have hno' : request.hasTools = false := hno
      rw [ht] at hno'
      cases hno'
    · exact hyes

/-- The decision of an unpinned request, read off its ranked list. -/
theorem choose_ok_ranked (hpin : pin hints = none) {d : CapabilityDecision}
    (h : s.choose request hints availableFrontier = .ok d) :
    ∃ chosen rest, s.rankedRows request hints availableFrontier = chosen :: rest ∧
      d.chosenModelId = chosen.1.modelId ∧ d.chosenProvider = chosen.1.provider ∧
      d.fallbackModelIds = (rest.take s.fallbackDepth).map (fun pair => pair.1.modelId) := by
  obtain ⟨eligible, chosen, rest, he, hr, hid, hprov, -, hfb⟩ := choose_ok hpin h
  refine ⟨chosen, rest, ?_, hid, hprov, hfb⟩
  unfold rankedRows
  rw [he]
  exact hr

theorem choose_of_ranked (hpin : pin hints = none) {chosen : ModelEntry × ℚ}
    {rest : List (ModelEntry × ℚ)}
    (h : s.rankedRows request hints availableFrontier = chosen :: rest) :
    ∃ d, s.choose request hints availableFrontier = .ok d := by
  unfold rankedRows at h
  cases he : s.hintedEligible hints with
  | none => rw [he] at h; cases h
  | some eligible =>
    rw [he] at h
    obtain ⟨d, hd, -⟩ := choose_of_rows hpin he h
    exact ⟨d, hd⟩

end CapabilityScout

namespace CapabilityRouter

variable {r : CapabilityRouter} {cap : CapabilityDecision} {failoverFrom : Option String}
  {extra : Option AdapterMap} {rd : Readings} {cache : HealthCache}
  {request : ChatCompletionRequest} {hints : Option RoutingHints}

/-- Every decision `route` may make for a request, and every one a following failover may make,
whatever the health answers, the clock and the failures. A failover sees the request's own
adapters or none. -/
inductive Dispatched (r : CapabilityRouter) (request : ChatCompletionRequest)
    (hints : Option RoutingHints) (extra : Option AdapterMap) : RoutingDecision → Prop
  | route {cache : HealthCache} {rd : Readings} {d : RoutingDecision}
      (h : (r.route cache rd request hints extra).1 = .ok d) : Dispatched r request hints extra d
  | failover {cache : HealthCache} {rd : Readings} {failed d : RoutingDecision}
      {outgoing : ChatCompletionRequest} {error : Option AdapterError} {extra' : Option AdapterMap}
      (hfailed : Dispatched r request hints extra failed) (hextra : extra' = none ∨ extra' = extra)
      (h : (r.routeAfterFailure cache rd failed outgoing error extra').1 = some d) :
      Dispatched r request hints extra d

/-- The ranked list of a request, with the frontier providers this router can reach. -/
def ranked (r : CapabilityRouter) (request : ChatCompletionRequest) (hints : Option RoutingHints)
    (extra : Option AdapterMap) : List (ModelEntry × ℚ) :=
  r.scout.rankedRows request hints (some (r.availableFrontier extra))

/-- The row of the ranked list a model and a provider name, if they do. -/
def IsRanked (r : CapabilityRouter) (request : ChatCompletionRequest) (hints : Option RoutingHints)
    (extra : Option AdapterMap) (modelId provider : String) : Prop :=
  ∃ pair ∈ r.ranked request hints extra, pair.1.modelId = modelId ∧ pair.1.provider = provider

/-- Each fallback id, looked up again, is a ranked row, unless its provider has no adapter for
this request. -/
def FallbacksRanked (r : CapabilityRouter) (request : ChatCompletionRequest)
    (hints : Option RoutingHints) (extra : Option AdapterMap) : Prop :=
  ∀ pair ∈ (r.ranked request hints extra).tail.take r.scout.fallbackDepth,
    ∀ e, r.scout.registry.get pair.1.modelId = some e → r.getAdapter e.provider extra ≠ none →
      IsRanked r request hints extra e.modelId e.provider

theorem getAdapter_of_none {p : String} {a : ProviderAdapter}
    (h : r.getAdapter p none = some a) : r.getAdapter p extra ≠ none := by
  have h' : r.adaptersByProvider.get? p = some a := h
  unfold getAdapter
  cases extra.bind (fun m => m.get? p) with
  | some b => simp
  | none => simp [h']

/-- What every dispatch of a request carries along: a ranked row in the dispatch and in the
capability decision, and the request's fallback ids. -/
theorem dispatched_ranked (hpin : CapabilityScout.pin hints = none)
    (hfb : FallbacksRanked r request hints extra) {d : RoutingDecision}
    (h : Dispatched r request hints extra d) :
    (∃ m, d.modelIdOverride = some m ∧ IsRanked r request hints extra m d.adapter.name) ∧
      ∃ cap, d.capabilityDecision = some cap ∧
        IsRanked r request hints extra cap.chosenModelId cap.chosenProvider ∧
        cap.fallbackModelIds = ((r.ranked request hints extra).tail.take
          r.scout.fallbackDepth).map (fun pair => pair.1.modelId) := by
  -- one walk of such a capability decision keeps all of it
  have hwalk : ∀ {cap : CapabilityDecision} {f : Option String} {extra' : Option AdapterMap}
      {rd : Readings} {cache : HealthCache} {d : RoutingDecision},
      (extra' = none ∨ extra' = extra) →
      IsRanked r request hints extra cap.chosenModelId cap.chosenProvider →
      cap.fallbackModelIds = ((r.ranked request hints extra).tail.take
        r.scout.fallbackDepth).map (fun pair => pair.1.modelId) →
      (r.resolveOrFail cap f extra' rd cache).1 = .ok d →
      (∃ m, d.modelIdOverride = some m ∧ IsRanked r request hints extra m d.adapter.name) ∧
        ∃ cap, d.capabilityDecision = some cap ∧
          IsRanked r request hints extra cap.chosenModelId cap.chosenProvider ∧
          cap.fallbackModelIds = ((r.ranked request hints extra).tail.take
            r.scout.fallbackDepth).map (fun pair => pair.1.modelId) := by
    intro cap f extra' rd cache d hextra hcap hids hres
    rcases resolveOrFail_ok hres with ⟨adapter, hp, rfl⟩ | ⟨skip, cache', stop, -, hw, rfl⟩
    · obtain ⟨-, ha⟩ := tryPrimary_ok hp
      refine ⟨⟨cap.chosenModelId, rfl, ?_⟩, cap, buildDecision_cap_same rfl, hcap, hids⟩
      rw [buildDecision_adapter, getAdapter_name ha]
      exact hcap
    · obtain ⟨hmem, hl, -, ha⟩ := walkFallbacks_ok _ _ _ _ hw
      have hmid : stop.entry.modelId = stop.fallbackId := (ModelRegistry.modelId_of_get hl).1
      have hrow : IsRanked r request hints extra stop.fallbackId stop.entry.provider := by
        rw [hids, List.mem_map] at hmem
        obtain ⟨pair, hpair, hpid⟩ := hmem
        rw [← hmid]
        refine hfb pair hpair stop.entry (by rw [hpid]; exact hl) ?_
        rcases hextra with rfl | rfl
        · exact getAdapter_of_none ha
        · rw [ha]; simp
      refine ⟨⟨stop.fallbackId, rfl, ?_⟩, ?_⟩
      · rw [buildDecision_adapter, getAdapter_name ha]
        exact hrow
      · by_cases hid : stop.fallbackId = cap.chosenModelId
        · exact ⟨cap, buildDecision_cap_same hid, hcap, hids⟩
        · exact ⟨_, buildDecision_cap_other hid, hrow, hids⟩
  induction h with
  | route h =>
    obtain ⟨cap, hc, hres⟩ := route_ok h
    obtain ⟨chosen, rest, hr, hid, hprov, hids⟩ := CapabilityScout.choose_ok_ranked hpin hc
    have hr' : r.ranked request hints extra = chosen :: rest := hr
    refine hwalk (Or.inr rfl) ⟨chosen, by rw [hr']; simp, hid.symm, hprov.symm⟩ ?_ hres
    rw [hids, hr', List.tail_cons]
  | failover _ hextra h ih =>
    obtain ⟨-, cap, hcap, hrank, hids⟩ := ih
    obtain ⟨-, cap', hcap', hres⟩ := routeAfterFailure_some h
    rw [hcap] at hcap'
    cases hcap'
    exact hwalk hextra hrank hids hres

/-! ## Any fallback can be reached -/

/-- The clock of a walk that takes half a minute per check, in which only one check succeeds. -/
def slowReadings (target : ℕ) : Readings where
  failedAt := 0
  now i := 30 * i
  health i _ := decide (i = target)

/-- Nothing in the cache is fresh at position `i` of a slow walk. -/
def StaleAt (cache : HealthCache) (i : ℕ) : Prop :=
  ∀ p h t, cache p = some (h, t) → t + 30 ≤ 30 * (i : ℚ)

theorem freshHealth_of_stale (httl : r.healthTtl = 30) {i : ℕ} (h : StaleAt cache i) (p : String) :
    r.freshHealth cache p (30 * i) = none := by
  unfold freshHealth
  cases hc : cache p with
  | none => rfl
  | some v =>
    obtain ⟨b, t⟩ := v
    have hle := h p b t hc
    simp only [httl]
    rw [if_neg]
    linarith

theorem staleAt_update {i : ℕ} (h : StaleAt cache i) (p : String) (b : Bool) :
    StaleAt (Function.update cache p (some (b, 30 * (i : ℚ)))) (i + 1) := by
  intro q h' t hq
  by_cases hqp : q = p
  · subst hqp
    rw [Function.update_self] at hq
    cases hq
    push_cast
    linarith
  · rw [Function.update_of_ne hqp] at hq
    have := h q h' t hq
    push_cast
    linarith

theorem staleAt_succ {i : ℕ} (h : StaleAt cache i) : StaleAt cache (i + 1) := by
  intro q h' t hq
  have := h q h' t hq
  push_cast
  linarith

/-- A slow walk in which every earlier check fails reaches any fallback that has an adapter. -/
theorem walkFallbacks_reaches (hskip : r.skipUnhealthy = true) (httl : r.healthTtl = 30)
    {id : String} {e : ModelEntry} {a : ProviderAdapter} (hl : r.scout.lookupFallback id = some e)
    (ha : r.getAdapter e.provider extra = some a) (post : List String) :
    ∀ (pre : List String) (i : ℕ) (skipped : List String) (cache : HealthCache),
      StaleAt cache i →
      ∃ stop, (r.walkFallbacks none extra (slowReadings (i + pre.length)) i (pre ++ id :: post)
        skipped cache).1 = .ok stop ∧ stop.fallbackId = id ∧ stop.entry = e ∧ stop.adapter = a := by
  intro pre
  induction pre with
  | nil =>
    intro i skipped cache hst
    rw [List.nil_append]
    unfold walkFallbacks
    have hfresh := freshHealth_of_stale (r := r) httl hst e.provider
    simp only [hl, reduceCtorEq, if_false, ha, isHealthy, hskip, if_true, slowReadings, hfresh]
    simp
  | cons id' pre ih =>
    intro i skipped cache hst
    have hlen : i + (id' :: pre).length = (i + 1) + pre.length := by
      rw [List.length_cons]; omega
    rw [List.cons_append, hlen]
    unfold walkFallbacks
    cases hl' : r.scout.lookupFallback id' with
    | none => exact ih (i + 1) _ cache (staleAt_succ hst)
    | some e' =>
      simp only [reduceCtorEq, if_false]
      cases ha' : r.getAdapter e'.provider extra with
      | none => exact ih (i + 1) _ cache (staleAt_succ hst)
      | some a' =>
        have hfresh := freshHealth_of_stale (r := r) httl hst e'.provider
        -- this adapter is not the one to be reached: its probe fails
        have hprobe : (slowReadings (i + 1 + pre.length)).health i a' = false := by
          simp only [slowReadings, decide_eq_false_iff_not]
          omega
        have hh : r.isHealthy cache e'.provider
            ((slowReadings (i + 1 + pre.length)).now i)
            ((slowReadings (i + 1 + pre.length)).health i a') =
            (false, Function.update cache e'.provider (some (false, 30 * (i : ℚ)))) := by
          rw [hprobe]
          simp only [isHealthy, hskip, if_true, slowReadings, hfresh]
        simp only [hh]
        exact ih (i + 1) _ _ (staleAt_update hst _ _)

/-- Every fallback id of the decision whose row has an adapter is dispatched to under some health
answers. -/
theorem resolve_reaches (hskip : r.skipUnhealthy = true) (httl : r.healthTtl = 30)
    {cap : CapabilityDecision} {id : String} (hid : id ∈ cap.fallbackModelIds) {e : ModelEntry}
    {a : ProviderAdapter} (hl : r.scout.lookupFallback id = some e)
    (ha : r.getAdapter e.provider extra = some a) :
    ∃ rd d, (r.resolveOrFail cap none extra rd (fun _ => none)).1 = .ok d ∧
      d.modelIdOverride = some id ∧ d.adapter = a := by
  obtain ⟨pre, post, hids⟩ := List.append_of_mem hid
  have hst : StaleAt (fun _ => none) 0 := fun p h t hc => by cases hc
  -- the chosen provider is skipped: no adapter, or its probe fails
  have hprim : ∃ skip cache', r.tryPrimary cap none extra (slowReadings (1 + pre.length))
      (fun _ => none) = (.error skip, cache') ∧ StaleAt cache' 1 := by
    unfold tryPrimary
    simp only [reduceCtorEq, if_false]
    cases ha' : r.getAdapter cap.chosenProvider extra with
    | none => exact ⟨_, _, rfl, staleAt_succ hst⟩
    | some a' =>
      have hprobe : (slowReadings (1 + pre.length)).health 0 a' = false := by
        simp only [slowReadings, decide_eq_false_iff_not]
        omega
      have hh : r.isHealthy (fun _ => none) cap.chosenProvider
          ((slowReadings (1 + pre.length)).now 0)
          ((slowReadings (1 + pre.length)).health 0 a') =
          (false, Function.update (fun _ => none) cap.chosenProvider
            (some (false, 30 * ((0 : ℕ) : ℚ)))) := by
        rw [hprobe]
        simp [isHealthy, hskip, freshHealth, slowReadings]
      simp only [hh]
      exact ⟨_, _, rfl, staleAt_update hst _ _⟩
  obtain ⟨skip, cache', hp, hst'⟩ := hprim
  obtain ⟨stop, hw, hsid, -, hsa⟩ := walkFallbacks_reaches hskip httl hl ha post pre 1 [skip]
    cache' hst'
  refine ⟨slowReadings (1 + pre.length), ?_⟩
  unfold resolveOrFail resolveFallbacks
  rw [hp, hids]
  simp only
  cases hx : r.walkFallbacks none extra (slowReadings (1 + pre.length)) 1 (pre ++ id :: post)
      [skip] cache' with
  | mk res cache'' =>
    rw [hx] at hw
    simp only at hw
    subst hw
    exact ⟨_, rfl, by rw [buildDecision_modelIdOverride, hsid], hsa⟩

/-- **For a scout, a set of adapters and a request: under all health settings, health answers and
failures every dispatch is a row the scout ranked for it, exactly when each fallback id that can be
dispatched resolves to a ranked row.** -/
theorem dispatches_ranked_iff (s : CapabilityScout) (adapters : AdapterMap)
    (request : ChatCompletionRequest) (hints : Option RoutingHints) (extra : Option AdapterMap)
    (hpin : CapabilityScout.pin hints = none) :
    (∀ skipUnhealthy healthTtl d,
        Dispatched ⟨s, adapters, skipUnhealthy, healthTtl⟩ request hints extra d →
          ∃ e, CapabilityScout.RankedRow s request hints
              (some (availableFrontier ⟨s, adapters, skipUnhealthy, healthTtl⟩ extra)) e ∧
            d.modelIdOverride = some e.modelId ∧ d.adapter.name = e.provider) ↔
      FallbacksRanked ⟨s, adapters, true, 30⟩ request hints extra := by
  constructor
  · intro h pair hpair e hg ha
    have hpair' := List.mem_of_mem_take hpair
    cases hr : (⟨s, adapters, true, 30⟩ : CapabilityRouter).ranked request hints extra with
    | nil => rw [hr] at hpair'; cases hpair'
    | cons chosen rest =>
      obtain ⟨cap, hc⟩ := CapabilityScout.choose_of_ranked hpin hr
      obtain ⟨chosen', rest', hr', -, -, hids⟩ := CapabilityScout.choose_ok_ranked hpin hc
      have hr'' : (⟨s, adapters, true, 30⟩ : CapabilityRouter).ranked request hints extra =
        chosen' :: rest' := hr'
      have hid : pair.1.modelId ∈ cap.fallbackModelIds := by
        rw [hids]
        rw [hr'', List.tail_cons] at hpair
        exact List.mem_map_of_mem hpair
      obtain ⟨a, ha'⟩ := Option.ne_none_iff_exists'.1 ha
      -- slow probes of all that comes before make the walk stop at this row
      obtain ⟨rd, d, hd, hmodel, hadapter⟩ := resolve_reaches
        (r := ⟨s, adapters, true, 30⟩) rfl rfl hid hg ha'
      have hroute : ((⟨s, adapters, true, 30⟩ : CapabilityRouter).route (fun _ => none) rd request
          hints extra).1 = .ok d := by
        unfold route
        rw [hc]
        exact hd
      obtain ⟨e', he', hm, hn⟩ := h true 30 d (.route hroute)
      obtain ⟨q, hq, hqe⟩ := List.mem_map.1 he'.ranked
      have hmid := (ModelRegistry.modelId_of_get hg).1
      rw [hmodel, Option.some.injEq] at hm
      rw [hadapter, getAdapter_name ha'] at hn
      exact ⟨q, hq, by rw [hqe, ← hm, hmid], by rw [hqe, hn]⟩
  · -- the other way, whatever the health settings
    intro hfb skip ttl d hd
    have hfb' : FallbacksRanked ⟨s, adapters, skip, ttl⟩ request hints extra := hfb
    obtain ⟨⟨m, hm, pair, hpair, hid, hprov⟩, -⟩ := dispatched_ranked hpin hfb' hd
    have hmem : pair.1 ∈ (s.rankedRows request hints
        (some (availableFrontier ⟨s, adapters, skip, ttl⟩ extra))).map Prod.fst :=
      List.mem_map_of_mem hpair
    exact ⟨pair.1, CapabilityScout.rankedRow_of_mem hmem, by rw [hm, hid], hprov.symm⟩

/-- A decidable form of `FallbacksRanked`, for one configuration. -/
theorem fallbacksRanked_of_all
    (h : ((r.ranked request hints extra).tail.take r.scout.fallbackDepth).all (fun pair =>
      match r.scout.registry.get pair.1.modelId with
      | none => true
      | some e => (r.ranked request hints extra).any (fun q =>
          decide (q.1.modelId = e.modelId ∧ q.1.provider = e.provider))) = true) :
    FallbacksRanked r request hints extra := by
  intro pair hpair e hg _
  have hp := List.all_eq_true.1 h pair hpair
  rw [hg] at hp
  obtain ⟨q, hq, hqe⟩ := List.any_eq_true.1 hp
  exact ⟨q, hq, of_decide_eq_true hqe⟩

/-- The chosen provider is down, and the request goes to the row ranked next. -/
theorem dispatches_ranked_one_provider_each : ∃ d,
    (route ⟨CapabilityScout.mixedScout 2, .ofList [{ cls := .vllm }, { cls := .openai }], true, 30⟩
        (fun _ => none) firstDown (CapabilityScout.plainRequest "gpt-5-mini") none none).1 = .ok d ∧
      d.adapter.name = "vllm" ∧
      ∃ e, CapabilityScout.RankedRow (CapabilityScout.mixedScout 2)
          (CapabilityScout.plainRequest "gpt-5-mini") none
          (some (availableFrontier ⟨CapabilityScout.mixedScout 2,
            .ofList [{ cls := .vllm }, { cls := .openai }], true, 30⟩ none)) e ∧
        d.modelIdOverride = some e.modelId ∧ d.adapter.name = e.provider := by
  have hview : (route ⟨CapabilityScout.mixedScout 2,
      .ofList [{ cls := .vllm }, { cls := .openai }], true, 30⟩ (fun _ => none) firstDown
      (CapabilityScout.plainRequest "gpt-5-mini") none none).1.toOption.map
        (fun d => d.adapter.name) = some "vllm" := by decide +kernel
  cases hd : (route ⟨CapabilityScout.mixedScout 2,
      .ofList [{ cls := .vllm }, { cls := .openai }], true, 30⟩ (fun _ => none) firstDown
      (CapabilityScout.plainRequest "gpt-5-mini") none none).1 with
  | error e => rw [hd] at hview; cases hview
  | ok d =>
    rw [hd] at hview
    exact ⟨d, rfl, Option.some.inj hview, (dispatches_ranked_iff (CapabilityScout.mixedScout 2)
      (.ofList [{ cls := .vllm }, { cls := .openai }]) (CapabilityScout.plainRequest "gpt-5-mini")
      none none rfl).2 (fallbacksRanked_of_all (by decide +kernel)) true 30 d (.route hd)⟩

/-- A fallback model with two providers, the later row belonging to one the request excludes. -/
def sharedFallback : CapabilityScout :=
  { CapabilityScout.plainScout [CapabilityScout.qaRow "qwen3-coder" "together" "" 1 (8 / 10),
      CapabilityScout.qaRow "kimi-k2" "vllm" "" 2 (8 / 10),
      CapabilityScout.qaRow "kimi-k2" "fireworks" "" 3 (8 / 10)] with
    eligibleProviders := some {"together", "vllm", "fireworks"} }

/-- The excluded provider is dispatched to when the chosen one is down. -/
theorem excluded_provider_dispatched :
    CapabilityScout.pin (some { excludedProviders := some {"fireworks"} }) = none ∧
      ¬ ∀ skipUnhealthy healthTtl d,
        Dispatched ⟨sharedFallback, .ofList [{ cls := .together }, { cls := .fireworks }],
          skipUnhealthy, healthTtl⟩ (CapabilityScout.plainRequest "qwen3-coder")
          (some { excludedProviders := some {"fireworks"} }) none d →
        ∃ e, CapabilityScout.RankedRow sharedFallback (CapabilityScout.plainRequest "qwen3-coder")
            (some { excludedProviders := some {"fireworks"} })
            (some (availableFrontier ⟨sharedFallback,
              .ofList [{ cls := .together }, { cls := .fireworks }], skipUnhealthy, healthTtl⟩
              none)) e ∧
          d.modelIdOverride = some e.modelId ∧ d.adapter.name = e.provider := by
  refine ⟨rfl, ?_⟩
  intro h
  have hrun : ((route ⟨sharedFallback, .ofList [{ cls := .together }, { cls := .fireworks }],
      true, 30⟩ (fun _ => none) firstDown (CapabilityScout.plainRequest "qwen3-coder")
      (some { excludedProviders := some {"fireworks"} }) none).1.toOption.map
        (fun d => d.adapter.name)) = some "fireworks" := by decide +kernel
  cases hd : (route ⟨sharedFallback, .ofList [{ cls := .together }, { cls := .fireworks }],
      true, 30⟩ (fun _ => none) firstDown (CapabilityScout.plainRequest "qwen3-coder")
      (some { excludedProviders := some {"fireworks"} }) none).1 with
  | error e => rw [hd] at hrun; cases hrun
  | ok d =>
    rw [hd] at hrun
    have hname : d.adapter.name = "fireworks" := Option.some.inj hrun
    obtain ⟨e, hrow, -, hprov⟩ := h true 30 d (.route hd)
    obtain ⟨eligible, he, hp⟩ := hrow.provider
    rw [← hprov, hname] at hp
    -- without an alias the filter is the operator's set less the exclusions
    have hfin : sharedFallback.finalEligible (CapabilityScout.plainRequest "qwen3-coder")
        (some { excludedProviders := some {"fireworks"} }) (some (availableFrontier
          ⟨sharedFallback, .ofList [{ cls := .together }, { cls := .fireworks }], true, 30⟩ none))
        eligible = eligible := rfl
    rw [hfin] at hp
    exact CapabilityScout.hintedEligible_not_excluded he hp (by decide)

end CapabilityRouter

end ModelMeld
