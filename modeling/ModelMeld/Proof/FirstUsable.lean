import ModelMeld.Proof.Failover

/-!
# Where a failover goes

A failover walks the chosen row and the fallback ids again, without the
request's own adapters.

* `fallback_eq_find`: under steady health the failover goes to the first row of the walk that is
  usable;
* `failover_first_iff`: when that is the first usable row in rank order.
-/

namespace ModelMeld

namespace CapabilityRouter

variable {r : CapabilityRouter} {extra : Option AdapterMap} {rd : Readings}
  {cache cache' : HealthCache} {failed : String} {healthy : ProviderAdapter → Bool}
  {cap : CapabilityDecision}

/-! ## Steady health -/

/-- The health of the adapters does not change while a failover lasts: the clock does not go back,
and a check of any adapter, at whatever position of the walk it is made, has one answer. Only the
failed provider, which is not checked, may do otherwise. -/
structure SteadyHealth (r : CapabilityRouter) (failed : String) (cache : HealthCache)
    (rd : Readings) (healthy : ProviderAdapter → Bool) : Prop where
  clock : Monotone rd.now
  answer : ∀ i a, a.name ≠ failed →
    (r.isHealthy cache a.name (rd.now i) (rd.health i a)).1 = healthy a

/-- The cache after some checks of the walk: an entry is as it was, or it is what an earlier check
of a stale entry wrote. -/
def Agrees (r : CapabilityRouter) (failed : String) (extra : Option AdapterMap) (rd : Readings)
    (healthy : ProviderAdapter → Bool) (cache cache' : HealthCache) (i : ℕ) : Prop :=
  ∀ p, p ≠ failed → cache' p = cache p ∨
    ∃ j a, j < i ∧ r.getAdapter p extra = some a ∧ r.freshHealth cache p (rd.now j) = none ∧
      cache' p = some (healthy a, rd.now j)

theorem agrees_succ {i : ℕ} (h : Agrees r failed extra rd healthy cache cache' i) :
    Agrees r failed extra rd healthy cache cache' (i + 1) := by
  intro p hp
  rcases h p hp with h | ⟨j, a, hj, hrest⟩
  · exact Or.inl h
  · exact Or.inr ⟨j, a, Nat.lt_succ_of_lt hj, hrest⟩

/-- A stale entry stays stale. -/
theorem stale_later {p : String} {s t : ℚ} (hst : s ≤ t) (h : r.freshHealth cache p s = none) :
    r.freshHealth cache p t = none := by
  unfold freshHealth at h ⊢
  cases hc : cache p with
  | none => rfl
  | some v =>
    rw [hc] at h
    simp only at h ⊢
    split at h
    · cases h
    · rename_i hlt
      rw [if_neg]
      linarith

/-- A check in the middle of the walk gives the steady answer, and the cache still agrees. -/
theorem isHealthy_steady (hs : SteadyHealth r failed cache rd healthy) {p : String}
    (hp : p ≠ failed) {a : ProviderAdapter} (ha : r.getAdapter p extra = some a) {i : ℕ}
    (hag : Agrees r failed extra rd healthy cache cache' i) :
    (r.isHealthy cache' p (rd.now i) (rd.health i a)).1 = healthy a ∧
      Agrees r failed extra rd healthy cache
        (r.isHealthy cache' p (rd.now i) (rd.health i a)).2 (i + 1) := by
  have hname : a.name = p := getAdapter_name ha
  have hans := hs.answer i a (by rw [hname]; exact hp)
  rw [hname] at hans
  by_cases hskip : r.skipUnhealthy = true
  · simp only [isHealthy, hskip, if_true] at hans ⊢
    rcases hag p hp with hsame | ⟨j, b, hj, hb, hstale, hentry⟩
    · -- the entry is the one from before the walk
      have hfresh : r.freshHealth cache' p (rd.now i) = r.freshHealth cache p (rd.now i) := by
        unfold freshHealth
        rw [hsame]
      rw [hfresh]
      cases hf : r.freshHealth cache p (rd.now i) with
      | some b =>
        rw [hf] at hans
        exact ⟨hans, agrees_succ hag⟩
      | none =>
        rw [hf] at hans
        -- the probe is written, with the answer it will always give
        refine ⟨hans, ?_⟩
        intro q hq
        by_cases hqp : q = p
        · subst hqp
          have hans' : rd.health i a = healthy a := hans
          exact Or.inr ⟨i, a, Nat.lt_succ_self i, ha, hf, by simp [hans']⟩
        · simp only [Function.update_of_ne hqp]
          exact agrees_succ hag q hq
    · -- an earlier check wrote it, and its answer is the steady one
      rw [ha] at hb
      cases hb
      rw [stale_later (hs.clock hj.le) hstale] at hans
      have hans' : rd.health i a = healthy a := hans
      cases hf : r.freshHealth cache' p (rd.now i) with
      | some b =>
        refine ⟨?_, agrees_succ hag⟩
        unfold freshHealth at hf
        rw [hentry] at hf
        simp only at hf
        split at hf
        · exact (Option.some.inj hf).symm
        · cases hf
      | none =>
        refine ⟨hans', ?_⟩
        intro q hq
        by_cases hqp : q = p
        · subst hqp
          exact Or.inr ⟨i, a, Nat.lt_succ_self i, ha, stale_later (hs.clock hj.le) hstale,
            by simp [hans']⟩
        · simp only [Function.update_of_ne hqp]
          exact agrees_succ hag q hq
  · -- health is not asked for
    simp only [isHealthy, hskip] at hans ⊢
    exact ⟨hans, agrees_succ hag⟩

/-! ## The rows of the walk -/

/-- The provider has an adapter that is healthy. -/
def usable (r : CapabilityRouter) (extra : Option AdapterMap) (healthy : ProviderAdapter → Bool)
    (provider : String) : Bool :=
  match r.getAdapter provider extra with
  | none => false
  | some a => healthy a

/-- A row a failover from `failed` may go to. -/
def candidate (r : CapabilityRouter) (extra : Option AdapterMap)
    (healthy : ProviderAdapter → Bool) (failed provider : String) : Bool :=
  decide (provider ≠ failed) && r.usable extra healthy provider

/-- The models and providers the walk tries for these fallback ids: each id with the provider of
the row it resolves to. -/
def fallbackRows (r : CapabilityRouter) (ids : List String) : List (String × String) :=
  ids.filterMap (fun id => (r.scout.lookupFallback id).map (fun e => (id, e.provider)))

/-- All models and providers the walk tries. -/
def walkRows (r : CapabilityRouter) (cap : CapabilityDecision) : List (String × String) :=
  (cap.chosenModelId, cap.chosenProvider) :: r.fallbackRows cap.fallbackModelIds

theorem walkFallbacks_find (hs : SteadyHealth r failed cache rd healthy) :
    ∀ (ids : List String) (i : ℕ) (skipped : List String) (cache' : HealthCache),
      Agrees r failed extra rd healthy cache cache' i →
      ((r.walkFallbacks (some failed) extra rd i ids skipped cache').1.toOption.map
        (fun stop => (stop.fallbackId, stop.adapter.name))) =
      (r.fallbackRows ids).find? (fun row => r.candidate extra healthy failed row.2) := by
  intro ids
  induction ids with
  | nil => intro i skipped cache' _; rfl
  | cons id ids ih =>
    intro i skipped cache' hag
    unfold walkFallbacks
    cases hl : r.scout.lookupFallback id with
    | none =>
      simp only
      rw [ih _ _ _ (agrees_succ hag)]
      simp [fallbackRows, hl]
    | some e =>
      have hrows : r.fallbackRows (id :: ids) = (id, e.provider) :: r.fallbackRows ids := by
        simp [fallbackRows, hl]
      rw [hrows, List.find?_cons]
      simp only [Option.some.injEq]
      -- a row is passed over for its provider, for want of an adapter, or for its health
      by_cases hp : e.provider = failed
      · have hno : r.candidate extra healthy failed e.provider = false := by
          simp [candidate, hp]
        rw [if_pos hp, ih _ _ _ (agrees_succ hag), hno]
      · rw [if_neg hp]
        cases ha : r.getAdapter e.provider extra with
        | none =>
          have hno : r.candidate extra healthy failed e.provider = false := by
            simp [candidate, usable, ha]
          simp only [hno]
          exact ih _ _ _ (agrees_succ hag)
        | some a =>
          obtain ⟨hh, hag'⟩ := isHealthy_steady hs hp ha hag
          have hcand : r.candidate extra healthy failed e.provider = healthy a := by
            simp [candidate, usable, ha, hp]
          simp only [hh, hcand]
          cases healthy a with
          | true => simp [Except.toOption, getAdapter_name ha]
          | false => exact ih _ _ _ hag'

variable (cap) in
theorem tryPrimary_steady (hs : SteadyHealth r failed cache rd healthy)
    (hag : Agrees r failed extra rd healthy cache cache' 0) :
    ((r.tryPrimary cap (some failed) extra rd cache').1.toOption.map ProviderAdapter.name) =
        (if r.candidate extra healthy failed cap.chosenProvider then some cap.chosenProvider
          else none) ∧
      Agrees r failed extra rd healthy cache
        (r.tryPrimary cap (some failed) extra rd cache').2 1 := by
  unfold tryPrimary
  simp only [Option.some.injEq]
  by_cases hp : cap.chosenProvider = failed
  · rw [if_pos hp.symm]
    exact ⟨by simp [candidate, hp, Except.toOption], agrees_succ hag⟩
  · rw [if_neg (Ne.symm hp)]
    cases ha : r.getAdapter cap.chosenProvider extra with
    | none => exact ⟨by simp [candidate, usable, ha, Except.toOption], agrees_succ hag⟩
    | some a =>
      obtain ⟨hh, hag'⟩ := isHealthy_steady hs hp ha hag
      have hcand : r.candidate extra healthy failed cap.chosenProvider = healthy a := by
        simp [candidate, usable, ha, hp]
      simp only [hh, hcand]
      cases healthy a with
      | true => exact ⟨by simp [Except.toOption, getAdapter_name ha], hag'⟩
      | false => exact ⟨by simp [Except.toOption], hag'⟩

variable (cap) in
/-- Under steady health a walk goes to the first of its rows that is usable. -/
theorem resolveOrFail_find (hs : SteadyHealth r failed cache rd healthy)
    (hag : Agrees r failed extra rd healthy cache cache' 0) :
    ((r.resolveOrFail cap (some failed) extra rd cache').1.toOption.map
        (fun d => (d.modelIdOverride, d.adapter.name))) =
      ((r.walkRows cap).find? (fun row => r.candidate extra healthy failed row.2)).map
        (fun row => (some row.1, row.2)) := by
  obtain ⟨hprim, hag'⟩ := tryPrimary_steady cap hs hag
  unfold resolveOrFail walkRows
  rw [List.find?_cons]
  simp only
  cases ht : r.tryPrimary cap (some failed) extra rd cache' with
  | mk res cache'' =>
    rw [ht] at hprim hag'
    -- the first row of the walk is the chosen one
    cases hc : r.candidate extra healthy failed cap.chosenProvider with
    | true =>
      rw [hc, if_pos rfl] at hprim
      cases res with
      | error skip => cases hprim
      | ok a =>
        have hname : a.name = cap.chosenProvider := Option.some.inj hprim
        simp [Except.toOption, hname]
    | false =>
      rw [hc] at hprim
      cases res with
      | ok a => cases hprim
      | error skip =>
        simp only
        rw [← walkFallbacks_find hs cap.fallbackModelIds 1 [skip] cache'' hag']
        unfold resolveFallbacks
        cases hw : r.walkFallbacks (some failed) extra rd 1 cap.fallbackModelIds [skip] cache'' with
        | mk wres cache₃ =>
          cases wres with
          | ok stop => rfl
          | error sk => rfl

/-- **Where a failover goes**: the first usable row of the walk, without the request's own
adapters. -/
theorem fallback_eq_find {d : RoutingDecision} (hcap : d.capabilityDecision = some cap)
    {error : AdapterError} (herr : error.kind ≠ .permanent)
    (hs : SteadyHealth r d.adapter.name cache rd healthy) (outgoing : ChatCompletionRequest) :
    ((r.toRouter.fallback cache rd d outgoing error).1.map
        (fun d' => (d'.modelIdOverride, d'.adapter.name))) =
      ((r.walkRows cap).find? (fun row => r.candidate none healthy d.adapter.name row.2)).map
        (fun row => (some row.1, row.2)) := by
  have hag : Agrees r d.adapter.name none rd healthy cache
      (Function.update cache d.adapter.name (some (false, rd.failedAt))) 0 := by
    intro p hp
    exact Or.inl (Function.update_of_ne hp _ _)
  rw [← resolveOrFail_find cap hs hag]
  have hkind : ¬ (some error).map AdapterError.kind = some .permanent := by simpa using herr
  simp only [Router.fallback, toRouter, routeAfterFailure, if_neg hkind, hcap]
  cases r.resolveOrFail cap (some d.adapter.name) none rd
      (Function.update cache d.adapter.name (some (false, rd.failedAt))) with
  | mk res cache₂ => cases res <;> rfl

/-! ## Rank order -/

/-- The scout's chosen row and its fallbacks, as rows, in rank order. -/
def scoutRows (r : CapabilityRouter) (request : ChatCompletionRequest)
    (hints : Option RoutingHints) (extra : Option AdapterMap) : List ModelEntry :=
  match CapabilityScout.pin hints with
  | some modelId => (r.scout.registry.get modelId).toList
  | none => ((r.ranked request hints extra).map Prod.fst).take (r.scout.fallbackDepth + 1)

/-- The first row in rank order that has another provider than the failed one, an adapter for this
request, and health. -/
def firstUsable (r : CapabilityRouter) (request : ChatCompletionRequest)
    (hints : Option RoutingHints) (extra : Option AdapterMap) (healthy : ProviderAdapter → Bool)
    (failed : String) : Option ModelEntry :=
  (r.scoutRows request hints extra).find? (fun e => r.candidate extra healthy failed e.provider)

/-- The walk after a failure of `d` tries the model and provider of `e`, whose adapter is a
persistent one, and nothing it tries before is usable. -/
def ReachedFirst (r : CapabilityRouter) (healthy : ProviderAdapter → Bool) (d : RoutingDecision)
    (e : ModelEntry) : Prop :=
  ∃ cap before after, d.capabilityDecision = some cap ∧
    r.walkRows cap = before ++ (e.modelId, e.provider) :: after ∧
    r.usable none healthy e.provider = true ∧
    ∀ row ∈ before, row.2 ≠ d.adapter.name → r.usable none healthy row.2 = false

theorem candidate_iff {p : String} :
    r.candidate extra healthy failed p = true ↔
      p ≠ failed ∧ r.usable extra healthy p = true := by
  simp [candidate]

theorem not_candidate_iff {p : String} :
    r.candidate extra healthy failed p = false ↔
      (p ≠ failed → r.usable extra healthy p = false) := by
  rw [← Bool.not_eq_true, candidate_iff]
  cases r.usable extra healthy p <;> simp

/-- **After a transient failure of the primary provider, the failover goes to the first usable row
in rank order exactly when its walk reaches that row, under a persistent adapter, before any other
usable one.** -/
theorem failover_first_iff (r : CapabilityRouter) (cache : HealthCache) (rd : Readings)
    (request : ChatCompletionRequest) (hints : Option RoutingHints) (extra : Option AdapterMap)
    (d : RoutingDecision) (hroute : (r.route cache rd request hints extra).1 = .ok d)
    (cache' : HealthCache) (rd' : Readings) (outgoing : ChatCompletionRequest)
    (error : AdapterError) (herr : error.kind ≠ .permanent) (healthy : ProviderAdapter → Bool)
    (hs : SteadyHealth r d.adapter.name cache' rd' healthy) :
    (∀ e, r.firstUsable request hints extra healthy d.adapter.name = some e →
        ∃ d', (r.toRouter.fallback cache' rd' d outgoing error).1 = some d' ∧
          d'.modelIdOverride = some e.modelId ∧ d'.adapter.name = e.provider) ↔
      ∀ e, r.firstUsable request hints extra healthy d.adapter.name = some e →
        ReachedFirst r healthy d e := by
  -- the failover walks the rows of the decision that failed
  obtain ⟨cap₀, hc, hres⟩ := route_ok hroute
  obtain ⟨cap, hcap, -⟩ := namesRow_of_resolve (namesRow_of_choose hc) hres
  have hgoes := fallback_eq_find hcap herr hs outgoing
  refine forall_congr' fun e => imp_congr_right fun hfirst => ?_
  have hne : e.provider ≠ d.adapter.name := by
    have hcand : r.candidate extra healthy d.adapter.name e.provider = true :=
      List.find?_some
        (p := fun e : ModelEntry => r.candidate extra healthy d.adapter.name e.provider) hfirst
    exact (candidate_iff.1 hcand).1
  constructor
  · -- the row found is the first that is usable, of all the rows before it
    rintro ⟨d', hd', hm, hn⟩
    rw [hd', Option.map_some, hm, hn] at hgoes
    obtain ⟨row, hrow, hrow'⟩ := Option.map_eq_some_iff.1 hgoes.symm
    rw [Prod.mk.injEq, Option.some.injEq] at hrow'
    obtain ⟨hu, before, after, hsplit, hbefore⟩ := List.find?_eq_some_iff_append.1 hrow
    rw [hrow'.2] at hu
    have hrow'' : row = (e.modelId, e.provider) := Prod.ext hrow'.1 hrow'.2
    rw [hrow''] at hsplit
    refine ⟨cap, before, after, hcap, hsplit, (candidate_iff.1 hu).2, ?_⟩
    intro q hq
    have hnot := hbefore q hq
    rw [Bool.not_eq_true'] at hnot
    exact not_candidate_iff.1 hnot
  · -- a row reached first is the one the walk finds
    rintro ⟨cap', before, after, hcap', hsplit, hu, hbefore⟩
    rw [hcap] at hcap'
    cases hcap'
    have hfind : (r.walkRows cap).find?
        (fun row => r.candidate none healthy d.adapter.name row.2) =
          some (e.modelId, e.provider) := by
      rw [List.find?_eq_some_iff_append]
      refine ⟨candidate_iff.2 ⟨hne, hu⟩, before, after, hsplit, ?_⟩
      intro q hq
      rw [Bool.not_eq_true']
      exact not_candidate_iff.2 (hbefore q hq)
    rw [hfind, Option.map_some] at hgoes
    obtain ⟨d', hd', hd''⟩ := Option.map_eq_some_iff.1 hgoes
    rw [Prod.mk.injEq] at hd''
    exact ⟨d', hd', hd''.1, hd''.2⟩

/-- A call at time zero in which every adapter is up. -/
def allUp : Readings where
  failedAt := 0
  now _ := 0
  health _ _ := true

theorem allUp_steady (s : CapabilityScout) (adapters : AdapterMap) (p : String) :
    SteadyHealth ⟨s, adapters, true, 30⟩ p (fun _ => none) allUp (fun _ => true) where
  clock := monotone_const
  answer _ _ _ := rfl

/-- A request for a cheap row on vLLM; the dearer rows belong to OpenAI and Anthropic. -/
def ownKey (adapters : List ProviderAdapter) : CapabilityRouter where
  scout := CapabilityScout.mixedScout (1 / 2)
  adaptersByProvider := .ofList adapters

/-- What `route` answers a one-word request with. -/
def plainRoute (r : CapabilityRouter) (extra : Option AdapterMap) :
    Except RouterError RoutingDecision :=
  (r.route (fun _ => none) allUp (CapabilityScout.plainRequest "qwen3-coder") none extra).1

theorem failover_to_persistent : ∃ d,
    plainRoute (ownKey [{ cls := .vllm }, { cls := .anthropic }]) none = .ok d ∧
      ∃ d', ((ownKey [{ cls := .vllm }, { cls := .anthropic }]).toRouter.fallback (fun _ => none)
          allUp d (CapabilityScout.plainRequest "qwen3-coder") ⟨.transient, "429"⟩).1 = some d' ∧
        d'.modelIdOverride = some "claude-haiku" ∧ d'.adapter.name = "anthropic" := by
  -- what the first decision says, by evaluation
  have hview : (plainRoute (ownKey [{ cls := .vllm }, { cls := .anthropic }]) none).toOption.map
      (fun d => (d.adapter.name, d.capabilityDecision.map (fun cap =>
        walkRows (ownKey [{ cls := .vllm }, { cls := .anthropic }]) cap))) =
      some ("vllm", some [("qwen3-coder", "vllm"), ("gpt-5-mini", "openai"),
        ("claude-haiku", "anthropic")]) := by decide +kernel
  cases hd : plainRoute (ownKey [{ cls := .vllm }, { cls := .anthropic }]) none with
  | error e => rw [hd] at hview; cases hview
  | ok d =>
    rw [hd] at hview
    obtain ⟨hname, hcap⟩ := Prod.mk.inj (Option.some.inj hview)
    obtain ⟨cap, hcap, hwalk⟩ := Option.map_eq_some_iff.1 hcap
    have hrow : (ownKey [{ cls := .vllm }, { cls := .anthropic }]).firstUsable
        (CapabilityScout.plainRequest "qwen3-coder") none none (fun _ => true) d.adapter.name =
          some (CapabilityScout.qaRow "claude-haiku" "anthropic" "" 3 (9 / 10)) := by
      rw [hname]
      decide +kernel
    refine ⟨d, rfl, (failover_first_iff (ownKey [{ cls := .vllm }, { cls := .anthropic }])
      (fun _ => none) allUp (CapabilityScout.plainRequest "qwen3-coder") none none d hd
      (fun _ => none) allUp (CapabilityScout.plainRequest "qwen3-coder") ⟨.transient, "429"⟩
      (by decide) (fun _ => true) (allUp_steady _ _ _)).2 ?_ _ hrow⟩
    intro e he
    rw [hrow] at he
    cases he
    refine ⟨cap, [("qwen3-coder", "vllm"), ("gpt-5-mini", "openai")], [], hcap, hwalk, rfl, ?_⟩
    intro row hmem hne
    simp only [List.mem_cons, List.not_mem_nil, or_false] at hmem
    rcases hmem with rfl | rfl
    · exact absurd hname.symm hne
    · rfl

/-- The only usable fallback is the request's own Anthropic adapter, and the failover finds none. -/
theorem own_adapter_not_tried : ∃ d,
    plainRoute (ownKey [{ cls := .vllm }]) (some (.ofList [{ cls := .anthropic }])) = .ok d ∧
      SteadyHealth (ownKey [{ cls := .vllm }]) d.adapter.name (fun _ => none) allUp
        (fun _ => true) ∧
      ¬ ∀ e, (ownKey [{ cls := .vllm }]).firstUsable (CapabilityScout.plainRequest "qwen3-coder")
          none (some (.ofList [{ cls := .anthropic }])) (fun _ => true) d.adapter.name = some e →
        ∃ d', ((ownKey [{ cls := .vllm }]).toRouter.fallback (fun _ => none) allUp d
            (CapabilityScout.plainRequest "qwen3-coder") ⟨.transient, "429"⟩).1 = some d' ∧
          d'.modelIdOverride = some e.modelId ∧ d'.adapter.name = e.provider := by
  have hview : (plainRoute (ownKey [{ cls := .vllm }])
      (some (.ofList [{ cls := .anthropic }]))).toOption.map (fun d => (d.adapter.name,
        (((ownKey [{ cls := .vllm }]).toRouter.fallback (fun _ => none) allUp d
          (CapabilityScout.plainRequest "qwen3-coder") ⟨.transient, "429"⟩).1.isNone))) =
      some ("vllm", true) := by decide +kernel
  cases hd : plainRoute (ownKey [{ cls := .vllm }]) (some (.ofList [{ cls := .anthropic }])) with
  | error e => rw [hd] at hview; cases hview
  | ok d =>
    rw [hd] at hview
    obtain ⟨hname, hnone⟩ := Prod.mk.inj (Option.some.inj hview)
    refine ⟨d, rfl, allUp_steady _ _ _, ?_⟩
    intro h
    obtain ⟨d', hd', -⟩ := h (CapabilityScout.qaRow "claude-haiku" "anthropic" "" 3 (9 / 10))
      (by rw [hname]; decide +kernel)
    rw [hd'] at hnone
    cases hnone

end CapabilityRouter

end ModelMeld
