import ModelMeld.Spec.Adapters
import ModelMeld.Spec.Scout

/-!
# Routers

The `Router` interface and two implementations: `SingleAdapterRouter` and
`CapabilityRouter`, which turns the scout's decision into an adapter and walks
the fallbacks when an adapter is missing or unhealthy. What the clock and the
health probes return during a call is an input of the call.
-/

namespace ModelMeld

inductive Tier where
  | local | cloud
deriving DecidableEq, Inhabited

/-- `Tier.value`. -/
def Tier.value : Tier → String
  | .local => "local"
  | .cloud => "cloud"

inductive RoutingPolicy where
  | single | scoutDriven | alwaysLocal | alwaysCloud | capability
deriving DecidableEq, Inhabited

/-- Result of a tier scout. -/
structure ScoutDecision where
  tier : Tier
  confidence : ℚ
  rationale : String
  signals : JsonObj := []
deriving DecidableEq

structure RoutingDecision where
  tier : Tier
  adapter : ProviderAdapter
  scoutDecision : Option ScoutDecision := none
  policyApplied : RoutingPolicy
  rationale : String
  modelIdOverride : Option String := none
  providerModelId : Option String := none
  capabilityDecision : Option CapabilityDecision := none
deriving DecidableEq

/-- `RouterError`, by its text. -/
structure RouterError where
  message : String
deriving DecidableEq

/-- A router with state `σ`; `ε` is what the outside world answers during one call. -/
structure Router (σ ε : Type) where
  route : σ → ε → ChatCompletionRequest → Option RoutingHints → Option AdapterMap →
    Except RouterError RoutingDecision × σ
  routeAfterFailure : σ → ε → RoutingDecision → ChatCompletionRequest → Option AdapterError →
    Option AdapterMap → Option RoutingDecision × σ

/-- How every handler asks for a fallback: `rt.route_after_failure(decision, outgoing, error)`,
without the request's own adapters. -/
def Router.fallback {σ ε : Type} (rt : Router σ ε) (s : σ) (e : ε) (decision : RoutingDecision)
    (outgoing : ChatCompletionRequest) (error : AdapterError) : Option RoutingDecision × σ :=
  rt.routeAfterFailure s e decision outgoing (some error) none

/-- `SingleAdapterRouter`: one adapter, and no failover. -/
def singleAdapterRouter (σ ε : Type) (adapter : ProviderAdapter) : Router σ ε where
  route s _ _ _ _ :=
    (.ok
      { tier := .cloud
        adapter := adapter
        policyApplied := .single
        rationale := "single_adapter:" ++ adapter.name }, s)
  routeAfterFailure s _ _ _ _ _ := (none, s)

/-- `_apply_model_override`: the wire model is the row's slug, else the canonical id. -/
def applyModelOverride (request : ChatCompletionRequest) (decision : RoutingDecision) :
    ChatCompletionRequest :=
  match decision.modelIdOverride with
  | none => request
  | some modelId =>
    let wireModel := if decision.providerModelId.getD "" = "" then modelId
      else decision.providerModelId.getD ""
    if wireModel = request.model then request else request.withModel wireModel

/-! ## The capability router -/

/-- What one call of the router reads from outside: the clock when a failure is recorded, and for
each position of the walk (zero is the chosen model) the clock and what `adapter.health()`
answers, if it is asked. -/
structure Readings where
  failedAt : ℚ
  now : ℕ → ℚ
  health : ℕ → ProviderAdapter → Bool

/-- `_health_cache`: per provider, the last known health and when it was known. -/
abbrev HealthCache := String → Option (Bool × ℚ)

structure CapabilityRouter where
  scout : CapabilityScout
  adaptersByProvider : AdapterMap
  skipUnhealthy : Bool := true
  healthTtl : ℚ := 30

namespace CapabilityRouter

/-- `_get_adapter`: the request's own adapter shadows the persistent one. -/
def getAdapter (r : CapabilityRouter) (provider : String) (extra : Option AdapterMap) :
    Option ProviderAdapter :=
  match extra.bind (fun m => m.get? provider) with
  | some a => some a
  | none => r.adaptersByProvider.get? provider

/-- The cached health, when it is younger than the TTL. -/
def freshHealth (r : CapabilityRouter) (cache : HealthCache) (provider : String) (now : ℚ) :
    Option Bool :=
  match cache provider with
  | none => none
  | some (healthy, last) => if now - last < r.healthTtl then some healthy else none

/-- `_is_healthy`; `probe` is the answer of the adapter, should it be asked. -/
def isHealthy (r : CapabilityRouter) (cache : HealthCache) (provider : String) (now : ℚ)
    (probe : Bool) : Bool × HealthCache :=
  if r.skipUnhealthy then
    match r.freshHealth cache provider now with
    | some healthy => (healthy, cache)
    | none => (probe, Function.update cache provider (some (probe, now)))
  else (true, cache)

/-- `_build_decision`. -/
def buildDecision (capDecision : CapabilityDecision) (adapter : ProviderAdapter)
    (modelId provider : String) (skipped : List String) (taskScore : Option ℚ)
    (providerModelId : Option String) : RoutingDecision :=
  let effectivePmid := providerModelId.getD capDecision.providerModelId
  -- only another model, not another provider of the same model, updates the decision
  let cap :=
    if modelId ≠ capDecision.chosenModelId then
      capDecision.withModel modelId provider (taskScore.getD capDecision.taskScore) effectivePmid
    else capDecision
  let suffix := if skipped = [] then "" else ";skipped=" ++ join "," skipped
  { tier := if provider = "vllm" then .local else .cloud
    adapter := adapter
    scoutDecision := none
    policyApplied := .capability
    rationale := "capability;" ++ cap.rationale ++ suffix
    modelIdOverride := some modelId
    providerModelId := if effectivePmid = "" then none else some effectivePmid
    capabilityDecision := some cap }

/-- The `RouterError` of a walk that found nothing. -/
def noHealthyAdapter (r : CapabilityRouter) (decision : CapabilityDecision)
    (skipped : List String) : RouterError :=
  ⟨"No healthy adapter available for capability route (task=" ++ decision.taskCategory ++
    ", primary=" ++ decision.chosenProvider ++ ", skipped=[" ++
    join ", " (skipped.map r.scout.parts.reprStr) ++ "])"⟩

/-- The fallback the loop returns with. -/
structure Stop where
  fallbackId : String
  entry : ModelEntry
  adapter : ProviderAdapter
  skipped : List String

/-- The loop over `fallback_model_ids`, from position `i` of the walk: the fallback it returns
with, or all that was skipped. -/
def walkFallbacks (r : CapabilityRouter) (failoverFrom : Option String)
    (extra : Option AdapterMap) (rd : Readings) :
    ℕ → List String → List String → HealthCache → Except (List String) Stop × HealthCache
  | _, [], skipped, cache => (.error skipped, cache)
  | i, fallbackId :: rest, skipped, cache =>
    match r.scout.lookupFallback fallbackId with
    | none =>
      r.walkFallbacks failoverFrom extra rd (i + 1) rest
        (skipped ++ [fallbackId ++ ":missing_in_registry"]) cache
    | some entry =>
      let provider := entry.provider
      if some provider = failoverFrom then
        r.walkFallbacks failoverFrom extra rd (i + 1) rest
          (skipped ++ [fallbackId ++ ":" ++ provider ++ ":failover_source"]) cache
      else match r.getAdapter provider extra with
        | none =>
          r.walkFallbacks failoverFrom extra rd (i + 1) rest
            (skipped ++ [fallbackId ++ ":" ++ provider ++ ":not_configured"]) cache
        | some adapter =>
          let h := r.isHealthy cache provider (rd.now i) (rd.health i adapter)
          if h.1 then (.ok ⟨fallbackId, entry, adapter, skipped⟩, h.2)
          else
            r.walkFallbacks failoverFrom extra rd (i + 1) rest
              (skipped ++ [fallbackId ++ ":" ++ provider ++ ":unhealthy"]) h.2

/-- The walk over the fallbacks, and what `_resolve_or_fail` makes of where it stops. -/
def resolveFallbacks (r : CapabilityRouter) (decision : CapabilityDecision)
    (failoverFrom : Option String) (extra : Option AdapterMap) (rd : Readings)
    (skipped : List String) (cache : HealthCache) :
    Except RouterError RoutingDecision × HealthCache :=
  match r.walkFallbacks failoverFrom extra rd 1 decision.fallbackModelIds skipped cache with
  | (.ok stop, cache) =>
    (.ok (buildDecision decision stop.adapter stop.fallbackId stop.entry.provider stop.skipped
      (some (stop.entry.taskScores.getD decision.taskCategory 0))
      (some stop.entry.providerModelId)), cache)
  | (.error skipped, cache) => (.error (r.noHealthyAdapter decision skipped), cache)

/-- The first part of `_resolve_or_fail`: the adapter of the chosen provider, or why it is
skipped. -/
def tryPrimary (r : CapabilityRouter) (decision : CapabilityDecision)
    (failoverFrom : Option String) (extra : Option AdapterMap) (rd : Readings)
    (cache : HealthCache) : Except String ProviderAdapter × HealthCache :=
  let primary := decision.chosenProvider
  if failoverFrom = some primary then (.error (primary ++ ":failover_source"), cache)
  else match r.getAdapter primary extra with
    | none => (.error (primary ++ ":not_configured"), cache)
    | some adapter =>
      let h := r.isHealthy cache primary (rd.now 0) (rd.health 0 adapter)
      if h.1 then (.ok adapter, h.2) else (.error (primary ++ ":unhealthy"), h.2)

/-- `_resolve_or_fail`. -/
def resolveOrFail (r : CapabilityRouter) (decision : CapabilityDecision)
    (failoverFrom : Option String) (extra : Option AdapterMap) (rd : Readings)
    (cache : HealthCache) : Except RouterError RoutingDecision × HealthCache :=
  match r.tryPrimary decision failoverFrom extra rd cache with
  | (.ok adapter, cache) =>
    (.ok (buildDecision decision adapter decision.chosenModelId decision.chosenProvider [] none none),
      cache)
  | (.error skip, cache) => r.resolveFallbacks decision failoverFrom extra rd [skip] cache

/-- The frontier providers this request can be dispatched to. -/
def availableFrontier (r : CapabilityRouter) (extra : Option AdapterMap) : Finset String :=
  let byok := match extra with
    | none => ∅
    | some m => m.keys ∩ byokEligibleProviders
  (r.adaptersByProvider.keys ∪ byok) ∩ frontierProviders

/-- `route`. -/
def route (r : CapabilityRouter) (cache : HealthCache) (rd : Readings)
    (request : ChatCompletionRequest) (hints : Option RoutingHints)
    (extra : Option AdapterMap) : Except RouterError RoutingDecision × HealthCache :=
  match r.scout.choose request hints (some (r.availableFrontier extra)) with
  | .error e => (.error ⟨"capability_scout: " ++ e.text r.scout.parts.reprFloat⟩, cache)
  | .ok decision => r.resolveOrFail decision none extra rd cache

/-- `route_after_failure`: a permanent error is not failed over; otherwise the failed provider is
marked unhealthy and the walk is made again without it. -/
def routeAfterFailure (r : CapabilityRouter) (cache : HealthCache) (rd : Readings)
    (failed : RoutingDecision) (_request : ChatCompletionRequest) (error : Option AdapterError)
    (extra : Option AdapterMap) : Option RoutingDecision × HealthCache :=
  if error.map AdapterError.kind = some .permanent then (none, cache)
  else
    let failedProvider := failed.adapter.name
    let cache := Function.update cache failedProvider (some (false, rd.failedAt))
    match failed.capabilityDecision with
    | none => (none, cache)
    | some scoutDec =>
      match r.resolveOrFail scoutDec (some failedProvider) extra rd cache with
      | (.ok decision, cache) => (some decision, cache)
      | (.error _, cache) => (none, cache)

/-! ## Runs of calls -/

end CapabilityRouter

/-- A call of the router. A failure is reported for a decision issued before, by its place in the
order of issue. -/
inductive RouterCall where
  | route (request : ChatCompletionRequest) (hints : Option RoutingHints)
      (extra : Option AdapterMap) (rd : Readings)
  | routeAfterFailure (failed : ℕ) (request : ChatCompletionRequest) (error : Option AdapterError)
      (extra : Option AdapterMap) (rd : Readings)

/-- The router's own state, and the decisions it has issued. -/
structure RouterState where
  cache : HealthCache
  issued : List RoutingDecision

namespace CapabilityRouter

/-- One call: the decision it returns, if any, and the cache it leaves. A failure of a decision
that was never issued is not made. -/
def call (r : CapabilityRouter) (st : RouterState) :
    RouterCall → Option RoutingDecision × HealthCache
  | .route request hints extra rd =>
    let res := r.route st.cache rd request hints extra
    (res.1.toOption, res.2)
  | .routeAfterFailure failed request error extra rd =>
    match st.issued[failed]? with
    | none => (none, st.cache)
    | some d => r.routeAfterFailure st.cache rd d request error extra

def callStep (r : CapabilityRouter) (st : RouterState) (c : RouterCall) : RouterState :=
  let res := r.call st c
  { cache := res.2, issued := st.issued ++ res.1.toList }

/-- The capability router as a `Router`. -/
def toRouter (r : CapabilityRouter) : Router HealthCache Readings where
  route := r.route
  routeAfterFailure := r.routeAfterFailure

end CapabilityRouter

end ModelMeld
