import ModelMeld.Spec.Gateway
import ModelMeld.Spec.Tiered

/-!
# The persistent router

The three routers an app can be started with, as one `Router`, and runs in
which the calls that other requests make of it and whole passthrough requests
follow each other in any order. A call of `TieredRouter` is taken here with its
probes answered at once, as one of `CapabilityRouter` is.
-/

namespace ModelMeld

/-! ## Calls of the tiered router -/

/-- What one call of `TieredRouter` reads from outside. -/
structure TierReadings where
  /-- What the scout decides, if it is asked. -/
  scout : ScoutDecision
  failedAt : ℚ
  now : Tier → ℚ
  health : Tier → Bool

namespace TieredRouter

/-- `_is_healthy`; `probe` is the answer of the adapter, should it be asked. -/
def isHealthy (r : TieredRouter) (h : TierHealth) (tier : Tier) (now : ℚ) (probe : Bool) :
    Bool × TierHealth :=
  match r.knownHealth h tier now with
  | some healthy => (healthy, h)
  | none => (probe, h.probed tier (h.cache tier) now probe)

/-- The loop of `route` over the tiers. -/
def walkTiers (r : TieredRouter) (rd : TierReadings) (preferred : Tier)
    (scout : Option ScoutDecision) :
    List Tier → List String → TierHealth → Except RouterError RoutingDecision × TierHealth
  | [], skipped, h => (.error (r.noHealthyAdapter preferred skipped), h)
  | tier :: rest, skipped, h =>
    match r.adapters tier with
    | none => r.walkTiers rd preferred scout rest (skipped ++ [tier.value ++ ":not_configured"]) h
    | some adapter =>
      let asked := r.isHealthy h tier (rd.now tier) (rd.health tier)
      if asked.1 then (.ok (r.tierDecision preferred scout tier adapter skipped), asked.2)
      else r.walkTiers rd preferred scout rest (skipped ++ [tier.value ++ ":unhealthy"]) asked.2

/-- `route`. -/
def route (r : TieredRouter) (h : TierHealth) (rd : TierReadings) :
    Except RouterError RoutingDecision × TierHealth :=
  let (preferred, scout) := r.preferredTier rd.scout
  r.walkTiers rd preferred scout [preferred, preferred.other] [] h

/-- `route_after_failure`. -/
def routeAfterFailure (r : TieredRouter) (h : TierHealth) (rd : TierReadings)
    (failed : RoutingDecision) (request : ChatCompletionRequest) (error : Option AdapterError) :
    Option RoutingDecision × TierHealth :=
  if error.map AdapterError.kind = some .permanent then (none, h)
  else
    let h := h.counted failed.tier r.unhealthyThreshold rd.failedAt
    let other := failed.tier.other
    match r.adapters other with
    | none => (none, h)
    | some adapter =>
      let asked := r.isHealthy h other (rd.now other) (rd.health other)
      (if asked.1 then r.fallbackTo failed adapter request.model else none, asked.2)

end TieredRouter

/-! ## The three routers -/

/-- The router in `app.state`. -/
inductive PersistentRouter where
  | single (adapter : ProviderAdapter)
  | tiered (r : TieredRouter)
  | capability (r : CapabilityRouter)

/-- What the routers know of the health of tiers and providers. -/
structure RouterHealth where
  tiers : TierHealth := {}
  providers : HealthCache := fun _ => none

structure RouterReadings where
  tiers : TierReadings
  providers : Readings

/-- The persistent router as a `Router`. -/
def PersistentRouter.toRouter : PersistentRouter → Router RouterHealth RouterReadings
  | .single adapter => singleAdapterRouter _ _ adapter
  | .tiered r =>
    { route := fun s e _ _ _ =>
        let res := r.route s.tiers e.tiers
        (res.1, { s with tiers := res.2 })
      routeAfterFailure := fun s e failed request error _ =>
        let res := r.routeAfterFailure s.tiers e.tiers failed request error
        (res.1, { s with tiers := res.2 }) }
  | .capability r =>
    { route := fun s e request hints extra =>
        let res := r.route s.providers e.providers request hints extra
        (res.1, { s with providers := res.2 })
      routeAfterFailure := fun s e failed request error extra =>
        let res := r.routeAfterFailure s.providers e.providers failed request error extra
        (res.1, { s with providers := res.2 }) }

/-! ## Runs -/

/-- A request with a subscription bearer, with what it reads from outside and the caches as it
finds them. -/
structure PassthroughRequest (D : Type) where
  adapter : ProviderAdapter
  inbound : Inbound
  bearer : inbound.passthrough = some adapter
  outside : Outside RouterReadings
  call : Call
  completionCache : Option (InMemoryCompletionCache (CacheKey D) Answer) := none
  semanticCache : Option (SemanticCache Answer) := none

/-- What can happen next to the persistent router. -/
inductive RouterEvent (D : Type) where
  /-- Another request is routed. -/
  | route (e : RouterReadings) (request : ChatCompletionRequest) (hints : Option RoutingHints)
      (extra : Option AdapterMap)
  /-- Another request's dispatch has failed. -/
  | failed (e : RouterReadings) (decision : RoutingDecision) (outgoing : ChatCompletionRequest)
      (error : AdapterError)
  | passthrough (q : PassthroughRequest D)

/-- Not a passthrough request. -/
def RouterEvent.isOther {D : Type} : RouterEvent D → Bool
  | .passthrough _ => false
  | _ => true

/-- What the persistent router answers another request. -/
inductive RouterAnswer where
  | routed (result : Except RouterError RoutingDecision)
  | failedOver (fallback : Option RoutingDecision)

/-- The persistent router's state, and its answers to the other requests so far. -/
structure RouterRun where
  health : RouterHealth := {}
  answers : List RouterAnswer := []

variable {D : Type} [DecidableEq D]

/-- How the gateway handles a passthrough request. -/
def PassthroughRequest.handled (q : PassthroughRequest D)
    (g : Gateway RouterHealth RouterReadings D) (health : RouterHealth) : Handled RouterHealth D :=
  g.handle ⟨health, q.completionCache, q.semanticCache⟩ q.inbound q.outside q.call

/-- Whether a call is answered with a stream, told by what it hands to the adapter. -/
def Call.isStreamed (d : Dispatch) : Call → Bool
  | .responses stream _ => stream
  | _ => d.request.streaming

/-- The passthrough request is dispatched, and its upstream fails with an `AdapterError`. -/
def PassthroughRequest.FailsWith (q : PassthroughRequest D)
    (g : Gateway RouterHealth RouterReadings D) (health : RouterHealth) (error : AdapterError) :
    Prop :=
  ∃ d, (q.handled g health).dispatches.head? = some d ∧
    if q.call.isStreamed d then q.outside.stream 0 d = .failed error
    else q.outside.chat 0 d = .failed error

/-- One event of a run. -/
def Gateway.routerStep (g : Gateway RouterHealth RouterReadings D) (run : RouterRun) :
    RouterEvent D → RouterRun
  | .route e request hints extra =>
    let res := g.router.route run.health e request hints extra
    { health := res.2, answers := run.answers ++ [.routed res.1] }
  | .failed e decision outgoing error =>
    let res := g.router.fallback run.health e decision outgoing error
    { health := res.2, answers := run.answers ++ [.failedOver res.1] }
  | .passthrough q => { run with health := (q.handled g run.health).state.router }

end ModelMeld
