import ModelMeld.Spec.Gateway

/-!
# The tiered router

`TieredRouter` keeps a state object for each tier it has probed or seen fail,
and skips a tier whose object says that it is unhealthy. Its calls give up
control while they await `adapter.health()`, and the handlers while they await
the adapter; a machine whose steps are the stretches in between runs the
requests of all routes over one router, in any interleaving. What has come back
from the probes and the calls of a tier is kept as a ghost.
-/

namespace ModelMeld

/-- `RoutingPolicy.value`. -/
def RoutingPolicy.value : RoutingPolicy → String
  | .single => "single"
  | .scoutDriven => "scout_driven"
  | .alwaysLocal => "always_local"
  | .alwaysCloud => "always_cloud"
  | .capability => "capability"

/-- `_HealthState`. -/
structure HealthState where
  healthy : Bool := true
  lastCheck : ℚ := 0
  consecutiveFailures : ℕ := 0

/-- What a probe writes to a state object. -/
def HealthState.afterProbe (askedAt : ℚ) (healthy : Bool) (state : HealthState) : HealthState where
  healthy := healthy
  lastCheck := askedAt
  consecutiveFailures := if healthy then 0 else state.consecutiveFailures

/-- What a failure that is counted writes to one. -/
def HealthState.afterFailure (threshold : ℕ) (now : ℚ) (state : HealthState) : HealthState where
  healthy := state.healthy && decide (state.consecutiveFailures + 1 < threshold)
  lastCheck := now
  consecutiveFailures := state.consecutiveFailures + 1

/-- The state objects made so far, by reference, and `_health_cache`. -/
structure TierHealth where
  objects : ℕ → HealthState := fun _ => {}
  made : ℕ := 0
  cache : Tier → Option ℕ := fun _ => none

namespace TierHealth

/-- `self._health_cache.get(tier)`, as what the object holds. -/
def stateOf (h : TierHealth) (tier : Tier) : Option HealthState := (h.cache tier).map h.objects

/-- The counter of a tier; zero without an object. -/
def failures (h : TierHealth) (tier : Tier) : ℕ :=
  ((h.stateOf tier).map HealthState.consecutiveFailures).getD 0

/-- A write through a reference. -/
def assign (h : TierHealth) (ref : ℕ) (state : HealthState) : TierHealth :=
  { h with objects := Function.update h.objects ref state }

/-- A new object in the cache. -/
def create (h : TierHealth) (tier : Tier) (state : HealthState) : TierHealth where
  objects := Function.update h.objects h.made state
  made := h.made + 1
  cache := Function.update h.cache tier (some h.made)

/-- The object a reference leads to, with what is written to it; without a reference, a new one. -/
def write (h : TierHealth) (tier : Tier) (held : Option ℕ) (f : HealthState → HealthState) :
    TierHealth :=
  match held with
  | none => h.create tier (f {})
  | some ref => h.assign ref (f (h.objects ref))

/-- The part of `_is_healthy` after its await; `held` is what the cache had before it. -/
def probed (h : TierHealth) (tier : Tier) (held : Option ℕ) (askedAt : ℚ) (healthy : Bool) :
    TierHealth :=
  h.write tier held (.afterProbe askedAt healthy)

/-- The part of `route_after_failure` that counts a failure. -/
def counted (h : TierHealth) (tier : Tier) (threshold : ℕ) (now : ℚ) : TierHealth :=
  h.write tier (h.cache tier) (.afterFailure threshold now)

/-- `record_success`, which no handler calls. -/
def recordSuccess (h : TierHealth) (tier : Tier) (now : ℚ) : TierHealth :=
  match h.cache tier with
  | none => h
  | some ref => h.assign ref { healthy := true, lastCheck := now, consecutiveFailures := 0 }

end TierHealth

/-- `TieredRouter`, with what its constructor checks. -/
structure TieredRouter where
  adapters : Tier → Option ProviderAdapter
  policy : RoutingPolicy := .scoutDriven
  skipUnhealthy : Bool := true
  healthTtl : ℚ := 30
  unhealthyThreshold : ℕ := 3
  /-- `adapter.serves_model`. -/
  servesModel : ProviderAdapter → String → Bool := fun _ _ => true
  tiered : policy ≠ .single
  threshold_pos : 1 ≤ unhealthyThreshold

/-- An `adapter.health()` that is awaited: the object the cache had for the tier, and since when. -/
structure TierProbe where
  tier : Tier
  adapter : ProviderAdapter
  held : Option ℕ
  askedAt : ℚ

/-- A call of the router that awaits a probe, and what it goes on with. -/
inductive TierWalk where
  | route (preferred : Tier) (scout : Option ScoutDecision) (rest : List Tier)
      (skipped : List String)
  | failover (failed : RoutingDecision)

/-- Where a stretch of a call of the router ends. -/
inductive TierProgress where
  | waiting (walk : TierWalk) (probe : TierProbe)
  | routed (result : Except RouterError RoutingDecision)
  | failedOver (fallback : Option RoutingDecision)

/-- A stretch of a call of the router. As a ghost, the tiers it skipped as unhealthy. -/
structure TierStretch where
  unhealthy : List Tier := []
  progress : TierProgress

/-- A stretch with one more tier skipped before it. -/
def TierStretch.after (tier : Tier) (s : TierStretch) : TierStretch :=
  { s with unhealthy := tier :: s.unhealthy }

/-- `_other`. -/
def Tier.other : Tier → Tier
  | .local => .cloud
  | .cloud => .local

namespace TieredRouter

/-- The tier `route` tries first, and the scout's decision when the scout is asked. -/
def preferredTier (r : TieredRouter) (scout : ScoutDecision) : Tier × Option ScoutDecision :=
  match r.policy with
  | .alwaysLocal => (.local, none)
  | .alwaysCloud => (.cloud, none)
  | _ => (scout.tier, some scout)

/-- The part of `_is_healthy` before its await: an answer without asking, if there is one. -/
def knownHealth (r : TieredRouter) (h : TierHealth) (tier : Tier) (now : ℚ) : Option Bool :=
  if r.skipUnhealthy then
    match h.stateOf tier with
    | some state => if now - state.lastCheck < r.healthTtl then some state.healthy else none
    | none => none
  else some true

/-- The decision for a tier. -/
def tierDecision (r : TieredRouter) (preferred : Tier) (scout : Option ScoutDecision) (tier : Tier)
    (adapter : ProviderAdapter) (skipped : List String) : RoutingDecision where
  tier := tier
  adapter := adapter
  scoutDecision := scout
  policyApplied := r.policy
  rationale :=
    if tier = preferred then "policy=" ++ r.policy.value ++ ";tier=" ++ tier.value
    else "policy=" ++ r.policy.value ++ ";preferred=" ++ preferred.value ++ ";fallback=" ++
      tier.value ++ ";skipped=" ++ join "," skipped

/-- The `RouterError` of a request for which no tier is left. -/
def noHealthyAdapter (r : TieredRouter) (preferred : Tier) (skipped : List String) : RouterError :=
  ⟨"No healthy adapter available (policy=" ++ r.policy.value ++ ", preferred=" ++ preferred.value ++
    ", skipped=[" ++ join ", " (skipped.map (fun s => "'" ++ s ++ "'")) ++ "])"⟩

/-- The loop of `route` over the tiers, up to the next await. -/
def walkOn (r : TieredRouter) (h : TierHealth) (now : Tier → ℚ) (preferred : Tier)
    (scout : Option ScoutDecision) : List Tier → List String → TierStretch
  | [], skipped => { progress := .routed (.error (r.noHealthyAdapter preferred skipped)) }
  | tier :: rest, skipped =>
    match r.adapters tier with
    | none => r.walkOn h now preferred scout rest (skipped ++ [tier.value ++ ":not_configured"])
    | some adapter =>
      match r.knownHealth h tier (now tier) with
      | some true =>
        { progress := .routed (.ok (r.tierDecision preferred scout tier adapter skipped)) }
      | some false =>
        (r.walkOn h now preferred scout rest (skipped ++ [tier.value ++ ":unhealthy"])).after tier
      | none =>
        { progress := .waiting (.route preferred scout rest skipped)
            ⟨tier, adapter, h.cache tier, now tier⟩ }

/-- `route` up to its first await of a probe. -/
def beginRoute (r : TieredRouter) (h : TierHealth) (scout : ScoutDecision) (now : Tier → ℚ) :
    TierStretch :=
  let (preferred, scout) := r.preferredTier scout
  r.walkOn h now preferred scout [preferred, preferred.other] []

/-- The end of `route_after_failure`, once the other tier is known to be healthy. -/
def fallbackTo (r : TieredRouter) (failed : RoutingDecision) (adapter : ProviderAdapter)
    (model : String) : Option RoutingDecision :=
  if r.servesModel adapter model then
    some
      { tier := failed.tier.other
        adapter := adapter
        scoutDecision := failed.scoutDecision
        policyApplied := failed.policyApplied
        rationale := "failover;from=" ++ failed.tier.value ++ ";to=" ++ failed.tier.other.value ++
          ";policy=" ++ r.policy.value ++ ";original=" ++ failed.rationale }
  else none

/-- `route_after_failure` from where the failure is counted, up to its await. -/
def beginFailover (r : TieredRouter) (h : TierHealth) (failed : RoutingDecision) (model : String)
    (now : Tier → ℚ) : TierStretch :=
  let other := failed.tier.other
  match r.adapters other with
  | none => { progress := .failedOver none }
  | some adapter =>
    match r.knownHealth h other (now other) with
    | some true => { progress := .failedOver (r.fallbackTo failed adapter model) }
    | some false => { unhealthy := [other], progress := .failedOver none }
    | none => { progress := .waiting (.failover failed) ⟨other, adapter, h.cache other, now other⟩ }

/-- A call of the router after an awaited probe, over the objects with that probe. -/
def proceed (r : TieredRouter) (h : TierHealth) (model : String) (probe : TierProbe)
    (healthy : Bool) (now : Tier → ℚ) : TierWalk → TierStretch
  | .route preferred scout rest skipped =>
    if healthy then
      { progress := .routed
          (.ok (r.tierDecision preferred scout probe.tier probe.adapter skipped)) }
    else
      (r.walkOn h now preferred scout rest
        (skipped ++ [probe.tier.value ++ ":unhealthy"])).after probe.tier
  | .failover failed =>
    if healthy then { progress := .failedOver (r.fallbackTo failed probe.adapter model) }
    else { unhealthy := [probe.tier], progress := .failedOver none }

end TieredRouter

/-! ## Requests -/

/-- What a dispatch is: the first or the second of a request, or that of a passthrough router,
whose decision bears the nominal tier `cloud`. -/
inductive TierStage where
  | first | second | passthrough
deriving DecidableEq

/-- One request, by where its handler is. -/
inductive TierTask where
  /-- It awaits nothing: it has not begun, or it is over. -/
  | idle
  | probing (model : String) (walk : TierWalk) (probe : TierProbe)
  /-- It has a decision, and awaits its adapter. -/
  | dispatched (model : String) (decision : RoutingDecision) (stage : TierStage)

/-- Where a stretch of a call of the router leaves the handler. -/
def TierProgress.task (model : String) : TierProgress → TierTask
  | .waiting walk probe => .probing model walk probe
  | .routed (.ok decision) => .dispatched model decision .first
  | .routed (.error _) => .idle
  | .failedOver (some decision) => .dispatched model decision .second
  | .failedOver none => .idle

/-- What can happen next in one request. The outcome of a dispatch is that of `chat`, or of the
opening of a stream. -/
inductive TierEvent where
  /-- The handler calls `route`, and the scout decides if it is asked. -/
  | route (model : String) (scout : ScoutDecision) (now : Tier → ℚ)
  /-- The handler routes through a passthrough router. -/
  | passthrough (model : String) (adapter : ProviderAdapter)
  /-- The awaited `health()` answers. -/
  | answer (healthy : Bool) (now : Tier → ℚ)
  /-- The request is answered from a cache instead of being dispatched. -/
  | cached
  /-- The awaited adapter answers, or fails. -/
  | ended (outcome : Upstream Unit) (failedAt : ℚ) (now : Tier → ℚ)

/-- A dispatch to a tier that is over: how it ended, and the tier's counter then. -/
structure TierCall where
  outcome : Upstream Unit
  failures : ℕ

/-- A tier that was skipped as unhealthy, with what was known of it then. -/
structure TierSkip where
  tier : Tier
  lastProbe : Option Bool
  calls : List TierCall

/-- The requests over one router, by number, and its state objects. As ghosts: the latest answer
of a probe of each tier, the calls to each tier, the latest first, and all that was skipped. -/
structure TierState where
  health : TierHealth := {}
  tasks : ℕ → TierTask := fun _ => .idle
  lastProbe : Tier → Option Bool := fun _ => none
  calls : Tier → List TierCall := fun _ => []
  skips : List TierSkip := []

/-- A dispatch that the router counts as a failure: it failed with an `AdapterError` that is not
permanent. -/
def Upstream.isCounted {α : Type} : Upstream α → Bool
  | .failed error => decide (error.kind ≠ .permanent)
  | .ok _ | .raised => false

namespace TierState

/-- The state after a stretch of a call of the router, which the request `q` made. -/
def stretch (st : TierState) (q : ℕ) (model : String) (s : TierStretch) : TierState :=
  { st with
    tasks := Function.update st.tasks q (s.progress.task model)
    skips := st.skips ++ s.unhealthy.map (fun tier => ⟨tier, st.lastProbe tier, st.calls tier⟩) }

/-- The state with one more call to a tier. -/
def called (st : TierState) (tier : Tier) (outcome : Upstream Unit) : TierState :=
  { st with
    calls := Function.update st.calls tier
      (⟨outcome, st.health.failures tier⟩ :: st.calls tier) }

def finish (st : TierState) (q : ℕ) : TierState :=
  { st with tasks := Function.update st.tasks q .idle }

end TierState

namespace TieredRouter

/-- The end of a dispatch. A success is not reported to the router, and a failure only when it is
that of the first dispatch, of a passthrough too; a permanent one is not counted. -/
def endCall (r : TieredRouter) (st : TierState) (q : ℕ) (model : String)
    (decision : RoutingDecision) (stage : TierStage) (outcome : Upstream Unit) (failedAt : ℚ)
    (now : Tier → ℚ) : TierState :=
  let counts := outcome.isCounted && decide (stage ≠ .second)
  let health := if counts then st.health.counted decision.tier r.unhealthyThreshold failedAt
    else st.health
  let st := { st with health := health }
  let st := if stage = .passthrough then st else st.called decision.tier outcome
  if counts then st.stretch q model (r.beginFailover health decision model now)
  else st.finish q

/-- The decision of `SingleAdapterRouter`. -/
def passthroughDecision (adapter : ProviderAdapter) : RoutingDecision where
  tier := .cloud
  adapter := adapter
  policyApplied := .single
  rationale := "single_adapter:" ++ adapter.name

/-- One step of one request. An event that its handler does not wait for changes nothing. -/
def step (r : TieredRouter) (st : TierState) (e : ℕ × TierEvent) : TierState :=
  match st.tasks e.1, e.2 with
  | .idle, .route model scout now => st.stretch e.1 model (r.beginRoute st.health scout now)
  | .idle, .passthrough model adapter =>
    { st with
      tasks := Function.update st.tasks e.1
        (.dispatched model (passthroughDecision adapter) .passthrough) }
  | .probing model walk probe, .answer healthy now =>
    let health := st.health.probed probe.tier probe.held probe.askedAt healthy
    let st := { st with
      health := health
      lastProbe := Function.update st.lastProbe probe.tier (some healthy) }
    st.stretch e.1 model (r.proceed health model probe healthy now walk)
  | .dispatched _ _ .first, .cached => st.finish e.1
  | .dispatched _ _ .passthrough, .cached => st.finish e.1
  | .dispatched model decision stage, .ended outcome failedAt now =>
    r.endCall st e.1 model decision stage outcome failedAt now
  | _, _ => st

end TieredRouter

end ModelMeld
