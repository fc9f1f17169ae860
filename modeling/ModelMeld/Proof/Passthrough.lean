import ModelMeld.Spec.Persistent
import ModelMeld.Proof.Scrubbing
import ModelMeld.Proof.Tiered
import ModelMeld.Lib.Runs

/-!
# Passthrough requests and the persistent router

* `settle_route`, `settle_failover`: a call of the tiered router whose awaits nobody interrupts is
  the call taken at once;
* `fallback_ignores_iff`: what a persistent router makes of the failure of a passthrough;
* `passthrough_isolated_iff`: passthrough requests are dispatched once, leave the router's state
  alone and change no answer to another request exactly in the runs in which every failure of
  theirs is one the router ignores.
-/

namespace ModelMeld

open Runs

/-! ## A call of the tiered router by itself -/

namespace TieredRouter

variable {r : TieredRouter} {h : TierHealth} {rd : TierReadings} {model : String}

theorem isHealthy_known {tier : Tier} {now : ℚ} {healthy : Bool}
    (hknown : r.knownHealth h tier now = some healthy) (probe : Bool) :
    r.isHealthy h tier now probe = (healthy, h) := by
  unfold isHealthy
  rw [hknown]

theorem isHealthy_asked {tier : Tier} {now : ℚ} (hknown : r.knownHealth h tier now = none)
    (probe : Bool) :
    r.isHealthy h tier now probe = (probe, h.probed tier (h.cache tier) now probe) := by
  unfold isHealthy
  rw [hknown]

/-- A call whose awaits are answered at once, for as long as `fuel` lasts. -/
def settle (r : TieredRouter) (model : String) (rd : TierReadings) :
    ℕ → TierProgress → TierHealth → Option (TierProgress × TierHealth)
  | 0, .waiting _ _, _ => none
  | fuel + 1, .waiting walk probe, h =>
    let healthy := rd.health probe.tier
    let h := h.probed probe.tier probe.held probe.askedAt healthy
    r.settle model rd fuel (r.proceed h model probe healthy rd.now walk).progress h
  | _, .routed result, h => some (.routed result, h)
  | _, .failedOver fallback, h => some (.failedOver fallback, h)

@[simp] theorem settle_routed (n : ℕ) (result : Except RouterError RoutingDecision) :
    r.settle model rd n (.routed result) h = some (.routed result, h) := by
  cases n <;> rfl

@[simp] theorem settle_failedOver (n : ℕ) (fallback : Option RoutingDecision) :
    r.settle model rd n (.failedOver fallback) h = some (.failedOver fallback, h) := by
  cases n <;> rfl

/-- The loop with its awaits answered at once is the loop of a call taken at once. -/
theorem settle_walkOn (preferred : Tier) (scout : Option ScoutDecision) :
    ∀ (tiers : List Tier) (n : ℕ) (skipped : List String) (h : TierHealth), tiers.length ≤ n →
      r.settle model rd n (r.walkOn h rd.now preferred scout tiers skipped).progress h =
        some (.routed (r.walkTiers rd preferred scout tiers skipped h).1,
          (r.walkTiers rd preferred scout tiers skipped h).2) := by
  intro tiers
  induction tiers with
  | nil =>
    intro n skipped h _
    simp [walkOn, walkTiers]
  | cons tier rest ih =>
    intro n skipped h hn
    have hrest : rest.length ≤ n := Nat.le_of_succ_le hn
    unfold walkOn walkTiers
    cases hadapter : r.adapters tier with
    | none => exact ih n _ h hrest
    | some adapter =>
      simp only
      cases hknown : r.knownHealth h tier (rd.now tier) with
      | some healthy =>
        rw [isHealthy_known hknown]
        cases healthy with
        | true => simp
        | false => exact ih n _ h hrest
      | none =>
        rw [isHealthy_asked hknown]
        obtain ⟨n, rfl⟩ : ∃ m, n = m + 1 := ⟨n - 1, by simp at hn; omega⟩
        simp only [settle, proceed]
        cases rd.health tier with
        | true => simp
        | false =>
          have hrest' : rest.length ≤ n := Nat.le_of_succ_le_succ hn
          exact ih n _ _ hrest'

/-- **A routing whose awaits nobody interrupts is `route`.** -/
theorem settle_route (r : TieredRouter) (h : TierHealth) (rd : TierReadings) (model : String) :
    r.settle model rd 2 (r.beginRoute h rd.scout rd.now).progress h =
      some (.routed (r.route h rd).1, (r.route h rd).2) :=
  settle_walkOn _ _ _ 2 _ h (by simp)

/-- **And a failover is `route_after_failure`.** -/
theorem settle_failover (r : TieredRouter) (h : TierHealth) (rd : TierReadings)
    (failed : RoutingDecision) (request : ChatCompletionRequest) {error : AdapterError}
    (hcounted : error.kind ≠ .permanent) :
    r.settle request.model rd 1
        (r.beginFailover (h.counted failed.tier r.unhealthyThreshold rd.failedAt) failed
          request.model rd.now).progress
        (h.counted failed.tier r.unhealthyThreshold rd.failedAt) =
      some (.failedOver (r.routeAfterFailure h rd failed request (some error)).1,
        (r.routeAfterFailure h rd failed request (some error)).2) := by
  have hnot : ¬ (some error).map AdapterError.kind = some .permanent := by
    simpa using hcounted
  unfold routeAfterFailure beginFailover
  rw [if_neg hnot]
  simp only
  cases r.adapters failed.tier.other with
  | none => simp
  | some adapter =>
    simp only
    cases hknown : r.knownHealth (h.counted failed.tier r.unhealthyThreshold rd.failedAt)
        failed.tier.other (rd.now failed.tier.other) with
    | some healthy =>
      rw [isHealthy_known hknown]
      cases healthy <;> simp
    | none =>
      rw [isHealthy_asked hknown]
      simp only [settle, proceed]
      cases rd.health failed.tier.other <;> simp

/-! ## State objects -/

theorem isHealthy_owned (howned : h.Owned) (tier : Tier) (now : ℚ) (probe : Bool) :
    (r.isHealthy h tier now probe).2.Owned := by
  unfold isHealthy
  split
  · exact howned
  · exact TierHealth.write_owned howned

theorem walkTiers_owned (preferred : Tier) (scout : Option ScoutDecision) :
    ∀ (tiers : List Tier) (skipped : List String) (h : TierHealth), h.Owned →
      (r.walkTiers rd preferred scout tiers skipped h).2.Owned := by
  intro tiers
  induction tiers with
  | nil => intro skipped h howned; exact howned
  | cons tier rest ih =>
    intro skipped h howned
    unfold walkTiers
    split
    · exact ih _ _ howned
    · simp only
      split
      · exact isHealthy_owned howned _ _ _
      · exact ih _ _ (isHealthy_owned howned _ _ _)

theorem route_owned (howned : h.Owned) : (r.route h rd).2.Owned :=
  walkTiers_owned _ _ _ _ h howned

theorem routeAfterFailure_owned {failed : RoutingDecision} {request : ChatCompletionRequest}
    {error : Option AdapterError} (howned : h.Owned) :
    (r.routeAfterFailure h rd failed request error).2.Owned := by
  have hcounted : (h.counted failed.tier r.unhealthyThreshold rd.failedAt).Owned :=
    TierHealth.write_owned howned
  unfold routeAfterFailure
  split
  · exact howned
  · simp only
    split
    · exact hcounted
    · exact isHealthy_owned hcounted _ _ _

/-- Asking one tier leaves the counter of the other alone. -/
theorem isHealthy_failures_other (howned : h.Owned) {tier tier' : Tier} (hne : tier' ≠ tier)
    (now : ℚ) (probe : Bool) :
    (r.isHealthy h tier now probe).2.failures tier' = h.failures tier' := by
  unfold isHealthy
  split
  · rfl
  · unfold TierHealth.failures TierHealth.probed
    rw [TierHealth.stateOf_write_other howned (howned.holds_cache tier) hne]

/-- **A failure that is counted shows in the counter of its tier when the call is over.** -/
theorem routeAfterFailure_failures (howned : h.Owned) (rd : TierReadings)
    (failed : RoutingDecision) (request : ChatCompletionRequest) {error : AdapterError}
    (hcounted : error.kind ≠ .permanent) :
    (r.routeAfterFailure h rd failed request (some error)).2.failures failed.tier =
      h.failures failed.tier + 1 := by
  have hnot : ¬ (some error).map AdapterError.kind = some .permanent := by
    simpa using hcounted
  have hone : (h.counted failed.tier r.unhealthyThreshold rd.failedAt).failures failed.tier =
      h.failures failed.tier + 1 := by
    unfold TierHealth.failures TierHealth.counted
    rw [TierHealth.stateOf_write_cache]
    cases h.stateOf failed.tier <;> rfl
  have hother : failed.tier ≠ failed.tier.other := by
    cases failed.tier <;> decide
  unfold routeAfterFailure
  rw [if_neg hnot]
  simp only
  split
  · exact hone
  · have howned' : (h.counted failed.tier r.unhealthyThreshold rd.failedAt).Owned :=
      TierHealth.write_owned howned
    rw [← hone]
    exact isHealthy_failures_other howned' hother _ _

end TieredRouter

/-! ## The failure of a passthrough -/

namespace PersistentRouter

variable {p : PersistentRouter} {health : RouterHealth}

/-- The failure of a passthrough that the persistent router makes nothing of: one that is
permanent; under `CapabilityRouter` also one that is in the health cache already, and under
`SingleAdapterRouter` any. -/
def Ignores (p : PersistentRouter) (health : RouterHealth) (e : RouterReadings)
    (adapter : ProviderAdapter) (error : AdapterError) : Prop :=
  match p with
  | .single _ => True
  | .tiered _ => error.kind = .permanent
  | .capability _ => error.kind = .permanent ∨
      health.providers adapter.name = some (false, e.providers.failedAt)

/-- **The router answers the failure of a passthrough with nothing, and without a change to its
state, exactly when it ignores it.** -/
theorem fallback_ignores_iff (howned : health.tiers.Owned) (e : RouterReadings)
    (adapter : ProviderAdapter) (outgoing : ChatCompletionRequest) (error : AdapterError) :
    p.toRouter.fallback health e (TieredRouter.passthroughDecision adapter) outgoing error =
      (none, health) ↔ p.Ignores health e adapter error := by
  cases p with
  | single single => simp [Router.fallback, toRouter, singleAdapterRouter, Ignores]
  | tiered r =>
    simp only [Router.fallback, toRouter, Ignores]
    constructor
    · intro heq
      by_contra hcounted
      have hfailures := r.routeAfterFailure_failures howned e.tiers
        (TieredRouter.passthroughDecision adapter) outgoing hcounted
      have hstate := congrArg (fun res => res.2.tiers) heq
      simp only at hstate
      rw [hstate] at hfailures
      omega
    · intro hpermanent
      simp [TieredRouter.routeAfterFailure, hpermanent]
  | capability r =>
    have hnone : (TieredRouter.passthroughDecision adapter).capabilityDecision = none := rfl
    have hadapter : (TieredRouter.passthroughDecision adapter).adapter = adapter := rfl
    simp only [Router.fallback, toRouter, Ignores, CapabilityRouter.routeAfterFailure, hnone,
      hadapter, Option.map_some, Option.some.injEq]
    by_cases hpermanent : error.kind = .permanent
    · simp [hpermanent]
    · simp only [hpermanent, if_false, false_or, Prod.mk.injEq, true_and]
      constructor
      · intro heq
        have hcache := congrArg (fun s => s.providers adapter.name) heq
        simp only [Function.update_self] at hcache
        exact hcache.symm
      · intro hknown
        rw [← hknown, Function.update_eq_self]

end PersistentRouter

/-! ## How a passthrough request is handled -/

/-- One dispatch with one failover comes to no second dispatch and leaves the router's state alone
exactly when the router answers a failure of the first with nothing. -/
theorem withFailover_alone_iff {σ ε α : Type} (rt : Router σ ε) (s : σ) (e : ε)
    (safe : String → String) (both : AdapterError → AdapterError → HttpError)
    (send : RoutingDecision → Dispatch) (answer : ℕ → Dispatch → Upstream α)
    (decision : RoutingDecision) (outgoing : ChatCompletionRequest) :
    ((withFailover rt s e safe both send answer decision outgoing).dispatches.length ≤ 1 ∧
        (withFailover rt s e safe both send answer decision outgoing).router = s) ↔
      ∀ error, answer 0 (send decision) = .failed error →
        rt.fallback s e decision outgoing error = (none, s) := by
  unfold withFailover
  cases answer 0 (send decision) with
  | ok value => simp
  | raised => simp
  | failed primary =>
    simp only [Upstream.failed.injEq, forall_eq']
    rcases rt.fallback s e decision outgoing primary with ⟨_ | fallback, s'⟩
    · simp
    · simp only [Prod.mk.injEq, reduceCtorEq, false_and, iff_false]
      cases answer 1 (send fallback) <;> simp

/-- It leaves the router's state as it was, or as the router answers a failure. -/
theorem withFailover_router {σ ε α : Type} (rt : Router σ ε) (s : σ) (e : ε)
    (safe : String → String) (both : AdapterError → AdapterError → HttpError)
    (send : RoutingDecision → Dispatch) (answer : ℕ → Dispatch → Upstream α)
    (decision : RoutingDecision) (outgoing : ChatCompletionRequest) :
    (withFailover rt s e safe both send answer decision outgoing).router = s ∨
      ∃ error, (withFailover rt s e safe both send answer decision outgoing).router =
        (rt.fallback s e decision outgoing error).2 := by
  unfold withFailover
  cases answer 0 (send decision) with
  | ok value => exact Or.inl rfl
  | raised => exact Or.inl rfl
  | failed primary =>
    refine Or.inr ⟨primary, ?_⟩
    simp only
    rcases rt.fallback s e decision outgoing primary with ⟨_ | fallback, s'⟩
    · rfl
    · simp only
      cases answer 1 (send fallback) <;> rfl

variable {D : Type} [DecidableEq D] {g : Gateway RouterHealth RouterReadings D}
  {health : RouterHealth} {q : PassthroughRequest D}

/-- The request is dispatched to the passthrough adapter alone, and the persistent router's state
stays as it is. -/
def PassthroughRequest.Isolated (q : PassthroughRequest D)
    (g : Gateway RouterHealth RouterReadings D) (health : RouterHealth) : Prop :=
  ((q.handled g health).dispatches.length ≤ 1 ∧
      ∀ d ∈ (q.handled g health).dispatches, d.adapter = q.adapter) ∧
    (q.handled g health).state.router = health

namespace Gateway

omit [DecidableEq D] in
/-- A passthrough request is routed by its own router. -/
theorem routeRequest_passthrough {st st' : GatewayState RouterHealth D} {inbound : Inbound}
    {outside : Outside RouterReadings} {request : ChatCompletionRequest}
    {adapter : ProviderAdapter} {result : Except HttpError RoutingDecision}
    (hbearer : inbound.passthrough = some adapter)
    (h : g.routeRequest st inbound outside request = (result, st')) :
    result = .ok (TieredRouter.passthroughDecision adapter) ∧ st' = st := by
  unfold routeRequest activeRouter at h
  rw [hbearer] at h
  cases h
  exact ⟨rfl, rfl⟩

omit [DecidableEq D] in
/-- What a passthrough hands to its adapter tells whether it is streamed. -/
theorem isStreamed_sendFor {outgoing : ChatCompletionRequest} {call : Call}
    {adapter : ProviderAdapter} :
    call.isStreamed (g.sendFor outgoing call (TieredRouter.passthroughDecision adapter)) =
      streams outgoing call := by
  cases call with
  | chat request => rfl
  | responses stream request => rfl
  | messages body =>
    unfold Call.isStreamed sendFor streams
    simp only
    split <;> rfl

theorem storedState_router {st : GatewayState RouterHealth D} {inbound : Inbound}
    {outside : Outside RouterReadings} {outgoing : ChatCompletionRequest} {call : Call}
    {primary : RoutingDecision} :
    (g.storedState st inbound outside outgoing call primary).router =
      (g.chatAttemptFor st.router outside outgoing call primary).router := by
  unfold storedState
  simp only
  split
  · rfl
  · unfold storeAnswer
    simp only
    split
    · exact setExact_router _ _
    · split
      · exact setExact_router _ _
      · exact setExact_router _ _

end Gateway

/-- The dispatches of a passthrough request, for the request that goes out. -/
def PassthroughRequest.attempt {α : Type} (q : PassthroughRequest D)
    (g : Gateway RouterHealth RouterReadings D) (health : RouterHealth)
    (both : AdapterError → AdapterError → HttpError) (answer : ℕ → Dispatch → Upstream α)
    (outgoing : ChatCompletionRequest) : Attempt RouterHealth α :=
  withFailover g.router health q.outside.failover g.safeErrorDetail both
    (g.sendFor outgoing q.call) answer (TieredRouter.passthroughDecision q.adapter) outgoing

/-- What the handler makes of dispatches shows in what it has dispatched and in the router. -/
def Makes {α : Type} (handled : Handled RouterHealth D) (attempt : Attempt RouterHealth α) : Prop :=
  handled.dispatches = attempt.dispatches ∧ handled.state.router = attempt.router

/-- **A passthrough request is not dispatched, or is dispatched for a stream or for an answer.** -/
inductive PassthroughHandling (q : PassthroughRequest D)
    (g : Gateway RouterHealth RouterReadings D) (health : RouterHealth)
    (handled : Handled RouterHealth D) : Prop
  | undispatched (none : handled.dispatches = []) (kept : handled.state.router = health)
  | streamed (outgoing : ChatCompletionRequest) (streams : Gateway.streams outgoing q.call = true)
      (makes : Makes handled (q.attempt g health bothFailedStream q.outside.stream outgoing))
  | answered (outgoing : ChatCompletionRequest) (streams : Gateway.streams outgoing q.call = false)
      (makes : Makes handled
        (q.attempt g health (bothFailedChat g.safeErrorDetail) q.outside.chat outgoing))

theorem handled_handling (q : PassthroughRequest D) (g : Gateway RouterHealth RouterReadings D)
    (health : RouterHealth) : PassthroughHandling q g health (q.handled g health) := by
  unfold PassthroughRequest.handled
  have hd := Gateway.handle_handling g ⟨health, q.completionCache, q.semanticCache⟩ q.inbound
    q.outside q.call
  generalize g.handle ⟨health, q.completionCache, q.semanticCache⟩ q.inbound q.outside q.call =
    handled at hd ⊢
  cases hd with
  | rejected e => exact .undispatched rfl rfl
  | unrouted request e st' hr =>
    have hrouted := Gateway.routeRequest_passthrough q.bearer hr
    cases hrouted.1
  | hit request primary st' st'' answer status hrouted hlooks hfound =>
    obtain ⟨-, rfl⟩ := Gateway.routeRequest_passthrough q.bearer hrouted.routed
    exact .undispatched rfl (Gateway.lookedUp_router hfound)
  | streamed request primary st' hrouted hstreams =>
    obtain ⟨hprimary, rfl⟩ := Gateway.routeRequest_passthrough q.bearer hrouted.routed
    obtain rfl := Except.ok.inj hprimary
    exact .streamed _ hstreams ⟨rfl, rfl⟩
  | missed request primary st' st'' hrouted hlooks hmissed =>
    obtain ⟨hprimary, rfl⟩ := Gateway.routeRequest_passthrough q.bearer hrouted.routed
    obtain rfl := Except.ok.inj hprimary
    refine .answered _ (Gateway.streams_of_looksUp hlooks) ⟨?_, ?_⟩
    · rw [Gateway.lookedUp_router hmissed]
      rfl
    · rw [Gateway.storedState_router, Gateway.lookedUp_router hmissed]
      rfl
  | uncached request primary st' hrouted hlooks hstreams =>
    obtain ⟨hprimary, rfl⟩ := Gateway.routeRequest_passthrough q.bearer hrouted.routed
    obtain rfl := Except.ok.inj hprimary
    exact .answered _ hstreams ⟨rfl, rfl⟩

/-- What a passthrough request makes of the router's state. -/
theorem handled_router (q : PassthroughRequest D) (g : Gateway RouterHealth RouterReadings D)
    (health : RouterHealth) :
    (q.handled g health).state.router = health ∨
      ∃ outgoing error, (q.handled g health).state.router =
        (g.router.fallback health q.outside.failover (TieredRouter.passthroughDecision q.adapter)
          outgoing error).2 := by
  cases handled_handling q g health with
  | undispatched hnone hkept => exact Or.inl hkept
  | streamed outgoing hstreams hmakes =>
    rw [hmakes.2]
    rcases withFailover_router g.router health q.outside.failover g.safeErrorDetail
      bothFailedStream (g.sendFor outgoing q.call) q.outside.stream
      (TieredRouter.passthroughDecision q.adapter) outgoing with hkept | ⟨error, hfallback⟩
    · exact Or.inl hkept
    · exact Or.inr ⟨outgoing, error, hfallback⟩
  | answered outgoing hstreams hmakes =>
    rw [hmakes.2]
    rcases withFailover_router g.router health q.outside.failover g.safeErrorDetail
      (bothFailedChat g.safeErrorDetail) (g.sendFor outgoing q.call) q.outside.chat
      (TieredRouter.passthroughDecision q.adapter) outgoing with hkept | ⟨error, hfallback⟩
    · exact Or.inl hkept
    · exact Or.inr ⟨outgoing, error, hfallback⟩

/-- A passthrough request that is dispatched: whether it is isolated is decided by what the router
makes of the failure of the dispatch. -/
theorem dispatched_isolated_iff {α : Type} {answer : ℕ → Dispatch → Upstream α}
    {both : AdapterError → AdapterError → HttpError} {outgoing : ChatCompletionRequest}
    {p : PersistentRouter} (hg : g.router = p.toRouter) (howned : health.tiers.Owned)
    (hmakes : Makes (q.handled g health) (q.attempt g health both answer outgoing))
    (hanswer : ∀ d error, (if Gateway.streams outgoing q.call then
      q.outside.stream 0 d = .failed error else q.outside.chat 0 d = .failed error) ↔
        answer 0 d = .failed error) :
    q.Isolated g health ↔
      ∀ error, q.FailsWith g health error →
        p.Ignores health q.outside.failover q.adapter error := by
  have halone := withFailover_alone_iff g.router health q.outside.failover g.safeErrorDetail both
    (g.sendFor outgoing q.call) answer (TieredRouter.passthroughDecision q.adapter) outgoing
  obtain ⟨hdispatches, hrouter⟩ := hmakes
  unfold PassthroughRequest.attempt at hdispatches hrouter
  rw [← hdispatches, ← hrouter] at halone
  rw [withFailover_dispatches] at hdispatches
  have hfirst : (q.handled g health).dispatches.length ≤ 1 →
      ∀ d ∈ (q.handled g health).dispatches, d.adapter = q.adapter := by
    rw [hdispatches]
    intro hlen d hd
    rcases List.mem_cons.1 hd with rfl | hd
    · exact Gateway.sendFor_adapter _ _
    · -- there is no second dispatch
      have hpos := List.length_pos_of_mem hd
      simp only [List.length_cons] at hlen
      omega
  have hfails : ∀ error, q.FailsWith g health error ↔
      answer 0 (g.sendFor outgoing q.call (TieredRouter.passthroughDecision q.adapter)) =
        .failed error := by
    intro error
    unfold PassthroughRequest.FailsWith
    rw [hdispatches, List.head?_cons, ← hanswer]
    simp only [Option.some.injEq, exists_eq_left', Gateway.isStreamed_sendFor]
  have hignores : ∀ error, g.router.fallback health q.outside.failover
      (TieredRouter.passthroughDecision q.adapter) outgoing error = (none, health) ↔
        p.Ignores health q.outside.failover q.adapter error := by
    intro error
    rw [hg]
    exact PersistentRouter.fallback_ignores_iff howned _ q.adapter outgoing error
  constructor
  · rintro ⟨⟨hlen, -⟩, hkept⟩ error hfailed
    exact (hignores error).1 (halone.1 ⟨hlen, hkept⟩ error ((hfails error).1 hfailed))
  · intro hall
    obtain ⟨hlen, hkept⟩ := halone.2
      (fun error hfailed => (hignores error).2 (hall error ((hfails error).2 hfailed)))
    exact ⟨⟨hlen, hfirst hlen⟩, hkept⟩

/-- **A passthrough request is isolated exactly when the router ignores its failure.** -/
theorem isolated_iff {p : PersistentRouter} (hg : g.router = p.toRouter)
    (howned : health.tiers.Owned) :
    q.Isolated g health ↔
      ∀ error, q.FailsWith g health error →
        p.Ignores health q.outside.failover q.adapter error := by
  cases handled_handling q g health with
  | undispatched hnone hkept =>
    unfold PassthroughRequest.Isolated PassthroughRequest.FailsWith
    simp [hnone, hkept]
  | streamed outgoing hstreams hmakes =>
    refine dispatched_isolated_iff hg howned hmakes ?_
    intro d error
    rw [if_pos hstreams]
  | answered outgoing hstreams hmakes =>
    refine dispatched_isolated_iff hg howned hmakes ?_
    intro d error
    rw [hstreams, if_neg Bool.false_ne_true]

/-! ## Runs -/

/-- Every event keeps every state object with its tier. -/
theorem routerStep_owned {p : PersistentRouter} (hg : g.router = p.toRouter) (run : RouterRun)
    (ev : RouterEvent D) (howned : run.health.tiers.Owned) :
    (g.routerStep run ev).health.tiers.Owned := by
  have hfallback' : ∀ e decision outgoing error,
      (g.router.fallback run.health e decision outgoing error).2.tiers.Owned := by
    intro e decision outgoing error
    rw [hg]
    cases p with
    | single single => exact howned
    | tiered r => exact TieredRouter.routeAfterFailure_owned howned
    | capability r => exact howned
  cases ev with
  | route e request hints extra =>
    simp only [Gateway.routerStep, hg]
    cases p with
    | single single => exact howned
    | tiered r => exact TieredRouter.route_owned howned
    | capability r => exact howned
  | failed e decision outgoing error => exact hfallback' e decision outgoing error
  | passthrough q =>
    simp only [Gateway.routerStep]
    rcases handled_router q g run.health with hkept | ⟨outgoing, error, hfallback⟩
    · rw [hkept]
      exact howned
    · rw [hfallback]
      exact hfallback' _ _ _ _

/-- **Passthrough requests are isolated in a run**: each is dispatched once and leaves the persistent
router as it is, and the other requests get the answers they get in the run without them. -/
structure PassthroughsIsolated (g : Gateway RouterHealth RouterReadings D)
    (events : List (RouterEvent D)) : Prop where
  isolated : Along g.routerStep
    (fun run ev => ∀ q, ev = .passthrough q → q.Isolated g run.health) {} events
  answers : (run g.routerStep {} events).answers =
    (run g.routerStep {} (events.filter RouterEvent.isOther)).answers

/-- Isolated passthrough requests can be left out of a run. -/
theorem run_filter_isOther : ∀ (events : List (RouterEvent D)) (s : RouterRun),
    Along g.routerStep (fun run ev => ∀ q, ev = .passthrough q → q.Isolated g run.health) s events →
      run g.routerStep s (events.filter RouterEvent.isOther) = run g.routerStep s events := by
  intro events
  induction events with
  | nil => intro s _; rfl
  | cons ev events ih =>
    intro s hal
    cases ev with
    | route e request hints extra => exact ih _ hal.2
    | failed e decision outgoing error => exact ih _ hal.2
    | passthrough q =>
      have hstep : g.routerStep s (.passthrough q) = s := by
        have hkept := (hal.1 q rfl).2
        simp only [Gateway.routerStep, hkept]
      have hrest := hal.2
      rw [hstep] at hrest
      rw [run_cons, hstep]
      exact ih s hrest

theorem owned_start : ({} : RouterRun).health.tiers.Owned :=
  ⟨fun _ _ href => (nomatch href), fun _ _ _ href => (nomatch href)⟩

/-- **Passthrough requests are isolated in exactly the runs in which the persistent router ignores
every failure of their upstreams.** -/
theorem passthrough_isolated_iff (g : Gateway RouterHealth RouterReadings D) (p : PersistentRouter)
    (hg : g.router = p.toRouter) (events : List (RouterEvent D)) :
    PassthroughsIsolated g events ↔
      Along g.routerStep (fun run ev => ∀ q, ev = .passthrough q →
        ∀ error, q.FailsWith g run.health error →
          p.Ignores run.health q.outside.failover q.adapter error) {} events := by
  have hiff : Along g.routerStep
      (fun run ev => ∀ q, ev = .passthrough q → q.Isolated g run.health) {} events ↔
      Along g.routerStep (fun run ev => ∀ q, ev = .passthrough q →
        ∀ error, q.FailsWith g run.health error →
          p.Ignores run.health q.outside.failover q.adapter error) {} events := by
    refine along_congr (fun s : RouterRun => s.health.tiers.Owned) (routerStep_owned hg) ?_ events {}
      owned_start
    intro run ev howned
    constructor
    · intro h q hq
      exact (isolated_iff hg howned).1 (h q hq)
    · intro h q hq
      exact (isolated_iff hg howned).2 (h q hq)
  constructor
  · intro h
    exact hiff.1 h.isolated
  · intro h
    have hisolated := hiff.2 h
    refine ⟨hisolated, ?_⟩
    rw [run_filter_isOther events {} hisolated]

/-! ### A subscription at its limit -/

/-- A gateway with a local tier beside the subscription. -/
def besideLocal : PersistentRouter := .tiered (TieredRouter.oneTier .local)

def subscriptionGateway : Gateway RouterHealth RouterReadings JsonObj where
  router := besideLocal.toRouter
  scrubber := none
  modelRegistry := none
  digest := id
  texts := Gateway.plainTexts
  safeErrorDetail := id

def quietReadings : RouterReadings where
  tiers :=
    { scout := { tier := .local, confidence := 1, rationale := "" }
      failedAt := 0
      now := fun _ => 0
      health := fun _ => true }
  providers := { failedAt := 0, now := fun _ => 0, health := fun _ _ => true }

/-- A message whose passthrough upstream fails, without streaming and with it. -/
def limitedRequest (stream : Bool) (error : AdapterError) : PassthroughRequest JsonObj where
  adapter := { cls := .anthropic }
  inbound := { passthrough := some { cls := .anthropic } }
  bearer := rfl
  outside :=
    { routing := quietReadings
      failover := quietReadings
      chat := fun _ _ => .failed error
      stream := fun _ _ => .failed error }
  call := .messages { Gateway.plainBody "claude-haiku" "hi" with stream := some stream }

theorem passthrough_isolated_iff_limited :
    PassthroughsIsolated subscriptionGateway
        [.passthrough (limitedRequest false ⟨.permanent, "429"⟩)] ↔
      Along subscriptionGateway.routerStep (fun run ev => ∀ q, ev = .passthrough q →
        ∀ error, q.FailsWith subscriptionGateway run.health error →
          besideLocal.Ignores run.health q.outside.failover q.adapter error) {}
        [.passthrough (limitedRequest false ⟨.permanent, "429"⟩)] :=
  passthrough_isolated_iff subscriptionGateway besideLocal rfl _

/-- **A stream of the subscription that cannot be opened is dispatched again, to the local tier.** -/
theorem passthrough_redispatched :
    ¬ ∀ (g : Gateway RouterHealth RouterReadings JsonObj) (p : PersistentRouter),
      g.router = p.toRouter → ∀ events, PassthroughsIsolated g events := by
  intro h
  have hisolated := h subscriptionGateway besideLocal rfl
    [.passthrough (limitedRequest true ⟨.plain, "429"⟩)]
  have hone := (hisolated.isolated.1 _ rfl).1.1
  have htwo : ((limitedRequest true ⟨.plain, "429"⟩).handled subscriptionGateway {}).dispatches.length
      = 2 := by
    decide
  have hhealth : ({} : RouterRun).health = {} := rfl
  rw [hhealth] at hone
  omega

end ModelMeld
