import ModelMeld.Spec.Router

/-!
# Calls of the router as coroutines

A call of the router gives up control only while it awaits `adapter.health()`.
Between two awaits it reads the health cache; when an answer arrives it writes
it and goes on. A machine whose steps are those stretches runs the calls of
many requests in any interleaving over one cache.
-/

namespace ModelMeld

namespace CapabilityRouter

/-- The arguments of one `_resolve_or_fail`. -/
structure Walk where
  decision : CapabilityDecision
  failoverFrom : Option String
  extra : Option AdapterMap

/-- A walk that awaits an answer: which adapter was asked, when, at which position, and what
remains. -/
structure Waiting where
  position : ℕ
  adapter : ProviderAdapter
  askedAt : ℚ
  /-- The fallback being tried; `none` is the chosen row. -/
  fallback : Option (String × ModelEntry)
  rest : List String
  skipped : List String

/-- The provider whose health was asked for. -/
def Waiting.provider (walk : Walk) (w : Waiting) : String :=
  match w.fallback with
  | none => walk.decision.chosenProvider
  | some (_, entry) => entry.provider

/-- Where a stretch of a walk ends. -/
inductive Progress where
  | done (result : Except RouterError RoutingDecision)
  | waiting (w : Waiting)

/-- The part of `_is_healthy` before the await: an answer without asking, if there is one. -/
def knownHealth (r : CapabilityRouter) (cache : HealthCache) (provider : String) (now : ℚ) :
    Option Bool :=
  if r.skipUnhealthy then r.freshHealth cache provider now else some true

/-- The decision for a fallback. -/
def fallbackDecision (walk : Walk) (adapter : ProviderAdapter) (fallbackId : String)
    (entry : ModelEntry) (skipped : List String) : RoutingDecision :=
  buildDecision walk.decision adapter fallbackId entry.provider skipped
    (some (entry.taskScores.getD walk.decision.taskCategory 0)) (some entry.providerModelId)

/-- The decision for the chosen row. -/
def chosenDecision (walk : Walk) (adapter : ProviderAdapter) : RoutingDecision :=
  buildDecision walk.decision adapter walk.decision.chosenModelId walk.decision.chosenProvider []
    none none

/-- The loop over the fallbacks, up to the next await. -/
def walkOn (r : CapabilityRouter) (walk : Walk) (now : ℕ → ℚ) (cache : HealthCache) :
    ℕ → List String → List String → Progress
  | _, [], skipped => .done (.error (r.noHealthyAdapter walk.decision skipped))
  | i, fallbackId :: rest, skipped =>
    match r.scout.lookupFallback fallbackId with
    | none =>
      r.walkOn walk now cache (i + 1) rest (skipped ++ [fallbackId ++ ":missing_in_registry"])
    | some entry =>
      let provider := entry.provider
      if some provider = walk.failoverFrom then
        r.walkOn walk now cache (i + 1) rest
          (skipped ++ [fallbackId ++ ":" ++ provider ++ ":failover_source"])
      else match r.getAdapter provider walk.extra with
        | none =>
          r.walkOn walk now cache (i + 1) rest
            (skipped ++ [fallbackId ++ ":" ++ provider ++ ":not_configured"])
        | some adapter =>
          match r.knownHealth cache provider (now i) with
          | some true => .done (.ok (fallbackDecision walk adapter fallbackId entry skipped))
          | some false =>
            r.walkOn walk now cache (i + 1) rest
              (skipped ++ [fallbackId ++ ":" ++ provider ++ ":unhealthy"])
          | none => .waiting ⟨i, adapter, now i, some (fallbackId, entry), rest, skipped⟩

/-- `_resolve_or_fail` up to its first await. -/
def begin (r : CapabilityRouter) (walk : Walk) (now : ℕ → ℚ) (cache : HealthCache) : Progress :=
  let primary := walk.decision.chosenProvider
  let ids := walk.decision.fallbackModelIds
  if walk.failoverFrom = some primary then
    r.walkOn walk now cache 1 ids [primary ++ ":failover_source"]
  else match r.getAdapter primary walk.extra with
    | none => r.walkOn walk now cache 1 ids [primary ++ ":not_configured"]
    | some adapter =>
      match r.knownHealth cache primary (now 0) with
      | some true => .done (.ok (chosenDecision walk adapter))
      | some false => r.walkOn walk now cache 1 ids [primary ++ ":unhealthy"]
      | none => .waiting ⟨0, adapter, now 0, none, ids, []⟩

/-- What an awaited answer writes. -/
def answered (walk : Walk) (w : Waiting) (healthy : Bool) (cache : HealthCache) : HealthCache :=
  Function.update cache (w.provider walk) (some (healthy, w.askedAt))

/-- The walk after an answer, over the cache with that answer. -/
def proceed (r : CapabilityRouter) (walk : Walk) (w : Waiting) (healthy : Bool) (now : ℕ → ℚ)
    (cache : HealthCache) : Progress :=
  match w.fallback with
  | none =>
    if healthy then .done (.ok (chosenDecision walk w.adapter))
    else r.walkOn walk now cache (w.position + 1) w.rest
      [walk.decision.chosenProvider ++ ":unhealthy"]
  | some (fallbackId, entry) =>
    if healthy then .done (.ok (fallbackDecision walk w.adapter fallbackId entry w.skipped))
    else r.walkOn walk now cache (w.position + 1) w.rest
      (w.skipped ++ [fallbackId ++ ":" ++ entry.provider ++ ":unhealthy"])

end CapabilityRouter

/-! ## Many requests over one cache -/

/-- What can happen next in one request. -/
inductive TaskEvent where
  /-- The handler calls `route`. -/
  | route (request : ChatCompletionRequest) (hints : Option RoutingHints)
      (extra : Option AdapterMap) (now : ℕ → ℚ)
  /-- The dispatch of the last decision failed, and the handler asks for a fallback. -/
  | failure (error : AdapterError) (failedAt : ℚ) (now : ℕ → ℚ)
  /-- The awaited `health()` answers. -/
  | answer (healthy : Bool) (now : ℕ → ℚ)

/-- One request: the walk it awaits in, and the answers of its calls so far. -/
structure Task where
  awaiting : Option (CapabilityRouter.Walk × CapabilityRouter.Waiting) := none
  returned : List (Option RoutingDecision) := []

/-- All requests, by number, and the router's cache. -/
structure TaskState where
  cache : HealthCache
  tasks : ℕ → Task

/-- The decision a request was last dispatched with. -/
def Task.current (t : Task) : Option RoutingDecision := t.returned.getLast?.join

namespace Task

/-- The task after a stretch of a walk. -/
def after (t : Task) (walk : CapabilityRouter.Walk) : CapabilityRouter.Progress → Task
  | .done result => { awaiting := none, returned := t.returned ++ [result.toOption] }
  | .waiting w => { t with awaiting := some (walk, w) }

/-- The task after a call that returns nothing. -/
def giveUp (t : Task) : Task := { awaiting := none, returned := t.returned ++ [none] }

end Task

namespace CapabilityRouter

/-- What an event of a task writes to the cache: a provider, its health, and since when. -/
def mark (t : Task) : TaskEvent → Option (String × Bool × ℚ)
  | .route .. => none
  | .failure error failedAt _ =>
    match t.awaiting, t.current with
    | none, some d => if error.kind = .permanent then none else some (d.adapter.name, false, failedAt)
    | _, _ => none
  | .answer healthy _ => t.awaiting.map (fun p => (p.2.provider p.1, healthy, p.2.askedAt))

/-- The cache with a mark. -/
def marked (cache : HealthCache) : Option (String × Bool × ℚ) → HealthCache
  | none => cache
  | some (provider, healthy, at_) => Function.update cache provider (some (healthy, at_))

/-- The task after an event, over the cache the event leaves. A task that awaits an answer takes
no other event, and one that awaits none takes no answer. -/
def advance (r : CapabilityRouter) (cache : HealthCache) (t : Task) : TaskEvent → Task
  | .route request hints extra now =>
    match t.awaiting with
    | some _ => t
    | none => match r.scout.choose request hints (some (r.availableFrontier extra)) with
      | .error _ => t.giveUp
      | .ok decision =>
        t.after ⟨decision, none, extra⟩ (r.begin ⟨decision, none, extra⟩ now cache)
  | .failure error _ now =>
    match t.awaiting, t.current with
    | none, some failed =>
      if error.kind = .permanent then t.giveUp
      else match failed.capabilityDecision with
        | none => t.giveUp
        | some decision =>
          t.after ⟨decision, some failed.adapter.name, none⟩
            (r.begin ⟨decision, some failed.adapter.name, none⟩ now cache)
    | _, _ => t
  | .answer healthy now =>
    match t.awaiting with
    | none => t
    | some (walk, w) => t.after walk (r.proceed walk w healthy now cache)

/-- One step of one request. -/
def taskStep (r : CapabilityRouter) (st : TaskState) (e : ℕ × TaskEvent) : TaskState :=
  let cache := marked st.cache (mark (st.tasks e.1) e.2)
  { cache := cache
    tasks := Function.update st.tasks e.1 (r.advance cache (st.tasks e.1) e.2) }

end CapabilityRouter

end ModelMeld
