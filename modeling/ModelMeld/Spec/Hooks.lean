import ModelMeld.Spec.Router
import ModelMeld.Spec.Privacy

/-!
# Completion events and metrics

`RequestCompletedEvent`, and the helpers of the routes that record a success or
a failure: each success goes to the metrics collector, and each event to the
hooks when one is registered.
-/

namespace ModelMeld

/-- Who a request was authenticated as. -/
structure AuthIdentity where
  tenantId : Option String := none
  userId : Option String := none
  apiKeyId : Option String := none

/-- Emitted after a request resolves. -/
structure RequestCompletedEvent where
  requestId : String
  timestamp : ℚ
  requestedModel : String
  devtool : String
  devtoolConfidence : ℚ
  promptHash : String
  routedTo : String
  tier : String
  failoverFrom : Option String
  inputTokens : ℤ
  outputTokens : ℤ
  totalTokens : ℤ
  latencyMs : ℚ
  redactions : List Redaction
  tenantId : Option String
  userId : Option String
  apiKeyId : Option String
  error : Option String
  errorType : Option String
  modelServed : String
  taskCategory : Option String
  cacheStatus : Option String
  qualityThreshold : Option ℚ
  requiresToolUse : Bool
deriving DecidableEq

/-- What the metrics collector is given for one request. -/
structure MetricsRecord where
  wireFormat : String
  inputTokens : ℤ
  outputTokens : ℤ
  modelId : String
  costUsd : ℚ
deriving DecidableEq

/-- `_MetricsContext`; the collector is where the records go. -/
structure MetricsContext where
  registry : Option ModelRegistry
  wireFormat : String

/-- What the fire helpers read beside their arguments. -/
structure FireContext where
  /-- `hooks.subscriber_count`. -/
  subscriberCount : ℕ
  metrics : Option MetricsContext
  requestId : String
  identity : Option AuthIdentity := none
  /-- The clocks: when the request started, when it is fired, and the date then. -/
  started : ℚ := 0
  firedAt : ℚ := 0
  timestamp : ℚ := 0
  promptHash : ChatCompletionRequest → String
  /-- `str` and `float` of a signal. -/
  strOf : Json → String
  floatOf : Json → ℚ

/-- The arguments that say what was done. -/
structure FireArgs where
  request : ChatCompletionRequest
  decision : Option RoutingDecision
  redactions : List Redaction := []
  failoverFrom : Option Tier := none

/-- What has been recorded. -/
structure Recorded where
  metrics : List MetricsRecord := []
  events : List RequestCompletedEvent := []

/-- `_resolve_model_served`. -/
def resolveModelServed (request : ChatCompletionRequest) (decision : Option RoutingDecision) :
    String :=
  let override := (decision.bind RoutingDecision.modelIdOverride).getD ""
  if override = "" then request.model else override

/-- A signal of the tier scout. -/
def scoutSignal (decision : Option RoutingDecision) (key : String) : Option Json :=
  (decision.bind RoutingDecision.scoutDecision).bind (fun d => d.signals.get? key)

namespace FireContext

variable (ctx : FireContext)

/-- `_record_metrics`. -/
def recordMetrics (args : FireArgs) (inputTokens outputTokens totalTokens : ℤ) :
    List MetricsRecord :=
  match ctx.metrics with
  | none => []
  | some sink =>
    let served := resolveModelServed args.request args.decision
    let modelId := if served = "" then
      (args.decision.map (fun d => d.adapter.name)).getD "" else served
    let entry := if modelId = "" then none else sink.registry.bind (fun r => r.get modelId)
    [{ wireFormat := sink.wireFormat
       inputTokens := inputTokens
       outputTokens := outputTokens
       modelId := modelId
       costUsd := (entry.map (fun e =>
        (totalTokens : ℚ) / 1000000 * e.blendedCostPerM)).getD 0 }]

/-- `_build_event`. -/
def buildEvent (args : FireArgs) (inputTokens outputTokens totalTokens : ℤ)
    (error errorType cacheStatus : Option String) : RequestCompletedEvent where
  requestId := ctx.requestId
  timestamp := ctx.timestamp
  requestedModel := args.request.model
  devtool := ((scoutSignal args.decision "devtool").map ctx.strOf).getD "unknown"
  devtoolConfidence :=
    ((scoutSignal args.decision "devtool_confidence").map ctx.floatOf).getD 0
  promptHash := ctx.promptHash args.request
  routedTo := (args.decision.map (fun d => d.adapter.name)).getD ""
  tier := (args.decision.map (fun d => d.tier.value)).getD ""
  failoverFrom := args.failoverFrom.map Tier.value
  inputTokens := inputTokens
  outputTokens := outputTokens
  totalTokens := totalTokens
  latencyMs := (ctx.firedAt - ctx.started) * 1000
  redactions := args.redactions
  tenantId := ctx.identity.bind AuthIdentity.tenantId
  userId := ctx.identity.bind AuthIdentity.userId
  apiKeyId := ctx.identity.bind AuthIdentity.apiKeyId
  error := error
  errorType := errorType
  modelServed := resolveModelServed args.request args.decision
  taskCategory :=
    (args.decision.bind RoutingDecision.capabilityDecision).map CapabilityDecision.taskCategory
  cacheStatus := cacheStatus
  qualityThreshold :=
    (args.decision.bind RoutingDecision.capabilityDecision).map CapabilityDecision.qualityThreshold
  requiresToolUse := args.request.hasTools

/-- `fire_on_request_complete`: nothing is fired when no hook is registered. -/
def fire (event : RequestCompletedEvent) : List RequestCompletedEvent :=
  if ctx.subscriberCount = 0 then [] else [event]

/-- A success with some token counts. -/
def recordSuccess (args : FireArgs) (inputTokens outputTokens totalTokens : ℤ)
    (cacheStatus : Option String) : Recorded where
  metrics := ctx.recordMetrics args inputTokens outputTokens totalTokens
  events := ctx.fire
    (ctx.buildEvent args inputTokens outputTokens totalTokens none none cacheStatus)

/-- `_fire_success`. -/
def fireSuccess (args : FireArgs) (completion : ChatCompletion) (cacheStatus : Option String) :
    Recorded :=
  match completion.usage with
  | none => ctx.recordSuccess args 0 0 0 cacheStatus
  | some usage => ctx.recordSuccess args usage.promptTokens usage.completionTokens
      usage.totalTokens cacheStatus

/-- `_fire_success_stream`: without usage the estimated output stands for it. -/
def fireSuccessStream (args : FireArgs) (estimatedOutputTokens : ℤ) (lastUsage : Option Usage) :
    Recorded :=
  match lastUsage with
  | none => ctx.recordSuccess args 0 estimatedOutputTokens estimatedOutputTokens none
  | some usage => ctx.recordSuccess args usage.promptTokens usage.completionTokens
      usage.totalTokens none

/-- `_fire_failure`. -/
def fireFailure (args : FireArgs) (error errorType : String) : Recorded where
  events := ctx.fire (ctx.buildEvent args 0 0 0 (some error) (some errorType) none)

end FireContext

end ModelMeld
